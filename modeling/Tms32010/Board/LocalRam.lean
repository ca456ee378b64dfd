import Mathlib.Data.BitVec
import Mathlib.Logic.Function.Basic
import Tms32010.Lib.Timeline

/-!
# Local RAM

`hard_drivin_sound_local_ram`: 8192 words of two byte lanes with a validity bit
each. An initialisation starts a scrub that clears the validity of one word in
each clock and rejects every write until it is done; the bytes are never cleared.
-/

namespace Tms32010.Board.LocalRam

open Timeline

/-! ## The module -/

/-- The arrays and the scrub controller. Bit 1 of `laneValid` is the upper lane. -/
structure State where
  upperRam : BitVec 13 → BitVec 8
  lowerRam : BitVec 13 → BitVec 8
  laneValid : BitVec 13 → BitVec 2
  validityScrubAddress : BitVec 13
  validityScrubActive : Bool

/-- The inputs of one clock. -/
structure Inputs where
  initializeI : Bool
  readRequest : Bool
  wordAddress : BitVec 13
  upperWriteCommit : Bool
  lowerWriteCommit : Bool
  writeData : BitVec 16
  deriving DecidableEq, Repr

section Signals

variable (s : State) (i : Inputs)

/-- `storage_ready_o`. -/
def storageReady : Bool := !i.initializeI && !s.validityScrubActive

/-- `upper_write_accepted_o`. -/
def upperWriteAccepted : Bool := storageReady s i && i.upperWriteCommit

/-- `lower_write_accepted_o`. -/
def lowerWriteAccepted : Bool := storageReady s i && i.lowerWriteCommit

/-- `write_blocked_o`. -/
def writeBlocked : Bool := !storageReady s i && (i.upperWriteCommit || i.lowerWriteCommit)

/-- `selected_lane_valid`. -/
def selectedLaneValid : BitVec 2 := s.laneValid i.wordAddress

/-- Eight copies of a validity bit. -/
def laneMask (valid : Bool) : BitVec 8 := if valid then 0xff else 0

/-- `read_valid_mask_o`. -/
def readValidMask : BitVec 16 :=
  if storageReady s i && i.readRequest then
    laneMask ((selectedLaneValid s i).getLsbD 1) ++ laneMask ((selectedLaneValid s i).getLsbD 0)
  else 0

/-- `read_data_o`. -/
def readData : BitVec 16 :=
  if storageReady s i && i.readRequest then
    (s.upperRam i.wordAddress &&& laneMask ((selectedLaneValid s i).getLsbD 1)) ++
      (s.lowerRam i.wordAddress &&& laneMask ((selectedLaneValid s i).getLsbD 0))
  else 0

/-- The validity of the addressed word after a write. -/
def nextLaneValid : BitVec 2 :=
  s.laneValid i.wordAddress ||| (if i.upperWriteCommit then 2 else 0) |||
    (if i.lowerWriteCommit then 1 else 0)

/-- One clock edge. -/
def step : State :=
  if i.initializeI then { s with validityScrubActive := true, validityScrubAddress := 0 }
  else if s.validityScrubActive then
    { s with
      laneValid := Function.update s.laneValid s.validityScrubAddress 0
      validityScrubActive := s.validityScrubAddress != 0x1fff
      validityScrubAddress :=
        if s.validityScrubAddress = 0x1fff then s.validityScrubAddress
        else s.validityScrubAddress + 1 }
  else
    { s with
      upperRam :=
        if i.upperWriteCommit then
          Function.update s.upperRam i.wordAddress (i.writeData.extractLsb' 8 8)
        else s.upperRam
      lowerRam :=
        if i.lowerWriteCommit then
          Function.update s.lowerRam i.wordAddress (i.writeData.extractLsb' 0 8)
        else s.lowerRam
      laneValid := Function.update s.laneValid i.wordAddress (nextLaneValid s i) }

end Signals

/-! ## Lanes -/

/-- The two byte lanes. -/
inductive Lane where
  | upper | lower
  deriving DecidableEq, Repr

namespace Lane

variable (lane : Lane)

/-- The position of the lane in a word. -/
def lsb : Lane → ℕ
  | upper => 8
  | lower => 0

/-- The position of the lane in a validity pair. -/
def index : Lane → ℕ
  | upper => 1
  | lower => 0

/-- The byte of a word in the lane. -/
def part (word : BitVec 16) : BitVec 8 := word.extractLsb' lane.lsb 8

end Lane

/-- The stored byte of a lane. -/
def State.byte (s : State) : Lane → BitVec 13 → BitVec 8
  | .upper => s.upperRam
  | .lower => s.lowerRam

/-- The validity of a lane. -/
def State.valid (s : State) (lane : Lane) (word : BitVec 13) : Bool :=
  (s.laneValid word).getLsbD lane.index

/-- The commit of a lane. -/
def Inputs.commit (i : Inputs) : Lane → Bool
  | .upper => i.upperWriteCommit
  | .lower => i.lowerWriteCommit

/-- A clock accepts a write of the lane of a word. -/
def written (s : State) (i : Inputs) (lane : Lane) (word : BitVec 13) : Bool :=
  storageReady s i && i.commit lane && i.wordAddress == word

section Step

variable (s : State) (i : Inputs) (lane : Lane) (word : BitVec 13)

/-- A ready read shows the validity of a lane and the byte under it. -/
theorem read_lane (ready : storageReady s i = true) (request : i.readRequest = true) :
    lane.part (readValidMask s i) = laneMask (s.valid lane i.wordAddress) ∧
      lane.part (readData s i) =
        s.byte lane i.wordAddress &&& laneMask (s.valid lane i.wordAddress) := by
  unfold readValidMask readData
  rw [ready, request, Bool.and_self, if_pos rfl, if_pos rfl]
  unfold Lane.part selectedLaneValid State.valid State.byte
  cases lane
  · exact ⟨BitVec.extractLsb'_append_eq_left, BitVec.extractLsb'_append_eq_left⟩
  · exact ⟨BitVec.extractLsb'_append_eq_right, BitVec.extractLsb'_append_eq_right⟩

/-- A byte changes in a clock that accepts a write of it. -/
theorem step_byte : (step s i).byte lane word =
    if written s i lane word then lane.part i.writeData else s.byte lane word := by
  unfold step written storageReady
  rcases Bool.eq_false_or_eq_true i.initializeI with asserted | running
  · simp only [asserted]
    cases lane <;> rfl
  rcases Bool.eq_false_or_eq_true s.validityScrubActive with scrubbing | idle
  · simp only [running, scrubbing]
    cases lane <;> rfl
  · simp only [running, idle]
    by_cases same : i.wordAddress = word
    · subst same
      cases lane
      · cases commit : i.upperWriteCommit <;> simp [State.byte, Inputs.commit, Lane.part, Lane.lsb, commit]
      · cases commit : i.lowerWriteCommit <;> simp [State.byte, Inputs.commit, Lane.part, Lane.lsb, commit]
    · have apart : word ≠ i.wordAddress := fun reversed => same reversed.symm
      cases lane
      · cases commit : i.upperWriteCommit <;> simp [State.byte, Inputs.commit, same, apart, commit]
      · cases commit : i.lowerWriteCommit <;> simp [State.byte, Inputs.commit, same, apart, commit]

/-- A validity bit is cleared by the scrub and set by an accepted write. -/
theorem step_valid : (step s i).valid lane word =
    (written s i lane word || (s.valid lane word &&
      (i.initializeI || !s.validityScrubActive || word != s.validityScrubAddress))) := by
  unfold step written storageReady
  rcases Bool.eq_false_or_eq_true i.initializeI with asserted | running
  · simp [asserted, State.valid]
  rcases Bool.eq_false_or_eq_true s.validityScrubActive with scrubbing | idle
  · by_cases same : word = s.validityScrubAddress
    · simp [running, scrubbing, State.valid, same]
    · simp [running, scrubbing, State.valid, same]
  · by_cases same : word = i.wordAddress
    · subst same
      cases lane
      · cases upper : i.upperWriteCommit <;> cases lower : i.lowerWriteCommit <;>
          simp [running, idle, State.valid, Inputs.commit, nextLaneValid, Lane.index, upper, lower]
      · cases upper : i.upperWriteCommit <;> cases lower : i.lowerWriteCommit <;>
          simp [running, idle, State.valid, Inputs.commit, nextLaneValid, Lane.index, upper, lower]
    · have apart : i.wordAddress ≠ word := fun reversed => same reversed.symm
      simp [running, idle, State.valid, same, apart]

end Step

/-! ## The scrub -/

/-- A clock without its writes. -/
def Inputs.unwritten (i : Inputs) : Inputs :=
  { i with upperWriteCommit := false, lowerWriteCommit := false }

/-- While the storage is not ready a write does nothing. -/
theorem step_unwritten {s : State} {i : Inputs} (unready : storageReady s i = false) :
    upperWriteAccepted s i = false ∧ lowerWriteAccepted s i = false ∧
      step s i = step s i.unwritten := by
  refine ⟨by simp [upperWriteAccepted, unready], by simp [lowerWriteAccepted, unready], ?_⟩
  unfold storageReady at unready
  unfold step Inputs.unwritten
  cases asserted : i.initializeI
  · cases scrubbing : s.validityScrubActive
    · simp [asserted, scrubbing] at unready
    · rfl
  · rfl

/-- What a clock without an initialisation does to the scrub. -/
theorem step_scrub {s : State} {i : Inputs} (running : i.initializeI = false) :
    (step s i).validityScrubActive =
        (s.validityScrubActive && s.validityScrubAddress != 0x1fff) ∧
      (s.validityScrubActive = true → s.validityScrubAddress ≠ 0x1fff →
        (step s i).validityScrubAddress = s.validityScrubAddress + 1) := by
  unfold step
  rw [running, if_neg Bool.false_ne_true]
  cases scrubbing : s.validityScrubActive
  · rw [if_neg Bool.false_ne_true]
    exact ⟨rfl, fun impossible => absurd impossible Bool.false_ne_true⟩
  · rw [if_pos rfl]
    refine ⟨(Bool.true_and _).symm, ?_⟩
    intro _ differs
    exact if_neg differs

section Run

variable (start : State) (inputs : ℕ → Inputs)

/-- The state before a clock. -/
def stateAt : ℕ → State := state step start inputs

/-- A clock initializes the module. -/
def initializes (clock : ℕ) : Prop := (inputs clock).initializeI = true

/-- A clock accepts a write of the lane of a word. -/
def writes (lane : Lane) (word : BitVec 13) (clock : ℕ) : Prop :=
  written (stateAt start inputs clock) (inputs clock) lane word = true

variable {start inputs} {first now : ℕ} {lane : Lane} {word : BitVec 13}

theorem stateAt_succ (clock : ℕ) :
    stateAt start inputs (clock + 1) = step (stateAt start inputs clock) (inputs clock) :=
  rfl

/-- The scrub clears one word in each clock since the last initialisation. -/
theorem scrub_since (start : State) (since : Last (initializes inputs) first now) :
    ((stateAt start inputs now).validityScrubActive = true ↔ now ≤ first + 8192) ∧
      ((stateAt start inputs now).validityScrubActive = true →
        (stateAt start inputs now).validityScrubAddress.toNat + first + 1 = now) := by
  induction since using Last.induction with
  | starts happened =>
      have asserted : (inputs first).initializeI = true := happened
      rw [stateAt_succ]
      simp [step, asserted]
  | persists clock since absent ih =>
      have running : (inputs clock).initializeI = false := by
        simpa [initializes] using absent
      rcases ih with ⟨active, address⟩
      rcases step_scrub (s := stateAt start inputs clock) running with ⟨goes, moves⟩
      have before := since.before
      rw [stateAt_succ, goes]
      cases scrubbing : (stateAt start inputs clock).validityScrubActive
      · have late : ¬clock ≤ first + 8192 := by
          rw [← active, scrubbing]
          exact Bool.false_ne_true
        simp only [Bool.false_and, Bool.false_eq_true, false_iff, false_implies, and_true]
        omega
      · have early := active.mp scrubbing
        have here := address scrubbing
        rw [Bool.true_and, bne_iff_ne]
        by_cases last : (stateAt start inputs clock).validityScrubAddress = 0x1fff
        · have position : (stateAt start inputs clock).validityScrubAddress.toNat = 8191 := by
            rw [last]
            rfl
          refine ⟨⟨fun differs => absurd last differs, fun early => ?_⟩,
            fun differs => absurd last differs⟩
          omega
        · have position : (stateAt start inputs clock).validityScrubAddress.toNat ≠ 8191 := by
            intro same
            exact last (BitVec.eq_of_toNat_eq same)
          have bounded := (stateAt start inputs clock).validityScrubAddress.isLt
          have moved : ((stateAt start inputs clock).validityScrubAddress + 1).toNat =
              (stateAt start inputs clock).validityScrubAddress.toNat + 1 := by
            bv_omega
          rw [moves scrubbing last, moved]
          refine ⟨⟨fun _ => ?_, fun _ => last⟩, fun _ => ?_⟩ <;> omega

/-- The storage is ready from the clock after the scrub of the last word. -/
theorem storageReady_since (since : Last (initializes inputs) first now) :
    storageReady (stateAt start inputs now) (inputs now) = true ↔
      (inputs now).initializeI = false ∧ first + 8193 ≤ now := by
  have active := (scrub_since start since).1
  unfold storageReady
  rw [Bool.and_eq_true, Bool.not_eq_true', Bool.not_eq_true']
  apply and_congr_right
  intro _
  rw [← Bool.not_eq_true, active]
  omega

/-! ## Validity and bytes -/

theorem not_writes_of_scrub
    (scrubbing : (stateAt start inputs now).validityScrubActive = true) :
    ¬writes start inputs lane word now := by
  unfold writes written storageReady
  rw [scrubbing]
  simp

/-- A word the scrub has passed is invalid; after the scrub a lane is valid if it was
written. -/
theorem valid_since (start : State) (since : Last (initializes inputs) first now) (lane : Lane)
    (word : BitVec 13) :
    if (stateAt start inputs now).validityScrubActive then
      (word.toNat < (stateAt start inputs now).validityScrubAddress.toNat →
        (stateAt start inputs now).valid lane word = false) ∧
      ∀ clock, first < clock → clock < now → ¬writes start inputs lane word clock
    else (stateAt start inputs now).valid lane word = true ↔
      ∃ clock, first < clock ∧ clock < now ∧ writes start inputs lane word clock := by
  induction since using Last.induction with
  | starts happened =>
      have asserted : (inputs first).initializeI = true := happened
      rw [stateAt_succ]
      simp only [step, asserted, if_true]
      constructor
      · intro below
        exact absurd below (Nat.not_lt_zero _)
      · intro later after earlier
        omega
  | persists clock since absent ih =>
      have running : (inputs clock).initializeI = false := by
        simpa [initializes] using absent
      have valid := step_valid (stateAt start inputs clock) (inputs clock) lane word
      rw [stateAt_succ]
      rw [running, Bool.false_or] at valid
      rcases step_scrub (s := stateAt start inputs clock) running with ⟨goes, moves⟩
      cases scrubbing : (stateAt start inputs clock).validityScrubActive
      · rw [scrubbing, if_neg Bool.false_ne_true] at ih
        rw [goes, scrubbing, Bool.false_and, if_neg Bool.false_ne_true, valid, scrubbing,
          Bool.not_false, Bool.true_or, Bool.and_true, Bool.or_eq_true, ih]
        constructor
        · rintro (write | ⟨earlier, after, before, write⟩)
          · exact ⟨clock, since.before, Nat.lt_succ_self clock, write⟩
          · exact ⟨earlier, after, Nat.lt_succ_of_lt before, write⟩
        · rintro ⟨earlier, after, before, write⟩
          rcases Nat.lt_succ_iff_lt_or_eq.mp before with before | rfl
          · exact Or.inr ⟨earlier, after, before, write⟩
          · exact Or.inl write
      · rw [scrubbing, if_pos rfl] at ih
        rcases ih with ⟨below, unwritten⟩
        have unwritten' : ∀ earlier, first < earlier → earlier < clock + 1 →
            ¬writes start inputs lane word earlier := by
          intro earlier after before
          rcases Nat.lt_succ_iff_lt_or_eq.mp before with before | rfl
          · exact unwritten earlier after before
          · exact not_writes_of_scrub scrubbing
        have quiet : written (stateAt start inputs clock) (inputs clock) lane word = false := by
          simpa [writes] using not_writes_of_scrub scrubbing
        rw [quiet, scrubbing, Bool.not_true, Bool.false_or, Bool.false_or] at valid
        have cleared (passed :
            word.toNat ≤ (stateAt start inputs clock).validityScrubAddress.toNat) :
            (step (stateAt start inputs clock) (inputs clock)).valid lane word = false := by
          rw [valid]
          by_cases same : word = (stateAt start inputs clock).validityScrubAddress
          · rw [same, bne_self_eq_false, Bool.and_false]
          · have apart : word.toNat ≠ (stateAt start inputs clock).validityScrubAddress.toNat :=
              fun equal => same (BitVec.eq_of_toNat_eq equal)
            rw [below (Nat.lt_of_le_of_ne passed apart), Bool.false_and]
        rw [goes, scrubbing, Bool.true_and]
        by_cases last : (stateAt start inputs clock).validityScrubAddress = 0x1fff
        · have bounded := word.isLt
          have position : (stateAt start inputs clock).validityScrubAddress.toNat = 8191 := by
            rw [last]
            rfl
          rw [last, bne_self_eq_false, if_neg Bool.false_ne_true, cleared (by omega)]
          constructor
          · intro impossible
            exact absurd impossible Bool.false_ne_true
          · rintro ⟨earlier, after, before, write⟩
            exact absurd write (unwritten' earlier after before)
        · rw [bne_iff_ne.mpr last, if_pos rfl, moves scrubbing last]
          refine ⟨?_, unwritten'⟩
          intro reached
          apply cleared
          bv_omega

/-- A byte is that of the last write of it. -/
theorem byte_since {last : ℕ} (since : Last (writes start inputs lane word) last now) :
    (stateAt start inputs now).byte lane word = lane.part (inputs last).writeData := by
  induction since using Last.induction with
  | starts happened =>
      have write : written (stateAt start inputs last) (inputs last) lane word = true := happened
      rw [stateAt_succ, step_byte, write, if_pos rfl]
  | persists clock since absent ih =>
      have quiet : written (stateAt start inputs clock) (inputs clock) lane word = false := by
        simpa [writes] using absent
      rw [stateAt_succ, step_byte, quiet, if_neg Bool.false_ne_true]
      exact ih

/-- What a lane shows `now`, after the last initialisation in clock `first`. -/
structure LaneLaw (start : State) (inputs : ℕ → Inputs) (first now : ℕ) (lane : Lane) : Prop where
  ready : storageReady (stateAt start inputs now) (inputs now) = true ↔
    (inputs now).initializeI = false ∧ first + 8193 ≤ now
  rejects : storageReady (stateAt start inputs now) (inputs now) = false →
    upperWriteAccepted (stateAt start inputs now) (inputs now) = false ∧
      lowerWriteAccepted (stateAt start inputs now) (inputs now) = false ∧
      step (stateAt start inputs now) (inputs now) =
        step (stateAt start inputs now) (inputs now).unwritten
  valid : storageReady (stateAt start inputs now) (inputs now) = true →
    (inputs now).readRequest = true →
      (lane.part (readValidMask (stateAt start inputs now) (inputs now)) = 0xff ↔
        ∃ clock, first < clock ∧ clock < now ∧
          writes start inputs lane (inputs now).wordAddress clock)
  invalid : storageReady (stateAt start inputs now) (inputs now) = true →
    (inputs now).readRequest = true →
      lane.part (readValidMask (stateAt start inputs now) (inputs now)) ≠ 0xff →
        lane.part (readValidMask (stateAt start inputs now) (inputs now)) = 0 ∧
          lane.part (readData (stateAt start inputs now) (inputs now)) = 0
  data : storageReady (stateAt start inputs now) (inputs now) = true →
    (inputs now).readRequest = true →
      ∀ last, first < last → Last (writes start inputs lane (inputs now).wordAddress) last now →
        lane.part (readData (stateAt start inputs now) (inputs now)) =
          lane.part (inputs last).writeData

/-- From the first initialisation on: the storage is ready from 8192 clocks after the
last one, a lane of a word reads as valid if it was written since and shows the last
byte written, and a write while the storage is not ready does nothing. -/
theorem localRam_lanes (start : State) (inputs : ℕ → Inputs) {first now : ℕ}
    (since : Last (initializes inputs) first now) (lane : Lane) :
    LaneLaw start inputs first now lane := by
  have marked (ready : storageReady (stateAt start inputs now) (inputs now) = true) :
      (stateAt start inputs now).valid lane (inputs now).wordAddress = true ↔
        ∃ clock, first < clock ∧ clock < now ∧
          writes start inputs lane (inputs now).wordAddress clock := by
    have idle : (stateAt start inputs now).validityScrubActive = false := by
      unfold storageReady at ready
      rw [Bool.and_eq_true, Bool.not_eq_true', Bool.not_eq_true'] at ready
      exact ready.2
    have valid := valid_since start since lane (inputs now).wordAddress
    rwa [idle, if_neg Bool.false_ne_true] at valid
  refine ⟨storageReady_since since, step_unwritten, ?_, ?_, ?_⟩
  · intro ready request
    rw [(read_lane _ _ lane ready request).1, ← marked ready]
    cases (stateAt start inputs now).valid lane (inputs now).wordAddress <;> decide
  · intro ready request
    rcases read_lane _ _ lane ready request with ⟨mask, data⟩
    rw [mask, data]
    cases (stateAt start inputs now).valid lane (inputs now).wordAddress
    · intro _
      exact ⟨rfl, BitVec.and_zero⟩
    · intro differs
      exact absurd rfl differs
  · intro ready request last after write
    have valid : (stateAt start inputs now).valid lane (inputs now).wordAddress = true :=
      (marked ready).mpr ⟨last, after, write.before, write.happened⟩
    rw [(read_lane _ _ lane ready request).2, valid, byte_since write]
    exact BitVec.and_allOnes

/-- A power-up state in which every lane is marked valid. -/
def staleState : State := ⟨fun _ => 0x12, fun _ => 0x34, fun _ => 3, 0, false⟩

/-- A module initialized in clock zero, written in clock 8193 and then read. -/
def scrubbedInputs (clock : ℕ) : Inputs where
  initializeI := clock == 0
  readRequest := clock != 8193
  wordAddress := 5
  upperWriteCommit := clock == 8193
  lowerWriteCommit := false
  writeData := 0xa55a

theorem localRam_lanes_scrubbed : LaneLaw staleState scrubbedInputs 0 8194 .upper := by
  refine localRam_lanes staleState scrubbedInputs ⟨Nat.succ_pos _, rfl, ?_⟩ .upper
  intro clock after _ happened
  have zero : clock = 0 := by
    simpa [initializes, scrubbedInputs] using happened
  omega

end Run

end Tms32010.Board.LocalRam
