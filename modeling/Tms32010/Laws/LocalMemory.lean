import Tms32010.Laws.SoundTransactions
import Tms32010.Lib.Halves

/-!
# The local memory of the sound processor

The local 68000 sees its RAM and ROM through the bus cycles it completes. While the reset
interlock holds it during the scrub of the RAM, its RAM is a byte memory that starts empty:
a completed write stores the lanes it strobes, a completed read shows in each lane the
byte last stored there, and a lane that was never stored is reported as missing.
-/

namespace Tms32010.Board

/-! ## Bus cycles of the local memory -/

namespace HostTiming.BusCycle

open LocalRam (Lane)

variable (c : BusCycle)

/-- The word of the local RAM a cycle addresses. -/
def ramWord : BitVec 13 := c.address.extractLsb' 0 13

/-- The data strobe of a lane. -/
def strobeN : Lane → Bool
  | .upper => c.upperDataStrobeN
  | .lower => c.lowerDataStrobeN

/-- The cycle writes a lane of the local RAM. -/
def writesRam (lane : Lane) : Bool := c.bank 7 && !c.readNotWrite && !c.strobeN lane

/-- The cycle reads the local RAM. -/
def readsRam : Bool := c.bank 7 && c.readNotWrite

/-- The cycle reads the ROM. -/
def readsRom : Bool := !c.address.getLsbD 22 && c.readNotWrite

theorem reads_apart (ram : c.readsRam = true) : c.readsRom = false := by
  unfold readsRam bank at ram
  unfold readsRom
  simp only [Bool.and_eq_true] at ram
  rw [ram.1.1, Bool.not_true, Bool.false_and]

end HostTiming.BusCycle

namespace SoundBoard

open LocalRam (Lane)
open HostTiming (BusCycle)

/-- The bytes of the local memory; `none` was never written. -/
abbrev Memory : Type := Lane → BitVec 13 → Option (BitVec 8)

/-- A transaction stores the lanes it strobes. -/
def Memory.store (memory : Memory) (t : Transaction) : Memory := fun lane word =>
  if t.cycle.writesRam lane && t.cycle.ramWord == word then some (lane.part t.data)
  else memory lane word

/-- The memory nothing was written to. -/
def Memory.empty : Memory := fun _ _ => none

/-- A host read shows the bytes that are there and marks the others as unknown. -/
structure Shows (r : HostRead) (bytes : Lane → Option (BitVec 8)) : Prop where
  driven : r.driven = 0xffff
  valid : ∀ lane : Lane, lane.part r.valid = LocalRam.laneMask (bytes lane).isSome
  data : ∀ lane : Lane, lane.part r.data = (bytes lane).getD 0

/-! ## Runs -/

section Run

variable (start : State) (inputs : ℕ → Inputs)

/-- The local memory as the transactions before a clock leave it. -/
def memoryAt (clock : ℕ) : Memory :=
  (HostTiming.before (transactionAt start inputs) clock).foldl Memory.store Memory.empty

/-- The local 68000 drives the bus of the board, with the internal local RAM, and starts no
cycle while the interlock holds it in reset. -/
structure Driven : Prop extends Hosted start inputs where
  internal : ∀ clock, (inputs clock).useInternalLocalRam = true
  held : ∀ clock, 0 < clock → (wiresAt inputs clock).addressStrobeAssert = true →
    localProcessorResetN (stateAt start inputs clock) (inputs clock) = true

/-- The local memory serves the transactions of a run. -/
structure ServesLocal : Prop where
  /-- Every ordinary strobe completes once, in order, as the cycle it started. -/
  channel : ∀ clock, 0 < clock →
    HostTiming.before (HostTiming.strobedAt (wiresAt inputs)) clock =
      (HostTiming.before (transactionAt start inputs) clock).map Transaction.cycle ++
        (HostTiming.pending (timingAt start inputs clock)).toList
  /-- No write comes while the RAM is scrubbed. -/
  accepted : ∀ clock, 0 < clock →
    LocalRam.writeBlocked (stateAt start inputs clock).localRam
      (localRamInputs (stateAt start inputs clock) (inputs clock)) = false
  /-- A completed read of the RAM shows the bytes last stored. -/
  ram : ∀ clock t, transactionAt start inputs clock = some t → t.cycle.readsRam = true →
    Shows (hostLocalMemoryRead (stateAt start inputs clock) (inputs clock))
      fun lane => memoryAt start inputs clock lane t.cycle.ramWord
  /-- A completed read of the ROM shows the word of the ROM. -/
  rom : ∀ clock t, transactionAt start inputs clock = some t → t.cycle.readsRom = true →
    Shows (hostLocalMemoryRead (stateAt start inputs clock) (inputs clock)) fun lane =>
      if (inputs clock).hostLocalRomReadDataValid then
        some (lane.part (inputs clock).hostLocalRomReadData)
      else none
  /-- What is missing is a lane that was never stored, or a word the ROM does not have. -/
  missing : ∀ clock, 0 < clock →
    (hostLocalMemoryReadMissing (stateAt start inputs clock) (inputs clock) = true ↔
      ∃ t, transactionAt start inputs clock = some t ∧
        ((t.cycle.readsRam = true ∧
            ∃ lane, memoryAt start inputs clock lane t.cycle.ramWord = none) ∨
          (t.cycle.readsRom = true ∧ (inputs clock).hostLocalRomReadDataValid = false)))

end Run

/-! ## The RAM and the memory -/

/-- The RAM holds a memory: an empty one while it is scrubbed. -/
structure Holds (ram : LocalRam.State) (memory : Memory) : Prop where
  scrubbing : ram.validityScrubActive = true → memory = Memory.empty ∧
    ∀ lane word, word.toNat < ram.validityScrubAddress.toNat → ram.valid lane word = false
  serving : ram.validityScrubActive = false → ∀ lane word,
    memory lane word = if ram.valid lane word then some (ram.byte lane word) else none

section Clock

variable {ram : LocalRam.State} {i : LocalRam.Inputs} {memory : Memory}

/-- A clock of the scrub keeps the memory empty. -/
theorem Holds.scrub (holds : Holds ram memory) (running : i.initializeI = false)
    (scrubbing : ram.validityScrubActive = true) : Holds (LocalRam.step ram i) Memory.empty := by
  rcases holds.scrubbing scrubbing with ⟨-, cleared⟩
  rcases LocalRam.step_scrub (s := ram) running with ⟨active, moves⟩
  have valid (lane : Lane) (word : BitVec 13) : (LocalRam.step ram i).valid lane word =
      (ram.valid lane word && word != ram.validityScrubAddress) := by
    rw [LocalRam.step_valid]
    unfold LocalRam.written LocalRam.storageReady
    rw [running, scrubbing]
    rfl
  have passed (lane : Lane) (word : BitVec 13)
      (reached : word.toNat ≤ ram.validityScrubAddress.toNat) :
      (LocalRam.step ram i).valid lane word = false := by
    rw [valid]
    by_cases here : word = ram.validityScrubAddress
    · rw [here, bne_self_eq_false, Bool.and_false]
    · have apart : word.toNat ≠ ram.validityScrubAddress.toNat := fun same =>
        here (BitVec.eq_of_toNat_eq same)
      rw [cleared lane word (Nat.lt_of_le_of_ne reached apart), Bool.false_and]
  rw [scrubbing, Bool.true_and] at active
  by_cases last : ram.validityScrubAddress = 0x1fff
  · have position : ram.validityScrubAddress.toNat = 8191 := by
      rw [last]
      rfl
    rw [last, bne_self_eq_false] at active
    refine ⟨fun busy => absurd (active.symm.trans busy) (by decide), ?_⟩
    intro _ lane word
    have bounded := word.isLt
    rw [passed lane word (by omega)]
    rfl
  · refine ⟨fun _ => ⟨rfl, ?_⟩, fun idle => ?_⟩
    · intro lane word below
      apply passed lane word
      rw [moves scrubbing last] at below
      bv_omega
    · rw [bne_iff_ne.mpr last] at active
      exact absurd (active.symm.trans idle) (by decide)

/-- An initialisation starts the scrub. -/
theorem Holds.initialized (asserted : i.initializeI = true) :
    Holds (LocalRam.step ram i) Memory.empty := by
  have starts : (LocalRam.step ram i).validityScrubActive = true ∧
      (LocalRam.step ram i).validityScrubAddress = 0 := by
    unfold LocalRam.step
    rw [if_pos asserted]
    exact ⟨rfl, rfl⟩
  refine ⟨fun _ => ⟨rfl, ?_⟩, fun idle => absurd (starts.1.symm.trans idle) (by decide)⟩
  intro lane word below
  rw [starts.2] at below
  exact absurd below (Nat.not_lt_zero _)

/-- Once the scrub is over a clock stores the lanes that commit. -/
theorem Holds.serve (holds : Holds ram memory) (running : i.initializeI = false)
    (idle : ram.validityScrubActive = false) {next : Memory}
    (stores : ∀ lane word, next lane word =
      if i.commit lane && i.wordAddress == word then some (lane.part i.writeData)
      else memory lane word) :
    Holds (LocalRam.step ram i) next := by
  have still : (LocalRam.step ram i).validityScrubActive = false := by
    rw [(LocalRam.step_scrub running).1, idle, Bool.false_and]
  have written (lane : Lane) (word : BitVec 13) :
      LocalRam.written ram i lane word = (i.commit lane && i.wordAddress == word) := by
    unfold LocalRam.written LocalRam.storageReady
    rw [running, idle]
    rfl
  refine ⟨fun busy => absurd (still.symm.trans busy) (by decide), fun _ lane word => ?_⟩
  rw [stores, LocalRam.step_valid, LocalRam.step_byte, written, holds.serving idle, idle]
  cases i.commit lane && i.wordAddress == word
  · simp
  · simp

end Clock

/-! ## The law -/

section Law

variable {start : State} {inputs : ℕ → Inputs} {clock : ℕ}

theorem localRam_succ (start : State) (inputs : ℕ → Inputs) (clock : ℕ) :
    (stateAt start inputs (clock + 1)).localRam =
      LocalRam.step (stateAt start inputs clock).localRam
        (localRamInputs (stateAt start inputs clock) (inputs clock)) :=
  rfl

/-- The local RAM runs on what the bridge gives it. -/
theorem localRam_stateAt (start : State) (inputs : ℕ → Inputs) (clock : ℕ) :
    (stateAt start inputs clock).localRam =
      LocalRam.stateAt start.localRam
        (fun clock => localRamInputs (stateAt start inputs clock) (inputs clock)) clock := by
  induction clock with
  | zero => rfl
  | succ clock ih =>
      rw [localRam_succ, LocalRam.stateAt_succ, ih]

/-- The commits of the RAM are those of the transaction. -/
theorem Driven.commit_eq (driven : Driven start inputs) (later : 0 < clock) (lane : Lane) :
    (localRamInputs (stateAt start inputs clock) (inputs clock)).commit lane =
      (transactionAt start inputs clock).any fun t => t.cycle.writesRam lane := by
  apply driven.commit_iff later fun cycle => cycle.writesRam lane
  have wired := bridge_eq (s := stateAt start inputs clock) (driven.hosted clock)
  have internal := driven.internal clock
  cases lane
  · change (_ && HostTiming.localRamUpperWriteCommit (bridge _ _) _) = _
    rw [wired, internal, Bool.true_and]
    exact HostTiming.localRamUpperWriteCommit_eq
  · change (_ && HostTiming.localRamLowerWriteCommit (bridge _ _) _) = _
    rw [wired, internal, Bool.true_and]
    exact HostTiming.localRamLowerWriteCommit_eq

/-- A released processor finds the storage ready. -/
theorem storageReady_of_released {s : State} {i : Inputs} (internal : i.useInternalLocalRam = true)
    (released : localProcessorResetN s i = true) : storageReady s i = true := by
  unfold localProcessorResetN LocalResetInterlock.localProcessorResetN
    LocalResetInterlock.platformReleasePermitted at released
  rw [internal] at released
  simp only [Bool.and_eq_true, Bool.not_true, Bool.false_or] at released
  exact released.2.2

theorem idle_of_ready {s : State} {i : Inputs} (ready : storageReady s i = true) :
    s.localRam.validityScrubActive = false := by
  unfold storageReady LocalRam.storageReady at ready
  simp only [Bool.and_eq_true, Bool.not_eq_true'] at ready
  exact ready.2

/-- No cycle is active while the RAM is scrubbed. -/
theorem Driven.idle_of_active (driven : Driven start inputs) (later : 0 < clock)
    (active : (timingAt start inputs clock).cycleActive = true) :
    (stateAt start inputs clock).localRam.validityScrubActive = false := by
  induction clock, later using Nat.le_induction with
  | base =>
      rw [driven.orderly.cleared (timing_runs start inputs)] at active
      exact absurd active (by decide)
  | succ clock later ih =>
      have quiet : (localRamInputs (stateAt start inputs clock) (inputs clock)).initializeI = false :=
        driven.quiet later
      have idle : (stateAt start inputs clock).localRam.validityScrubActive = false := by
        by_cases asserted : (wiresAt inputs clock).addressStrobeAssert = true
        · exact idle_of_ready (storageReady_of_released (driven.internal clock)
            (driven.held clock later asserted))
        · apply ih
          have next := active
          rw [timing_runs start inputs clock] at next
          unfold HostTiming.step at next
          rw [driven.orderly.quiet later, if_neg Bool.false_ne_true] at next
          rw [Bool.not_eq_true] at asserted
          dsimp only at next
          rw [asserted, if_neg Bool.false_ne_true] at next
          split_ifs at next
          exact next
      rw [localRam_succ, (LocalRam.step_scrub quiet).1, idle, Bool.false_and]

/-- A transaction finds the storage ready. -/
theorem ready_of_transaction (driven : Driven start inputs) {t : Transaction}
    (completes : transactionAt start inputs clock = some t) :
    storageReady (stateAt start inputs clock) (inputs clock) = true := by
  have later := driven.later completes
  have active := (HostTiming.event_vpaN (driven.event completes).1).1
  have quiet := driven.quiet later
  unfold storageReady LocalRam.storageReady
  rw [driven.idle_of_active later active]
  change (!(inputs clock).shared.initializeI && !false) = true
  rw [quiet]
  rfl

theorem memoryAt_succ (start : State) (inputs : ℕ → Inputs) (clock : ℕ) :
    memoryAt start inputs (clock + 1) =
      ((transactionAt start inputs clock).toList.foldl Memory.store
        (memoryAt start inputs clock)) := by
  unfold memoryAt
  rw [HostTiming.before_succ, List.foldl_append]

/-- The RAM holds the memory of the transactions so far. -/
theorem Driven.holds (driven : Driven start inputs) (later : 0 < clock) :
    Holds (stateAt start inputs clock).localRam (memoryAt start inputs clock) := by
  induction clock, later using Nat.le_induction with
  | base =>
      rw [memoryAt_succ, driven.transactionAt_initialized]
      exact Holds.initialized driven.orderly.initialized
  | succ clock later ih =>
      have quiet : (localRamInputs (stateAt start inputs clock) (inputs clock)).initializeI = false :=
        driven.quiet later
      rw [localRam_succ, memoryAt_succ]
      rcases Bool.eq_false_or_eq_true
        (stateAt start inputs clock).localRam.validityScrubActive with scrubbing | idle
      · have none : transactionAt start inputs clock = none := by
          rw [Option.eq_none_iff_forall_ne_some]
          intro t completes
          have idle := idle_of_ready (ready_of_transaction driven completes)
          exact absurd (idle.symm.trans scrubbing) (by decide)
        rw [none, (ih.scrubbing scrubbing).1]
        exact ih.scrub quiet scrubbing
      · refine ih.serve quiet idle ?_
        intro lane word
        rw [driven.commit_eq later]
        cases completes : transactionAt start inputs clock with
        | none => rfl
        | some t =>
            rw [(driven.event completes).2]
            rfl

/-! ## Reads -/

/-- A word that shows lane by lane what is there. -/
theorem shows_of_lanes {r : HostRead} {bytes : Lane → Option (BitVec 8)} {valid : Lane → Bool}
    {byte : Lane → BitVec 8} (driven : r.driven = 0xffff)
    (masks : ∀ lane : Lane, lane.part r.valid = LocalRam.laneMask (valid lane))
    (words : ∀ lane : Lane, lane.part r.data = byte lane &&& LocalRam.laneMask (valid lane))
    (there : ∀ lane, bytes lane = if valid lane then some (byte lane) else none) :
    Shows r bytes := by
  refine ⟨driven, ?_, ?_⟩
  · intro lane
    rw [masks, there]
    cases valid lane <;> rfl
  · intro lane
    rw [words, there]
    cases valid lane
    · exact BitVec.and_zero
    · exact BitVec.and_allOnes

theorem part_and (lane : Lane) (first second : BitVec 16) :
    lane.part (first &&& second) = lane.part first &&& lane.part second := by
  cases lane <;> exact BitVec.extractLsb'_and

/-- The active cycle of a transaction selects its reads. -/
theorem reads_eq (driven : Driven start inputs) {t : Transaction}
    (completes : transactionAt start inputs clock = some t) :
    HostTiming.romReadRequest (bridge (stateAt start inputs clock) (inputs clock)) =
        t.cycle.readsRom ∧
      HostTiming.localRamReadRequest (bridge (stateAt start inputs clock) (inputs clock)) =
        t.cycle.readsRam := by
  rcases driven.event completes with ⟨event, rfl⟩
  have active := (HostTiming.event_vpaN event).1
  have active' : (stateAt start inputs clock).shared.hostTiming.cycleActive = true := active
  rw [bridge_eq (driven.hosted clock)]
  unfold HostTiming.romReadRequest HostTiming.romSelectN HostTiming.localRamReadRequest
    HostTiming.localRamSelectN HostTiming.highBankSelectN
  rw [active', Bool.not_true, Bool.or_false, Bool.true_and, Bool.not_not]
  exact ⟨rfl, rfl⟩

theorem wordMask_lane (lane : Lane) (line : Bool) :
    lane.part (wordMask line) = LocalRam.laneMask line := by
  cases lane <;> cases line <;> rfl

/-- A transaction that reads the RAM shows the memory. -/
theorem shows_ram (driven : Driven start inputs) {t : Transaction}
    (completes : transactionAt start inputs clock = some t) (reads : t.cycle.readsRam = true) :
    Shows (hostLocalMemoryRead (stateAt start inputs clock) (inputs clock))
      fun lane => memoryAt start inputs clock lane t.cycle.ramWord := by
  rcases reads_eq driven completes with ⟨rom, ram⟩
  rw [HostTiming.BusCycle.reads_apart _ reads] at rom
  rw [reads] at ram
  have ready := ready_of_transaction driven completes
  have idle := idle_of_ready ready
  have internal := driven.internal clock
  have word : (localRamInputs (stateAt start inputs clock) (inputs clock)).wordAddress =
      t.cycle.ramWord := by
    rw [(driven.event completes).2]
    rfl
  have request : (localRamInputs (stateAt start inputs clock) (inputs clock)).readRequest = true := by
    change ((inputs clock).useInternalLocalRam && _) = true
    rw [internal, Bool.true_and]
    exact ram
  have holds := (driven.holds (driven.later completes)).serving idle
  have read : hostLocalMemoryRead (stateAt start inputs clock) (inputs clock) =
      ⟨LocalRam.readData (stateAt start inputs clock).localRam
            (localRamInputs (stateAt start inputs clock) (inputs clock)) &&&
          LocalRam.readValidMask (stateAt start inputs clock).localRam
            (localRamInputs (stateAt start inputs clock) (inputs clock)),
        0xffff,
        LocalRam.readValidMask (stateAt start inputs clock).localRam
          (localRamInputs (stateAt start inputs clock) (inputs clock))⟩ := by
    unfold hostLocalMemoryRead HostTiming.localMemoryRead selectedLocalRamReadData
      selectedLocalRamReadValidMask
    rw [rom, ram, internal, if_neg Bool.false_ne_true, if_pos rfl, if_pos rfl, if_pos rfl]
  rw [read]
  refine shows_of_lanes rfl ?_ ?_ fun lane => holds lane t.cycle.ramWord
  · intro lane
    rw [(LocalRam.read_lane _ _ lane ready request).1, word]
  · intro lane
    rcases LocalRam.read_lane _ _ lane ready request with ⟨mask, data⟩
    rw [part_and, mask, data, word, BitVec.and_assoc, BitVec.and_self]

/-- A transaction that reads the ROM shows its word. -/
theorem shows_rom (driven : Driven start inputs) {t : Transaction}
    (completes : transactionAt start inputs clock = some t) (reads : t.cycle.readsRom = true) :
    Shows (hostLocalMemoryRead (stateAt start inputs clock) (inputs clock)) fun lane =>
      if (inputs clock).hostLocalRomReadDataValid then
        some (lane.part (inputs clock).hostLocalRomReadData)
      else none := by
  have rom := (reads_eq driven completes).1
  rw [reads] at rom
  unfold hostLocalMemoryRead HostTiming.localMemoryRead
  rw [rom, if_pos rfl]
  refine shows_of_lanes rfl (fun lane => wordMask_lane lane _) ?_ fun lane => rfl
  intro lane
  rw [part_and, wordMask_lane]

/-- A word is known unless one of its lanes is missing. -/
theorem Shows.missing {r : HostRead} {bytes : Lane → Option (BitVec 8)} (shows : Shows r bytes) :
    (r.valid != r.driven) = true ↔ ∃ lane, bytes lane = none := by
  have whole : r.valid = Lane.upper.part r.valid ++ Lane.lower.part r.valid :=
    (Halves.append_extract (m := 8) (n := 8) r.valid).symm
  rw [shows.driven, whole, shows.valid, shows.valid]
  have lanes : (∃ lane, bytes lane = none) ↔ bytes .upper = none ∨ bytes .lower = none := by
    constructor
    · rintro ⟨lane, absent⟩
      cases lane
      · exact Or.inl absent
      · exact Or.inr absent
    · rintro (absent | absent)
      · exact ⟨.upper, absent⟩
      · exact ⟨.lower, absent⟩
  rw [lanes]
  cases bytes .upper <;> cases bytes .lower <;> simp [LocalRam.laneMask]

theorem target_ne_zero (s : HostTiming.State) :
    (HostTiming.localMemoryTarget s != 0) =
      (HostTiming.romReadRequest s || HostTiming.localRamReadRequest s) := by
  unfold HostTiming.localMemoryTarget
  cases HostTiming.romReadRequest s <;> cases HostTiming.localRamReadRequest s <;> rfl

/-- A read of the RAM or the ROM is missing where a lane of it is not known. -/
theorem missing_iff (driven : Driven start inputs) (later : 0 < clock) :
    hostLocalMemoryReadMissing (stateAt start inputs clock) (inputs clock) = true ↔
      ∃ t, transactionAt start inputs clock = some t ∧
        ((t.cycle.readsRam = true ∧
            ∃ lane, memoryAt start inputs clock lane t.cycle.ramWord = none) ∨
          (t.cycle.readsRom = true ∧ (inputs clock).hostLocalRomReadDataValid = false)) := by
  have event : HostTiming.cycleCompleteEvent (bridge (stateAt start inputs clock) (inputs clock))
      (timingInputs (inputs clock)) =
        HostTiming.cycleCompleteEvent (timingAt start inputs clock) (wiresAt inputs clock) := by
    rw [bridge_eq (driven.hosted clock)]
    rfl
  unfold hostLocalMemoryReadMissing
  rw [event, target_ne_zero]
  cases completes : transactionAt start inputs clock with
  | none =>
      rw [driven.transactionAt_eq later] at completes
      split_ifs at completes with happens
      simp [happens]
  | some t =>
      rcases reads_eq driven completes with ⟨rom, ram⟩
      rw [(driven.event completes).1, rom, ram, Bool.true_and, Bool.and_eq_true]
      have whole : (∃ t', some t = some t' ∧
          ((t'.cycle.readsRam = true ∧
              ∃ lane, memoryAt start inputs clock lane t'.cycle.ramWord = none) ∨
            (t'.cycle.readsRom = true ∧ (inputs clock).hostLocalRomReadDataValid = false))) ↔
          ((t.cycle.readsRam = true ∧
              ∃ lane, memoryAt start inputs clock lane t.cycle.ramWord = none) ∨
            (t.cycle.readsRom = true ∧ (inputs clock).hostLocalRomReadDataValid = false)) := by
        simp
      rw [whole]
      cases fromRam : t.cycle.readsRam
      · cases fromRom : t.cycle.readsRom
        · simp
        · rw [(shows_rom driven completes fromRom).missing]
          have lanes : Nonempty Lane := ⟨.upper⟩
          cases (inputs clock).hostLocalRomReadDataValid <;> simp
      · rw [(shows_ram driven completes fromRam).missing, t.cycle.reads_apart fromRam]
        simp

theorem accepted_of_driven (driven : Driven start inputs) (later : 0 < clock) :
    LocalRam.writeBlocked (stateAt start inputs clock).localRam
      (localRamInputs (stateAt start inputs clock) (inputs clock)) = false := by
  by_contra blocked
  rw [Bool.not_eq_false] at blocked
  unfold LocalRam.writeBlocked at blocked
  rw [Bool.and_eq_true, Bool.not_eq_true'] at blocked
  have upper := driven.commit_eq later .upper
  have lower := driven.commit_eq later .lower
  have commits := blocked.2
  change ((localRamInputs _ _).commit .upper || (localRamInputs _ _).commit .lower) = true at commits
  rw [upper, lower] at commits
  cases completes : transactionAt start inputs clock with
  | none =>
      rw [completes] at commits
      exact absurd commits Bool.false_ne_true
  | some t =>
      have ready := ready_of_transaction driven completes
      exact absurd (blocked.1.symm.trans ready) (by decide)

/-- The local memory of the board is a byte memory of the transactions its processor
completes. -/
theorem localMemory_serves (start : State) (inputs : ℕ → Inputs) (driven : Driven start inputs) :
    ServesLocal start inputs := by
  exact ⟨fun clock => driven.channel, fun clock => accepted_of_driven driven,
    fun clock t => shows_ram driven, fun clock t => shows_rom driven,
    fun clock => missing_iff driven⟩

/-- A write of the upper lane of word 3 of the local RAM, and a read of the word. -/
def storingWires : List HostTiming.Inputs :=
  BusCycle.wires ⟨0x40e003, false, false, true⟩ ++ BusCycle.wires ⟨0x40e003, true, false, false⟩

/-- A board that is initialized in clock 0 and makes two cycles after the scrub. -/
def storingInputs (clock : ℕ) : Inputs :=
  wiredInputs (HostTiming.scriptedWire 8200 storingWires clock) 0xa55a

theorem localMemory_serves_storing : ServesLocal powerUp storingInputs := by
  have wired : wiresAt storingInputs = HostTiming.scriptedWire 8200 storingWires := rfl
  have hosted : Hosted powerUp storingInputs :=
    hosted_of_script wired (fun _ => rfl) (by decide) (by decide)
  refine localMemory_serves powerUp storingInputs ⟨hosted, fun _ => rfl, ?_⟩
  intro clock later asserted
  have after : 8200 ≤ clock := by
    by_contra before
    have quiet : HostTiming.scriptedWire 8200 storingWires clock = HostTiming.quietWires :=
      HostTiming.scriptedWire_quiet later (Or.inl (Nat.lt_of_not_le before))
    change (HostTiming.scriptedWire 8200 storingWires clock).addressStrobeAssert = true at asserted
    rw [quiet] at asserted
    exact absurd asserted (by decide)
  have ready : storageReady (stateAt powerUp storingInputs clock) (storingInputs clock) = true := by
    have since : Timeline.Last (LocalRam.initializes fun clock =>
        localRamInputs (stateAt powerUp storingInputs clock) (storingInputs clock)) 0 clock := by
      refine ⟨later, rfl, ?_⟩
      intro between after _ happened
      exact absurd ((hosted.quiet after).symm.trans happened) (by decide)
    unfold storageReady
    rw [localRam_stateAt]
    exact (LocalRam.storageReady_since since).mpr ⟨hosted.quiet later, by omega⟩
  unfold localProcessorResetN LocalResetInterlock.localProcessorResetN
    LocalResetInterlock.platformReleasePermitted
  rw [ready, hosted.quiet later]
  rfl

end Law

end SoundBoard

end Tms32010.Board
