import Tms32010.Board.HostTiming

/-!
# One completion for each host cycle

Over every legal run of `hard_drivin_sound_host_timing`: an ordinary cycle completes
exactly once, at the second falling edge after the rising edge that samples its strobe,
and an acknowledge cycle never. What an acknowledge cycle leaves behind when it is
released early reaches the next cycle only through a raised `RVA` or a low sample of
`/DTACK` at its strobe.
-/

namespace Tms32010.Board.HostTiming

/-! ## Legal runs -/

/-- The last of the two 8 MHz edges; `true` is the rising one. -/
def lastEdge (last : Option Bool) (i : Inputs) : Option Bool :=
  if i.host8mhzRise then some true else if i.host8mhzFall then some false else last

/-- One legal clock: no initialisation, the asserted contract, alternating edges, and
ordinary cycles released at or after their completion event. -/
def legalClock (last : Option Bool) (s : State) (i : Inputs) : Bool :=
  !i.initializeI && contract s i && !(i.host8mhzRise && last == some true) &&
    !(i.host8mhzFall && last == some false) &&
    (!i.addressStrobeDeassert || !vpaN s || cycleCompleteEvent s i || s.normalCompletionSeen)

/-- A legal run whose clocks also meet a rule. -/
def legal (rule : State → Inputs → Bool) : Option Bool → State → List Inputs → Bool
  | _, _, [] => true
  | last, s, i :: inputs =>
      legalClock last s i && rule s i && legal rule (lastEdge last i) (step s i) inputs

/-- No rule. -/
def anywhere (_ : State) (_ : Inputs) : Bool := true

/-- An ordinary strobe is asserted with `RVA` low and the sample of `/DTACK` high. -/
def cleanStart (s : State) (i : Inputs) : Bool :=
  !i.addressStrobeAssert || i.functionCode == 7 || (!s.rva && s.dtackSeen)

/-- An acknowledge cycle is released no earlier than the rising edge after the one that
samples its strobe. -/
def settledRelease (s : State) (i : Inputs) : Bool :=
  !i.addressStrobeDeassert || vpaN s || (!s.asSeen && (!s.rva || i.host8mhzRise))

/-- The clocks of a cycle after its strobe: released in the last and not before. -/
def spans (body : List Inputs) : Bool :=
  match body with
  | [] => false
  | [i] => i.addressStrobeDeassert
  | i :: rest => !i.addressStrobeDeassert && spans rest

/-- The progress of a cycle: `none` until a rising edge samples the strobe, then the
falling edges since. -/
def nextProgress (progress : Option ℕ) (i : Inputs) : Option ℕ :=
  match progress with
  | none => if i.host8mhzRise then some 0 else none
  | some falls => if i.host8mhzFall then some (falls + 1) else some falls

/-- The progress a cycle makes over some clocks. -/
def progressAfter (progress : Option ℕ) : List Inputs → Option ℕ
  | [] => progress
  | i :: inputs => progressAfter (nextProgress progress i) inputs

/-- The values of a signal along a run. -/
def along (signal : State → Inputs → Bool) (s : State) : List Inputs → List Bool
  | [] => []
  | i :: inputs => signal s i :: along signal (step s i) inputs

/-! ## An ordinary cycle -/

/-- The cycle of an ordinary strobe is active. -/
structure Carries (strobe : Inputs) (s : State) : Prop where
  active : s.cycleActive = true
  functionCode : s.functionCode = strobe.functionCode
  address : s.latchedAddress = strobe.address
  readNotWrite : s.readNotWrite = strobe.readNotWrite
  upper : s.upperDataStrobeN = strobe.upperDataStrobeN
  lower : s.lowerDataStrobeN = strobe.lowerDataStrobeN

/-- Where an ordinary cycle stands, by its progress. -/
def Stands (last : Option Bool) (s : State) : Option ℕ → Prop
  | none => s.asSeen = true ∧ s.rva = false ∧ s.dtackSeen = true ∧
      s.normalCompletionSeen = false
  | some 0 => s.asSeen = false ∧ s.rva = true ∧ s.dtackSeen = true ∧
      s.normalCompletionSeen = false ∧ last = some true
  | some 1 => s.asSeen = false ∧ s.dtackSeen = false ∧ s.normalCompletionSeen = false ∧
      last = some !s.rva
  | some (_ + 2) => s.asSeen = false ∧ s.rva = false ∧ s.dtackSeen = true ∧
      s.normalCompletionSeen = true

/-- What a legal clock of an active cycle looks like. -/
structure Proceeds (last : Option Bool) (s : State) (i : Inputs) : Prop where
  noInitialize : i.initializeI = false
  noAssert : i.addressStrobeAssert = false
  apart : ¬(i.host8mhzRise = true ∧ i.host8mhzFall = true)
  rises : i.host8mhzRise = true → last ≠ some true
  falls : i.host8mhzFall = true → last ≠ some false
  releases : i.addressStrobeDeassert = true → vpaN s = true →
    cycleCompleteEvent s i = true ∨ s.normalCompletionSeen = true

theorem proceeds_of_legal {last : Option Bool} {s : State} {i : Inputs}
    (active : s.cycleActive = true) (clock : legalClock last s i = true) :
    Proceeds last s i := by
  unfold legalClock contract at clock
  simp only [Bool.and_eq_true, Bool.not_eq_true', Bool.or_eq_true, Bool.and_eq_false_iff,
    beq_eq_false_iff_ne, active] at clock
  rcases clock with ⟨⟨⟨⟨initializing, contract⟩, rises⟩, falls⟩, releases⟩
  rcases contract with ⟨⟨⟨⟨⟨⟨apart, -⟩, -⟩, -⟩, idle⟩, -⟩, -⟩
  refine ⟨initializing, ?_, ?_, ?_, ?_, ?_⟩
  · simpa using idle
  · rintro ⟨rise, fall⟩
    simp [rise, fall] at apart
  · intro rise
    simpa [rise] using rises
  · intro fall
    simpa [fall] using falls
  · intro release vpa
    simpa [release, vpa, or_assoc] using releases

section Ordinary

variable {strobe : Inputs} {last : Option Bool} {s : State} {i : Inputs} {progress : Option ℕ}

theorem Carries.vpaN (carries : Carries strobe s) (ordinary : strobe.functionCode ≠ 7) :
    vpaN s = true := by
  unfold HostTiming.vpaN
  simpa [carries.active, carries.functionCode] using ordinary

theorem Carries.next (carries : Carries strobe s) (proceeds : Proceeds last s i)
    (held : i.addressStrobeDeassert = false) : Carries strobe (step s i) := by
  rcases carries with ⟨active, functionCode, address, readNotWrite, upper, lower⟩
  unfold step
  simp only [proceeds.noInitialize, proceeds.noAssert, held, Bool.false_eq_true, if_false]
  exact ⟨active, functionCode, address, readNotWrite, upper, lower⟩

/-- The event comes at a falling edge with one falling edge sampled before it. -/
theorem Stands.event (stands : Stands last s progress) (carries : Carries strobe s)
    (ordinary : strobe.functionCode ≠ 7) (proceeds : Proceeds last s i) :
    cycleCompleteEvent s i = true ↔ i.host8mhzFall = true ∧ progress = some 1 := by
  have vpa := carries.vpaN ordinary
  unfold cycleCompleteEvent normalCompletionCondition
  rw [carries.active, vpa]
  match progress, stands with
  | none, ⟨_, _, dtack, _⟩ => simp [dtack]
  | some 0, ⟨_, rva, _, _, _⟩ => simp [rva]
  | some 1, ⟨_, dtack, _, edge⟩ =>
      have falls := proceeds.falls
      cases rva : s.rva
      · simp [dtack]
      · rw [edge, rva] at falls
        simpa [dtack] using falls
  | some (k + 2), ⟨_, _, dtack, _⟩ => simp [dtack]

/-- A clock moves the cycle as its edges say. -/
theorem Stands.next (stands : Stands last s progress) (carries : Carries strobe s)
    (ordinary : strobe.functionCode ≠ 7) (proceeds : Proceeds last s i)
    (held : i.addressStrobeDeassert = false) :
    Stands (lastEdge last i) (step s i) (nextProgress progress i) := by
  have vpa := carries.vpaN ordinary
  have event := stands.event carries ordinary proceeds
  have apart := proceeds.apart
  have rises := proceeds.rises
  have falls := proceeds.falls
  unfold step lastEdge nextProgress dtackN
  simp only [proceeds.noInitialize, proceeds.noAssert, held, Bool.false_eq_true, if_false, vpa,
    Bool.true_and]
  match progress, stands with
  | none, ⟨asSeen, rva, dtack, seen⟩ =>
      have quiet : cycleCompleteEvent s i = false := by simpa using event
      cases rise : i.host8mhzRise
      · simp [Stands, asSeen, rva, dtack, seen, quiet]
      · have fall : i.host8mhzFall = false := by simpa [rise] using apart
        simp [Stands, asSeen, dtack, seen, quiet, fall]
  | some 0, ⟨asSeen, rva, dtack, seen, edge⟩ =>
      have quiet : cycleCompleteEvent s i = false := by simpa using event
      have rise : i.host8mhzRise = false := by simpa [edge] using rises
      cases fall : i.host8mhzFall
      · simp [Stands, asSeen, rva, dtack, seen, quiet, rise, edge]
      · simp [Stands, asSeen, rva, seen, quiet, rise]
  | some 1, ⟨asSeen, dtack, seen, edge⟩ =>
      cases rva : s.rva
      · rw [rva] at edge
        have rise : i.host8mhzRise = false := by simpa [edge] using rises
        cases fall : i.host8mhzFall
        · have quiet : cycleCompleteEvent s i = false := by simpa [fall] using event
          simp [Stands, asSeen, dtack, seen, quiet, rise, edge]
        · have completes : cycleCompleteEvent s i = true := by simpa [fall] using event
          simp [Stands, asSeen, completes, rise]
      · rw [rva] at edge
        have fall : i.host8mhzFall = false := by simpa [edge] using falls
        have quiet : cycleCompleteEvent s i = false := by simpa [fall] using event
        cases rise : i.host8mhzRise
        · simp [Stands, asSeen, dtack, seen, quiet, fall, edge]
        · simp [Stands, asSeen, dtack, seen, quiet, fall]
  | some (k + 2), ⟨asSeen, rva, dtack, seen⟩ =>
      have quiet : cycleCompleteEvent s i = false := by simpa using event
      cases fall : i.host8mhzFall
      · simp [Stands, asSeen, rva, dtack, seen, quiet]
      · simp [Stands, asSeen, rva, seen, quiet]

/-! ### Pulses -/

/-- The completion events still due in a cycle. -/
def completionsDue : Option ℕ → Bool → ℕ
  | some (_ + 2), _ => 0
  | _, _ => 1

/-- The rising edges under `RVA` still due in a cycle. -/
def strobesDue : Option ℕ → Bool → ℕ
  | some (_ + 2), _ => 0
  | some 1, rva => rva.toNat
  | _, _ => 1

/-- A rising edge under `RVA`, where the I/O write strobe ends. -/
def strobeEnd (s : State) (i : Inputs) : Bool := i.host8mhzRise && s.rva

theorem Stands.completion_due (stands : Stands last s progress) (carries : Carries strobe s)
    (ordinary : strobe.functionCode ≠ 7) (proceeds : Proceeds last s i) :
    (cycleCompleteEvent s i).toNat + completionsDue (nextProgress progress i) (step s i).rva =
        completionsDue progress s.rva ∧
      (i.addressStrobeDeassert = true →
        (cycleCompleteEvent s i).toNat = completionsDue progress s.rva) := by
  have event := stands.event carries ordinary proceeds
  have releases := proceeds.releases
  rw [carries.vpaN ordinary] at releases
  match progress, stands with
  | none, ⟨_, _, _, seen⟩ =>
      have quiet : cycleCompleteEvent s i = false := by simpa using event
      unfold nextProgress
      refine ⟨?_, fun release => absurd (releases release rfl) (by simp [quiet, seen])⟩
      cases i.host8mhzRise <;> simp [quiet, completionsDue]
  | some 0, ⟨_, _, _, seen, _⟩ =>
      have quiet : cycleCompleteEvent s i = false := by simpa using event
      unfold nextProgress
      refine ⟨?_, fun release => absurd (releases release rfl) (by simp [quiet, seen])⟩
      cases i.host8mhzFall <;> simp [quiet, completionsDue]
  | some 1, ⟨_, _, seen, _⟩ =>
      unfold nextProgress
      cases fall : i.host8mhzFall
      · have quiet : cycleCompleteEvent s i = false := by simpa [fall] using event
        exact ⟨by simp [quiet, completionsDue],
          fun release => absurd (releases release rfl) (by simp [quiet, seen])⟩
      · have completes : cycleCompleteEvent s i = true := by simpa [fall] using event
        simp [completes, completionsDue]
  | some (k + 2), _ =>
      have quiet : cycleCompleteEvent s i = false := by simpa using event
      unfold nextProgress
      cases i.host8mhzFall <;> simp [quiet, completionsDue]

theorem Stands.strobe_due (stands : Stands last s progress) (carries : Carries strobe s)
    (ordinary : strobe.functionCode ≠ 7) (proceeds : Proceeds last s i) :
    (strobeEnd s i).toNat + strobesDue (nextProgress progress i) (step s i).rva =
        strobesDue progress s.rva ∧
      (i.addressStrobeDeassert = true → (strobeEnd s i).toNat = strobesDue progress s.rva) := by
  have event := stands.event carries ordinary proceeds
  have releases := proceeds.releases
  have rises := proceeds.rises
  have falls := proceeds.falls
  have rvaNext : (step s i).rva = if i.host8mhzRise then s.asSeen else s.rva := by
    unfold step
    simp only [proceeds.noInitialize, Bool.false_eq_true, if_false]
  rw [carries.vpaN ordinary] at releases
  rw [rvaNext]
  unfold strobeEnd nextProgress
  match progress, stands with
  | none, ⟨_, rva, _, seen⟩ =>
      have quiet : cycleCompleteEvent s i = false := by simpa using event
      refine ⟨?_, fun release => absurd (releases release rfl) (by simp [quiet, seen])⟩
      cases i.host8mhzRise <;> simp [rva, strobesDue]
  | some 0, ⟨_, rva, _, seen, edge⟩ =>
      have quiet : cycleCompleteEvent s i = false := by simpa using event
      have rise : i.host8mhzRise = false := by simpa [edge] using rises
      refine ⟨?_, fun release => absurd (releases release rfl) (by simp [quiet, seen])⟩
      cases i.host8mhzFall <;> simp [rva, rise, strobesDue]
  | some 1, ⟨asSeen, _, seen, edge⟩ =>
      cases rva : s.rva
      · rw [rva] at edge
        have rise : i.host8mhzRise = false := by simpa [edge] using rises
        cases i.host8mhzFall <;> simp [rise, strobesDue]
      · rw [rva] at edge
        have fall : i.host8mhzFall = false := by simpa [edge] using falls
        have quiet : cycleCompleteEvent s i = false := by simpa [fall] using event
        refine ⟨?_, fun release => absurd (releases release rfl) (by simp [quiet, seen])⟩
        cases i.host8mhzRise <;> simp [fall, asSeen, strobesDue]
  | some (k + 2), ⟨_, rva, _, _⟩ =>
      cases i.host8mhzFall <;> simp [rva, strobesDue]

/-- A selected pulse that is due at every clock as often as it still comes, comes that
often over the cycle. -/
theorem count_along {pulse signal : State → Inputs → Bool} {due : Option ℕ → Bool → ℕ}
    {selected : Bool} {rule : State → Inputs → Bool} (ordinary : strobe.functionCode ≠ 7)
    (same : ∀ s i, Carries strobe s → signal s i = (pulse s i && selected))
    (accounts : ∀ {last s i progress}, Stands last s progress → Carries strobe s →
      Proceeds last s i →
      (pulse s i).toNat + due (nextProgress progress i) (step s i).rva = due progress s.rva ∧
        (i.addressStrobeDeassert = true → (pulse s i).toNat = due progress s.rva))
    {body : List Inputs} (spanned : spans body = true) (stands : Stands last s progress)
    (carries : Carries strobe s) (run : legal rule last s body = true) :
    (along signal s body).count true = if selected then due progress s.rva else 0 := by
  induction body generalizing last s progress with
  | nil => exact absurd spanned (by simp [spans])
  | cons i rest ih =>
      rw [legal, Bool.and_eq_true, Bool.and_eq_true] at run
      rcases run with ⟨⟨clock, -⟩, tail⟩
      have proceeds := proceeds_of_legal carries.active clock
      rcases accounts stands carries proceeds with ⟨account, final⟩
      rw [along, same s i carries]
      cases rest with
      | nil =>
          rw [← final spanned]
          cases pulse s i <;> cases selected <;> rfl
      | cons j later =>
          change (!i.addressStrobeDeassert && spans (j :: later)) = true at spanned
          rw [Bool.and_eq_true, Bool.not_eq_true'] at spanned
          rcases spanned with ⟨held, spanned⟩
          have counted := ih spanned (stands.next carries ordinary proceeds held)
            (carries.next proceeds held) tail
          rw [List.count_cons, counted, ← account]
          cases pulse s i <;> cases selected <;> simp [Nat.add_comm]

end Ordinary

/-! ### Commits -/

/-- The bank of `A23` and `A16:A14` a strobe addresses. -/
def Inputs.bank (strobe : Inputs) (bank : BitVec 3) : Bool :=
  strobe.address.getLsbD 22 && strobe.address.extractLsb' 13 3 == bank

section Commits

variable {strobe : Inputs} {s : State} {i : Inputs}

theorem event_rvasN (event : cycleCompleteEvent s i = true) :
    s.rva = false ∧ s.dtackSeen = false := by
  unfold cycleCompleteEvent normalCompletionCondition at event
  simp only [Bool.and_eq_true, Bool.not_eq_true'] at event
  exact ⟨event.2.1.2, event.2.2⟩

theorem Carries.highBankSelectN (carries : Carries strobe s) (bank : BitVec 3) :
    highBankSelectN s bank = !strobe.bank bank := by
  unfold HostTiming.highBankSelectN Inputs.bank
  rw [carries.active, carries.address, Bool.true_and]

/-- A commit on the completion event is the event and what the strobe selected. -/
theorem event_and {commit selected : Bool} (s : State) (i : Inputs)
    (same : cycleCompleteEvent s i = true → commit = selected) :
    (cycleCompleteEvent s i && commit) = (cycleCompleteEvent s i && selected) := by
  cases event : cycleCompleteEvent s i
  · rfl
  · rw [same event]

theorem Carries.writeCompleteEvent (carries : Carries strobe s) :
    writeCompleteEvent s i =
      (cycleCompleteEvent s i && (strobe.bank 4 && !strobe.readNotWrite)) := by
  unfold HostTiming.writeCompleteEvent rvfAddressQualified Inputs.bank
  rw [carries.address, carries.readNotWrite, Bool.and_assoc]

theorem Carries.localRamUpperWriteCommit (carries : Carries strobe s) :
    localRamUpperWriteCommit s i = (cycleCompleteEvent s i &&
      (strobe.bank 7 && !strobe.readNotWrite && !strobe.upperDataStrobeN)) := by
  refine event_and s i fun event => ?_
  rcases event_rvasN event with ⟨rva, dtack⟩
  unfold localRamUpperWrite localRamSelectN upperWriteEnableN readWriteStrobeN rvasN
  rw [carries.highBankSelectN, carries.readNotWrite, carries.upper, rva, dtack]
  cases strobe.bank 7 <;> cases strobe.readNotWrite <;> cases strobe.upperDataStrobeN <;> rfl

theorem Carries.localRamLowerWriteCommit (carries : Carries strobe s) :
    localRamLowerWriteCommit s i = (cycleCompleteEvent s i &&
      (strobe.bank 7 && !strobe.readNotWrite && !strobe.lowerDataStrobeN)) := by
  refine event_and s i fun event => ?_
  rcases event_rvasN event with ⟨rva, dtack⟩
  unfold localRamLowerWrite localRamSelectN lowerWriteEnableN readWriteStrobeN rvasN
  rw [carries.highBankSelectN, carries.readNotWrite, carries.lower, rva, dtack]
  cases strobe.bank 7 <;> cases strobe.readNotWrite <;> cases strobe.lowerDataStrobeN <;> rfl

theorem Carries.hostProgramRamWriteCommit (carries : Carries strobe s) :
    hostProgramRamWriteCommit s i = (cycleCompleteEvent s i &&
      (strobe.bank 5 && !strobe.readNotWrite && !strobe.address.getLsbD 12)) := by
  refine event_and s i fun event => ?_
  rcases event_rvasN event with ⟨rva, dtack⟩
  unfold hostProgramRamWrite hostProgramRamChipEnableN hostProgramRamWriteN hostProgramSelectN
    rvasN
  rw [carries.highBankSelectN, carries.readNotWrite, carries.address, rva, dtack]
  cases strobe.bank 5 <;> cases strobe.readNotWrite <;> cases strobe.address.getLsbD 12 <;> rfl

theorem Carries.hostCommunicationWriteCommit (carries : Carries strobe s) :
    hostCommunicationWriteCommit s i = (cycleCompleteEvent s i &&
      (strobe.bank 6 && !strobe.readNotWrite)) := by
  refine event_and s i fun event => ?_
  rcases event_rvasN event with ⟨rva, dtack⟩
  unfold hostCommunicationWrite hostCommunicationSelectN rvasN
  rw [carries.highBankSelectN, carries.readNotWrite, rva, dtack]
  cases strobe.bank 6 <;> cases strobe.readNotWrite <;> rfl

theorem Carries.hostProgramIoWriteCommit (carries : Carries strobe s) :
    hostProgramIoWriteCommit s i = (strobeEnd s i &&
      (strobe.bank 5 && !strobe.readNotWrite && strobe.address.getLsbD 12)) := by
  unfold HostTiming.hostProgramIoWriteCommit hostProgramIoWrite hostProgramIoWriteEnableN
    hostProgramSelectN rvasN strobeEnd
  rw [carries.highBankSelectN, carries.readNotWrite, carries.address]
  cases i.host8mhzRise <;> cases s.rva <;> cases s.dtackSeen <;> cases strobe.bank 5 <;>
    cases strobe.readNotWrite <;> cases strobe.address.getLsbD 12 <;> rfl

end Commits

/-! ## Cycles -/

/-- The law of an ordinary cycle: its completion event, once and at its place, and the
commits of a write, each as often as the strobe selects its target. -/
structure CompletesOnce (s : State) (strobe : Inputs) (body : List Inputs) : Prop where
  place : ∀ first i rest, body = first ++ i :: rest →
    (cycleCompleteEvent (run (step s strobe) first) i = true ↔
      i.host8mhzFall = true ∧ progressAfter none first = some 1)
  once : (along cycleCompleteEvent s (strobe :: body)).count true = 1
  lowIo : (along writeCompleteEvent s (strobe :: body)).count true =
    if strobe.bank 4 && !strobe.readNotWrite then 1 else 0
  upper : (along localRamUpperWriteCommit s (strobe :: body)).count true =
    if strobe.bank 7 && !strobe.readNotWrite && !strobe.upperDataStrobeN then 1 else 0
  lower : (along localRamLowerWriteCommit s (strobe :: body)).count true =
    if strobe.bank 7 && !strobe.readNotWrite && !strobe.lowerDataStrobeN then 1 else 0
  program : (along hostProgramRamWriteCommit s (strobe :: body)).count true =
    if strobe.bank 5 && !strobe.readNotWrite && !strobe.address.getLsbD 12 then 1 else 0
  communication : (along hostCommunicationWriteCommit s (strobe :: body)).count true =
    if strobe.bank 6 && !strobe.readNotWrite then 1 else 0
  port : (along hostProgramIoWriteCommit s (strobe :: body)).count true =
    if strobe.bank 5 && !strobe.readNotWrite && strobe.address.getLsbD 12 then 1 else 0

section Cycle

variable {strobe : Inputs} {last : Option Bool} {s : State} {rule : State → Inputs → Bool}

/-- What a legal strobe looks like. -/
theorem strobe_quiet (asserted : strobe.addressStrobeAssert = true)
    (clock : legalClock last s strobe = true) :
    strobe.initializeI = false ∧ strobe.host8mhzRise = false ∧ strobe.host8mhzFall = false ∧
      strobe.addressStrobeDeassert = false ∧ s.cycleActive = false := by
  unfold legalClock contract at clock
  simp only [Bool.and_eq_true, Bool.not_eq_true', asserted, Bool.true_and] at clock
  rcases clock with ⟨⟨⟨⟨initializing, contract⟩, -⟩, -⟩, -⟩
  rcases contract with ⟨⟨⟨⟨⟨⟨-, rise⟩, fall⟩, release⟩, idle⟩, -⟩, -⟩
  exact ⟨initializing, rise, fall, release, idle⟩

theorem carries_of_strobe (asserted : strobe.addressStrobeAssert = true)
    (clock : legalClock last s strobe = true) : Carries strobe (step s strobe) := by
  rcases strobe_quiet asserted clock with ⟨initializing, rise, fall, release, idle⟩
  unfold step
  simp only [initializing, asserted, release, Bool.false_eq_true, if_false, if_true]
  exact ⟨rfl, rfl, rfl, rfl, rfl, rfl⟩

theorem stands_of_strobe (asserted : strobe.addressStrobeAssert = true)
    (clock : legalClock last s strobe = true) (rva : s.rva = false)
    (dtack : s.dtackSeen = true) : Stands (lastEdge last strobe) (step s strobe) none := by
  rcases strobe_quiet asserted clock with ⟨initializing, rise, fall, release, idle⟩
  have quiet : cycleCompleteEvent s strobe = false := by
    unfold cycleCompleteEvent
    rw [fall, Bool.false_and]
  unfold step
  simp only [initializing, asserted, release, rise, fall, quiet, Bool.false_eq_true, if_false,
    if_true, Bool.false_and]
  exact ⟨rfl, rva, dtack, rfl⟩

/-- The place of the event within the clocks of a cycle. -/
theorem event_place {progress : Option ℕ} (ordinary : strobe.functionCode ≠ 7)
    {body : List Inputs} (spanned : spans body = true) (stands : Stands last s progress)
    (carries : Carries strobe s) (runs : legal rule last s body = true)
    (first : List Inputs) (i : Inputs) (rest : List Inputs) (split : body = first ++ i :: rest) :
    cycleCompleteEvent (run s first) i = true ↔
      i.host8mhzFall = true ∧ progressAfter progress first = some 1 := by
  induction first generalizing last s progress body with
  | nil =>
      rw [split, List.nil_append, legal, Bool.and_eq_true, Bool.and_eq_true] at runs
      exact stands.event carries ordinary (proceeds_of_legal carries.active runs.1.1)
  | cons j first ih =>
      rw [split, List.cons_append, legal, Bool.and_eq_true, Bool.and_eq_true] at runs
      have proceeds := proceeds_of_legal carries.active runs.1.1
      have later : spans (j :: (first ++ i :: rest)) = true := by
        rw [← List.cons_append, ← split]
        exact spanned
      have released : j.addressStrobeDeassert = false ∧ spans (first ++ i :: rest) = true := by
        cases tail : first ++ i :: rest with
        | nil => exact absurd tail (by simp)
        | cons k more =>
            rw [tail] at later
            change (!j.addressStrobeDeassert && spans (k :: more)) = true at later
            rw [Bool.and_eq_true, Bool.not_eq_true'] at later
            exact later
      exact ih released.2 (stands.next carries ordinary proceeds released.1)
        (carries.next proceeds released.1) runs.2 rfl

theorem completesOnce_of_legal {body : List Inputs}
    (asserted : strobe.addressStrobeAssert = true) (ordinary : strobe.functionCode ≠ 7)
    (spanned : spans body = true) (runs : legal cleanStart last s (strobe :: body) = true) :
    CompletesOnce s strobe body := by
  rw [legal, Bool.and_eq_true, Bool.and_eq_true] at runs
  rcases runs with ⟨⟨clock, clean⟩, tail⟩
  rcases strobe_quiet asserted clock with ⟨-, rise, fall, -, -⟩
  have start : s.rva = false ∧ s.dtackSeen = true := by
    unfold cleanStart at clean
    have other : (strobe.functionCode == 7) = false := by simpa using ordinary
    rw [asserted, other] at clean
    simpa using clean
  have carries := carries_of_strobe asserted clock
  have stands := stands_of_strobe asserted clock start.1 start.2
  have quiet : cycleCompleteEvent s strobe = false := by
    unfold cycleCompleteEvent
    rw [fall, Bool.false_and]
  have before {signal : State → Inputs → Bool} (none : signal s strobe = false) :
      (along signal s (strobe :: body)).count true =
        (along signal (step s strobe) body).count true := by
    rw [along, none, List.count_cons]
    simp
  have onEvent {commit : State → Inputs → Bool} {selected : Bool}
      (same : ∀ s i, Carries strobe s → commit s i = (cycleCompleteEvent s i && selected)) :=
    count_along ordinary same (fun stands carries proceeds =>
      stands.completion_due carries ordinary proceeds) spanned stands carries tail
  refine ⟨?_, ?_, ?_, ?_, ?_, ?_, ?_, ?_⟩
  · exact event_place ordinary spanned stands carries tail
  · rw [before quiet]
    exact @onEvent cycleCompleteEvent true fun s i _ => (Bool.and_true _).symm
  · rw [before (by unfold writeCompleteEvent; rw [quiet]; rfl)]
    exact onEvent fun s i carries => carries.writeCompleteEvent
  · rw [before (by unfold localRamUpperWriteCommit; rw [quiet]; rfl)]
    exact onEvent fun s i carries => carries.localRamUpperWriteCommit
  · rw [before (by unfold localRamLowerWriteCommit; rw [quiet]; rfl)]
    exact onEvent fun s i carries => carries.localRamLowerWriteCommit
  · rw [before (by unfold hostProgramRamWriteCommit; rw [quiet]; rfl)]
    exact onEvent fun s i carries => carries.hostProgramRamWriteCommit
  · rw [before (by unfold hostCommunicationWriteCommit; rw [quiet]; rfl)]
    exact onEvent fun s i carries => carries.hostCommunicationWriteCommit
  · rw [before (by unfold hostProgramIoWriteCommit; rw [rise]; rfl)]
    exact count_along ordinary (fun s i carries => carries.hostProgramIoWriteCommit)
      (fun stands carries proceeds => stands.strobe_due carries ordinary proceeds) spanned
      stands carries tail

/-- An acknowledge cycle makes no event. -/
theorem acknowledge_silent {body : List Inputs} (acknowledge : strobe.functionCode = 7)
    (spanned : spans body = true) (carries : Carries strobe s)
    (runs : legal rule last s body = true) :
    (along cycleCompleteEvent s body).count true = 0 := by
  induction body generalizing last s with
  | nil => rfl
  | cons i rest ih =>
      rw [legal, Bool.and_eq_true, Bool.and_eq_true] at runs
      have quiet : cycleCompleteEvent s i = false := by
        unfold cycleCompleteEvent normalCompletionCondition vpaN
        simp [carries.active, carries.functionCode, acknowledge]
      rw [along, quiet]
      cases rest with
      | nil => rfl
      | cons j later =>
          change (!i.addressStrobeDeassert && spans (j :: later)) = true at spanned
          rw [Bool.and_eq_true, Bool.not_eq_true'] at spanned
          have proceeds := proceeds_of_legal carries.active runs.1.1
          have counted := ih spanned.2 (carries.next proceeds spanned.1) runs.2
          rw [List.count_cons, counted]
          rfl

end Cycle

/-! ## Settled releases -/

/-- What a run with settled releases keeps: nothing is left between cycles. -/
inductive Settled (last : Option Bool) (s : State) : Prop where
  | idle (inactive : s.cycleActive = false) (asSeen : s.asSeen = false) (rva : s.rva = false)
      (dtack : s.dtackSeen = true)
  | ordinary (strobe : Inputs) (progress : Option ℕ) (ordinary : strobe.functionCode ≠ 7)
      (carries : Carries strobe s) (stands : Stands last s progress)
  | acknowledge (active : s.cycleActive = true) (functionCode : s.functionCode = 7)
      (dtack : s.dtackSeen = true)

section Settling

variable {last : Option Bool} {s : State} {i : Inputs}

theorem Settled.cleanStart (settled : Settled last s) (clock : legalClock last s i = true) :
    cleanStart s i = true := by
  unfold HostTiming.cleanStart
  cases asserted : i.addressStrobeAssert
  · rfl
  · rcases strobe_quiet asserted clock with ⟨-, -, -, -, idle⟩
    cases settled with
    | idle inactive asSeen rva dtack => simp [rva, dtack]
    | ordinary strobe progress ordinary carries stands =>
        exact absurd (idle.symm.trans carries.active) (by decide)
    | acknowledge active functionCode dtack =>
        exact absurd (idle.symm.trans active) (by decide)

theorem Settled.idle_next (inactive : s.cycleActive = false) (asSeen : s.asSeen = false)
    (rva : s.rva = false) (dtack : s.dtackSeen = true) (clock : legalClock last s i = true) :
    Settled (lastEdge last i) (step s i) := by
  cases asserted : i.addressStrobeAssert
  · have quiet : i.initializeI = false ∧ i.addressStrobeDeassert = false := by
      unfold legalClock contract at clock
      simp only [Bool.and_eq_true, Bool.not_eq_true', inactive, Bool.or_false] at clock
      exact ⟨clock.1.1.1.1, clock.1.1.1.2.1.2⟩
    refine .idle ?_ ?_ ?_ ?_
    · simp [step, quiet, asserted, inactive]
    · simp [step, quiet, asserted, asSeen]
    · simp [step, quiet, asSeen, rva]
    · simp [step, quiet, dtackN, rva, dtack]
  · have carries := carries_of_strobe asserted clock
    rcases strobe_quiet asserted clock with ⟨initializing, rise, fall, release, -⟩
    by_cases acknowledge : i.functionCode = 7
    · refine .acknowledge carries.active (carries.functionCode.trans acknowledge) ?_
      simp [step, initializing, fall, dtack]
    · exact .ordinary i none acknowledge carries (stands_of_strobe asserted clock rva dtack)

theorem Settled.next (settled : Settled last s) (clock : legalClock last s i = true)
    (release : settledRelease s i = true) : Settled (lastEdge last i) (step s i) := by
  cases settled with
  | idle inactive asSeen rva dtack => exact .idle_next inactive asSeen rva dtack clock
  | ordinary strobe progress ordinary carries stands =>
      have proceeds := proceeds_of_legal carries.active clock
      cases released : i.addressStrobeDeassert
      · exact .ordinary strobe _ ordinary (carries.next proceeds released)
          (stands.next carries ordinary proceeds released)
      · have event := stands.event carries ordinary proceeds
        -- the release is at or after the event, so only the last two places remain
        have settles : s.asSeen = false ∧ s.rva = false := by
          rcases proceeds.releases released (carries.vpaN ordinary) with now | seen
          · rcases event.mp now with ⟨fall, place⟩
            subst place
            exact ⟨stands.1, (event_rvasN now).1⟩
          · match progress, stands with
            | none, ⟨_, _, _, fresh⟩ => exact absurd (fresh.symm.trans seen) (by decide)
            | some 0, ⟨_, _, _, fresh, _⟩ => exact absurd (fresh.symm.trans seen) (by decide)
            | some 1, ⟨_, _, fresh, _⟩ => exact absurd (fresh.symm.trans seen) (by decide)
            | some (k + 2), ⟨asSeen, rva, _, _⟩ => exact ⟨asSeen, rva⟩
        have dtack : (step s i).dtackSeen = true := by
          rcases proceeds.releases released (carries.vpaN ordinary) with now | seen
          · have fall := (event.mp now).1
            simp [step, proceeds.noInitialize, fall, dtackN, settles]
          · match progress, stands with
            | none, ⟨_, _, _, fresh⟩ => exact absurd (fresh.symm.trans seen) (by decide)
            | some 0, ⟨_, _, _, fresh, _⟩ => exact absurd (fresh.symm.trans seen) (by decide)
            | some 1, ⟨_, _, fresh, _⟩ => exact absurd (fresh.symm.trans seen) (by decide)
            | some (k + 2), ⟨_, rva, dtack, _⟩ =>
                simp [step, proceeds.noInitialize, dtackN, rva, dtack]
        refine .idle ?_ ?_ ?_ dtack
        · simp [step, proceeds.noInitialize, released]
        · simp [step, proceeds.noInitialize, proceeds.noAssert, settles]
        · simp [step, proceeds.noInitialize, settles]
  | acknowledge active functionCode dtack =>
      have proceeds := proceeds_of_legal active clock
      have vpa : vpaN s = false := by simp [vpaN, active, functionCode]
      have held : (step s i).dtackSeen = true := by
        simp [step, proceeds.noInitialize, dtackN, vpa, dtack]
      cases released : i.addressStrobeDeassert
      · refine .acknowledge ?_ ?_ held
        · simp [step, proceeds.noInitialize, proceeds.noAssert, released, active]
        · simp [step, proceeds.noInitialize, proceeds.noAssert, functionCode]
      · unfold settledRelease at release
        simp only [released, vpa, Bool.not_true, Bool.false_or, Bool.and_eq_true,
          Bool.not_eq_true', Bool.or_eq_true] at release
        refine .idle ?_ ?_ ?_ held
        · simp [step, proceeds.noInitialize, released]
        · simp [step, proceeds.noInitialize, proceeds.noAssert, release]
        · rcases release.2 with low | rise
          · simp [step, proceeds.noInitialize, release, low]
          · simp [step, proceeds.noInitialize, release, rise]

/-- Settled releases leave nothing for the next cycle. -/
theorem Settled.legal (settled : Settled last s) {inputs : List Inputs}
    (runs : legal settledRelease last s inputs = true) :
    legal HostTiming.cleanStart last s inputs = true := by
  induction inputs generalizing last s with
  | nil => rfl
  | cons i inputs ih =>
      rw [HostTiming.legal, Bool.and_eq_true, Bool.and_eq_true] at runs ⊢
      exact ⟨⟨runs.1.1, settled.cleanStart runs.1.1⟩, ih (settled.next runs.1.1 runs.1.2) runs.2⟩

end Settling

/-! ## Runs -/

/-- The last edge after some clocks. -/
def lastEdges (last : Option Bool) : List Inputs → Option Bool
  | [] => last
  | i :: inputs => lastEdges (lastEdge last i) inputs

theorem legal_append {rule : State → Inputs → Bool} (last : Option Bool) (s : State)
    (first second : List Inputs) (runs : legal rule last s (first ++ second) = true) :
    legal rule last s first = true ∧
      legal rule (lastEdges last first) (run s first) second = true := by
  induction first generalizing last s with
  | nil => exact ⟨rfl, runs⟩
  | cons i first ih =>
      rw [List.cons_append, legal, Bool.and_eq_true] at runs
      rcases ih _ _ runs.2 with ⟨head, tail⟩
      refine ⟨?_, tail⟩
      rw [legal, Bool.and_eq_true]
      exact ⟨runs.1, head⟩

/-- The law of every cycle and every clock of a run. -/
structure CompletionLaw (s : State) (inputs : List Inputs) : Prop where
  ordinary : ∀ before strobe body after, inputs = before ++ (strobe :: body) ++ after →
    strobe.addressStrobeAssert = true → spans body = true → strobe.functionCode ≠ 7 →
    CompletesOnce (run s before) strobe body
  acknowledge : ∀ before strobe body after, inputs = before ++ (strobe :: body) ++ after →
    strobe.addressStrobeAssert = true → spans body = true → strobe.functionCode = 7 →
    (along cycleCompleteEvent (run s before) (strobe :: body)).count true = 0
  outside : ∀ before i after, inputs = before ++ i :: after →
    cycleCompleteEvent (run s before) i = true →
    (run s before).cycleActive = true ∧ (run s before).functionCode ≠ 7

theorem completionLaw_of_legal {last : Option Bool} {s : State} {inputs : List Inputs}
    (runs : legal cleanStart last s inputs = true) : CompletionLaw s inputs where
  ordinary before strobe body after split asserted spanned ordinary := by
    rw [split] at runs
    have cycle := (legal_append _ _ _ _ (legal_append _ _ _ _ runs).1).2
    exact completesOnce_of_legal asserted ordinary spanned cycle
  acknowledge before strobe body after split asserted spanned acknowledge := by
    rw [split] at runs
    have cycle := (legal_append _ _ _ _ (legal_append _ _ _ _ runs).1).2
    rw [legal, Bool.and_eq_true, Bool.and_eq_true] at cycle
    rcases strobe_quiet asserted cycle.1.1 with ⟨-, -, fall, -, -⟩
    have quiet : cycleCompleteEvent (run s before) strobe = false := by
      unfold cycleCompleteEvent
      rw [fall, Bool.false_and]
    rw [along, quiet, List.count_cons,
      acknowledge_silent acknowledge spanned (carries_of_strobe asserted cycle.1.1) cycle.2]
    rfl
  outside before i after split event := by
    unfold cycleCompleteEvent normalCompletionCondition vpaN at event
    simp only [Bool.and_eq_true, Bool.not_eq_true', Bool.and_eq_false_iff] at event
    refine ⟨event.2.1.1.1, ?_⟩
    simpa [event.2.1.1.1] using event.2.1.1.2

/-- A strobe of the given function code at address zero, and clocks with one event each. -/
def strobeOf (functionCode : BitVec 3) : Inputs :=
  ⟨false, false, false, true, false, functionCode, 0, true, false, false⟩

/-- A clock with the given edges and release. -/
def clockOf (rise fall release : Bool) : Inputs :=
  ⟨false, rise, fall, false, release, 0, 0, true, false, false⟩

/-- An acknowledge cycle released before the falling edge after its sample, and an ordinary
strobe between the next two edges: a legal run in which the ordinary cycle completes
twice. -/
theorem earlyRelease_completesTwice :
    ¬∀ (start : State) (first : Inputs) (inputs : List Inputs), first.initializeI = true →
      legal anywhere none (step start first) inputs = true →
      CompletionLaw (step start first) inputs := by
  intro law
  have runs := law idle ⟨true, false, false, false, false, 0, 0, true, true, true⟩
    ([strobeOf 7, clockOf true false false, clockOf false false true, clockOf false true false,
        clockOf true false false] ++
      (strobeOf 5 :: [clockOf false true false, clockOf true false false,
        clockOf false true false, clockOf true false false, clockOf false true true]) ++ [])
    rfl (by decide)
  have once := (runs.ordinary _ _ _ _ rfl rfl rfl (by decide)).once
  exact absurd once (by decide)

/-- Over every legal run after an initialising clock in which ordinary strobes find `RVA`
low and the sample of `/DTACK` high, ordinary cycles complete once and at their place and
acknowledge cycles never; and runs with settled releases are of this kind. -/
theorem hostCycles_complete (start : State) (first : Inputs)
    (initializing : first.initializeI = true) (inputs : List Inputs) :
    (legal cleanStart none (step start first) inputs = true →
        CompletionLaw (step start first) inputs) ∧
      (legal settledRelease none (step start first) inputs = true →
        legal cleanStart none (step start first) inputs = true) := by
  refine ⟨completionLaw_of_legal, fun runs => ?_⟩
  have cleared : step start first = idle := by
    unfold step
    rw [initializing, if_pos rfl]
  rw [cleared] at runs ⊢
  exact Settled.legal (.idle rfl rfl rfl rfl) runs

/-- A read right after a settled acknowledge cycle. -/
theorem hostCycles_complete_mixed :
    CompletionLaw (step idle ⟨true, false, false, false, false, 0, 0, true, true, true⟩)
      [strobeOf 7, clockOf true false false, clockOf false true false, clockOf true false true,
        strobeOf 5, clockOf false true false, clockOf true false false, clockOf false true false,
        clockOf true false false, clockOf false true true] := by
  have complete := hostCycles_complete idle
    ⟨true, false, false, false, false, 0, 0, true, true, true⟩ rfl
    [strobeOf 7, clockOf true false false, clockOf false true false, clockOf true false true,
      strobeOf 5, clockOf false true false, clockOf true false false, clockOf false true false,
      clockOf true false false, clockOf false true true]
  exact complete.1 (complete.2 (by decide))

end Tms32010.Board.HostTiming
