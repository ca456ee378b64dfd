import Tms32010.Rtl.Owner

/-!
# What a retiring clock leaves

Whatever retires, the core is idle after it, its program counter is the address
the core announces as the next one, and its two deferral flags follow from the
mask, the request and the operation that retires.
-/

namespace Tms32010.Rtl.Core

variable {p : Params} {s : State} {i : Inputs}

/-! ## Program counter -/

theorem executeOperation_pc (registers : Registers) :
    (executeOperation p s i registers).pc = registers.pc := by
  unfold executeOperation
  dsimp only
  generalize (decoded i).operation = operation
  cases operation <;> first | rfl | (dsimp only; split_ifs <;> rfl)

theorem issueModify_pc (registers : Registers) : (issueModify s i registers).pc = registers.pc := by
  unfold issueModify
  dsimp only
  split_ifs <;> rfl

theorem transferModify_pc (indirect selected increment decrement preserve next : Bool) :
    (transferModify s i indirect selected increment decrement preserve next).pc = s.pc := by
  unfold transferModify
  dsimp only
  split_ifs <;> rfl

theorem controlOperandCycle_pc (control : isTwoWordControlFlow s.pendingControlOperation = true) :
    (controlOperandCycle s i).pc = controlTarget s i := by
  unfold controlOperandCycle
  dsimp only
  revert control
  generalize s.pendingControlOperation = operation
  intro control
  cases operation <;>
    first
    | rfl
    | exact absurd control (by decide)
    | (dsimp only; split_ifs <;> rfl)

/-- A retiring clock continues at the announced address. -/
theorem retire_pc {o : Owner} (owned : OwnedBy o s) (captured : Captured p s)
    (running : Running i) (boundary : retirementBoundary p s i = true) :
    (step p s i).pc = programNextAddress p s i := by
  have valid := valid_of_retirementBoundary boundary
  rcases step_running (p := p) (s := s) running with ⟨pending, delay, entry, ram, stepped⟩
  have cycle : (step p s i).pc = (enabledCycle p s i).pc := by
    rw [stepped]
  rw [cycle]
  unfold retirementBoundary at boundary
  unfold enabledCycle programNextAddress
  rw [owned.entry, owned.computed, owned.control, owned.table, owned.io] at boundary ⊢
  rw [valid] at boundary ⊢
  cases o with
  | entry => exact absurd boundary Bool.false_ne_true
  | computed => rfl
  | control =>
      have operand : (i.programData.extractLsb' 12 4 == 0 &&
          isTwoWordControlFlow s.pendingControlOperation) = true := by
        unfold instructionValid at valid
        rw [running.noInitialize, running.noReset, owned.entry, owned.computed,
          owned.control] at valid
        exact valid
      rw [operand]
      exact controlOperandCycle_pc captured.control
  | table =>
      have phase : s.tableTransferPhase = true := (Bool.and_eq_true _ _ ▸ boundary).1
      rw [phase]
      exact transferModify_pc ..
  | io => exact transferModify_pc ..
  | issue =>
      have single : retiresOnIssue (decoded i).operation = true := boundary
      have plain : ((decoded i).operation == .cala) = false ∧
          ((decoded i).operation == .ret) = false := by
        revert single
        generalize (decoded i).operation = operation
        intro single
        cases operation <;> first | exact ⟨rfl, rfl⟩ | exact absurd single (by decide)
      rw [plain.1, plain.2]
      exact (issueModify_pc _).trans (executeOperation_pc _)

/-! ## Retirement flag -/

theorem issueCapture_retired :
    (issueCapture s i).retired = retiresOnIssue (decoded i).operation := by
  unfold issueCapture retiresOnIssue
  dsimp only
  generalize (decoded i).operation = operation
  cases operation <;> rfl

/-- `retired_o` reports a retirement of the clock before. -/
theorem retired_eq (running : Running i) : (step p s i).retired = retirementBoundary p s i := by
  rcases step_running (p := p) (s := s) running with ⟨pending, delay, entry, ram, stepped⟩
  have cycle : (step p s i).retired = (enabledCycle p s i).retired := by
    rw [stepped]
  rw [cycle]
  unfold enabledCycle retirementBoundary
  cases s.interruptEntryPending
  · cases s.computedControlPending
    · cases s.controlOperandPending
      · cases s.tablePending
        · cases s.ioPending
          · cases instructionValid p s i
            · rfl
            · exact issueCapture_retired
          · cases instructionValid p s i <;> rfl
        · cases instructionValid p s i <;> cases s.tableTransferPhase <;> rfl
      · cases instructionValid p s i <;> rfl
    · cases instructionValid p s i <;> rfl
  · rfl

/-! ## Owner -/

/-- A retiring clock leaves nothing pending but an entry. -/
theorem retire_idle {o : Owner} (owned : OwnedBy o s) (captured : Captured p s)
    (running : Running i) (boundary : retirementBoundary p s i = true) : Idle (step p s i) := by
  apply idle_step running
  rcases enabledCycle_owned (i := i) owned captured with ⟨o', handed, -, -, single⟩
  cases single boundary
  exact handed.idle.1

/-! ## Deferral -/

/-- The deferral flags after a retirement. -/
theorem retire_deferral {o : Owner} (owned : OwnedBy o s) (captured : Captured p s)
    (deferred : Deferred s) (running : Running i) (boundary : retirementBoundary p s i = true) :
    (step p s i).interruptEntryPending =
        (s.interruptDelayOne && retiringOperation s i != .dint &&
          !extendsInterruptDeferral (retiringOperation s i)) ∧
      (step p s i).interruptDelayOne =
        if s.interruptDelayOne then
          retiringOperation s i != .dint && extendsInterruptDeferral (retiringOperation s i)
        else (s.interruptPending || !i.int) && !retiringInterruptMask p s i := by
  have entry : s.interruptEntryPending = false := by
    rw [owned.entry]
    cases o with
    | entry =>
        unfold retirementBoundary at boundary
        rw [owned.entry] at boundary
        exact absurd boundary Bool.false_ne_true
    | _ => rfl
  have keeps := enabledCycle_keepsFlags (i := i) owned captured entry
  have mask : s.interruptDelayOne = true →
      retiringInterruptMask p s i = (retiringOperation s i == .dint) := by
    intro delay
    have unmasked : s.interruptMask = false := (deferred (by rw [delay]; rfl)).2
    unfold retiringInterruptMask
    rw [boundary, unmasked]
    cases retiringOperation s i == .dint <;> cases retiringOperation s i == .eint <;> rfl
  have whole : ∀ flag : State → Bool,
      (∀ (t : State) ram, flag { t with dataRam := ram } = flag t) →
      flag (step p s i) = flag (interruptTracker p s i (enabledCycle p s i)) := by
    intro flag ignores
    rw [← nextRegisters_running running]
    exact ignores _ _
  rw [whole State.interruptEntryPending fun _ _ => rfl,
    whole State.interruptDelayOne fun _ _ => rfl]
  have delayed : (enabledCycle p s i).interruptDelayOne = s.interruptDelayOne := keeps.delay
  have unentered : (enabledCycle p s i).interruptEntryPending = false := keeps.entry.trans entry
  unfold interruptTracker
  rw [entry, boundary]
  generalize (enabledCycle p s i) = next at delayed unentered
  rcases Bool.eq_false_or_eq_true s.interruptDelayOne with delay | delay
  · rw [mask delay, delay]
    rw [delay] at delayed
    cases disables : retiringOperation s i == .dint <;>
      cases extendsInterruptDeferral (retiringOperation s i) <;>
      cases i.int <;> simp [bne, disables, unentered]
  · rw [delay]
    rw [delay] at delayed
    cases request : (s.interruptPending || !i.int) && !retiringInterruptMask p s i <;>
      cases i.int <;> simp_all

/-- The entry leaves no deferral. -/
theorem entry_deferral (entry : s.interruptEntryPending = true) (running : Running i) :
    (step p s i).interruptEntryPending = false ∧ (step p s i).interruptDelayOne = false ∧
      (step p s i).pc = 2 := by
  have cycle : enabledCycle p s i = interruptEntryCycle s := by
    unfold enabledCycle
    rw [entry]
    rfl
  have tracked : nextRegisters p s i = interruptEntryCycle s := by
    rw [nextRegisters_running running, cycle]
    unfold interruptTracker
    rw [entry]
    rfl
  unfold step
  rw [tracked]
  exact ⟨rfl, rfl, rfl⟩

end Tms32010.Rtl.Core
