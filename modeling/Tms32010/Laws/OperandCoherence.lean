import Tms32010.Lib.Timeline
import Tms32010.Rtl.Held

/-!
# Operand coherence

The slice captures its operand on every enabled clock and holds it while the
clock enable is low. A core that executes reads the word its data RAM held when
the clock was last enabled: the current word, unless the debug port wrote it
during a pause after the capture.
-/

namespace Tms32010.Rtl.Slice

open Timeline

section Run

variable (start : State) (inputs : ℕ → Inputs)

/-- The state before a clock. -/
def stateAt : ℕ → State := state step start inputs

/-- A clock initializes the slice. -/
def initializes (clock : ℕ) : Prop := (inputs clock).initializeI = true

/-- A clock is enabled. -/
def enables (clock : ℕ) : Prop := (inputs clock).clockEnable = true

/-- A clock in which the core executes. -/
def executes (clock : ℕ) : Prop :=
  coreExecuteBoundary (stateAt start inputs clock) (inputs clock) = true

instance (clock : ℕ) : Decidable (executes start inputs clock) :=
  inferInstanceAs (Decidable (_ = true))

/-- The debug writes the assertions allow: of a populated address, and never while the
core executes, the only clocks in which the processor writes. -/
def DebugAllowed : Prop :=
  ∀ clock, (inputs clock).debugDataWrite = true →
    ¬executes start inputs clock ∧
      DataRam.addressValid (inputs clock).debugDataAddress = true

/-- The data address of the core. -/
def coreDataAddress (clock : ℕ) : BitVec 8 :=
  Core.dataAddress (stateAt start inputs clock).core
    (coreInputs (stateAt start inputs clock) (inputs clock) true)

/-- The operand word of the core. -/
def coreOperand (clock : ℕ) : BitVec 16 :=
  Core.ramReadData params (stateAt start inputs clock).core
    (coreInputs (stateAt start inputs clock) (inputs clock) true)

/-- The data RAM before a clock. -/
def dataRamAt (clock : ℕ) : InternalRam := (stateAt start inputs clock).core.dataRam

variable {start inputs} {first captured now : ℕ}

theorem stateAt_succ (clock : ℕ) :
    stateAt start inputs (clock + 1) = step (stateAt start inputs clock) (inputs clock) :=
  rfl

/-- A clock that is not enabled holds the phase. -/
theorem phase_paused {s : State} {i : Inputs} (paused : i.clockEnable = false) :
    pipelineBoundary s i = false ∧ heldPhase s i = s.bus.phase := by
  have stopped : busClockEnable s i = false := by
    unfold busClockEnable
    rw [paused, Bool.false_and]
  constructor
  · unfold pipelineBoundary
    rw [stopped, Bool.false_and]
  · unfold heldPhase
    rw [stopped, if_neg Bool.false_ne_true]

/-- Without an enabled clock the slice stays in phase 0 after an initialisation. -/
theorem phase_since (since : Last (initializes inputs) first now)
    (paused : ∀ clock, first < clock → clock < now → ¬enables inputs clock) :
    (stateAt start inputs now).bus.phase = 0 := by
  induction since using Last.induction with
  | starts happened =>
      have asserted : (inputs first).initializeI = true := happened
      rw [stateAt_succ, step_bus]
      unfold ProgramBus.step busInputs
      dsimp only
      rw [asserted]
      rfl
  | persists clock since absent ih =>
      have running : (inputs clock).initializeI = false := by
        simpa [initializes] using absent
      have disabled : (inputs clock).clockEnable = false := by
        simpa [enables] using paused clock since.before (Nat.lt_succ_self clock)
      rcases phase_paused (s := stateAt start inputs clock) disabled with ⟨within, phase⟩
      rw [stateAt_succ, step_held running within]
      apply phase.trans
      apply ih
      intro earlier after before
      exact paused earlier after (Nat.lt_succ_of_lt before)

/-- What the captured operand is at a clock, after the last enabled clock. -/
structure Captures (start : State) (inputs : ℕ → Inputs) (captured now : ℕ) : Prop where
  operand : (dataRamAt start inputs now).readData true
      (operandAddress (stateAt start inputs now)) =
    (dataRamAt start inputs (captured + 1)).memory.read
      (operandAddress (stateAt start inputs now))
  current : (∀ clock, captured < clock → clock < now →
      (inputs clock).debugDataWrite = true →
        (inputs clock).debugDataAddress ≠ operandAddress (stateAt start inputs now)) →
    (dataRamAt start inputs now).memory.read (operandAddress (stateAt start inputs now)) =
      (dataRamAt start inputs (captured + 1)).memory.read
        (operandAddress (stateAt start inputs now))

/-- A clock that does not advance the core changes the memory through the debug port only. -/
theorem heldRam_read {s : State} {i : Inputs} {address : BitVec 8}
    (apart : i.debugDataWrite = true → i.debugDataAddress ≠ address) :
    (heldRam s i).memory.read address = s.core.dataRam.memory.read address := by
  unfold heldRam
  rw [InternalRam.step_memory]
  unfold InternalRam.nextMemory
  have unwritten : (Core.ramInputs params s.core (coreInputs s i false)).write = false := by
    simp [Core.ramInputs, coreInputs]
  rw [unwritten, Bool.false_and, if_neg Bool.false_ne_true]
  split_ifs with debugs
  · rw [Bool.and_eq_true] at debugs
    exact DataRam.read_write_of_ne (Ne.symm (apart debugs.1))
  · rfl

/-- Past phase 0 the captured operand is that of the last enabled clock. -/
theorem captures_since (start : State) (since : Last (enables inputs) captured now)
    (running : ∀ clock, captured ≤ clock → clock < now → (inputs clock).initializeI = false)
    (advanced : (stateAt start inputs now).bus.phase ≠ 0) :
    Captures start inputs captured now := by
  induction since using Last.induction with
  | starts happened =>
      have noInitialize := running captured (Nat.le_refl captured) (Nat.lt_succ_self captured)
      have enabled : (inputs captured).clockEnable = true := happened
      have within : pipelineBoundary (stateAt start inputs captured) (inputs captured) =
          false := by
        by_contra boundary
        rw [Bool.not_eq_false] at boundary
        rcases pipelineBoundary_enabled boundary with ⟨bus, -, last⟩
        apply advanced
        rw [stateAt_succ, step_bus]
        unfold ProgramBus.step busInputs
        dsimp only
        rw [noInitialize, bus, last, beq_iff_eq.mp last]
        rfl
      refine ⟨?_, fun _ => rfl⟩
      unfold dataRamAt
      rw [stateAt_succ, step_held noInitialize within]
      exact heldRam_enabled enabled _
  | persists clock since absent ih =>
      have noInitialize := running clock (Nat.le_of_lt since.before) (Nat.lt_succ_self clock)
      have paused : (inputs clock).clockEnable = false := by
        simpa [enables] using absent
      rcases phase_paused (s := stateAt start inputs clock) paused with ⟨within, phase⟩
      have next : stateAt start inputs (clock + 1) = (stateAt start inputs clock).held
          (heldPhase (stateAt start inputs clock) (inputs clock))
          (heldRam (stateAt start inputs clock) (inputs clock)) := by
        rw [stateAt_succ, step_held noInitialize within]
      have still : (stateAt start inputs clock).bus.phase ≠ 0 := by
        rw [next] at advanced
        intro first
        exact advanced (phase.trans first)
      have before : Captures start inputs captured clock := by
        apply ih _ still
        intro earlier after before
        exact running earlier after (Nat.lt_succ_of_lt before)
      have address : operandAddress (stateAt start inputs (clock + 1)) =
          operandAddress (stateAt start inputs clock) := by
        rw [next]
        rfl
      have ram : dataRamAt start inputs (clock + 1) =
          heldRam (stateAt start inputs clock) (inputs clock) := by
        unfold dataRamAt
        rw [next]
        rfl
      constructor
      · rw [address, ram, heldRam_paused paused]
        exact before.operand
      · rw [address, ram]
        intro apart
        rw [heldRam_read (apart clock since.before (Nat.lt_succ_self clock))]
        apply before.current
        intro earlier after before
        exact apart earlier after (Nat.lt_succ_of_lt before)

end Run

/-! ## The law -/

/-- The operand of the core is the word the last enabled clock left at its address, hence
the current one, as an asynchronous read has it, unless a pause since then wrote it. -/
def Coherent (start : State) (inputs : ℕ → Inputs) (now : ℕ) : Prop :=
  ∃ captured, Last (enables inputs) captured now ∧
    coreOperand start inputs now =
      (dataRamAt start inputs (captured + 1)).memory.read (coreDataAddress start inputs now) ∧
    ((∀ clock, captured < clock → clock < now → (inputs clock).debugDataWrite = true →
        (inputs clock).debugDataAddress ≠ coreDataAddress start inputs now) →
      coreOperand start inputs now =
          (dataRamAt start inputs now).memory.read (coreDataAddress start inputs now) ∧
        coreOperand start inputs now =
          (dataRamAt start inputs now).readData false (coreDataAddress start inputs now))

/-- At every core execution boundary after an initialisation the operand is coherent. -/
theorem operand_coherent (start : State) (inputs : ℕ → Inputs) {first now : ℕ}
    (since : Last (initializes inputs) first now) (executing : executes start inputs now) :
    Coherent start inputs now := by
  have phase : (stateAt start inputs now).bus.phase = 3 := by
    unfold executes coreExecuteBoundary at executing
    rw [Bool.and_eq_true] at executing
    exact beq_iff_eq.mp
      (pipelineBoundary_enabled (fetchBoundary_pipeline executing.1).1).2.2
  have advanced : (stateAt start inputs now).bus.phase ≠ 0 := by
    rw [phase]
    decide
  have enabled : ∃ clock, first < clock ∧ clock < now ∧ enables inputs clock := by
    by_contra absent
    push Not at absent
    exact advanced (phase_since since absent)
  rcases enabled with ⟨clock, after, before, happened⟩
  have decidable : DecidablePred (enables inputs) := fun clock => decEq _ true
  rcases exists_last before happened with ⟨captured, capture⟩
  have later : first < captured := by
    by_contra earlier
    exact capture.quiet clock (by omega) before happened
  have running : ∀ clock, captured ≤ clock → clock < now →
      (inputs clock).initializeI = false := by
    intro clock from_ before
    simpa [initializes] using since.quiet clock (by omega) before
  have captures := captures_since start capture running advanced
  refine ⟨captured, capture, captures.operand, ?_⟩
  intro apart
  have current := captures.operand.trans (captures.current apart).symm
  exact ⟨current, current.trans (InternalRam.readData_async _ _).symm⟩

/-- A program of zero words, `ADD 0`, initialized in clock zero. In phase 3 of its first
instruction the clock is paused once, and the debug port writes the operand. -/
def pausedWrite (clock : ℕ) : Inputs :=
  { enabledInputs with
    initializeI := clock == 0
    clockEnable := clock != 16
    debugDataWrite := clock == 16
    debugData := 5 }

theorem pausedWrite_initialized : Last (initializes pausedWrite) 0 17 := by
  refine ⟨by omega, rfl, ?_⟩
  intro clock after _ happened
  have zero : clock = 0 := by
    simpa [initializes, pausedWrite] using happened
  omega

theorem operand_coherent_paused : Coherent clearState pausedWrite 17 :=
  operand_coherent clearState pausedWrite pausedWrite_initialized (by decide +kernel)

/-- The core executes with the word the write replaced. -/
theorem pausedWrite_stale :
    DebugAllowed clearState pausedWrite ∧ executes clearState pausedWrite 17 ∧
      coreOperand clearState pausedWrite 17 = 0 ∧
      (dataRamAt clearState pausedWrite 17).memory.read
        (coreDataAddress clearState pausedWrite 17) = 5 := by
  refine ⟨?_, by decide +kernel, by decide +kernel, by decide +kernel⟩
  intro clock debugs
  have only : clock = 16 := by
    simpa [pausedWrite] using debugs
  subst only
  exact ⟨by decide +kernel, rfl⟩

end Tms32010.Rtl.Slice
