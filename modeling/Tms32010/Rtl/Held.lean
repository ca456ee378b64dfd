import Tms32010.Rtl.Boundary

/-!
# What a machine cycle holds

Within a machine cycle the slice changes its phase, two status flags and the
captured operand, and nothing else. The signals that qualify and address the
transfer of the cycle do not see these, nor the pins, and the captured operand is
the addressed word from phase 1 on.
-/

namespace Tms32010.Rtl.Slice

/-- A state that differs in the phase, the two status flags and the data RAM. -/
def State.held (s : State) (phase : BitVec 2) (ram : InternalRam) : State :=
  { s with
    bus := { s.bus with sample := false, phase := phase }
    core := { s.core with retired := false, dataRam := ram } }

/-- The phase after a clock that initializes nothing and ends no machine cycle. -/
def heldPhase (s : State) (i : Inputs) : BitVec 2 :=
  if busClockEnable s i then s.bus.phase + 1 else s.bus.phase

/-- The data RAM after a clock that does not advance the core. -/
def heldRam (s : State) (i : Inputs) : InternalRam :=
  s.core.dataRam.step true (Core.ramInputs params s.core (coreInputs s i false))

/-- The address at which the core reads its operand. -/
def operandAddress (s : State) : BitVec 8 :=
  Core.dataAddress s.core { Core.restingInputs with programData := s.coreProgramData }

/-- The captured operand is the addressed word. -/
def Fresh (s : State) : Prop :=
  s.core.dataRam.readData true (operandAddress s) =
    s.core.dataRam.memory.read (operandAddress s)

section Held

variable {s : State} {i : Inputs}

/-- A clock within a machine cycle. -/
theorem step_held (noInitialize : i.initializeI = false)
    (within : pipelineBoundary s i = false) :
    step s i = s.held (heldPhase s i) (heldRam s i) := by
  have noReset := coreReset_eq within
  have core : Core.step params s.core (coreInputs s i false) =
      { s.core with retired := false, dataRam := heldRam s i } := by
    unfold Core.step Core.nextRegisters
    have quiet : (coreInputs s i false).initializeRequest = false := noInitialize
    have reset : (coreInputs s i false).resetRequest = false := noReset
    have enable : (coreInputs s i false).clockEnable = false := rfl
    rw [quiet, reset, enable]
    rfl
  rw [step_within noInitialize within, core]
  rfl

/-- Without a debug write the memory is held as well. -/
theorem heldRam_memory (noDebug : i.debugDataWrite = false) :
    (heldRam s i).memory = s.core.dataRam.memory := by
  unfold heldRam
  rw [InternalRam.step_memory]
  unfold InternalRam.nextMemory Core.ramInputs coreInputs
  dsimp only
  rw [noDebug]
  simp

/-- A clock that the clock enable stops captures nothing. -/
theorem heldRam_paused (paused : i.clockEnable = false) (address : BitVec 8) :
    (heldRam s i).readData true address = s.core.dataRam.readData true address := by
  have kept : heldRam s i = { s.core.dataRam with memory := (heldRam s i).memory } := by
    unfold heldRam InternalRam.step
    have disabled : (Core.ramInputs params s.core (coreInputs s i false)).readEnable = false :=
      paused
    rw [disabled]
    rfl
  rw [kept]
  rfl

/-- An enabled clock captures the addressed word as it leaves it. -/
theorem heldRam_enabled (enabled : i.clockEnable = true) (address : BitVec 8) :
    (heldRam s i).readData true address = (heldRam s i).memory.read (operandAddress s) := by
  apply InternalRam.readData_capture
  · exact enabled
  · intro _
    unfold Core.ramInputs coreInputs
    simp

section View

variable (phase : BitVec 2) (ram : InternalRam)

theorem executeIs_held (operation : Operation) :
    executeIs (s.held phase ram) operation = executeIs s operation :=
  rfl

end View

/-- The core accepts the word it is given, outside reset. -/
def accepts (s : State) : Bool :=
  Core.instructionValid params s.core { Core.restingInputs with programData := s.coreProgramData }

theorem coreInstructionValid_eq (noInitialize : i.initializeI = false)
    (noReset : coreReset s i = false) : coreInstructionValid s i = accepts s := by
  unfold coreInstructionValid accepts Core.instructionValid
  have quiet : (coreInputs s i false).initializeRequest = false := noInitialize
  have reset : (coreInputs s i false).resetRequest = false := noReset
  rw [quiet, reset]
  rfl

theorem coreReset_running (running : i.rs = false) : coreReset s i = false := by
  unfold coreReset
  rw [running, Bool.and_false]

/-- The slot is occupied by a word the slice is not ready for. -/
def parked (s : State) : Bool := s.fetchExecute.executeValid &&
  !(accepts s && (executeOneCycleSupported s || controlOperandStep s || controlTargetStep s ||
    computedStartStep s || computedTargetStep s || ioTransferStep s || ioPrefetchStep s ||
    tableStartStep s || tableTransferStep s || tablePrefetchStep s))

theorem pipelineBlocked_running (noInitialize : i.initializeI = false) (running : i.rs = false) :
    pipelineBlocked s i = parked s := by
  unfold pipelineBlocked executeReady parked
  rw [coreInstructionValid_eq noInitialize (coreReset_running running), running]
  cases s.fetchExecute.executeValid <;> rfl

theorem parked_held (phase : BitVec 2) (ram : InternalRam) :
    parked (s.held phase ram) = parked s :=
  rfl

/-! ## Freshness -/

/-- Without debug writes the captured operand is the addressed word from phase 1 on. -/
theorem fresh_step (fresh : s.bus.phase ≠ 0 → Fresh s) (noDebug : i.debugDataWrite = false) :
    (step s i).bus.phase ≠ 0 → Fresh (step s i) := by
  intro advanced
  rcases Bool.eq_false_or_eq_true i.initializeI with asserted | noInitialize
  · have first : (step s i).bus.phase = 0 := by
      rw [step_bus]
      unfold ProgramBus.step busInputs
      dsimp only
      rw [asserted]
      rfl
    exact absurd first advanced
  rcases Bool.eq_false_or_eq_true (pipelineBoundary s i) with boundary | within
  · rcases pipelineBoundary_enabled boundary with ⟨enabled, -, last⟩
    have first : (step s i).bus.phase = 0 := by
      have wraps : s.bus.phase + 1 = 0 := by
        rw [beq_iff_eq.mp last]
        rfl
      rw [step_bus]
      unfold ProgramBus.step busInputs
      dsimp only
      rw [noInitialize, enabled, last]
      exact wraps
    exact absurd first advanced
  · rw [step_held noInitialize within] at advanced ⊢
    change (heldRam s i).readData true (operandAddress s) =
      (heldRam s i).memory.read (operandAddress s)
    rcases Bool.eq_false_or_eq_true i.clockEnable with enabled | paused
    · exact heldRam_enabled enabled _
    · have still : s.bus.phase ≠ 0 := by
        change heldPhase s i ≠ 0 at advanced
        unfold heldPhase busClockEnable at advanced
        rw [paused] at advanced
        exact advanced
      rw [heldRam_paused paused, heldRam_memory noDebug]
      exact fresh still

end Held

end Tms32010.Rtl.Slice
