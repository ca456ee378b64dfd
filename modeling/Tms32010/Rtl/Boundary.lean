import Mathlib.Tactic.SplitIfs
import Tms32010.Rtl.Slice
import Tms32010.Rtl.Completion

/-!
# Clocks of the pipeline slice

What the clocks of the slice are: within a machine cycle only the phase counts
and the core captures its operand; the end of a cycle flushes the slice under
reset, or fetches. Which of the qualifying terms hold is a matter of the
pipeline state and of the family of the word in the slot.
-/

namespace Tms32010.Rtl.Slice

/-! ## The kinds of clocks -/

section Clocks

variable {s : State} {i : Inputs}

theorem coreReset_eq (noBoundary : pipelineBoundary s i = false) : coreReset s i = false := by
  unfold pipelineBoundary busClockEnable at noBoundary
  unfold coreReset
  cases enabled : i.clockEnable
  · rfl
  · cases reset : i.rs
    · rw [Bool.and_false]
    · simpa [enabled, reset] using noBoundary

theorem fetchBoundary_pipeline (fetch : fetchBoundary s i = true) :
    pipelineBoundary s i = true ∧ s.bus.active = true ∧ i.rs = false := by
  unfold fetchBoundary at fetch
  simpa [and_assoc] using fetch

theorem pipelineBoundary_enabled (boundary : pipelineBoundary s i = true) :
    busClockEnable s i = true ∧ i.clockEnable = true ∧ (s.bus.phase == 3) = true := by
  unfold pipelineBoundary at boundary
  rw [Bool.and_eq_true] at boundary
  refine ⟨boundary.1, ?_, boundary.2⟩
  have enabled := boundary.1
  unfold busClockEnable at enabled
  rw [Bool.and_eq_true] at enabled
  exact enabled.1

/-- A fetching boundary does not reset the core. -/
theorem coreReset_fetch (fetch : fetchBoundary s i = true) : coreReset s i = false := by
  unfold coreReset
  rw [(fetchBoundary_pipeline fetch).2.2, Bool.and_false]

/-- Every clock steps the core. -/
theorem step_core (s : State) (i : Inputs) :
    (step s i).core = Core.step params s.core (coreInputs s i (coreExecuteBoundary s i)) := by
  unfold step nextModules
  split_ifs <;> rfl

/-- Every clock steps the program bus. -/
theorem step_bus (s : State) (i : Inputs) :
    (step s i).bus = ProgramBus.step s.bus (busInputs s i) := by
  unfold step nextModules
  split_ifs <;> rfl

/-- A clock within a machine cycle. -/
theorem step_within (noInitialize : i.initializeI = false)
    (within : pipelineBoundary s i = false) :
    step s i =
      { s with
        bus :=
          { s.bus with
            sample := false
            phase := if busClockEnable s i then s.bus.phase + 1 else s.bus.phase }
        core := Core.step params s.core (coreInputs s i false) } := by
  have quiet : coreExecuteBoundary s i = false := by
    unfold coreExecuteBoundary fetchBoundary
    rw [within]
    simp
  have slot : FetchExecute.step s.fetchExecute (slotInputs s i) = s.fetchExecute := by
    unfold FetchExecute.step slotInputs
    dsimp only
    rw [noInitialize, within]
    rfl
  have bus : ProgramBus.step s.bus (busInputs s i) =
      { s.bus with
        sample := false
        phase := if busClockEnable s i then s.bus.phase + 1 else s.bus.phase } := by
    unfold pipelineBoundary at within
    unfold ProgramBus.step busInputs
    dsimp only
    rw [noInitialize]
    cases enabled : busClockEnable s i
    · rfl
    · rw [enabled, Bool.true_and] at within
      rw [within]
      rfl
  unfold step
  rw [noInitialize, within]
  unfold nextModules
  rw [quiet, slot, bus]
  rfl

/-- The end of a machine cycle under reset. -/
theorem step_flush (noInitialize : i.initializeI = false)
    (boundary : pipelineBoundary s i = true) (reset : i.rs = true) :
    step s i =
      { bus :=
          { s.bus with
            phase := s.bus.phase + 1
            address := 0
            active := false
            sample := false
            releaseBoundarySeen := false }
        fetchExecute := FetchExecute.empty
        core := Core.step params s.core (coreInputs s i false)
        pipelineState := .sequential
        coreProgramData := 0
        biozTaken := false
        ioReadSample := 0
        computedTargetAddress := 0
        interruptProtected := false } := by
  have quiet : coreExecuteBoundary s i = false := by
    unfold coreExecuteBoundary fetchBoundary
    rw [reset]
    simp
  have slot : FetchExecute.step s.fetchExecute (slotInputs s i) = FetchExecute.empty := by
    unfold FetchExecute.step slotInputs
    dsimp only
    rw [noInitialize, boundary, reset]
    rfl
  rcases pipelineBoundary_enabled boundary with ⟨enabled, -, phase⟩
  have bus : ProgramBus.step s.bus (busInputs s i) =
      { s.bus with
        phase := s.bus.phase + 1
        address := 0
        active := false
        sample := false
        releaseBoundarySeen := false } := by
    unfold ProgramBus.step busInputs
    dsimp only
    rw [noInitialize, enabled, phase, reset]
    rfl
  unfold step
  rw [noInitialize, boundary]
  unfold nextPipelineState nextProgramData nextBiozTaken nextIoReadSample
    nextComputedTargetAddress nextInterruptProtected nextModules
  rw [quiet, reset, slot, bus]
  rfl

/-- The end of a machine cycle without a bus cycle, while the reset is released. -/
theorem step_release (noInitialize : i.initializeI = false)
    (boundary : pipelineBoundary s i = true) (running : i.rs = false)
    (inactive : s.bus.active = false) (unoccupied : s.fetchExecute.executeValid = false) :
    step s i =
      { s with
        bus :=
          { s.bus with
            phase := s.bus.phase + 1
            address := if s.bus.releaseBoundarySeen then 0 else s.bus.address
            active := s.bus.releaseBoundarySeen
            sample := false
            releaseBoundarySeen := true }
        fetchExecute := FetchExecute.empty
        core := Core.step params s.core (coreInputs s i false) } := by
  have noFetch : fetchBoundary s i = false := by
    unfold fetchBoundary
    rw [inactive]
    simp
  have quiet : coreExecuteBoundary s i = false := by
    unfold coreExecuteBoundary
    rw [noFetch]
    rfl
  have fetched : fetchedInstruction s i = false := by
    unfold fetchedInstruction
    rw [noFetch]
    rfl
  have slot : FetchExecute.step s.fetchExecute (slotInputs s i) = FetchExecute.empty := by
    unfold FetchExecute.step slotInputs
    dsimp only
    rw [noInitialize, boundary, running, unoccupied, fetched]
    rfl
  have address : nextFetchAddress s i = 0 := by
    unfold nextFetchAddress
    rw [inactive]
    rfl
  rcases pipelineBoundary_enabled boundary with ⟨enabled, -, phase⟩
  have bus : ProgramBus.step s.bus (busInputs s i) =
      { s.bus with
        phase := s.bus.phase + 1
        address := if s.bus.releaseBoundarySeen then 0 else s.bus.address
        active := s.bus.releaseBoundarySeen
        sample := false
        releaseBoundarySeen := true } := by
    unfold ProgramBus.step ProgramBus.boundary busInputs
    dsimp only
    rw [noInitialize, enabled, phase, running, inactive, address]
    cases seen : s.bus.releaseBoundarySeen
    · simp
    · simp
  unfold step
  rw [noInitialize, boundary]
  unfold nextPipelineState nextProgramData nextBiozTaken nextIoReadSample
    nextComputedTargetAddress nextInterruptProtected nextModules
  rw [quiet, running, fetched, slot, bus]
  rfl

/-- The slot after a fetching boundary. -/
def nextSlot (s : State) (i : Inputs) : FetchExecute.State :=
  if !s.fetchExecute.executeValid || executeComplete s i then
    (if fetchedInstruction s i then ⟨true, s.bus.address, i.programData⟩ else FetchExecute.empty)
  else s.fetchExecute

/-- The end of a machine cycle with a bus cycle. -/
theorem step_fetch (noInitialize : i.initializeI = false) (fetch : fetchBoundary s i = true)
    (seen : s.bus.releaseBoundarySeen = true) :
    step s i =
      { bus := ⟨0, nextFetchAddress s i, true, true, true⟩
        fetchExecute := nextSlot s i
        core := Core.step params s.core (coreInputs s i (coreExecuteBoundary s i))
        pipelineState := nextPipelineState s i
        coreProgramData := nextProgramData s i
        biozTaken := nextBiozTaken s i
        ioReadSample := nextIoReadSample s i
        computedTargetAddress := nextComputedTargetAddress s i
        interruptProtected := nextInterruptProtected s i } := by
  rcases fetchBoundary_pipeline fetch with ⟨boundary, active, running⟩
  rcases pipelineBoundary_enabled boundary with ⟨enabled, -, phase⟩
  have bus : ProgramBus.step s.bus (busInputs s i) = ⟨0, nextFetchAddress s i, true, true, true⟩ := by
    have last := beq_iff_eq.mp phase
    unfold ProgramBus.step ProgramBus.boundary busInputs
    dsimp only
    rw [noInitialize, enabled, phase, running, active, seen, last]
    simp
  have slot : FetchExecute.step s.fetchExecute (slotInputs s i) = nextSlot s i := by
    unfold FetchExecute.step slotInputs nextSlot
    dsimp only
    rw [noInitialize, boundary, running]
    rfl
  unfold step
  rw [noInitialize, boundary]
  unfold nextModules
  rw [slot, bus]
  rfl

end Clocks

/-! ## Families -/

section Families

variable {s : State} {m : Mnemonic} (found : mnemonic? s.fetchExecute.executeWord = some m)
  (implemented : m.stackAccess = false)

include found implemented

theorem executeDecoded_eq : executeDecoded s = encoded s.fetchExecute.executeWord m :=
  decode_of_mnemonic found implemented

theorem executeOneCycleSupported_eq : executeOneCycleSupported s = !Core.spansCycles m := by
  unfold executeOneCycleSupported
  rw [executeDecoded_eq found implemented]
  cases m <;> rfl

theorem executeExtends_eq : executeExtendsInterruptDeferral s = m.multiplies := by
  unfold executeExtendsInterruptDeferral
  rw [executeDecoded_eq found implemented]
  cases m <;> rfl

theorem executeDisables_eq : executeDisablesInterrupts s = (m == .dint) := by
  unfold executeDisablesInterrupts
  rw [executeDecoded_eq found implemented]
  cases m <;> rfl

variable (occupied : s.fetchExecute.executeValid = true)

include occupied

theorem executeIs_eq (operation : Operation) :
    executeIs s operation = (m.operation == operation) := by
  unfold executeIs
  rw [executeDecoded_eq found implemented, occupied]
  rfl

theorem executeControlSupported_eq : executeControlSupported s = m.twoWordControlFlow := by
  unfold executeControlSupported executeIsAccumulatorBranch
  simp only [executeIs_eq found implemented occupied, executeDecoded_eq found implemented, occupied]
  cases m <;> rfl

theorem executeComputedSupported_eq : executeComputedSupported s = m.computedControlFlow := by
  unfold executeComputedSupported
  simp only [executeIs_eq found implemented occupied]
  cases m <;> rfl

theorem executeIoSupported_eq : executeIoSupported s = m.ioTransfer := by
  unfold executeIoSupported
  simp only [executeIs_eq found implemented occupied]
  cases m <;> rfl

theorem executeTableSupported_eq : executeTableSupported s = m.tableTransfer := by
  unfold executeTableSupported
  simp only [executeIs_eq found implemented occupied]
  cases m <;> rfl

end Families

end Tms32010.Rtl.Slice
