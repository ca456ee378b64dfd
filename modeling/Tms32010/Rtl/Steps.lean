import Tms32010.Rtl.Lockstep

/-!
# Boundaries that advance the core

At a fetching boundary the slot is empty, or the instruction in it starts, goes
on or completes. What the boundary does to the registers of the slice follows
from the family of the word and the pipeline state alone.
-/

namespace Tms32010.Rtl.Slice

open Tms32010.Rtl.Core (Running spansCycles machine)

/-! ## Qualifying terms -/

/-- The instruction in the slot completes in this state. -/
def finishing (m : Mnemonic) : PipelineState → Bool
  | .sequential => !spansCycles m
  | .controlTarget => m.twoWordControlFlow
  | .computedTarget => m.computedControlFlow
  | .ioPrefetch => m.ioTransfer
  | .tablePrefetch => m.tableTransfer
  | _ => false

section Terms

variable {s : State} {i : Inputs} {m : Mnemonic}

/-- A fetching boundary is not blocked. -/
theorem ready_of_fetch (fetch : fetchBoundary s i = true)
    (occupied : s.fetchExecute.executeValid = true) :
    executeReady s i = true ∧ coreInstructionValid s i = true := by
  rcases fetchBoundary_pipeline fetch with ⟨boundary, -, running⟩
  have enabled := (pipelineBoundary_enabled boundary).1
  have ready : executeReady s i = true := by
    unfold busClockEnable pipelineBlocked at enabled
    rw [occupied, running] at enabled
    cases ready : executeReady s i
    · rw [ready] at enabled
      simp at enabled
    · rfl
  refine ⟨ready, ?_⟩
  unfold executeReady at ready
  rw [Bool.and_eq_true, Bool.and_eq_true] at ready
  exact ready.1.2

/-- The core of a fetching boundary that advances it runs. -/
theorem running_of_fetch (fetch : fetchBoundary s i = true) (noInitialize : i.initializeI = false)
    (noDebug : i.debugDataWrite = false) : Running (coreInputs s i true) :=
  ⟨noInitialize, coreReset_fetch fetch, rfl, noDebug⟩

section Unoccupied

variable (unoccupied : s.fetchExecute.executeValid = false)

include unoccupied

theorem executeIs_unoccupied (operation : Operation) : executeIs s operation = false := by
  unfold executeIs
  rw [unoccupied]
  rfl

/-- An empty slot takes no part in any step. -/
theorem steps_unoccupied :
    controlOperandStep s = false ∧ controlTargetStep s = false ∧ computedStartStep s = false ∧
      computedTargetStep s = false ∧ ioTransferStep s = false ∧ ioPrefetchStep s = false ∧
      tableStartStep s = false ∧ tableTransferStep s = false ∧ tablePrefetchStep s = false ∧
      executeReady s i = false ∧ executeComplete s i = false ∧
      interruptDummyFetchStep s i = false := by
  have none := executeIs_unoccupied unoccupied
  have branch : executeIsAccumulatorBranch s = false := by
    unfold executeIsAccumulatorBranch
    rw [unoccupied]
    rfl
  have ready : executeReady s i = false := by
    unfold executeReady
    rw [unoccupied]
    rfl
  have complete : executeComplete s i = false := by
    unfold executeComplete
    rw [ready]
    rfl
  refine ⟨?_, ?_, ?_, ?_, ?_, ?_, ?_, ?_, ?_, ready, complete, ?_⟩
  · simp [controlOperandStep, executeControlSupported, none, branch]
  · simp [controlTargetStep, executeControlSupported, none, branch]
  · simp [computedStartStep, executeComputedSupported, none]
  · simp [computedTargetStep, executeComputedSupported, none]
  · simp [ioTransferStep, executeIoSupported, none]
  · simp [ioPrefetchStep, executeIoSupported, none]
  · simp [tableStartStep, executeTableSupported, none]
  · simp [tableTransferStep, executeTableSupported, none]
  · simp [tablePrefetchStep, executeTableSupported, none]
  · simp [interruptDummyFetchStep, complete]

end Unoccupied

/-- A slot that is not ready makes no transfer. -/
theorem transfers_unready (unready : executeReady s i = false) :
    ioTransferActive s i = false ∧ tableTransferActive s i = false := by
  cases occupied : s.fetchExecute.executeValid
  · rcases steps_unoccupied (i := i) occupied with ⟨-, -, -, -, io, -, -, table, -⟩
    unfold ioTransferActive tableTransferActive
    rw [io, table]
    exact ⟨rfl, rfl⟩
  · unfold executeReady at unready
    rw [occupied, Bool.true_and] at unready
    unfold ioTransferActive tableTransferActive
    cases valid : coreInstructionValid s i
    · rw [Bool.and_false, Bool.and_false]
      exact ⟨rfl, rfl⟩
    · rw [valid, Bool.true_and] at unready
      simp only [Bool.or_eq_false_iff] at unready
      rw [unready.1.1.1.1.2, unready.1.2]
      exact ⟨rfl, rfl⟩

variable (found : mnemonic? s.fetchExecute.executeWord = some m)
  (implemented : m.stackAccess = false) (occupied : s.fetchExecute.executeValid = true)

include found implemented occupied

/-- Which step the slot is in, by family and pipeline state. -/
theorem steps_eq :
    controlOperandStep s = (m.twoWordControlFlow && s.pipelineState == .sequential) ∧
      controlTargetStep s = (m.twoWordControlFlow && s.pipelineState == .controlTarget) ∧
      computedStartStep s = (m.computedControlFlow && s.pipelineState == .sequential) ∧
      computedTargetStep s = (m.computedControlFlow && s.pipelineState == .computedTarget) ∧
      ioTransferStep s = (m.ioTransfer && s.pipelineState == .sequential) ∧
      ioPrefetchStep s = (m.ioTransfer && s.pipelineState == .ioPrefetch) ∧
      tableStartStep s = (m.tableTransfer && s.pipelineState == .sequential) ∧
      tableTransferStep s = (m.tableTransfer && s.pipelineState == .tableTransfer) ∧
      tablePrefetchStep s = (m.tableTransfer && s.pipelineState == .tablePrefetch) := by
  unfold controlOperandStep controlTargetStep computedStartStep computedTargetStep ioTransferStep
    ioPrefetchStep tableStartStep tableTransferStep tablePrefetchStep
  rw [executeControlSupported_eq found implemented occupied,
    executeComputedSupported_eq found implemented occupied,
    executeIoSupported_eq found implemented occupied,
    executeTableSupported_eq found implemented occupied]
  exact ⟨rfl, rfl, rfl, rfl, rfl, rfl, rfl, rfl, rfl⟩

/-- The slice is ready when the core accepts the word and the state belongs to its family. -/
theorem executeReady_eq :
    executeReady s i = (coreInstructionValid s i &&
      (!spansCycles m || s.pipelineState == .sequential || finishing m s.pipelineState ||
        (m.tableTransfer && s.pipelineState == .tableTransfer))) := by
  have steps := steps_eq found implemented occupied
  unfold executeReady
  simp only [occupied, steps, executeOneCycleSupported_eq found implemented, Bool.true_and]
  congr 1
  unfold finishing spansCycles
  generalize m.twoWordControlFlow = control
  generalize m.computedControlFlow = computed
  generalize m.ioTransfer = io
  generalize m.tableTransfer = table
  cases s.pipelineState <;> cases control <;> cases computed <;> cases io <;> cases table <;> rfl

/-- A supported branch operand is fetched from where the branch goes. -/
theorem operandFetchAddress_eq (family : m.twoWordControlFlow = true)
    (supported : i.programData.extractLsb' 12 4 = 0) :
    operandFetchAddress s i =
      if s.core.branchTaken m i.bio then i.programData.extractLsb' 0 12
      else s.bus.address + 1 := by
  have conditions : executeIsAccumulatorBranch s = isAccumulatorBranch m.operation ∧
      accumulatorConditionTaken s = accumulatorBranchTaken m.operation s.core.accumulator := by
    unfold executeIsAccumulatorBranch accumulatorConditionTaken
    rw [executeDecoded_eq found implemented, occupied]
    exact ⟨rfl, rfl⟩
  unfold operandFetchAddress
  simp only [supported, executeIs_eq found implemented occupied, conditions]
  unfold Registers.branchTaken Registers.auxiliaryRegister banzCounter
  cases m with
  | banz => cases s.core.auxiliaryRegisterPointer <;> rfl
  | b | bv | bioz | call | bgez | bgz | blez | blz | bnz | bz => rfl
  | _ => exact absurd family (by decide)

end Terms

/-! ## Completion -/

/-- What the slice does at a boundary that completes the instruction in the slot. -/
structure Finishes (s : State) (i : Inputs) : Prop where
  complete : executeComplete s i = true
  advances : coreExecuteBoundary s i = true
  fetched : fetchedInstruction s i = !interruptDummyFetchStep s i
  address : nextFetchAddress s i =
    if interruptDummyFetchStep s i then 2 else s.bus.address + 1
  state : nextPipelineState s i =
    if interruptDummyFetchStep s i then .interruptVector else .sequential
  noTransfer : ioTransferActive s i = false ∧ tableTransferActive s i = false

section Finish

variable {s : State} {i : Inputs} {m : Mnemonic}
  (found : mnemonic? s.fetchExecute.executeWord = some m) (implemented : m.stackAccess = false)
  (occupied : s.fetchExecute.executeValid = true) (fetch : fetchBoundary s i = true)

include found implemented occupied fetch

theorem finishes (finish : finishing m s.pipelineState = true) : Finishes s i := by
  rcases ready_of_fetch fetch occupied with ⟨ready, -⟩
  have steps := steps_eq found implemented occupied
  have single := executeOneCycleSupported_eq found implemented
  have reset := (fetchBoundary_pipeline fetch).2
  have advances : coreExecuteBoundary s i = true := by
    unfold coreExecuteBoundary
    rw [fetch, ready]
    rfl
  cases state : s.pipelineState <;> rw [state] at finish <;> simp only [state] at steps <;>
    unfold finishing at finish
  · have apart : m.twoWordControlFlow = false ∧ m.computedControlFlow = false ∧
        m.tableTransfer = false ∧ m.ioTransfer = false := by
      simpa [spansCycles, and_assoc] using finish
    refine ⟨?_, advances, ?_, ?_, ?_, ?_⟩ <;>
      simp [executeComplete, ready, single, finish, steps, apart, fetchedInstruction, fetch,
        interruptVectorStep, state, nextFetchAddress, reset, ioTransferActive,
        tableTransferActive, nextPipelineState, advances]
  all_goals
    first
    | exact absurd finish Bool.false_ne_true
    | (refine ⟨?_, advances, ?_, ?_, ?_, ?_⟩ <;>
        simp [executeComplete, ready, finish, steps, fetchedInstruction, fetch,
          interruptVectorStep, state, nextFetchAddress, reset, ioTransferActive,
          tableTransferActive, nextPipelineState, advances])

end Finish

/-! ## Continuation -/

/-- What the slice does at a boundary that does not complete the instruction in the slot. -/
structure Continues (s : State) (i : Inputs) : Prop where
  complete : executeComplete s i = false
  advances : coreExecuteBoundary s i = true
  vector : interruptVectorStep s = false
  dummy : interruptDummyFetchStep s i = false
  fetched : fetchedInstruction s i = false
  slot : nextSlot s i = s.fetchExecute
  protect : nextInterruptProtected s i = s.interruptProtected

/-- An instruction of several cycles goes on in its first state, and in the transfer state. -/
theorem continues {s : State} {i : Inputs} {m : Mnemonic}
    (found : mnemonic? s.fetchExecute.executeWord = some m) (implemented : m.stackAccess = false)
    (occupied : s.fetchExecute.executeValid = true) (fetch : fetchBoundary s i = true)
    (spans : spansCycles m = true)
    (state : s.pipelineState = .sequential ∨ s.pipelineState = .tableTransfer) :
    Continues s i := by
  rcases ready_of_fetch fetch occupied with ⟨ready, -⟩
  have steps := steps_eq found implemented occupied
  have single : executeOneCycleSupported s = false := by
    rw [executeOneCycleSupported_eq found implemented, spans]
    rfl
  have unfinished : (controlTargetStep s || computedTargetStep s || ioPrefetchStep s ||
      tablePrefetchStep s) = false := by
    rcases state with state | state <;> simp [steps, state]
  simp only [Bool.or_eq_false_iff] at unfinished
  have complete : executeComplete s i = false := by
    unfold executeComplete
    simp [single, unfinished]
  have dummy : interruptDummyFetchStep s i = false := by
    unfold interruptDummyFetchStep
    rw [complete]
    simp
  have vector : interruptVectorStep s = false := by
    unfold interruptVectorStep
    rcases state with state | state <;> rw [state] <;> rfl
  have fetched : fetchedInstruction s i = false := by
    unfold fetchedInstruction
    simp [vector, occupied, single, unfinished]
  refine ⟨complete, ?_, vector, dummy, fetched, ?_, ?_⟩
  · unfold coreExecuteBoundary
    rw [fetch, ready]
    rfl
  · unfold nextSlot
    rw [occupied, complete]
    rfl
  · unfold nextInterruptProtected
    rw [complete, (fetchBoundary_pipeline fetch).2.2, Bool.and_false]
    rfl

/-! ## The next step begins -/

/-- The clock retires an instruction or enters the interrupt. -/
def completing (s : State) (i : Inputs) : Bool :=
  (step s i).core.retired || s.core.interruptEntryPending

/-- Whether a clock that advances the core completes a step. -/
theorem completing_eq {s : State} {i : Inputs} (fetch : fetchBoundary s i = true)
    (advances : coreExecuteBoundary s i = true) (noInitialize : i.initializeI = false)
    (noDebug : i.debugDataWrite = false) :
    completing s i =
      (Core.retirementBoundary params s.core (coreInputs s i true) ||
        s.core.interruptEntryPending) := by
  have core : (step s i).core = Core.step params s.core (coreInputs s i true) := by
    rw [step_core, advances]
  unfold completing
  rw [core, Core.retired_eq (running_of_fetch fetch noInitialize noDebug)]

section Begin

variable {attached : Prop} {a : Isa.State} {σ : Attached} {made : List Cycle} {i : Inputs}
  {m : Mnemonic}

/-- A boundary without a transfer reads program memory at the bus address. -/
theorem read_of_noTransfer (fetch : fetchBoundary σ.slice i = true)
    (noTransfer : ioTransferActive σ.slice i = false ∧ tableTransferActive σ.slice i = false)
    (served : σ.Served i) : i.programData = σ.program σ.slice.bus.address := by
  rcases fetchBoundary_pipeline fetch with ⟨boundary, active, -⟩
  have phase := beq_iff_eq.mp (pipelineBoundary_enabled boundary).2.2
  have reads : menN σ.slice i = false := by
    unfold menN ProgramBus.menN programWrite
    rw [noTransfer.1, noTransfer.2, active, phase]
    rfl
  have address : programAddress σ.slice i = σ.slice.bus.address := by
    unfold programAddress
    rw [noTransfer.1]
    rfl
  rw [← address]
  exact served fetch reads

/-- The memories after a boundary without a transfer. -/
theorem step_noTransfer
    (noTransfer : ioTransferActive σ.slice i = false ∧ tableTransferActive σ.slice i = false) :
    σ.step i = ⟨Slice.step σ.slice i, σ.program, σ.ioOutput⟩ := by
  unfold Attached.step programWrite ioWrite
  rw [noTransfer.1, noTransfer.2]
  simp

/-- The slice after a boundary that does not complete the instruction in the slot. -/
theorem step_continues (continues : Continues σ.slice i) (fetch : fetchBoundary σ.slice i = true)
    (noInitialize : i.initializeI = false) (seen : σ.slice.bus.releaseBoundarySeen = true) :
    (σ.step i).slice =
      { bus := ⟨0, nextFetchAddress σ.slice i, true, true, true⟩
        fetchExecute := σ.slice.fetchExecute
        core := Core.step params σ.slice.core (coreInputs σ.slice i true)
        pipelineState := nextPipelineState σ.slice i
        coreProgramData := nextProgramData σ.slice i
        biozTaken := nextBiozTaken σ.slice i
        ioReadSample := nextIoReadSample σ.slice i
        computedTargetAddress := nextComputedTargetAddress σ.slice i
        interruptProtected := σ.slice.interruptProtected } := by
  change Slice.step σ.slice i = _
  rw [step_fetch noInitialize fetch seen, continues.advances, continues.slot, continues.protect]

/-- The invariant after a boundary that does not complete the instruction in the slot. -/
theorem Lockstep.continued {made' : List Cycle} (lock : Lockstep attached a σ made)
    (continues : Continues σ.slice i) (fetch : fetchBoundary σ.slice i = true)
    (noInitialize : i.initializeI = false)
    (delay : (Core.step params σ.slice.core (coreInputs σ.slice i true)).interruptDelayOne =
      σ.slice.core.interruptDelayOne)
    (next : Stage attached a (σ.step i) made') : Lockstep attached a (σ.step i) made' := by
  have slice := step_continues continues fetch noInitialize
    (lock.seen (fetchBoundary_pipeline fetch).2.1)
  refine ⟨?_, ?_, ?_, ?_, next⟩
  · rw [slice]
    exact Core.step_owned lock.owned _
  · rw [slice]
    exact lock.protect.trans delay.symm
  · rw [slice]
    exact fun _ => rfl
  · rw [slice]
    exact fun _ advanced => absurd rfl advanced

/-- The slice tracks the deferral of the core. -/
theorem deferral_tracked (lock : Lockstep attached a σ made)
    (found : mnemonic? σ.slice.fetchExecute.executeWord = some m)
    (implemented : m.stackAccess = false) (fetch : fetchBoundary σ.slice i = true)
    (noInitialize : i.initializeI = false) (noDebug : i.debugDataWrite = false)
    (finishes : Finishes σ.slice i)
    (boundary : Core.retirementBoundary params σ.slice.core (coreInputs σ.slice i true) = true)
    (operation : Core.retiringOperation σ.slice.core (coreInputs σ.slice i true) = m.operation) :
    (Core.step params σ.slice.core (coreInputs σ.slice i true)).interruptEntryPending =
        interruptDummyFetchStep σ.slice i ∧
      nextInterruptProtected σ.slice i =
        (Core.step params σ.slice.core (coreInputs σ.slice i true)).interruptDelayOne ∧
      (interruptDummyFetchStep σ.slice i = true → nextInterruptProtected σ.slice i = false) := by
  rcases lock.owned with ⟨⟨o, owned⟩, captured, deferred, -⟩
  have running := running_of_fetch fetch noInitialize noDebug
  have flags := Core.retire_deferral owned captured deferred running boundary
  have disables : (m.operation != .dint) = !(m == .dint) := by
    cases m <;> rfl
  have mask : Core.retiringInterruptMask params σ.slice.core (coreInputs σ.slice i true) =
      retiringInterruptMask σ.slice := by
    have decoded : (executeDecoded σ.slice).operation = m.operation := by
      rw [executeDecoded_eq found implemented]
      rfl
    unfold Core.retiringInterruptMask retiringInterruptMask executeDisablesInterrupts
    rw [boundary, operation, decoded]
    cases m <;> rfl
  rw [operation, disables, extendsInterruptDeferral_operation, mask, ← lock.protect] at flags
  rw [flags.1, flags.2]
  unfold interruptDummyFetchStep nextInterruptProtected
  rw [finishes.complete, finishes.advances, executeExtends_eq found implemented,
    executeDisables_eq found implemented, (fetchBoundary_pipeline fetch).2.2]
  have level : (coreInputs σ.slice i true).int = i.int := rfl
  rw [level]
  refine ⟨by rw [Bool.and_true], ?_, ?_⟩
  · cases σ.slice.interruptProtected
    · cases (σ.slice.core.interruptPending || !i.int) && !retiringInterruptMask σ.slice <;> rfl
    · cases m == .dint <;> rfl
  · cases σ.slice.interruptProtected
    · intro dummy
      exact absurd dummy Bool.false_ne_true
    · cases m == .dint <;> cases m.multiplies <;> simp

/-- After a completion the next instruction is in the slot, or the interrupt is entered. -/
theorem Lockstep.finish (lock : Lockstep attached a σ made)
    (found : mnemonic? σ.slice.fetchExecute.executeWord = some m)
    (implemented : m.stackAccess = false) (fetch : fetchBoundary σ.slice i = true)
    (noInitialize : i.initializeI = false) (noDebug : i.debugDataWrite = false)
    (served : attached → σ.Served i) (finishes : Finishes σ.slice i)
    (boundary : Core.retirementBoundary params σ.slice.core (coreInputs σ.slice i true) = true)
    (operation : Core.retiringOperation σ.slice.core (coreInputs σ.slice i true) = m.operation)
    (next : σ.slice.bus.address =
      Core.programNextAddress params σ.slice.core (coreInputs σ.slice i true))
    (cycleCount : ℕ) :
    completing σ.slice i = true ∧ Lockstep attached
      (machine (Core.step params σ.slice.core (coreInputs σ.slice i true)) σ.program σ.ioOutput
        cycleCount) (σ.step i) [] := by
  rcases fetchBoundary_pipeline fetch with ⟨pipeline, active, reset⟩
  have running := running_of_fetch fetch noInitialize noDebug
  have deferral := deferral_tracked lock found implemented fetch noInitialize noDebug finishes
    boundary operation
  have owned := Core.step_owned lock.owned (coreInputs σ.slice i true)
  have idle : Core.Idle (Core.step params σ.slice.core (coreInputs σ.slice i true)) := by
    rcases lock.owned with ⟨⟨o, owner⟩, captured, -, -⟩
    exact Core.retire_idle owner captured running boundary
  have pc : (Core.step params σ.slice.core (coreInputs σ.slice i true)).pc =
      σ.slice.bus.address := by
    rcases lock.owned with ⟨⟨o, owner⟩, captured, -, -⟩
    rw [next]
    exact Core.retire_pc owner captured running boundary
  have read : attached → i.programData = σ.program σ.slice.bus.address := fun attach =>
    read_of_noTransfer fetch finishes.noTransfer (served attach)
  refine ⟨?_, ?_⟩
  · rw [completing_eq fetch finishes.advances noInitialize noDebug, boundary]
    rfl
  rw [step_noTransfer finishes.noTransfer, step_fetch noInitialize fetch (lock.seen active),
    finishes.advances, finishes.address, finishes.state, deferral.2.1]
  refine ⟨owned, rfl, fun _ => rfl, fun _ advanced => absurd rfl advanced, ?_⟩
  unfold nextSlot nextProgramData
  rw [finishes.complete, finishes.fetched, finishes.advances, reset]
  cases dummy : interruptDummyFetchStep σ.slice i
  · simp only [Bool.or_true, if_true, Bool.not_false, Bool.true_or, Bool.false_eq_true, if_false]
    refine .issuing ⟨⟨rfl, idle⟩, deferral.1.trans dummy, rfl, rfl, rfl, pc.symm, rfl, ?_, ?_⟩
    · change σ.slice.bus.address + 1 = _ + 1
      rw [← pc]
      rfl
    · intro attach
      change σ.program (Core.step params σ.slice.core (coreInputs σ.slice i true)).pc = _
      rw [pc]
      exact (read attach).symm
  · simp only [Bool.or_true, if_true, Bool.not_true, Bool.false_eq_true, if_false]
    exact .vector ⟨⟨rfl, idle⟩, deferral.1.trans dummy,
      deferral.2.1.symm.trans (deferral.2.2 dummy), rfl, rfl, rfl, rfl⟩

end Begin

end Tms32010.Rtl.Slice
