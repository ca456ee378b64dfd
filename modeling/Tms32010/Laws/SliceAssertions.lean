import Tms32010.Laws.SliceTracking

/-!
# The retained assertions of the slice

`tms32010_sequential_pipeline_slice` asserts, on every clock that does not
initialize it, how its step terms, its bus and its core agree. They hold in
every reachable state with one exception: three of them expect the boundary that
completes a branch, a port transfer or a table access to fetch an instruction,
which it does not when it is also the dummy fetch of an interrupt.
-/

namespace Tms32010.Rtl.Slice

open Tms32010.Rtl.Core (spansCycles)

/-! ## The assertions -/

section Assertions

variable (s : State) (i : Inputs)

/-- The inputs of the core in this clock. -/
def corePins : Core.Inputs := coreInputs s i (coreExecuteBoundary s i)

/-- `core_program_next_address`. -/
def coreProgramNextAddress : BitVec 12 := Core.programNextAddress params s.core (corePins s i)

/-- The assertions of a boundary that advances the core. -/
def ExecuteAssertions : Prop :=
  Core.programRead s.core (corePins s i) =
      !(ioPrefetchStep s || (tablePrefetchStep s && executeIs s .tblw)) ∧
    if interruptVectorStep s then
      s.fetchExecute.executeValid = false ∧ coreInstructionValid s i = false ∧
        Core.programAddress s.core = s.core.pc ∧ coreProgramNextAddress s i = 2 ∧
        s.bus.address = 2
    else if computedTargetStep s then
      s.core.pc = s.fetchExecute.executeAddress + 1 ∧ Core.programAddress s.core = s.core.pc ∧
        coreProgramNextAddress s i = s.computedTargetAddress ∧
        s.bus.address = s.computedTargetAddress
    else if controlTargetStep s then
      s.core.pc = s.fetchExecute.executeAddress + 1 ∧ Core.programAddress s.core = s.core.pc ∧
        coreProgramNextAddress s i = s.bus.address ∧
        if executeIs s .b then s.bus.address = s.coreProgramData.extractLsb' 0 12
        else if executeIs s .banz then
          s.bus.address =
            if banzCounter s != 0 then s.coreProgramData.extractLsb' 0 12 else s.core.pc + 1
        else if executeIsAccumulatorBranch s then
          s.bus.address =
            if accumulatorConditionTaken s then s.coreProgramData.extractLsb' 0 12
            else s.core.pc + 1
        else if executeIs s .bv then
          s.bus.address =
            if s.core.overflowFlag then s.coreProgramData.extractLsb' 0 12 else s.core.pc + 1
        else if executeIs s .bioz then
          s.bus.address =
              (if s.biozTaken then s.coreProgramData.extractLsb' 0 12 else s.core.pc + 1) ∧
            coreBio s i = !s.biozTaken
        else if executeIs s .call then s.bus.address = s.coreProgramData.extractLsb' 0 12
        else True
    else if ioPrefetchStep s then
      s.core.pc = s.fetchExecute.executeAddress + 1 ∧ Core.programAddress s.core = s.core.pc ∧
        coreProgramNextAddress s i = s.core.pc
    else if tableTransferStep s then
      Core.programAddress s.core = s.core.pc ∧
        s.bus.address = s.core.accumulator.extractLsb' 0 12
    else if tablePrefetchStep s then
      s.bus.address = s.core.pc ∧
        Core.programAddress s.core = s.core.accumulator.extractLsb' 0 12 ∧
        coreProgramNextAddress s i = s.core.pc
    else if computedStartStep s then
      s.fetchExecute.executeAddress = s.core.pc ∧
        Core.programAddress s.core = s.fetchExecute.executeAddress ∧
        coreProgramNextAddress s i = computedAddress s
    else
      s.fetchExecute.executeAddress = s.core.pc ∧
        Core.programAddress s.core = s.fetchExecute.executeAddress ∧
        coreProgramNextAddress s i = s.core.pc + 1

/-- The assertions of the module in a clock that does not initialize it, in their order
in the source. -/
structure Assertions : Prop where
  retired : ¬(s.core.retired = true ∧ s.bus.sample = false)
  coreWrite : Core.programWrite s.core (corePins s i) = true →
    tablePrefetchStep s = true ∧ executeIs s .tblw = true
  strobes : (menN s i || denN s i) = true ∧ (menN s i || weN s i) = true ∧
    (denN s i || weN s i) = true
  execute : coreExecuteBoundary s i = true → ExecuteAssertions s i
  controlOperand : controlOperandStep s = true → fetchBoundary s i = true →
    fetchedInstruction s i = false ∧ executeComplete s i = false ∧
      s.bus.address = s.fetchExecute.executeAddress + 1 ∧
      (executeIs s .bioz = true → i.programData.extractLsb' 12 4 = 0 →
        nextFetchAddress s i =
          if !i.bio then i.programData.extractLsb' 0 12 else s.bus.address + 1) ∧
      (executeIs s .call = true → i.programData.extractLsb' 12 4 = 0 →
        nextFetchAddress s i = i.programData.extractLsb' 0 12)
  controlTarget : controlTargetStep s = true → fetchBoundary s i = true →
    fetchedInstruction s i = true ∧ executeComplete s i = true
  computedStart : computedStartStep s = true → fetchBoundary s i = true →
    fetchedInstruction s i = false ∧ executeComplete s i = false ∧ s.core.retired = false ∧
      s.bus.address = s.fetchExecute.executeAddress + 1 ∧
      nextFetchAddress s i = computedAddress s ∧
      (dataRead s i || dataWrite s i || ioRead s i || ioWrite s i) = false
  computedTarget : computedTargetStep s = true → fetchBoundary s i = true →
    (fetchedInstruction s i || interruptDummyFetchStep s i) = true ∧
      executeComplete s i = true ∧ s.bus.address = s.computedTargetAddress ∧
      (dataRead s i || dataWrite s i || ioRead s i || ioWrite s i) = false
  ioTransfer : ioTransferStep s = true → fetchBoundary s i = true →
    fetchedInstruction s i = false ∧ executeComplete s i = false ∧
      s.bus.address = s.core.pc + 1 ∧ nextFetchAddress s i = s.bus.address ∧
      (Core.ioRead s.core (corePins s i) || Core.ioWrite s.core (corePins s i)) = false
  ioPrefetch : ioPrefetchStep s = true → fetchBoundary s i = true →
    fetchedInstruction s i = true ∧ executeComplete s i = true ∧
      (ioRead s i || ioWrite s i) = false ∧ programAddress s i = s.core.pc ∧
      s.core.pendingIoPort = (executeDecoded s).port ∧
      if executeIs s .in then
        Core.ioRead s.core (corePins s i) = true ∧ Core.ioWrite s.core (corePins s i) = false
      else
        Core.ioRead s.core (corePins s i) = false ∧
          Core.ioWrite s.core (corePins s i) = true ∧
          Core.programWriteData params s.core (corePins s i) = writeData s i
  tableStart : tableStartStep s = true → fetchBoundary s i = true →
    fetchedInstruction s i = false ∧ executeComplete s i = false ∧
      s.bus.address = s.fetchExecute.executeAddress + 1 ∧
      nextFetchAddress s i = s.core.accumulator.extractLsb' 0 12 ∧
      (programWrite s i || ioRead s i || ioWrite s i) = false
  tableTransfer : tableTransferStep s = true → fetchBoundary s i = true →
    fetchedInstruction s i = false ∧ executeComplete s i = false ∧
      programAddress s i = s.core.accumulator.extractLsb' 0 12 ∧
      nextFetchAddress s i = s.core.pc ∧ (ioRead s i || ioWrite s i) = false ∧
      if executeIs s .tblr then
        programWrite s i = false ∧ menN s i = false ∧ dataWrite s i = true ∧
          dataRead s i = false
      else
        programWrite s i = true ∧ menN s i = true ∧ dataRead s i = true ∧
          dataWrite s i = false ∧ writeData s i = coreDataReadData s i
  tablePrefetch : tablePrefetchStep s = true → fetchBoundary s i = true →
    fetchedInstruction s i = true ∧ executeComplete s i = true ∧ programWrite s i = false ∧
      menN s i = false ∧ (dataRead s i || dataWrite s i || ioRead s i || ioWrite s i) = false ∧
      (executeIs s .tblr = true →
        Core.dataWriteData params s.core (corePins s i) = s.coreProgramData)
  dummyFetch : interruptDummyFetchStep s i = true → fetchBoundary s i = true →
    fetchedInstruction s i = false ∧ executeComplete s i = true ∧ nextFetchAddress s i = 2
  vector : interruptVectorStep s = true → fetchBoundary s i = true →
    fetchedInstruction s i = true ∧ executeComplete s i = false ∧
      (ioRead s i || ioWrite s i) = false ∧ programAddress s i = 2
  blocked : pipelineBlocked s i = true → coreExecuteBoundary s i = false

/-- An enabled clock ends the machine cycle that completes a branch, a port transfer or a
table access as the protected instruction. -/
structure Overlap : Prop where
  running : i.clockEnable = true ∧ i.rs = false
  boundary : s.bus.active = true ∧ s.bus.phase = 3
  protect : s.interruptProtected = true
  state : s.pipelineState = .controlTarget ∨ s.pipelineState = .ioPrefetch ∨
    s.pipelineState = .tablePrefetch

end Assertions

/-! ## Stages by pipeline state -/

section Groups

variable {a : Isa.State} {σ : Attached} {made : List Cycle} {i : Inputs}

/-- The pipeline state determines the stage, up to the fullness of the slot. -/
theorem Stage.byState (stage : Stage False a σ made) :
    match σ.slice.pipelineState with
    | .sequential => Priming a σ ∨ Issuing False a σ
    | .interruptVector => Vector a σ
    | .controlTarget => ∃ m c, Control False a σ m c
    | .controlInvalid => ∃ m c, Control False a σ m c
    | .computedTarget => ∃ m c, Computed False a σ m c
    | .ioPrefetch => ∃ m c, Io False a σ m c
    | .tableTransfer => ∃ m c, TableFirst False a σ m c
    | .tablePrefetch => ∃ m c c', TableSecond False a σ m c c' := by
  cases stage with
  | priming stage => rw [stage.state]; exact Or.inl stage
  | issuing stage => rw [stage.state]; exact Or.inr stage
  | vector stage => rw [stage.state]; exact stage
  | control stage => rw [stage.state]; split_ifs <;> exact ⟨_, _, stage⟩
  | computed stage => rw [stage.state]; exact ⟨_, _, stage⟩
  | io stage => rw [stage.state]; exact ⟨_, _, stage⟩
  | tableFirst stage => rw [stage.state]; exact ⟨_, _, stage⟩
  | tableSecond stage => rw [stage.state]; exact ⟨_, _, _, stage⟩

/-- The slot of a sequential slice holds the next instruction. -/
theorem Lockstep.issuing (lock : Lockstep False a σ made)
    (state : σ.slice.pipelineState = .sequential)
    (occupied : σ.slice.fetchExecute.executeValid = true) : Issuing False a σ := by
  have stage := lock.stage.byState
  rw [state] at stage
  rcases stage with stage | stage
  · exact absurd (stage.unoccupied.symm.trans occupied) Bool.false_ne_true
  · exact stage

/-- An empty slot takes no step. -/
theorem occupied_of_step {s : State}
    (step : (controlOperandStep s || controlTargetStep s || computedStartStep s ||
      computedTargetStep s || ioTransferStep s || ioPrefetchStep s || tableStartStep s ||
      tableTransferStep s || tablePrefetchStep s) = true) :
    s.fetchExecute.executeValid = true := by
  by_contra unoccupied
  rw [Bool.not_eq_true] at unoccupied
  rcases steps_unoccupied (i := enabledInputs) unoccupied with
    ⟨operand, target, start, computed, io, prefetch, table, transfer, second, -, -, -⟩
  rw [operand, target, start, computed, io, prefetch, table, transfer, second] at step
  exact absurd step Bool.false_ne_true

/-! ## First cycles -/

/-- An instruction starts at a fetching boundary of a sequential slice. -/
structure Starts (a : Isa.State) (σ : Attached) (i : Inputs) (m : Mnemonic) : Prop where
  fetch : fetchBoundary σ.slice i = true
  stage : Issuing False a σ
  found : mnemonic? σ.slice.fetchExecute.executeWord = some m
  implemented : m.stackAccess = false
  noFault : Isa.dataFault? m σ.slice.fetchExecute.executeWord a = none

section First

variable {m : Mnemonic}

theorem Lockstep.starts (lock : Lockstep False a σ made)
    (state : σ.slice.pipelineState = .sequential)
    (occupied : σ.slice.fetchExecute.executeValid = true)
    (fetch : fetchBoundary σ.slice i = true) (noInitialize : i.initializeI = false)
    (noDebug : i.debugDataWrite = false) : ∃ m, Starts a σ i m := by
  have stage := lock.issuing state occupied
  rcases stage.accepted fetch noInitialize noDebug with ⟨m, found, implemented, noFault⟩
  exact ⟨m, fetch, stage, found, implemented, noFault⟩

theorem Lockstep.starts_of_step (lock : Lockstep False a σ made)
    (step : (controlOperandStep σ.slice || computedStartStep σ.slice || ioTransferStep σ.slice ||
      tableStartStep σ.slice) = true)
    (fetch : fetchBoundary σ.slice i = true) (noInitialize : i.initializeI = false)
    (noDebug : i.debugDataWrite = false) : ∃ m, Starts a σ i m := by
  have occupied : σ.slice.fetchExecute.executeValid = true := by
    apply occupied_of_step
    simp only [Bool.or_eq_true] at step ⊢
    tauto
  have state : σ.slice.pipelineState = .sequential := by
    simp only [controlOperandStep, computedStartStep, ioTransferStep, tableStartStep,
      Bool.or_eq_true, Bool.and_eq_true, beq_iff_eq] at step
    tauto
  exact lock.starts state occupied fetch noInitialize noDebug

theorem Starts.executes (starts : Starts a σ i m) (operation : Operation) :
    executeIs σ.slice operation = (m.operation == operation) :=
  executeIs_eq starts.found starts.implemented starts.stage.occupied operation

/-- The step terms of an instruction that starts. -/
theorem Starts.steps (starts : Starts a σ i m) :
    controlOperandStep σ.slice = m.twoWordControlFlow ∧ controlTargetStep σ.slice = false ∧
      computedStartStep σ.slice = m.computedControlFlow ∧ computedTargetStep σ.slice = false ∧
      ioTransferStep σ.slice = m.ioTransfer ∧ ioPrefetchStep σ.slice = false ∧
      tableStartStep σ.slice = m.tableTransfer ∧ tableTransferStep σ.slice = false ∧
      tablePrefetchStep σ.slice = false ∧ interruptVectorStep σ.slice = false := by
  have steps := steps_eq starts.found starts.implemented starts.stage.occupied
  unfold interruptVectorStep
  rw [starts.stage.state] at steps ⊢
  rcases steps with ⟨operand, target, start, computed, io, prefetch, table, transfer, second⟩
  exact ⟨operand.trans (Bool.and_true _), target.trans (Bool.and_false _),
    start.trans (Bool.and_true _), computed.trans (Bool.and_false _),
    io.trans (Bool.and_true _), prefetch.trans (Bool.and_false _),
    table.trans (Bool.and_true _), transfer.trans (Bool.and_false _),
    second.trans (Bool.and_false _), rfl⟩

/-- The transfers of an instruction that starts. -/
theorem Starts.transfers (starts : Starts a σ i m) :
    ioTransferActive σ.slice i = m.ioTransfer ∧ tableTransferActive σ.slice i = false ∧
      programWrite σ.slice i = false ∧ ioRead σ.slice i = (m == .in) ∧
      ioWrite σ.slice i = (m == .out) := by
  have accepted := (ready_of_fetch starts.fetch starts.stage.occupied).2
  have steps := starts.steps
  have io : ioTransferActive σ.slice i = m.ioTransfer := by
    unfold ioTransferActive
    rw [accepted, steps.2.2.2.2.1, Bool.and_true]
  have table : tableTransferActive σ.slice i = false := by
    unfold tableTransferActive
    rw [steps.2.2.2.2.2.2.2.1]
    rfl
  unfold programWrite ioRead ioWrite
  simp only [io, table, starts.executes]
  refine ⟨trivial, trivial, rfl, ?_, ?_⟩ <;> cases m <;> rfl

/-- What the first cycle of a longer instruction asserts, whatever its family. -/
theorem Starts.asserts (starts : Starts a σ i m) (spans : spansCycles m = true) :
    fetchedInstruction σ.slice i = false ∧ executeComplete σ.slice i = false ∧
      σ.slice.bus.address = σ.slice.fetchExecute.executeAddress + 1 ∧
      σ.slice.bus.address = σ.slice.core.pc + 1 := by
  have stage := starts.stage
  have more := continues starts.found starts.implemented stage.occupied starts.fetch spans
    (Or.inl stage.state)
  have pc : σ.slice.core.pc = a.pc := congrArg Registers.pc stage.registers
  rw [pc, stage.address]
  exact ⟨more.fetched, more.complete, stage.next, stage.next⟩

/-- Where the bus goes after the first cycle of a longer instruction. -/
theorem Starts.nextFetchAddress (starts : Starts a σ i m) (spans : spansCycles m = true) :
    nextFetchAddress σ.slice i =
      if m.computedControlFlow then computedAddress σ.slice
      else if m.tableTransfer then σ.slice.core.accumulator.extractLsb' 0 12
      else if m.ioTransfer then σ.slice.bus.address
      else operandFetchAddress σ.slice i := by
  have more := continues starts.found starts.implemented starts.stage.occupied starts.fetch spans
    (Or.inl starts.stage.state)
  rcases starts.steps with ⟨operand, -, start, -, -, -, table, transfer, -, -⟩
  unfold Slice.nextFetchAddress
  rw [(fetchBoundary_pipeline starts.fetch).2.1, more.dummy, operand, start, table, transfer,
    starts.transfers.1]
  unfold spansCycles at spans
  cases control : m.twoWordControlFlow <;> cases computed : m.computedControlFlow <;>
    cases table : m.tableTransfer <;> cases io : m.ioTransfer <;>
    simp_all

theorem Starts.controlOperand_asserts (starts : Starts a σ i m)
    (step : controlOperandStep σ.slice = true) :
    fetchedInstruction σ.slice i = false ∧ executeComplete σ.slice i = false ∧
      σ.slice.bus.address = σ.slice.fetchExecute.executeAddress + 1 ∧
      (executeIs σ.slice .bioz = true → i.programData.extractLsb' 12 4 = 0 →
        Slice.nextFetchAddress σ.slice i =
          if !i.bio then i.programData.extractLsb' 0 12 else σ.slice.bus.address + 1) ∧
      (executeIs σ.slice .call = true → i.programData.extractLsb' 12 4 = 0 →
        Slice.nextFetchAddress σ.slice i = i.programData.extractLsb' 0 12) := by
  have family : m.twoWordControlFlow = true := starts.steps.1.symm.trans step
  have spans : spansCycles m = true := by
    simp [spansCycles, family]
  rcases Mnemonic.twoWordControlFlow_apart family with ⟨computed, table, io⟩
  have asserts := starts.asserts spans
  have address := starts.nextFetchAddress spans
  rw [computed, table, io] at address
  refine ⟨asserts.1, asserts.2.1, asserts.2.2.1, ?_, ?_⟩
  · intro bioz supported
    rw [starts.executes, beq_iff_eq] at bioz
    rw [address]
    refine (operandFetchAddress_eq starts.found starts.implemented starts.stage.occupied family
      supported).trans ?_
    cases m <;> first | rfl | exact absurd bioz (by decide)
  · intro call supported
    rw [starts.executes, beq_iff_eq] at call
    rw [address]
    refine (operandFetchAddress_eq starts.found starts.implemented starts.stage.occupied family
      supported).trans ?_
    cases m <;> first | rfl | exact absurd call (by decide)

/-- A core that carries `CALA` or `RET` accesses no data. -/
theorem computed_accesses {s : State} (found : mnemonic? s.coreProgramData = some m)
    (implemented : m.stackAccess = false) (family : m.computedControlFlow = true)
    (io : s.core.ioPending = false) (table : s.core.tablePending = false) :
    Core.dataRead s.core (coreInputs s i false) = false ∧
      Core.dataWrite s.core (coreInputs s i false) = false := by
  have decoded : Core.decoded (coreInputs s i false) = encoded s.coreProgramData m :=
    Core.decoded_eq found implemented
  have apart : readsData m.operation = false ∧ writesData m.operation = false := by
    cases m <;> first | exact ⟨rfl, rfl⟩ | exact absurd family (by decide)
  unfold Core.dataRead Core.dataWrite
  rw [decoded, io, table]
  simp [encoded, apart]

/-- The ports of the slice while it starts or completes `CALA` or `RET`. -/
theorem computed_strobes {s : State} (found : mnemonic? s.coreProgramData = some m)
    (implemented : m.stackAccess = false) (family : m.computedControlFlow = true)
    (io : s.core.ioPending = false) (table : s.core.tablePending = false)
    (transfers : ioTransferActive s i = false ∧ tableTransferActive s i = false) :
    (dataRead s i || dataWrite s i || ioRead s i || ioWrite s i) = false := by
  have accesses := computed_accesses (i := i) found implemented family io table
  unfold dataRead dataWrite ioRead ioWrite
  rw [transfers.1, transfers.2, accesses.1, accesses.2]
  simp

theorem Starts.computedStart_asserts (starts : Starts a σ i m)
    (step : computedStartStep σ.slice = true) :
    fetchedInstruction σ.slice i = false ∧ executeComplete σ.slice i = false ∧
      σ.slice.bus.address = σ.slice.fetchExecute.executeAddress + 1 ∧
      Slice.nextFetchAddress σ.slice i = computedAddress σ.slice ∧
      (dataRead σ.slice i || dataWrite σ.slice i || ioRead σ.slice i || ioWrite σ.slice i) =
        false := by
  have family : m.computedControlFlow = true := starts.steps.2.2.1.symm.trans step
  have spans : spansCycles m = true := by
    simp [spansCycles, family]
  have io := (Mnemonic.computedControlFlow_apart family).2.2
  have asserts := starts.asserts spans
  have address := starts.nextFetchAddress spans
  rw [family] at address
  have found : mnemonic? σ.slice.coreProgramData = some m := by
    rw [starts.stage.word]
    exact starts.found
  exact ⟨asserts.1, asserts.2.1, asserts.2.2.1, address,
    computed_strobes found starts.implemented family starts.stage.idle.io starts.stage.idle.table
      ⟨starts.transfers.1.trans io, starts.transfers.2.1⟩⟩

theorem Starts.ioTransfer_asserts (starts : Starts a σ i m)
    (step : ioTransferStep σ.slice = true) :
    fetchedInstruction σ.slice i = false ∧ executeComplete σ.slice i = false ∧
      σ.slice.bus.address = σ.slice.core.pc + 1 ∧
      Slice.nextFetchAddress σ.slice i = σ.slice.bus.address ∧
      (Core.ioRead σ.slice.core (corePins σ.slice i) ||
        Core.ioWrite σ.slice.core (corePins σ.slice i)) = false := by
  have family : m.ioTransfer = true := starts.steps.2.2.2.2.1.symm.trans step
  have spans : spansCycles m = true := by
    simp [spansCycles, family]
  rcases Mnemonic.ioTransfer_apart family with ⟨-, computed, table⟩
  have asserts := starts.asserts spans
  have address := starts.nextFetchAddress spans
  rw [computed, table, family] at address
  refine ⟨asserts.1, asserts.2.1, asserts.2.2.2, address, ?_⟩
  unfold Core.ioRead Core.ioWrite
  rw [starts.stage.idle.io]
  simp

theorem Starts.tableStart_asserts (starts : Starts a σ i m)
    (step : tableStartStep σ.slice = true) :
    fetchedInstruction σ.slice i = false ∧ executeComplete σ.slice i = false ∧
      σ.slice.bus.address = σ.slice.fetchExecute.executeAddress + 1 ∧
      Slice.nextFetchAddress σ.slice i = σ.slice.core.accumulator.extractLsb' 0 12 ∧
      (programWrite σ.slice i || ioRead σ.slice i || ioWrite σ.slice i) = false := by
  have family : m.tableTransfer = true := starts.steps.2.2.2.2.2.2.1.symm.trans step
  have spans : spansCycles m = true := by
    simp [spansCycles, family]
  have computed := (Mnemonic.tableTransfer_apart family).2.1
  have asserts := starts.asserts spans
  have address := starts.nextFetchAddress spans
  rw [computed, family] at address
  refine ⟨asserts.1, asserts.2.1, asserts.2.2.1, address, ?_⟩
  rcases starts.transfers with ⟨-, -, write, read, output⟩
  rw [write, read, output]
  cases m <;> first | rfl | exact absurd family (by decide)

end First

/-! ## Later cycles -/

section Later

variable {m : Mnemonic} (fetch : fetchBoundary σ.slice i = true)

include fetch

omit fetch in
/-- A longer instruction that completes under protection makes the dummy fetch. -/
theorem Spanning.dummy_eq {low : Bool} (stage : Spanning False a σ m low)
    (finishes : Finishes σ.slice i) :
    interruptDummyFetchStep σ.slice i = σ.slice.interruptProtected := by
  have spans := stage.underway.spans
  have plain : (m == .dint) = false ∧ m.multiplies = false := by
    cases m <;> first | exact ⟨rfl, rfl⟩ | exact absurd spans (by decide)
  unfold interruptDummyFetchStep
  rw [finishes.complete, executeExtends_eq stage.found stage.implemented,
    executeDisables_eq stage.found stage.implemented, plain.1, plain.2]
  simp

/-- What the completion of a longer instruction asserts. -/
theorem Spanning.completion {low : Bool} (stage : Spanning False a σ m low)
    (finish : finishing m σ.slice.pipelineState = true) :
    fetchedInstruction σ.slice i = !σ.slice.interruptProtected ∧
      executeComplete σ.slice i = true ∧ ioTransferActive σ.slice i = false ∧
      tableTransferActive σ.slice i = false ∧
      (fetchedInstruction σ.slice i || interruptDummyFetchStep σ.slice i) = true := by
  have finishes := finishes stage.found stage.implemented stage.occupied fetch finish
  have dummy := stage.dummy_eq finishes
  rw [finishes.fetched, dummy]
  exact ⟨rfl, finishes.complete, finishes.noTransfer.1, finishes.noTransfer.2,
    Bool.not_or_self _⟩

/-- A boundary that reads program memory drives `/MEN`. -/
theorem menN_of_fetch (io : ioTransferActive σ.slice i = false)
    (write : programWrite σ.slice i = false) : menN σ.slice i = false := by
  rcases fetchBoundary_pipeline fetch with ⟨boundary, active, -⟩
  unfold menN ProgramBus.menN
  rw [io, write, active, beq_iff_eq.mp (pipelineBoundary_enabled boundary).2.2]
  rfl

theorem Control.asserts {c : Cycle} (stage : Control False a σ m c)
    (state : σ.slice.pipelineState = .controlTarget) :
    fetchedInstruction σ.slice i = !σ.slice.interruptProtected ∧
      executeComplete σ.slice i = true := by
  have completion := stage.toSpanning.completion fetch (by
    rw [state]
    exact stage.family)
  exact ⟨completion.1, completion.2.1⟩

theorem Computed.asserts {c : Cycle} (stage : Computed False a σ m c) :
    (fetchedInstruction σ.slice i || interruptDummyFetchStep σ.slice i) = true ∧
      executeComplete σ.slice i = true ∧
      σ.slice.bus.address = σ.slice.computedTargetAddress ∧
      (dataRead σ.slice i || dataWrite σ.slice i || ioRead σ.slice i || ioWrite σ.slice i) =
        false := by
  have completion := stage.toSpanning.completion fetch (by
    rw [stage.state]
    exact stage.family)
  have found : mnemonic? σ.slice.coreProgramData = some m := by
    rw [stage.word]
    exact stage.found
  exact ⟨completion.2.2.2.2, completion.2.1, stage.next.trans stage.target.symm,
    computed_strobes found stage.implemented stage.family stage.pending.io stage.pending.table
      ⟨completion.2.2.1, completion.2.2.2.1⟩⟩

theorem Io.asserts {c : Cycle} (stage : Io False a σ m c) (noInitialize : i.initializeI = false) :
    fetchedInstruction σ.slice i = !σ.slice.interruptProtected ∧
      executeComplete σ.slice i = true ∧ (ioRead σ.slice i || ioWrite σ.slice i) = false ∧
      programAddress σ.slice i = σ.slice.core.pc ∧
      σ.slice.core.pendingIoPort = (executeDecoded σ.slice).port ∧
      if executeIs σ.slice .in then
        Core.ioRead σ.slice.core (corePins σ.slice i) = true ∧
          Core.ioWrite σ.slice.core (corePins σ.slice i) = false
      else
        Core.ioRead σ.slice.core (corePins σ.slice i) = false ∧
          Core.ioWrite σ.slice.core (corePins σ.slice i) = true ∧
          Core.programWriteData params σ.slice.core (corePins σ.slice i) =
            writeData σ.slice i := by
  have completion := stage.toSpanning.completion fetch (by
    rw [stage.state]
    exact stage.family)
  have family := stage.family
  have executes : executeIs σ.slice .in = (m == .in) := by
    rw [executeIs_eq stage.found stage.implemented stage.occupied]
    cases m <;> rfl
  have pins : (corePins σ.slice i).resetRequest = false ∧
      (corePins σ.slice i).initializeRequest = false :=
    ⟨coreReset_fetch fetch, noInitialize⟩
  refine ⟨completion.1, completion.2.1, ?_, ?_, ?_, ?_⟩
  · unfold ioRead ioWrite
    rw [completion.2.2.1]
    rfl
  · unfold programAddress
    rw [completion.2.2.1, stage.underway.registers]
    exact stage.next
  · rw [stage.pending.port, executeDecoded_eq stage.found stage.implemented]
    rfl
  · have strobes : Core.ioRead σ.slice.core (corePins σ.slice i) = (m == .in) ∧
        Core.ioWrite σ.slice.core (corePins σ.slice i) = (m == .out) := by
      unfold Core.ioRead Core.ioWrite
      rw [pins.1, pins.2, stage.underway.entry, stage.pending.pending, stage.pending.operation]
      cases m <;> exact ⟨rfl, rfl⟩
    rw [executes, strobes.1, strobes.2]
    cases m with
    | «in» => exact ⟨rfl, rfl⟩
    | out => exact ⟨rfl, rfl, rfl⟩
    | _ => exact absurd family (by decide)

theorem TableFirst.asserts {c : Cycle} (stage : TableFirst False a σ m c) :
    fetchedInstruction σ.slice i = false ∧ executeComplete σ.slice i = false ∧
      programAddress σ.slice i = σ.slice.core.accumulator.extractLsb' 0 12 ∧
      nextFetchAddress σ.slice i = σ.slice.core.pc ∧
      (ioRead σ.slice i || ioWrite σ.slice i) = false ∧
      if executeIs σ.slice .tblr then
        programWrite σ.slice i = false ∧ menN σ.slice i = false ∧ dataWrite σ.slice i = true ∧
          dataRead σ.slice i = false
      else
        programWrite σ.slice i = true ∧ menN σ.slice i = true ∧ dataRead σ.slice i = true ∧
          dataWrite σ.slice i = false ∧ writeData σ.slice i = coreDataReadData σ.slice i := by
  have family := stage.family
  have more := continues stage.found stage.implemented stage.occupied fetch stage.underway.spans
    (Or.inr stage.state)
  have steps := steps_eq stage.found stage.implemented stage.occupied
  rcases Mnemonic.tableTransfer_apart family with ⟨-, computed, io⟩
  rw [stage.state, computed, io, family] at steps
  rcases steps with ⟨-, -, start, -, io, -, table, transfer, -⟩
  have started : tableStartStep σ.slice = false := table
  have transferring : tableTransferStep σ.slice = true := transfer
  have noIo : ioTransferActive σ.slice i = false := by
    unfold ioTransferActive
    rw [io]
    rfl
  have active : tableTransferActive σ.slice i = true := by
    unfold tableTransferActive
    rw [transferring, (ready_of_fetch fetch stage.occupied).2]
    rfl
  have executes : executeIs σ.slice .tblr = (m == .tblr) ∧
      executeIs σ.slice .tblw = (m == .tblw) := by
    rw [executeIs_eq stage.found stage.implemented stage.occupied,
      executeIs_eq stage.found stage.implemented stage.occupied]
    cases m <;> exact ⟨rfl, rfl⟩
  have writes : programWrite σ.slice i = (m == .tblw) := by
    unfold programWrite
    rw [active, executes.2]
    rfl
  refine ⟨more.fetched, more.complete, ?_, ?_, ?_, ?_⟩
  · unfold programAddress
    rw [noIo, stage.underway.registers]
    exact stage.next
  · unfold nextFetchAddress
    rw [(fetchBoundary_pipeline fetch).2.1, more.dummy, start, started, transferring]
    rfl
  · unfold ioRead ioWrite
    rw [noIo]
    rfl
  · have ports : dataWrite σ.slice i = (m == .tblr) ∧ dataRead σ.slice i = (m == .tblw) := by
      unfold dataWrite dataRead
      rw [active, executes.1, executes.2]
      exact ⟨rfl, rfl⟩
    rw [executes.1, writes, ports.1, ports.2]
    cases m with
    | tblr => exact ⟨rfl, menN_of_fetch fetch noIo writes, rfl, rfl⟩
    | tblw =>
        refine ⟨rfl, ?_, rfl, rfl, rfl⟩
        unfold menN ProgramBus.menN
        rw [noIo, writes]
        simp
    | _ => exact absurd family (by decide)

theorem TableSecond.asserts {c c' : Cycle} (stage : TableSecond False a σ m c c') :
    fetchedInstruction σ.slice i = !σ.slice.interruptProtected ∧
      executeComplete σ.slice i = true ∧ programWrite σ.slice i = false ∧
      menN σ.slice i = false ∧
      (dataRead σ.slice i || dataWrite σ.slice i || ioRead σ.slice i || ioWrite σ.slice i) =
        false ∧
      (executeIs σ.slice .tblr = true →
        Core.dataWriteData params σ.slice.core (corePins σ.slice i) =
          σ.slice.coreProgramData) := by
  have completion := stage.toSpanning.completion fetch (by
    rw [stage.state]
    exact stage.family)
  have prefetch : tablePrefetchStep σ.slice = true := by
    have step := (steps_eq stage.found stage.implemented stage.occupied).2.2.2.2.2.2.2.2
    rw [step, stage.state, stage.family]
    rfl
  have write : programWrite σ.slice i = false := by
    unfold programWrite
    rw [completion.2.2.2.1]
    rfl
  refine ⟨completion.1, completion.2.1, write, menN_of_fetch fetch completion.2.2.1 write, ?_, ?_⟩
  · unfold dataRead dataWrite ioRead ioWrite
    rw [completion.2.2.1, completion.2.2.2.1, prefetch]
    simp
  · intro reads
    rw [executeIs_eq stage.found stage.implemented stage.occupied, beq_iff_eq] at reads
    unfold Core.dataWriteData
    rw [stage.pending.pending, stage.pending.phase, stage.pending.operation, reads]
    rfl

theorem Vector.asserts (stage : Vector a σ) :
    fetchedInstruction σ.slice i = true ∧ executeComplete σ.slice i = false ∧
      (ioRead σ.slice i || ioWrite σ.slice i) = false ∧ programAddress σ.slice i = 2 := by
  rcases steps_unoccupied (i := i) stage.unoccupied with
    ⟨-, -, -, -, io, -, -, -, -, -, complete, -⟩
  have noIo : ioTransferActive σ.slice i = false := by
    unfold ioTransferActive
    rw [io]
    rfl
  have vector : interruptVectorStep σ.slice = true := by
    unfold interruptVectorStep
    rw [stage.state]
    rfl
  refine ⟨?_, complete, ?_, ?_⟩
  · unfold fetchedInstruction
    rw [fetch, vector]
    rfl
  · unfold ioRead ioWrite
    rw [noIo]
    rfl
  · unfold programAddress
    rw [noIo]
    exact stage.next

/-- The dummy fetch of an interrupt fetches no instruction and goes to the vector. -/
theorem dummyFetch_asserts (lock : Lockstep False a σ made)
    (dummy : interruptDummyFetchStep σ.slice i = true) :
    fetchedInstruction σ.slice i = false ∧ executeComplete σ.slice i = true ∧
      nextFetchAddress σ.slice i = 2 := by
  have complete : executeComplete σ.slice i = true := by
    unfold interruptDummyFetchStep at dummy
    simp only [Bool.and_eq_true] at dummy
    exact dummy.1.1.2
  have vector : interruptVectorStep σ.slice = false := by
    by_contra vector
    rw [Bool.not_eq_false] at vector
    have state : σ.slice.pipelineState = .interruptVector := beq_iff_eq.mp vector
    have stage := lock.stage.byState
    rw [state] at stage
    exact absurd ((stage.asserts fetch).2.1.symm.trans complete) Bool.false_ne_true
  refine ⟨?_, complete, ?_⟩
  · unfold fetchedInstruction
    rw [vector, dummy]
    simp
  · unfold nextFetchAddress
    rw [(fetchBoundary_pipeline fetch).2.1, dummy]
    rfl

end Later

/-! ## Boundaries that advance the core -/

section Execute

variable {m : Mnemonic} (advances : coreExecuteBoundary σ.slice i = true)
  (noInitialize : i.initializeI = false)

include advances

/-- The core pins of an advancing boundary. -/
theorem corePins_eq : corePins σ.slice i = coreInputs σ.slice i true := by
  unfold corePins
  rw [advances]

theorem Vector.execute_asserts (stage : Vector a σ) (noInitialize : i.initializeI = false) :
    ExecuteAssertions σ.slice i := by
  rcases steps_unoccupied (i := i) stage.unoccupied with
    ⟨-, -, -, -, -, prefetch, -, -, second, -, -, -⟩
  have vector : interruptVectorStep σ.slice = true := by
    unfold interruptVectorStep
    rw [stage.state]
    rfl
  have reset := coreReset_fetch (fetch_of_advance advances)
  unfold ExecuteAssertions
  rw [vector, prefetch, second]
  refine ⟨?_, stage.unoccupied, ?_, ?_, ?_, stage.next⟩
  · unfold Core.programRead corePins coreInputs
    rw [stage.idle.io, stage.idle.table, reset, noInitialize]
    rfl
  · unfold coreInstructionValid Core.instructionValid
    rw [stage.entry, Bool.or_true]
    rfl
  · unfold Core.programAddress
    rw [stage.idle.table]
    rfl
  · unfold coreProgramNextAddress Core.programNextAddress
    rw [stage.entry]
    rfl

theorem Starts.execute_asserts (starts : Starts a σ i m) (noInitialize : i.initializeI = false) :
    ExecuteAssertions σ.slice i := by
  have stage := starts.stage
  have reset := coreReset_fetch starts.fetch
  rcases starts.steps with
    ⟨-, target, start, computed, -, prefetch, -, transfer, second, vector⟩
  have pc : σ.slice.core.pc = a.pc := congrArg Registers.pc stage.registers
  have presented : Core.programAddress σ.slice.core = σ.slice.core.pc := by
    unfold Core.programAddress
    rw [stage.idle.table]
    rfl
  have decoded := Core.decoded_eq (stage.carried (i := i) starts.found) starts.implemented
  have valid : Core.instructionValid params σ.slice.core (coreInputs σ.slice i true) = true :=
    (ready_of_fetch starts.fetch stage.occupied).2
  have next : coreProgramNextAddress σ.slice i =
      if m.computedControlFlow then computedAddress σ.slice else σ.slice.core.pc + 1 := by
    unfold coreProgramNextAddress Core.programNextAddress computedAddress
    rw [corePins_eq advances, stage.entry, stage.idle.computed, stage.idle.control, stage.idle.io,
      stage.idle.table, valid, decoded, starts.executes]
    cases m <;> rfl
  unfold ExecuteAssertions
  rw [vector, computed, target, prefetch, transfer, second, start, next, presented, pc]
  refine ⟨?_, ?_⟩
  · unfold Core.programRead corePins coreInputs
    rw [stage.idle.io, stage.idle.table, reset, noInitialize]
    rfl
  · cases m.computedControlFlow <;> exact ⟨stage.address, stage.address.symm, rfl⟩

omit advances in
/-- The step terms of a longer instruction after its first cycle. -/
theorem Spanning.steps {low : Bool} (stage : Spanning False a σ m low) :
    computedTargetStep σ.slice =
        (m.computedControlFlow && σ.slice.pipelineState == .computedTarget) ∧
      controlTargetStep σ.slice =
        (m.twoWordControlFlow && σ.slice.pipelineState == .controlTarget) ∧
      ioPrefetchStep σ.slice = (m.ioTransfer && σ.slice.pipelineState == .ioPrefetch) ∧
      tableTransferStep σ.slice = (m.tableTransfer && σ.slice.pipelineState == .tableTransfer) ∧
      tablePrefetchStep σ.slice =
        (m.tableTransfer && σ.slice.pipelineState == .tablePrefetch) := by
  rcases steps_eq stage.found stage.implemented stage.occupied with
    ⟨-, target, -, computed, -, prefetch, -, transfer, second⟩
  exact ⟨computed, target, prefetch, transfer, second⟩

omit advances in
theorem Spanning.pc {low : Bool} (stage : Spanning False a σ m low) :
    σ.slice.core.pc = σ.slice.fetchExecute.executeAddress + 1 := by
  rw [stage.underway.registers, stage.address]

theorem Computed.execute_asserts {c : Cycle} (stage : Computed False a σ m c)
    (noInitialize : i.initializeI = false) : ExecuteAssertions σ.slice i := by
  have steps := stage.toSpanning.steps
  have reset := coreReset_fetch (fetch_of_advance advances)
  rw [stage.state, stage.family] at steps
  rcases steps with ⟨computed, -, prefetch, -, second⟩
  have vector : interruptVectorStep σ.slice = false := by
    unfold interruptVectorStep
    rw [stage.state]
    rfl
  have target : computedTargetStep σ.slice = true := computed
  have noPrefetch : ioPrefetchStep σ.slice = false := prefetch.trans (Bool.and_false _)
  have noSecond : tablePrefetchStep σ.slice = false := second.trans (Bool.and_false _)
  have next : coreProgramNextAddress σ.slice i = σ.slice.bus.address := by
    unfold coreProgramNextAddress
    rw [corePins_eq advances]
    exact stage.programNextAddress
  have arrived : σ.slice.bus.address = σ.slice.computedTargetAddress :=
    stage.next.trans stage.target.symm
  unfold ExecuteAssertions
  rw [vector, target, noPrefetch, noSecond]
  refine ⟨?_, stage.toSpanning.pc, ?_, next.trans arrived, arrived⟩
  · unfold Core.programRead corePins coreInputs
    rw [stage.pending.io, stage.pending.table, reset, noInitialize]
    rfl
  · unfold Core.programAddress
    rw [stage.pending.table]
    rfl

theorem Io.execute_asserts {c : Cycle} (stage : Io False a σ m c)
    (noInitialize : i.initializeI = false) : ExecuteAssertions σ.slice i := by
  have steps := stage.toSpanning.steps
  have reset := coreReset_fetch (fetch_of_advance advances)
  rw [stage.state, stage.family] at steps
  rcases steps with ⟨computed, target, prefetch, -, -⟩
  have vector : interruptVectorStep σ.slice = false := by
    unfold interruptVectorStep
    rw [stage.state]
    rfl
  have noComputed : computedTargetStep σ.slice = false := computed.trans (Bool.and_false _)
  have noTarget : controlTargetStep σ.slice = false := target.trans (Bool.and_false _)
  have second : ioPrefetchStep σ.slice = true := prefetch
  have next : coreProgramNextAddress σ.slice i = σ.slice.bus.address := by
    unfold coreProgramNextAddress
    rw [corePins_eq advances]
    exact stage.programNextAddress
  have pc : σ.slice.bus.address = σ.slice.core.pc := by
    rw [stage.underway.registers]
    exact stage.next
  unfold ExecuteAssertions
  rw [vector, noComputed, noTarget, second]
  refine ⟨?_, stage.toSpanning.pc, ?_, next.trans pc⟩
  · unfold Core.programRead corePins coreInputs
    rw [stage.pending.pending, stage.pending.table, reset, noInitialize]
    rfl
  · unfold Core.programAddress
    rw [stage.pending.table]
    rfl

theorem TableFirst.execute_asserts {c : Cycle} (stage : TableFirst False a σ m c)
    (noInitialize : i.initializeI = false) : ExecuteAssertions σ.slice i := by
  have steps := stage.toSpanning.steps
  have reset := coreReset_fetch (fetch_of_advance advances)
  rw [stage.state, stage.family] at steps
  rcases steps with ⟨computed, target, prefetch, transfer, second⟩
  have vector : interruptVectorStep σ.slice = false := by
    unfold interruptVectorStep
    rw [stage.state]
    rfl
  have noComputed : computedTargetStep σ.slice = false := computed.trans (Bool.and_false _)
  have noTarget : controlTargetStep σ.slice = false := target.trans (Bool.and_false _)
  have noPrefetch : ioPrefetchStep σ.slice = false := prefetch.trans (Bool.and_false _)
  have first : tableTransferStep σ.slice = true := transfer
  have noSecond : tablePrefetchStep σ.slice = false := second
  unfold ExecuteAssertions
  rw [vector, noComputed, noTarget, noPrefetch, first, noSecond]
  refine ⟨?_, ?_, ?_⟩
  · unfold Core.programRead corePins coreInputs
    rw [stage.pending.io, stage.pending.pending, stage.pending.phase, reset, noInitialize]
    rfl
  · unfold Core.programAddress
    rw [stage.pending.phase, Bool.and_false]
    rfl
  · rw [stage.underway.registers]
    exact stage.next

theorem TableSecond.execute_asserts {c c' : Cycle} (stage : TableSecond False a σ m c c')
    (noInitialize : i.initializeI = false) : ExecuteAssertions σ.slice i := by
  have steps := stage.toSpanning.steps
  have reset := coreReset_fetch (fetch_of_advance advances)
  rw [stage.state, stage.family] at steps
  rcases steps with ⟨computed, target, prefetch, transfer, second⟩
  have vector : interruptVectorStep σ.slice = false := by
    unfold interruptVectorStep
    rw [stage.state]
    rfl
  have noComputed : computedTargetStep σ.slice = false := computed.trans (Bool.and_false _)
  have noTarget : controlTargetStep σ.slice = false := target.trans (Bool.and_false _)
  have noPrefetch : ioPrefetchStep σ.slice = false := prefetch.trans (Bool.and_false _)
  have noFirst : tableTransferStep σ.slice = false := transfer
  have last : tablePrefetchStep σ.slice = true := second
  have next : coreProgramNextAddress σ.slice i = σ.slice.bus.address := by
    unfold coreProgramNextAddress
    rw [corePins_eq advances]
    exact stage.programNextAddress
  have pc : σ.slice.bus.address = σ.slice.core.pc := by
    rw [stage.underway.registers]
    exact stage.next
  have executes : executeIs σ.slice .tblw = (m.operation == .tblw) :=
    executeIs_eq stage.found stage.implemented stage.occupied _
  unfold ExecuteAssertions
  rw [vector, noComputed, noTarget, noPrefetch, noFirst, last, executes]
  refine ⟨?_, pc, ?_, next.trans pc⟩
  · unfold Core.programRead corePins coreInputs
    rw [stage.pending.io, stage.pending.pending, stage.pending.phase, stage.pending.operation,
      reset, noInitialize]
    rfl
  · unfold Core.programAddress
    rw [stage.pending.pending, stage.pending.phase, stage.pending.programAddress,
      stage.underway.entry, stage.underway.registers]
    rfl

theorem Control.execute_asserts {c : Cycle} (stage : Control False a σ m c)
    (noInitialize : i.initializeI = false) (noDebug : i.debugDataWrite = false) :
    ExecuteAssertions σ.slice i := by
  have fetch := fetch_of_advance advances
  have reset := coreReset_fetch fetch
  have running := running_of_fetch fetch noInitialize noDebug
  have supported : σ.slice.coreProgramData.extractLsb' 12 4 = 0 := by
    have valid := stage.accepted fetch
    rw [Core.instructionValid_control stage.underway stage.pending running stage.family] at valid
    exact beq_iff_eq.mp valid
  have state : σ.slice.pipelineState = .controlTarget := by
    rw [stage.state, supported]
    rfl
  have steps := stage.toSpanning.steps
  rw [state, stage.family] at steps
  rcases steps with ⟨computed, target, prefetch, -, second⟩
  have vector : interruptVectorStep σ.slice = false := by
    unfold interruptVectorStep
    rw [state]
    rfl
  have noComputed : computedTargetStep σ.slice = false := computed.trans (Bool.and_false _)
  have last : controlTargetStep σ.slice = true := target
  have noPrefetch : ioPrefetchStep σ.slice = false := prefetch.trans (Bool.and_false _)
  have noSecond : tablePrefetchStep σ.slice = false := second.trans (Bool.and_false _)
  have next : coreProgramNextAddress σ.slice i = σ.slice.bus.address := by
    unfold coreProgramNextAddress
    rw [corePins_eq advances]
    exact stage.programNextAddress supported
  unfold ExecuteAssertions
  rw [vector, noComputed, last, noPrefetch, noSecond, next]
  refine ⟨?_, stage.toSpanning.pc, ?_, rfl, ?_⟩
  · unfold Core.programRead corePins coreInputs
    rw [stage.pending.io, stage.pending.table, reset, noInitialize]
    rfl
  · unfold Core.programAddress
    rw [stage.pending.table]
    rfl
  · have goes := stage.next supported
    have pc : σ.slice.core.pc + 1 = a.pc + 2 := by
      rw [stage.underway.registers]
      exact BitVec.add_assoc _ _ _
    have taken (bio : Bool) : a.branchTaken m bio = σ.slice.core.branchTaken m bio := by
      rw [stage.underway.registers]
      cases m <;> rfl
    have executes (operation : Operation) :
        executeIs σ.slice operation = (m.operation == operation) :=
      executeIs_eq stage.found stage.implemented stage.occupied operation
    have conditions : executeIsAccumulatorBranch σ.slice = isAccumulatorBranch m.operation ∧
        accumulatorConditionTaken σ.slice =
          accumulatorBranchTaken m.operation σ.slice.core.accumulator := by
      unfold executeIsAccumulatorBranch accumulatorConditionTaken
      rw [executeDecoded_eq stage.found stage.implemented, stage.occupied]
      exact ⟨rfl, rfl⟩
    have family := stage.family
    have bioz := stage.bioz
    have core : m = .bioz → coreBio σ.slice i = !σ.slice.biozTaken := by
      rintro rfl
      unfold coreBio
      rw [last, executes]
      rfl
    rw [taken, ← pc] at goes
    rw [supported] at bioz
    simp only [executes, conditions]
    unfold Registers.branchTaken Registers.auxiliaryRegister at goes
    unfold banzCounter
    cases m with
    | banz =>
        refine goes.trans ?_
        cases σ.slice.core.auxiliaryRegisterPointer <;> rfl
    | bioz =>
        refine ⟨goes.trans ?_, core rfl⟩
        rw [bioz]
        rfl
    | b | bv | call | bgez | bgz | blez | blz | bnz | bz => exact goes
    | _ => exact absurd family (by decide)

end Execute

/-- Whatever the stage, an advancing boundary meets its assertions. -/
theorem Lockstep.execute_asserts (lock : Lockstep False a σ made)
    (advances : coreExecuteBoundary σ.slice i = true) (noInitialize : i.initializeI = false)
    (noDebug : i.debugDataWrite = false) : ExecuteAssertions σ.slice i := by
  have fetch := fetch_of_advance advances
  have stage := lock.stage
  cases stage with
  | priming stage =>
      have runs : σ.Runs False i :=
        ⟨noInitialize, (fetchBoundary_pipeline fetch).2.2, noDebug, False.elim⟩
      have paused := (lock.prime stage fetch runs.noInitialize runs.noDebug runs.served).1
      exact absurd (paused.symm.trans advances) Bool.false_ne_true
  | issuing stage =>
      rcases lock.starts stage.state stage.occupied fetch noInitialize noDebug with ⟨m, starts⟩
      exact starts.execute_asserts advances noInitialize
  | vector stage => exact stage.execute_asserts advances noInitialize
  | control stage => exact stage.execute_asserts advances noInitialize noDebug
  | computed stage => exact stage.execute_asserts advances noInitialize
  | io stage => exact stage.execute_asserts advances noInitialize
  | tableFirst stage => exact stage.execute_asserts advances noInitialize
  | tableSecond stage => exact stage.execute_asserts advances noInitialize

/-! ## Terms without a boundary -/

theorem strobes_apart (s : State) (i : Inputs) :
    (menN s i || denN s i) = true ∧ (menN s i || weN s i) = true ∧
      (denN s i || weN s i) = true := by
  have transfers : ioTransferActive s i = true → tableTransferActive s i = false := by
    intro io
    unfold ioTransferActive ioTransferStep at io
    unfold tableTransferActive tableTransferStep
    simp only [Bool.and_eq_true, beq_iff_eq] at io
    rw [io.1.2]
    simp
  have apart : executeIs s .in = true → executeIs s .out = false := by
    unfold executeIs
    simp only [Bool.and_eq_true, beq_iff_eq]
    rintro ⟨-, operation⟩
    rw [operation, Bool.and_eq_false_iff]
    exact Or.inr rfl
  unfold menN denN weN ProgramBus.menN ioRead ioWrite programWrite
  cases s.bus.active <;> cases s.bus.phase == 0 <;> cases io : ioTransferActive s i <;>
    cases table : tableTransferActive s i <;> cases executeIs s .tblw <;>
    cases input : executeIs s .in <;> cases output : executeIs s .out <;> simp_all

theorem Lockstep.coreWrite_asserts (lock : Lockstep False a σ made)
    (writes : Core.programWrite σ.slice.core (corePins σ.slice i) = true) :
    tablePrefetchStep σ.slice = true ∧ executeIs σ.slice .tblw = true := by
  have tracks := lock.tracks
  unfold Core.programWrite at writes
  simp only [Bool.and_eq_true, beq_iff_eq] at writes
  have pending : σ.slice.core.tablePending = true := writes.1.1.2
  have executes := tracks.operation.2.2.2 pending
  rw [writes.2] at executes
  have state := tracks.tablePrefetch.mpr ⟨pending, writes.1.2⟩
  refine ⟨?_, executes⟩
  unfold tablePrefetchStep executeTableSupported
  rw [executes, state, Bool.or_true]
  rfl

theorem blocked_asserts {s : State} (blocked : pipelineBlocked s i = true) :
    coreExecuteBoundary s i = false := by
  have running : i.rs = false := by
    unfold pipelineBlocked at blocked
    simp only [Bool.and_eq_true, Bool.not_eq_true'] at blocked
    exact blocked.1.2
  unfold coreExecuteBoundary fetchBoundary pipelineBoundary busClockEnable
  rw [blocked, running]
  simp

end Groups

/-! ## Reachable states -/

/-- The retirement flag rises with the sample flag, at the first clock of a machine cycle. -/
theorem Reachable.retired {s : State} (reached : Reachable s) (retired : s.core.retired = true) :
    s.bus.sample = true ∧ s.bus.phase = 0 := by
  cases reached with
  | initialized s i asserted =>
      have restarts : Attached.Restarts ⟨s, fun _ => 0, fun _ => 0⟩ i := Or.inl asserted
      rcases Attached.step_restart restarts with ⟨-, -, -, -, -, -, cleared, ram, which, core, -⟩
      have quiet : (step s i).core.retired = false := by
        change (Attached.step ⟨s, fun _ => 0, fun _ => 0⟩ i).slice.core.retired = false
        rw [core]
        rcases which with rfl | rfl <;> rfl
      exact absurd (quiet.symm.trans retired) Bool.false_ne_true
  | @clock s before i =>
      rw [step_core] at retired
      rcases Bool.eq_false_or_eq_true (i.initializeI || coreReset s i) with cleared | running
      · have quiet : (Core.step params s.core (coreInputs s i (coreExecuteBoundary s i))).retired =
            false := by
          unfold Core.step Core.nextRegisters coreInputs
          dsimp only
          rw [Bool.or_eq_true] at cleared
          rcases Bool.eq_false_or_eq_true i.initializeI with asserted | noInitialize
          · rw [asserted]
            rfl
          · rw [noInitialize] at cleared ⊢
            rw [cleared.resolve_left Bool.false_ne_true]
            rfl
        exact absurd (quiet.symm.trans retired) Bool.false_ne_true
      · rw [Bool.or_eq_false_iff] at running
        rcases Bool.eq_false_or_eq_true (coreExecuteBoundary s i) with advances | paused
        · rcases before.lockstep with ⟨a, program, ioOutput, made, lock⟩
          rcases fetchBoundary_pipeline (fetch_of_advance advances) with ⟨boundary, active, reset⟩
          rcases pipelineBoundary_enabled boundary with ⟨enabled, -, phase⟩
          have seen : s.bus.releaseBoundarySeen = true := lock.seen active
          rw [step_bus]
          unfold ProgramBus.step ProgramBus.boundary busInputs
          dsimp only
          rw [running.1, enabled, phase, reset, seen, active, beq_iff_eq.mp phase]
          exact ⟨rfl, rfl⟩
        · have quiet : (Core.step params s.core (coreInputs s i (coreExecuteBoundary s i))).retired =
              false := by
            unfold Core.step Core.nextRegisters coreInputs
            dsimp only
            rw [running.1, running.2, paused]
            rfl
          exact absurd (quiet.symm.trans retired) Bool.false_ne_true

section Law

variable {a : Isa.State} {σ : Attached} {made : List Cycle} {i : Inputs}

/-- A step term names its pipeline state. -/
theorem state_of_step {supported : Bool} {state expected : PipelineState}
    (step : (supported && state == expected) = true) : state = expected := by
  rw [Bool.and_eq_true, beq_iff_eq] at step
  exact step.2

/-- A completing boundary under protection is an overlap. -/
theorem overlap_of_fetch (fetch : fetchBoundary σ.slice i = true)
    (protect : σ.slice.interruptProtected = true)
    (state : σ.slice.pipelineState = .controlTarget ∨ σ.slice.pipelineState = .ioPrefetch ∨
      σ.slice.pipelineState = .tablePrefetch) : Overlap σ.slice i := by
  rcases fetchBoundary_pipeline fetch with ⟨boundary, active, running⟩
  rcases pipelineBoundary_enabled boundary with ⟨-, enabled, phase⟩
  exact ⟨⟨enabled, running⟩, ⟨active, beq_iff_eq.mp phase⟩, protect, state⟩

/-- An overlap is a fetching boundary whose completion fetches nothing. -/
theorem Lockstep.overlap (lock : Lockstep False a σ made) (overlap : Overlap σ.slice i)
    (noInitialize : i.initializeI = false) (noDebug : i.debugDataWrite = false) :
    fetchBoundary σ.slice i = true ∧ fetchedInstruction σ.slice i = false ∧
      (controlTargetStep σ.slice || ioPrefetchStep σ.slice || tablePrefetchStep σ.slice) =
        true := by
  have runs : σ.Runs False i := ⟨noInitialize, overlap.running.2, noDebug, False.elim⟩
  have running := runs.running
  have boundary (unblocked : pipelineBlocked σ.slice i = false) :
      fetchBoundary σ.slice i = true := by
    unfold fetchBoundary pipelineBoundary busClockEnable
    rw [overlap.running.1, overlap.running.2, overlap.boundary.1, overlap.boundary.2, unblocked]
    rfl
  have stage := lock.stage.byState
  rcases overlap.state with state | state | state <;> rw [state] at stage
  · rcases stage with ⟨m, c, stage⟩
    have supported : (σ.slice.coreProgramData.extractLsb' 12 4 == 0) = true := by
      have which := stage.state
      rw [state] at which
      by_contra absent
      rw [if_neg absent] at which
      exact absurd which (by decide)
    have fetch := boundary (pipelineBlocked_eq stage.found stage.implemented stage.occupied
      ((Core.instructionValid_control stage.underway stage.pending running stage.family).trans
        supported)
      (Or.inr (Or.inl (by rw [state]; exact stage.family))))
    refine ⟨fetch, ?_, ?_⟩
    · rw [(stage.asserts fetch state).1, overlap.protect]
      rfl
    · rw [stage.toSpanning.steps.2.1, state, stage.family]
      rfl
  · rcases stage with ⟨m, c, stage⟩
    have fetch := boundary (pipelineBlocked_eq stage.found stage.implemented stage.occupied
      (Core.instructionValid_io stage.underway stage.pending running stage.family stage.noFault)
      (Or.inr (Or.inl (by rw [state]; exact stage.family))))
    refine ⟨fetch, ?_, ?_⟩
    · rw [(stage.asserts fetch noInitialize).1, overlap.protect]
      rfl
    · rw [stage.toSpanning.steps.2.2.1, state, stage.family]
      simp
  · rcases stage with ⟨m, c, c', stage⟩
    have fetch := boundary (pipelineBlocked_eq stage.found stage.implemented stage.occupied
      (Core.instructionValid_table stage.underway stage.pending running stage.family
        stage.noFault)
      (Or.inr (Or.inl (by rw [state]; exact stage.family))))
    refine ⟨fetch, ?_, ?_⟩
    · rw [(stage.asserts fetch).1, overlap.protect]
      rfl
    · rw [stage.toSpanning.steps.2.2.2.2, state, stage.family]
      simp

/-- Without an overlap every assertion holds. -/
theorem Lockstep.asserts (lock : Lockstep False a σ made)
    (retired : σ.slice.core.retired = true →
      σ.slice.bus.sample = true ∧ σ.slice.bus.phase = 0)
    (apart : ¬Overlap σ.slice i) (noInitialize : i.initializeI = false)
    (noDebug : i.debugDataWrite = false) : Assertions σ.slice i := by
  have protect (fetch : fetchBoundary σ.slice i = true)
      (state : σ.slice.pipelineState = .controlTarget ∨ σ.slice.pipelineState = .ioPrefetch ∨
        σ.slice.pipelineState = .tablePrefetch) : σ.slice.interruptProtected = false := by
    by_contra armed
    rw [Bool.not_eq_false] at armed
    exact apart (overlap_of_fetch fetch armed state)
  have quiet (fetch : fetchBoundary σ.slice i = true) : σ.slice.core.retired = false := by
    by_contra raised
    rw [Bool.not_eq_false] at raised
    have last := beq_iff_eq.mp (pipelineBoundary_enabled (fetchBoundary_pipeline fetch).1).2.2
    exact absurd ((retired raised).2.symm.trans last) (by decide)
  have stage := lock.stage.byState
  refine ⟨?_, lock.coreWrite_asserts, strobes_apart _ _,
    fun advances => lock.execute_asserts advances noInitialize noDebug, ?_, ?_, ?_, ?_, ?_, ?_, ?_,
    ?_, ?_, ?_, ?_, blocked_asserts⟩
  · rintro ⟨raised, unsampled⟩
    exact absurd (unsampled.symm.trans (retired raised).1) Bool.false_ne_true
  · intro step fetch
    rcases lock.starts_of_step (by rw [step]; rfl) fetch noInitialize noDebug with ⟨m, starts⟩
    exact starts.controlOperand_asserts step
  · intro step fetch
    have state : σ.slice.pipelineState = .controlTarget := state_of_step step
    rw [state] at stage
    rcases stage with ⟨m, c, stage⟩
    rw [(stage.asserts fetch state).1, protect fetch (Or.inl state)]
    exact ⟨rfl, (stage.asserts fetch state).2⟩
  · intro step fetch
    rcases lock.starts_of_step (by rw [step]; simp) fetch noInitialize noDebug with ⟨m, starts⟩
    rcases starts.computedStart_asserts step with ⟨fetched, complete, address, next, ports⟩
    exact ⟨fetched, complete, quiet fetch, address, next, ports⟩
  · intro step fetch
    rw [state_of_step step] at stage
    rcases stage with ⟨m, c, stage⟩
    exact stage.asserts fetch
  · intro step fetch
    rcases lock.starts_of_step (by rw [step]; simp) fetch noInitialize noDebug with ⟨m, starts⟩
    exact starts.ioTransfer_asserts step
  · intro step fetch
    have state : σ.slice.pipelineState = .ioPrefetch := state_of_step step
    rw [state] at stage
    rcases stage with ⟨m, c, stage⟩
    rcases stage.asserts fetch noInitialize with ⟨fetched, rest⟩
    rw [fetched, protect fetch (Or.inr (Or.inl state))]
    exact ⟨rfl, rest⟩
  · intro step fetch
    rcases lock.starts_of_step (by rw [step]; simp) fetch noInitialize noDebug with ⟨m, starts⟩
    exact starts.tableStart_asserts step
  · intro step fetch
    rw [state_of_step step] at stage
    rcases stage with ⟨m, c, stage⟩
    exact stage.asserts fetch
  · intro step fetch
    have state : σ.slice.pipelineState = .tablePrefetch := state_of_step step
    rw [state] at stage
    rcases stage with ⟨m, c, c', stage⟩
    rcases stage.asserts fetch with ⟨fetched, rest⟩
    rw [fetched, protect fetch (Or.inr (Or.inr state))]
    exact ⟨rfl, rest⟩
  · intro dummy fetch
    exact dummyFetch_asserts fetch lock dummy
  · intro step fetch
    rw [beq_iff_eq.mp step] at stage
    exact stage.asserts fetch

end Law

/-- The debug port is in no assertion. -/
theorem assertions_undebugged {s : State} {i : Inputs} (holds : Assertions s i.undebugged) :
    Assertions s i :=
  ⟨holds.retired, holds.coreWrite, holds.strobes, holds.execute, holds.controlOperand,
    holds.controlTarget, holds.computedStart, holds.computedTarget, holds.ioTransfer,
    holds.ioPrefetch, holds.tableStart, holds.tableTransfer, holds.tablePrefetch,
    holds.dummyFetch, holds.vector, holds.blocked⟩

/-- An overlap violates the assertion of its step. -/
theorem Assertions.apart {s : State} {i : Inputs} (holds : Assertions s i)
    (fetch : fetchBoundary s i = true) (skips : fetchedInstruction s i = false) :
    (controlTargetStep s || ioPrefetchStep s || tablePrefetchStep s) = false := by
  by_contra step
  rw [Bool.not_eq_false, Bool.or_eq_true, Bool.or_eq_true] at step
  have fetched : fetchedInstruction s i = true := by
    rcases step with (step | step) | step
    · exact (holds.controlTarget step fetch).1
    · exact (holds.ioPrefetch step fetch).1
    · exact (holds.tablePrefetch step fetch).1
  exact absurd (skips.symm.trans fetched) Bool.false_ne_true

/-- An overlap in a reachable state violates an assertion. -/
theorem Reachable.violates {s : State} (reached : Reachable s) {i : Inputs}
    (noInitialize : i.initializeI = false) (overlap : Overlap s i) : ¬Assertions s i := by
  intro holds
  rcases reached.lockstep with ⟨a, program, ioOutput, made, lock⟩
  have quiet : Overlap s i.undebugged := ⟨overlap.1, overlap.2, overlap.3, overlap.4⟩
  rcases lock.overlap quiet noInitialize rfl with ⟨fetch, skips, step⟩
  exact absurd (step.symm.trans (holds.apart fetch skips)) Bool.noConfusion

/-- On every clock of every run after an initialization the assertions hold exactly
when the clock is no overlap. -/
theorem reachable_assertions_iff {s : State} (reached : Reachable s) (i : Inputs)
    (noInitialize : i.initializeI = false) : Assertions s i ↔ ¬Overlap s i := by
  constructor
  · intro holds overlap
    exact reached.violates noInitialize overlap holds
  · intro apart
    rcases reached.lockstep with ⟨a, program, ioOutput, made, lock⟩
    have quiet : ¬Overlap s i.undebugged := by
      rintro ⟨running, boundary, protect, state⟩
      exact apart ⟨running, boundary, protect, state⟩
    exact assertions_undebugged (lock.asserts reached.retired quiet noInitialize rfl)

/-! ## A protected branch -/

/-- The branch completes as the protected instruction in the dummy fetch. -/
theorem protectedBranch_overlap :
    Overlap (protectedBranchState 23) (protectedBranch (protectedBranchState 23)) :=
  ⟨⟨rfl, rfl⟩, by decide +kernel, by decide +kernel, Or.inl (by decide +kernel)⟩

theorem protectedBranch_violates :
    Reachable (protectedBranchState 23) ∧
      (protectedBranch (protectedBranchState 23)).initializeI = false ∧
      ¬Assertions (protectedBranchState 23) (protectedBranch (protectedBranchState 23)) :=
  ⟨protectedBranchState_reachable 23, rfl,
    (protectedBranchState_reachable 23).violates rfl protectedBranch_overlap⟩

/-- The program's branch takes its operand in one clock and the interrupt its vector in
another. -/
theorem reachable_assertions_branch :
    (controlOperandStep (protectedBranchState 19) = true ∧
      fetchBoundary (protectedBranchState 19) (protectedBranch (protectedBranchState 19)) = true ∧
      Assertions (protectedBranchState 19) (protectedBranch (protectedBranchState 19))) ∧
      interruptVectorStep (protectedBranchState 27) = true ∧
      fetchBoundary (protectedBranchState 27) (protectedBranch (protectedBranchState 27)) = true ∧
      Assertions (protectedBranchState 27) (protectedBranch (protectedBranchState 27)) := by
  refine ⟨⟨by decide +kernel, by decide +kernel, ?_⟩, by decide +kernel, by decide +kernel, ?_⟩
  · refine (reachable_assertions_iff (protectedBranchState_reachable 19) _ rfl).mpr ?_
    exact fun overlap => absurd overlap.state (by decide +kernel)
  · refine (reachable_assertions_iff (protectedBranchState_reachable 27) _ rfl).mpr ?_
    exact fun overlap => absurd overlap.state (by decide +kernel)

end Tms32010.Rtl.Slice
