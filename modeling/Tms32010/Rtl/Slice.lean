import Tms32010.Rtl.Core
import Tms32010.Rtl.Fetch

/-!
# Sequential pipeline slice

`tms32010_sequential_pipeline_slice`: the program bus fetches one word ahead of
the core, the slot holds the instruction that executes, and a state of eight
values says which cycle of it the bus is in. The core advances at the machine
cycle boundaries the slice qualifies, with a registered read of its data RAM.
-/

namespace Tms32010.Rtl

/-- `is_accumulator_branch`. -/
def isAccumulatorBranch : Operation → Bool
  | .bgez | .bgz | .blez | .blz | .bnz | .bz => true
  | _ => false

namespace Slice

/-- `pipeline_state_t`. -/
inductive PipelineState where
  | sequential | controlTarget | controlInvalid | ioPrefetch | interruptVector | tableTransfer
  | tablePrefetch | computedTarget
  deriving DecidableEq, Repr

/-- The inputs of one clock. -/
structure Inputs where
  initializeI : Bool
  rs : Bool
  clockEnable : Bool
  bio : Bool
  int : Bool
  programData : BitVec 16
  ioReadData : BitVec 16
  debugDataWrite : Bool
  debugDataAddress : BitVec 8
  debugData : BitVec 16

/-- The registers of the slice and of the modules in it. -/
structure State where
  bus : ProgramBus.State
  fetchExecute : FetchExecute.State
  core : Core.State
  pipelineState : PipelineState
  coreProgramData : BitVec 16
  biozTaken : Bool
  ioReadSample : BitVec 16
  computedTargetAddress : BitVec 12
  interruptProtected : Bool

/-- The core of the slice: computed control, and the registered read. -/
def params : Core.Params := ⟨true, true⟩

/-! ## Classification of the execute word -/

section Execute

variable (s : State)

/-- The outputs of `execute_decode`. -/
def executeDecoded : Decoded := decode s.fetchExecute.executeWord

/-- The slot holds a valid word of an operation. -/
def executeIs (operation : Operation) : Bool :=
  s.fetchExecute.executeValid && (executeDecoded s).valid &&
    (executeDecoded s).operation == operation

/-- `execute_one_cycle_supported`. -/
def executeOneCycleSupported : Bool :=
  (executeDecoded s).valid &&
    (decide ((executeDecoded s).operation.code ≤ Operation.subc.code) ||
      (executeDecoded s).operation == .subh || (executeDecoded s).operation == .abs ||
      (executeDecoded s).operation == .sst || (executeDecoded s).operation == .addh)

/-- `execute_is_accumulator_branch`. -/
def executeIsAccumulatorBranch : Bool :=
  s.fetchExecute.executeValid && (executeDecoded s).valid &&
    isAccumulatorBranch (executeDecoded s).operation

/-- `execute_io_supported`. -/
def executeIoSupported : Bool := executeIs s .in || executeIs s .out

/-- `execute_table_supported`. -/
def executeTableSupported : Bool := executeIs s .tblr || executeIs s .tblw

/-- `execute_computed_supported`. -/
def executeComputedSupported : Bool := executeIs s .cala || executeIs s .ret

/-- `execute_control_supported`. -/
def executeControlSupported : Bool :=
  executeIs s .banz || executeIs s .b || executeIsAccumulatorBranch s || executeIs s .bv ||
    executeIs s .bioz || executeIs s .call

/-- `control_operand_step`. -/
def controlOperandStep : Bool := executeControlSupported s && s.pipelineState == .sequential

/-- `control_target_step`. -/
def controlTargetStep : Bool := executeControlSupported s && s.pipelineState == .controlTarget

/-- `computed_start_step`. -/
def computedStartStep : Bool := executeComputedSupported s && s.pipelineState == .sequential

/-- `computed_target_step`. -/
def computedTargetStep : Bool := executeComputedSupported s && s.pipelineState == .computedTarget

/-- `io_transfer_step`. -/
def ioTransferStep : Bool := executeIoSupported s && s.pipelineState == .sequential

/-- `io_prefetch_step`. -/
def ioPrefetchStep : Bool := executeIoSupported s && s.pipelineState == .ioPrefetch

/-- `table_start_step`. -/
def tableStartStep : Bool := executeTableSupported s && s.pipelineState == .sequential

/-- `table_transfer_step`. -/
def tableTransferStep : Bool := executeTableSupported s && s.pipelineState == .tableTransfer

/-- `table_prefetch_step`. -/
def tablePrefetchStep : Bool := executeTableSupported s && s.pipelineState == .tablePrefetch

/-- `interrupt_vector_step`. -/
def interruptVectorStep : Bool := s.pipelineState == .interruptVector

/-- `banz_counter`. -/
def banzCounter : BitVec 9 :=
  if s.core.auxiliaryRegisterPointer then s.core.auxiliaryRegister1.extractLsb' 0 9
  else s.core.auxiliaryRegister0.extractLsb' 0 9

/-- `accumulator_condition_taken`. -/
def accumulatorConditionTaken : Bool :=
  accumulatorBranchTaken (executeDecoded s).operation s.core.accumulator

/-- `execute_extends_interrupt_deferral`. -/
def executeExtendsInterruptDeferral : Bool :=
  (executeDecoded s).operation == .mpy || (executeDecoded s).operation == .mpyk

/-- `execute_disables_interrupts`. -/
def executeDisablesInterrupts : Bool := (executeDecoded s).operation == .dint

/-- `retiring_interrupt_mask`. -/
def retiringInterruptMask : Bool :=
  if (executeDecoded s).operation == .eint then false
  else if executeDisablesInterrupts s then true
  else s.core.interruptMask

end Execute

/-! ## Boundary terms -/

section Boundary

variable (s : State) (i : Inputs)

/-- `core_bio`. -/
def coreBio : Bool :=
  if controlTargetStep s && executeIs s .bioz then !s.biozTaken else i.bio

/-- `core_reset`. -/
def coreReset : Bool := i.clockEnable && s.bus.phase == 3 && i.rs

/-- The inputs of the core, for a boundary that enables it or does not. -/
def coreInputs (coreExecuteBoundary : Bool) : Core.Inputs where
  initializeRequest := i.initializeI
  resetRequest := coreReset s i
  clockEnable := coreExecuteBoundary
  internalRamReadEnable := i.clockEnable
  bio := coreBio s i
  int := i.int
  programData := s.coreProgramData
  ioReadData := s.ioReadSample
  debugDataWrite := i.debugDataWrite
  debugDataAddress := i.debugDataAddress
  debugData := i.debugData

/-- `core_instruction_valid`, which does not depend on the enable. -/
def coreInstructionValid : Bool := Core.instructionValid params s.core (coreInputs s i false)

/-- `core_data_read_data`. -/
def coreDataReadData : BitVec 16 := Core.ramReadData params s.core (coreInputs s i false)

/-- `io_transfer_active`. -/
def ioTransferActive : Bool := ioTransferStep s && coreInstructionValid s i

/-- `table_transfer_active`. -/
def tableTransferActive : Bool := tableTransferStep s && coreInstructionValid s i

/-- `execute_ready`, which is also `instruction_valid_o`. -/
def executeReady : Bool :=
  s.fetchExecute.executeValid && coreInstructionValid s i &&
    (executeOneCycleSupported s || controlOperandStep s || controlTargetStep s ||
      computedStartStep s || computedTargetStep s || ioTransferStep s || ioPrefetchStep s ||
      tableStartStep s || tableTransferStep s || tablePrefetchStep s)

/-- `execute_complete`. -/
def executeComplete : Bool :=
  executeReady s i &&
    (executeOneCycleSupported s || controlTargetStep s || computedTargetStep s ||
      ioPrefetchStep s || tablePrefetchStep s)

/-- `interrupt_dummy_fetch_step`. -/
def interruptDummyFetchStep : Bool :=
  s.interruptProtected && executeComplete s i && !executeDisablesInterrupts s &&
    !executeExtendsInterruptDeferral s

/-- `pipeline_blocked_o`. -/
def pipelineBlocked : Bool := s.fetchExecute.executeValid && !i.rs && !executeReady s i

/-- `bus_clock_enable`. -/
def busClockEnable : Bool := i.clockEnable && (i.rs || !pipelineBlocked s i)

/-- `pipeline_boundary`. -/
def pipelineBoundary : Bool := busClockEnable s i && s.bus.phase == 3

/-- `fetch_boundary`. -/
def fetchBoundary : Bool := pipelineBoundary s i && s.bus.active && !i.rs

/-- `fetched_instruction`. -/
def fetchedInstruction : Bool :=
  fetchBoundary s i &&
    (interruptVectorStep s ||
      (!interruptDummyFetchStep s i &&
        (!s.fetchExecute.executeValid || executeOneCycleSupported s || controlTargetStep s ||
          computedTargetStep s || ioPrefetchStep s || tablePrefetchStep s)))

/-- `core_execute_boundary`. -/
def coreExecuteBoundary : Bool :=
  fetchBoundary s i && (executeReady s i || interruptVectorStep s)

/-- The address a branch operand selects, or the one after it. -/
def operandFetchAddress : BitVec 12 :=
  let target := i.programData.extractLsb' 0 12
  let following := s.bus.address + 1
  if i.programData.extractLsb' 12 4 != 0 then s.bus.address
  else if executeIs s .b then target
  else if executeIs s .banz then (if banzCounter s != 0 then target else following)
  else if executeIsAccumulatorBranch s then
    (if accumulatorConditionTaken s then target else following)
  else if executeIs s .bv then (if s.core.overflowFlag then target else following)
  else if executeIs s .bioz then (if !i.bio then target else following)
  else if executeIs s .call then target
  else following

/-- The target of `CALA` and `RET`. -/
def computedAddress : BitVec 12 :=
  if executeIs s .cala then s.core.accumulator.extractLsb' 0 12 else s.core.stack.top

/-- `next_fetch_address`. -/
def nextFetchAddress : BitVec 12 :=
  if s.bus.active then
    if interruptDummyFetchStep s i then 0x002
    else if computedStartStep s then computedAddress s
    else if tableStartStep s then s.core.accumulator.extractLsb' 0 12
    else if tableTransferStep s then s.core.pc
    else if ioTransferActive s i then s.bus.address
    else if controlOperandStep s then operandFetchAddress s i
    else s.bus.address + 1
  else 0

end Boundary

/-! ## Outputs -/

section Outputs

variable (s : State) (i : Inputs)

/-- `program_write_o`. -/
def programWrite : Bool := tableTransferActive s i && executeIs s .tblw

/-- `program_write_data_o` and `io_write_data_o`. -/
def writeData : BitVec 16 := coreDataReadData s i

/-- `io_port_o`. -/
def ioPort : BitVec 3 := (executeDecoded s).port

/-- `io_read_o`. -/
def ioRead : Bool := ioTransferActive s i && executeIs s .in

/-- `io_write_o`. -/
def ioWrite : Bool := ioTransferActive s i && executeIs s .out

/-- `program_address_o`. -/
def programAddress : BitVec 12 :=
  if ioTransferActive s i then 0#9 ++ ioPort s else s.bus.address

/-- `men_n_o`. -/
def menN : Bool := ProgramBus.menN s.bus (!ioTransferActive s i && !programWrite s i)

/-- `den_n_o`. -/
def denN : Bool := !s.bus.active || !ioRead s i || s.bus.phase == 0

/-- `we_n_o`. -/
def weN : Bool := !s.bus.active || !(ioWrite s i || programWrite s i) || s.bus.phase == 0

/-- `data_read_o`. -/
def dataRead : Bool :=
  if tableTransferActive s i then executeIs s .tblw
  else if ioTransferActive s i then executeIs s .out
  else if ioPrefetchStep s || tablePrefetchStep s then false
  else Core.dataRead s.core (coreInputs s i false)

/-- `data_write_o`. -/
def dataWrite : Bool :=
  if tableTransferActive s i then executeIs s .tblr
  else if ioTransferActive s i then executeIs s .in
  else if ioPrefetchStep s || tablePrefetchStep s then false
  else Core.dataWrite s.core (coreInputs s i false)

/-- `data_write_address_valid_o`. -/
def dataWriteAddressValid : Bool :=
  if tableTransferActive s i then executeIs s .tblr && coreInstructionValid s i
  else if ioTransferActive s i then executeIs s .in && coreInstructionValid s i
  else if ioPrefetchStep s || tablePrefetchStep s then false
  else Core.dataWriteAddressValid s.core (coreInputs s i false)

end Outputs

/-! ## Clock edge -/

section Edge

variable (s : State) (i : Inputs)

/-- The inputs of the program bus. -/
def busInputs : ProgramBus.Inputs where
  initializeI := i.initializeI
  rs := i.rs
  clockEnable := busClockEnable s i
  nextAddress := nextFetchAddress s i

/-- The inputs of the slot. -/
def slotInputs : FetchExecute.Inputs where
  initializeI := i.initializeI
  reset := i.rs
  cycleBoundary := pipelineBoundary s i
  fetchedValid := fetchedInstruction s i
  fetchedAddress := s.bus.address
  fetchedWord := i.programData
  executeComplete := executeComplete s i
  flush := false

/-- The modules of the slice after the edge, under the registers of the slice itself. -/
def nextModules : State :=
  { s with
    bus := ProgramBus.step s.bus (busInputs s i)
    fetchExecute := FetchExecute.step s.fetchExecute (slotInputs s i)
    core := Core.step params s.core (coreInputs s i (coreExecuteBoundary s i)) }

/-- `core_program_data` after a boundary. -/
def nextProgramData : BitVec 16 :=
  if i.rs then 0
  else if fetchedInstruction s i ||
      (coreExecuteBoundary s i &&
        (controlOperandStep s || (tableTransferStep s && executeIs s .tblr))) then
    i.programData
  else s.coreProgramData

/-- `pipeline_state` after a boundary. -/
def nextPipelineState : PipelineState :=
  if i.rs then .sequential
  else if coreExecuteBoundary s i then
    if interruptDummyFetchStep s i then .interruptVector
    else if computedStartStep s then .computedTarget
    else if computedTargetStep s then .sequential
    else if controlOperandStep s then
      (if i.programData.extractLsb' 12 4 == 0 then .controlTarget else .controlInvalid)
    else if controlTargetStep s then .sequential
    else if ioTransferStep s then .ioPrefetch
    else if ioPrefetchStep s then .sequential
    else if tableStartStep s then .tableTransfer
    else if tableTransferStep s then .tablePrefetch
    else if tablePrefetchStep s then .sequential
    else if interruptVectorStep s then .sequential
    else s.pipelineState
  else s.pipelineState

/-- `bioz_taken` after a boundary. -/
def nextBiozTaken : Bool :=
  if i.rs then false
  else if coreExecuteBoundary s i then
    if interruptDummyFetchStep s i || computedStartStep s || computedTargetStep s then s.biozTaken
    else if controlOperandStep s then
      i.programData.extractLsb' 12 4 == 0 && executeIs s .bioz && !i.bio
    else if controlTargetStep s then false
    else s.biozTaken
  else s.biozTaken

/-- `io_read_sample` after a boundary. -/
def nextIoReadSample : BitVec 16 :=
  if i.rs then 0
  else if coreExecuteBoundary s i && !interruptDummyFetchStep s i && ioTransferStep s &&
      executeIs s .in then
    i.ioReadData
  else s.ioReadSample

/-- `computed_target_address` after a boundary. -/
def nextComputedTargetAddress : BitVec 12 :=
  if i.rs then 0
  else if coreExecuteBoundary s i && !interruptDummyFetchStep s i && computedStartStep s then
    computedAddress s
  else s.computedTargetAddress

/-- `interrupt_protected` after a boundary. The reset assigns it first, and no
completion coincides with a reset. -/
def nextInterruptProtected : Bool :=
  let held := if i.rs then false else s.interruptProtected
  if coreExecuteBoundary s i && executeComplete s i then
    if s.interruptProtected then
      (if executeDisablesInterrupts s then false else executeExtendsInterruptDeferral s)
    else if (s.core.interruptPending || !i.int) && !retiringInterruptMask s then true
    else held
  else held

/-- One clock edge. -/
def step : State :=
  if i.initializeI then
    { nextModules s i with
      pipelineState := .sequential
      coreProgramData := 0
      biozTaken := false
      ioReadSample := 0
      computedTargetAddress := 0
      interruptProtected := false }
  else if pipelineBoundary s i then
    { nextModules s i with
      pipelineState := nextPipelineState s i
      coreProgramData := nextProgramData s i
      biozTaken := nextBiozTaken s i
      ioReadSample := nextIoReadSample s i
      computedTargetAddress := nextComputedTargetAddress s i
      interruptProtected := nextInterruptProtected s i }
  else nextModules s i

end Edge

/-! ## A power-up state -/

/-- A slice whose registers are all clear. -/
def clearState : State where
  bus := ⟨0, 0, false, false, false⟩
  fetchExecute := FetchExecute.empty
  core := Core.blank
  pipelineState := .sequential
  coreProgramData := 0
  biozTaken := false
  ioReadSample := 0
  computedTargetAddress := 0
  interruptProtected := false

/-- An enabled clock with the pins high. -/
def enabledInputs : Inputs where
  initializeI := false
  rs := false
  clockEnable := true
  bio := true
  int := true
  programData := 0
  ioReadData := 0
  debugDataWrite := false
  debugDataAddress := 0
  debugData := 0

end Slice

end Tms32010.Rtl
