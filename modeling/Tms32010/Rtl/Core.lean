import Tms32010.Rtl.Decode
import Tms32010.Rtl.Datapath
import Tms32010.Rtl.InternalRam

/-!
# Processor core

`tms32010_core`: its registers, its combinational signals and its clock edge.
Every signal is a function of the parameters, the registers and the inputs of
the current clock, under the name it has in the source. The right-hand sides of
one edge all read the state before the edge, as nonblocking assignments do.
-/

namespace Tms32010.Rtl

open Operation

/-- `is_two_word_control_flow`. -/
def isTwoWordControlFlow : Operation → Bool
  | .b | .banz | .bv | .bioz | .call | .bgez | .bgz | .blez | .blz | .bnz | .bz => true
  | _ => false

/-- `is_computed_control_flow`. -/
def isComputedControlFlow : Operation → Bool
  | .cala | .ret => true
  | _ => false

/-- `accumulator_branch_taken`. -/
def accumulatorBranchTaken (operation : Operation) (accumulator : BitVec 32) : Bool :=
  match operation with
  | .bgez => !accumulator.msb
  | .bgz => !accumulator.msb && accumulator != 0
  | .blez => accumulator.msb || accumulator == 0
  | .blz => accumulator.msb
  | .bnz => accumulator != 0
  | .bz => accumulator == 0
  | _ => false

/-- `extends_interrupt_deferral`. -/
def extendsInterruptDeferral : Operation → Bool
  | .mpy | .mpyk => true
  | _ => false

/-- The operations `data_read_o` lists for the first cycle of an instruction. -/
def readsData : Operation → Bool
  | .lac | .zalh | .zals | .addh | .adds | .xor | .and | .or | .add | .sub | .subh | .subs
  | .subc | .lar | .ldp | .dmov | .lt | .ltd | .lta | .mpy | .lst => true
  | _ => false

/-- The operations `data_write_o` lists for the first cycle of an instruction. -/
def writesData : Operation → Bool
  | .sacl | .sach | .sar | .sst | .dmov | .ltd => true
  | _ => false

/-- The operations whose indirect form updates the auxiliary registers on issue. -/
def modifiesAuxiliary : Operation → Bool
  | .lac | .sacl | .sach | .zalh | .zals | .addh | .adds | .xor | .and | .or | .add | .sub
  | .subh | .subs | .subc | .lar | .sar | .sst | .mar | .ldp | .dmov | .lt | .ltd | .lta
  | .mpy | .lst => true
  | _ => false

namespace Core

/-- The two module parameters. -/
structure Params where
  enableInferredComputedControl : Bool
  registerInternalRamRead : Bool
  deriving DecidableEq

/-- The parameter values of a standalone instance. -/
def Params.default : Params := ⟨true, false⟩

/-- The inputs of one clock. -/
structure Inputs where
  initializeRequest : Bool
  resetRequest : Bool
  clockEnable : Bool
  internalRamReadEnable : Bool
  bio : Bool
  int : Bool
  programData : BitVec 16
  ioReadData : BitVec 16
  debugDataWrite : Bool
  debugDataAddress : BitVec 8
  debugData : BitVec 16

/-- The registers of the core and the storage of its data RAM. -/
structure State extends Registers where
  interruptDelayOne : Bool
  interruptEntryPending : Bool
  retired : Bool
  illegal : Bool
  cycleCount : BitVec 32
  controlOperandPending : Bool
  pendingControlOperation : Operation
  computedControlPending : Bool
  pendingComputedOperation : Operation
  pendingComputedTarget : BitVec 12
  pendingComputedReturnAddress : BitVec 12
  ioPending : Bool
  pendingIoOperation : Operation
  pendingIoPort : BitVec 3
  pendingIoDataAddress : BitVec 8
  pendingIoIndirect : Bool
  pendingIoSelectedArp : Bool
  pendingIoIncrement : Bool
  pendingIoDecrement : Bool
  pendingIoPreserveArp : Bool
  pendingIoNextArp : Bool
  tablePending : Bool
  tableTransferPhase : Bool
  pendingTableOperation : Operation
  pendingTableProgramAddress : BitVec 12
  pendingTableDataAddress : BitVec 8
  pendingTableIndirect : Bool
  pendingTableSelectedArp : Bool
  pendingTableIncrement : Bool
  pendingTableDecrement : Bool
  pendingTablePreserveArp : Bool
  pendingTableNextArp : Bool
  dataRam : InternalRam

/-! ## Combinational signals -/

section Signals

variable (p : Params) (s : State) (i : Inputs)

/-- The decoder outputs for the word on the program bus. -/
def decoded : Decoded := decode i.programData

/-- `data_address_o`. -/
def dataAddress : BitVec 8 :=
  if s.interruptEntryPending then 0
  else if s.tablePending then s.pendingTableDataAddress
  else if s.ioPending then s.pendingIoDataAddress
  else if !s.controlOperandPending && !s.computedControlPending && (decoded i).valid &&
      (decoded i).dataAddressed then
    if (decoded i).indirect then
      (if s.auxiliaryRegisterPointer then s.auxiliaryRegister1.extractLsb' 0 8
       else s.auxiliaryRegister0.extractLsb' 0 8)
    else if (decoded i).operation == .sst then
      0x8#4 ++ (decoded i).addressingField.extractLsb' 0 4
    else BitVec.ofBool s.dataPagePointer ++ (decoded i).addressingField
  else 0

/-- `ram_address_valid`. -/
def ramAddressValid : Bool := DataRam.addressValid (dataAddress s i)

/-- `ram_read_data`, the operand word. -/
def ramReadData : BitVec 16 :=
  s.dataRam.readData p.registerInternalRamRead (dataAddress s i)

/-- `data_write_address_o`. -/
def dataWriteAddress : BitVec 8 :=
  if !s.ioPending && !s.tablePending &&
      ((decoded i).operation == .dmov || (decoded i).operation == .ltd) then
    dataAddress s i + 1
  else dataAddress s i

/-- `ram_write_address_valid`. -/
def ramWriteAddressValid : Bool := DataRam.addressValid (dataWriteAddress s i)

/-- The selected register, increment and decrement of the auxiliary counter. -/
def auxiliaryCounterControl : Bool × Bool × Bool :=
  if s.controlOperandPending && s.pendingControlOperation == .banz then
    (s.auxiliaryRegisterPointer, false, true)
  else if s.tablePending then
    (s.pendingTableSelectedArp, s.pendingTableIndirect && s.pendingTableIncrement,
      s.pendingTableIndirect && s.pendingTableDecrement)
  else if s.ioPending then
    (s.pendingIoSelectedArp, s.pendingIoIndirect && s.pendingIoIncrement,
      s.pendingIoIndirect && s.pendingIoDecrement)
  else if (decoded i).valid && ((decoded i).dataAddressed || (decoded i).operation == .mar) &&
      (decoded i).indirect then
    (s.auxiliaryRegisterPointer, (decoded i).addressingField.getLsbD 5,
      (decoded i).addressingField.getLsbD 4)
  else (s.auxiliaryRegisterPointer, false, false)

/-- `auxiliary_counter_control_valid`. -/
def auxiliaryCounterValid : Bool :=
  auxiliaryCounterControlValid (auxiliaryCounterControl s i).2.1 (auxiliaryCounterControl s i).2.2

/-- `auxiliary_counter_result`. -/
def auxiliaryCounterResult : BitVec 16 :=
  auxiliaryCounter
    (if (auxiliaryCounterControl s i).1 then s.auxiliaryRegister1 else s.auxiliaryRegister0)
    (auxiliaryCounterControl s i).2.1 (auxiliaryCounterControl s i).2.2

/-- `stack_push`. -/
def stackPush : Bool :=
  s.interruptEntryPending ||
    (s.computedControlPending && s.pendingComputedOperation == .cala) ||
    (s.controlOperandPending && s.pendingControlOperation == .call)

/-- `stack_pop`. -/
def stackPop : Bool := s.computedControlPending && s.pendingComputedOperation == .ret

/-- `stack_push_data`. -/
def stackPushData : BitVec 12 :=
  if s.interruptEntryPending then s.pc
  else if s.computedControlPending && s.pendingComputedOperation == .cala then
    s.pendingComputedReturnAddress
  else s.pc + 1

/-- `stack_control_valid`. -/
def stackValid : Bool := stackControlValid (stackPush s) (stackPop s) s.tablePending

/-- The four `stack_next_*` levels. -/
def stackNext : Stack :=
  stackTransition s.stack (stackPushData s) (stackPush s) (stackPop s) s.tablePending

/-- `status_store_word`. -/
def statusWord : BitVec 16 :=
  statusStoreWord s.overflowFlag s.overflowMode s.interruptMask s.auxiliaryRegisterPointer
    s.dataPagePointer

/-- `shifted_data_operand`. -/
def shiftedDataOperand : BitVec 32 := inputShifter (ramReadData p s i) (decoded i).shift

/-- `output_shift_valid` and `shifted_accumulator_word`. -/
def shiftedAccumulator : Bool × BitVec 16 :=
  outputShifter (s.accumulator.extractLsb' 12 20) ((decoded i).shift.extractLsb' 0 3)

/-- `multiplier_operand`. -/
def multiplierOperand : BitVec 16 :=
  if (decoded i).operation == .mpyk then (decoded i).immediate13.signExtend 16
  else ramReadData p s i

/-- `multiplier_product`. -/
def multiplierProduct : BitVec 32 := multiplierUnit s.tRegister (multiplierOperand p s i)

/-- `accumulator_arithmetic_operand`. -/
def accumulatorArithmeticOperand : BitVec 32 :=
  if (decoded i).operation == .apac || (decoded i).operation == .spac ||
      (decoded i).operation == .lta || (decoded i).operation == .ltd then
    s.productRegister
  else if (decoded i).operation == .subh then ramReadData p s i ++ 0#16
  else shiftedDataOperand p s i

/-- `accumulator_arithmetic_subtract`. -/
def accumulatorArithmeticSubtract : Bool :=
  (decoded i).operation == .sub || (decoded i).operation == .subh ||
    (decoded i).operation == .spac

/-- The outputs of the shared accumulator unit. -/
def accumulatorArithmetic : AccumulatorResult :=
  accumulatorUnit s.accumulator (accumulatorArithmeticOperand p s i)
    (accumulatorArithmeticSubtract i) s.overflowMode

/-- `adds_wrapped_result`. -/
def addsWrappedResult : BitVec 32 := s.accumulator + (0#16 ++ ramReadData p s i)

/-- `adds_overflow`. -/
def addsOverflow : Bool := !s.accumulator.msb && (addsWrappedResult p s i).msb

/-- `addh_high_result`. -/
def addhHighResult : BitVec 16 := s.accumulator.extractLsb' 16 16 + ramReadData p s i

/-- `subs_wrapped_result`. -/
def subsWrappedResult : BitVec 32 := s.accumulator - (0#16 ++ ramReadData p s i)

/-- `subs_overflow`. -/
def subsOverflow : Bool := s.accumulator.msb && !(subsWrappedResult p s i).msb

/-- `subc_operand`. -/
def subcOperand : BitVec 32 := (0#16 ++ ramReadData p s i) <<< 15

/-- `subc_intermediate`. -/
def subcIntermediate : BitVec 32 := s.accumulator - subcOperand p s i

/-- `subc_overflow`. -/
def subcOverflow : Bool :=
  (s.accumulator.msb ^^ (subcOperand p s i).msb) &&
    (s.accumulator.msb ^^ (subcIntermediate p s i).msb)

/-- `subc_result`. -/
def subcResult : BitVec 32 :=
  if (subcIntermediate p s i).msb then s.accumulator <<< 1
  else subcIntermediate p s i <<< 1 ||| 1

/-- `instruction_valid_o`. -/
def instructionValid : Bool :=
  if i.initializeRequest || i.resetRequest || s.interruptEntryPending then false
  else if s.computedControlPending then
    p.enableInferredComputedControl && isComputedControlFlow s.pendingComputedOperation
  else if s.controlOperandPending then
    i.programData.extractLsb' 12 4 == 0 && isTwoWordControlFlow s.pendingControlOperation
  else if s.tablePending then
    !s.tableTransferPhase ||
      (ramAddressValid s i &&
        (s.pendingTableOperation == .tblr || s.pendingTableOperation == .tblw))
  else if s.ioPending then
    ramAddressValid s i && (s.pendingIoOperation == .in || s.pendingIoOperation == .out)
  else
    (decoded i).valid &&
      (p.enableInferredComputedControl || !isComputedControlFlow (decoded i).operation) &&
      (!(decoded i).dataAddressed ||
        (ramAddressValid s i &&
          (((decoded i).operation != .dmov && (decoded i).operation != .ltd) ||
            ramWriteAddressValid s i)))

/-- `program_address_o`. -/
def programAddress : BitVec 12 :=
  if s.tablePending && s.tableTransferPhase && !s.interruptEntryPending then
    s.pendingTableProgramAddress
  else s.pc

/-- Whether the pending two-word branch selects its operand, for a valid operand word. -/
def controlTaken : Bool :=
  match s.pendingControlOperation with
  | .b | .call => true
  | .banz =>
    (if s.auxiliaryRegisterPointer then s.auxiliaryRegister1.extractLsb' 0 9
     else s.auxiliaryRegister0.extractLsb' 0 9) != 0
  | .bv => s.overflowFlag
  | .bioz => !i.bio
  | operation => accumulatorBranchTaken operation s.accumulator

/-- The address a valid operand of the pending two-word branch selects. -/
def controlTarget : BitVec 12 :=
  if controlTaken s i then i.programData.extractLsb' 0 12 else s.pc + 1

/-- `program_next_address_o`. -/
def programNextAddress : BitVec 12 :=
  if s.interruptEntryPending then 0x002
  else if s.computedControlPending then s.pendingComputedTarget
  else if s.controlOperandPending then
    if i.programData.extractLsb' 12 4 == 0 && isTwoWordControlFlow s.pendingControlOperation then
      controlTarget s i
    else s.pc
  else if s.ioPending || s.tablePending then s.pc
  else if instructionValid p s i then
    if (decoded i).operation == .cala then s.accumulator.extractLsb' 0 12
    else if (decoded i).operation == .ret then s.stack.top
    else s.pc + 1
  else s.pc

/-- `program_read_o`. -/
def programRead : Bool :=
  !i.resetRequest && !i.initializeRequest && !s.ioPending &&
    !(s.tablePending && s.tableTransferPhase && s.pendingTableOperation == .tblw)

/-- `program_write_o`. -/
def programWrite : Bool :=
  !i.resetRequest && !i.initializeRequest && !s.interruptEntryPending && s.tablePending &&
    s.tableTransferPhase && s.pendingTableOperation == .tblw

/-- `program_write_data_o` and `io_write_data_o`. -/
def programWriteData : BitVec 16 := ramReadData p s i

/-- `io_read_o`. -/
def ioRead : Bool :=
  !i.resetRequest && !i.initializeRequest && !s.interruptEntryPending && s.ioPending &&
    s.pendingIoOperation == .in

/-- `io_write_o`. -/
def ioWrite : Bool :=
  !i.resetRequest && !i.initializeRequest && !s.interruptEntryPending && s.ioPending &&
    s.pendingIoOperation == .out

/-- `data_read_o`. -/
def dataRead : Bool :=
  !i.resetRequest && !i.initializeRequest && !s.interruptEntryPending &&
    ((s.ioPending && s.pendingIoOperation == .out) ||
      (s.tablePending && s.tableTransferPhase && s.pendingTableOperation == .tblw) ||
      (!s.tablePending && !s.ioPending && !s.controlOperandPending && (decoded i).valid &&
        readsData (decoded i).operation))

/-- `data_write_o`. As in the source, a pending `CALA`/`RET` does not mask the term
decoded from the word on the program bus. -/
def dataWrite : Bool :=
  !i.resetRequest && !i.initializeRequest && !s.interruptEntryPending &&
    ((s.ioPending && s.pendingIoOperation == .in) ||
      (s.tablePending && s.tableTransferPhase && s.pendingTableOperation == .tblr) ||
      (!s.tablePending && !s.ioPending && !s.controlOperandPending && (decoded i).valid &&
        writesData (decoded i).operation))

/-- `data_write_address_valid_o`. -/
def dataWriteAddressValid : Bool := dataWrite s i && ramWriteAddressValid s i

/-- `data_write_data_o`. -/
def dataWriteData : BitVec 16 :=
  if s.tablePending && s.tableTransferPhase && s.pendingTableOperation == .tblr then
    i.programData
  else if s.ioPending then i.ioReadData
  else if (decoded i).operation == .dmov || (decoded i).operation == .ltd then ramReadData p s i
  else if (decoded i).operation == .sar then
    if (decoded i).indirect && (decoded i).auxiliaryRegister == s.auxiliaryRegisterPointer then
      auxiliaryCounterResult s i
    else if (decoded i).auxiliaryRegister then s.auxiliaryRegister1
    else s.auxiliaryRegister0
  else if (decoded i).operation == .sst then statusWord s
  else if (decoded i).operation == .sach then (shiftedAccumulator s i).2
  else s.accumulator.extractLsb' 0 16

/-- `retiring_operation`. -/
def retiringOperation : Operation :=
  if s.interruptEntryPending then (decoded i).operation
  else if s.computedControlPending then s.pendingComputedOperation
  else if s.controlOperandPending then s.pendingControlOperation
  else if s.tablePending then s.pendingTableOperation
  else if s.ioPending then s.pendingIoOperation
  else (decoded i).operation

/-- The operations that retire in their first cycle. -/
def retiresOnIssue (operation : Operation) : Bool :=
  !isTwoWordControlFlow operation && !isComputedControlFlow operation && operation != .in &&
    operation != .out && operation != .tblr && operation != .tblw

/-- `retirement_boundary`. -/
def retirementBoundary : Bool :=
  if s.interruptEntryPending then false
  else if s.computedControlPending || s.controlOperandPending then instructionValid p s i
  else if s.tablePending then s.tableTransferPhase && instructionValid p s i
  else if s.ioPending then instructionValid p s i
  else instructionValid p s i && retiresOnIssue (decoded i).operation

/-- `retiring_interrupt_mask`. -/
def retiringInterruptMask : Bool :=
  if retirementBoundary p s i && retiringOperation s i == .dint then true
  else if retirementBoundary p s i && retiringOperation s i == .eint then false
  else s.interruptMask

end Signals

/-! ## Clock edge -/

section Edge

variable (p : Params) (s : State) (i : Inputs)

/-- The enabled clock that enters the interrupt. -/
def interruptEntryCycle : State :=
  { s with
    retired := false
    stack := stackNext s
    pc := 0x002
    interruptMask := true
    interruptPending := false
    interruptDelayOne := false
    interruptEntryPending := false
    illegal := false
    cycleCount := s.cycleCount + 1 }

/-- A clock whose word or address is unsupported: only `illegal_o` is set. -/
def illegalCycle : State := { s with retired := false, illegal := true }

/-- The second cycle of `CALA` and `RET`. -/
def computedControlCycle : State :=
  { s with
    pc := s.pendingComputedTarget
    stack :=
      if s.pendingComputedOperation == .cala || s.pendingComputedOperation == .ret then
        stackNext s
      else s.stack
    computedControlPending := false
    retired := true
    illegal := false
    cycleCount := s.cycleCount + 1 }

/-- The second cycle of a two-word branch or call. -/
def controlOperandCycle : State :=
  let registers : Registers :=
    match s.pendingControlOperation with
    | .banz =>
      if s.auxiliaryRegisterPointer then
        { s.toRegisters with
          auxiliaryRegister1 := auxiliaryCounterResult s i, pc := controlTarget s i }
      else
        { s.toRegisters with
          auxiliaryRegister0 := auxiliaryCounterResult s i, pc := controlTarget s i }
    | .bv =>
      { s.toRegisters with
        pc := controlTarget s i
        overflowFlag := if s.overflowFlag then false else s.overflowFlag }
    | .call => { s.toRegisters with pc := controlTarget s i, stack := stackNext s }
    | .b | .bioz | .bgez | .bgz | .blez | .blz | .bnz | .bz =>
      { s.toRegisters with pc := controlTarget s i }
    | _ => s.toRegisters
  { s with
    toRegisters := registers
    controlOperandPending := false
    retired := true
    illegal := false
    cycleCount := s.cycleCount + 1 }

/-- The registers after the auxiliary update that ends an indirect transfer. -/
def transferModify (indirect selectedArp increment decrement preserveArp nextArp : Bool) :
    Registers :=
  if indirect then
    let counted : Registers :=
      if increment || decrement then
        (if selectedArp then
          { s.toRegisters with auxiliaryRegister1 := auxiliaryCounterResult s i }
        else { s.toRegisters with auxiliaryRegister0 := auxiliaryCounterResult s i })
      else s.toRegisters
    if !preserveArp then { counted with auxiliaryRegisterPointer := nextArp } else counted
  else s.toRegisters

/-- The discarded-prefetch cycle of `TBLR` and `TBLW`. -/
def tablePrefetchCycle : State :=
  { s with
    tableTransferPhase := true
    retired := false
    illegal := false
    cycleCount := s.cycleCount + 1 }

/-- The transfer cycle of `TBLR` and `TBLW`. -/
def tableTransferCycle : State :=
  { s with
    toRegisters :=
      { transferModify s i s.pendingTableIndirect s.pendingTableSelectedArp
          s.pendingTableIncrement s.pendingTableDecrement s.pendingTablePreserveArp
          s.pendingTableNextArp with
        stack := stackNext s }
    tablePending := false
    tableTransferPhase := false
    retired := true
    illegal := false
    cycleCount := s.cycleCount + 1 }

/-- The transfer cycle of `IN` and `OUT`. -/
def ioCycle : State :=
  { s with
    toRegisters :=
      transferModify s i s.pendingIoIndirect s.pendingIoSelectedArp s.pendingIoIncrement
        s.pendingIoDecrement s.pendingIoPreserveArp s.pendingIoNextArp
    ioPending := false
    retired := true
    illegal := false
    cycleCount := s.cycleCount + 1 }

/-- The result of an accumulator-unit instruction: the sticky flag and the sum. -/
def accumulate (registers : Registers) : Registers :=
  { registers with
    overflowFlag :=
      if (accumulatorArithmetic p s i).overflow then true else s.overflowFlag
    accumulator := (accumulatorArithmetic p s i).result }

/-- The `case (decoded_operation)` of the issue cycle, without the auxiliary update. -/
def executeOperation (registers : Registers) : Registers :=
  let d := decoded i
  match d.operation with
  | .lack => { registers with accumulator := 0#24 ++ d.immediate }
  | .lac => { registers with accumulator := shiftedDataOperand p s i }
  | .lar =>
    if d.auxiliaryRegister then { registers with auxiliaryRegister1 := ramReadData p s i }
    else { registers with auxiliaryRegister0 := ramReadData p s i }
  | .ldp => { registers with dataPagePointer := (ramReadData p s i).getLsbD 0 }
  | .lt => { registers with tRegister := ramReadData p s i }
  | .ltd | .lta => accumulate p s i { registers with tRegister := ramReadData p s i }
  | .mpy | .mpyk => { registers with productRegister := multiplierProduct p s i }
  | .pac => { registers with accumulator := s.productRegister }
  | .apac | .spac | .add | .sub | .subh => accumulate p s i registers
  | .zalh => { registers with accumulator := ramReadData p s i ++ 0#16 }
  | .zals => { registers with accumulator := 0#16 ++ ramReadData p s i }
  | .addh =>
    { registers with
      accumulator := addhHighResult p s i ++ s.accumulator.extractLsb' 0 16 }
  | .adds =>
    if addsOverflow p s i then
      { registers with
        overflowFlag := true
        accumulator := if s.overflowMode then 0x7fff_ffff else addsWrappedResult p s i }
    else { registers with accumulator := addsWrappedResult p s i }
  | .xor =>
    { registers with
      accumulator := s.accumulator.extractLsb' 16 16 ++
        (s.accumulator.extractLsb' 0 16 ^^^ ramReadData p s i) }
  | .and =>
    { registers with
      accumulator := 0#16 ++ (s.accumulator.extractLsb' 0 16 &&& ramReadData p s i) }
  | .or =>
    { registers with
      accumulator := s.accumulator.extractLsb' 16 16 ++
        (s.accumulator.extractLsb' 0 16 ||| ramReadData p s i) }
  | .subs =>
    if subsOverflow p s i then
      { registers with
        overflowFlag := true
        accumulator := if s.overflowMode then 0x8000_0000 else subsWrappedResult p s i }
    else { registers with accumulator := subsWrappedResult p s i }
  | .subc =>
    { registers with
      accumulator := subcResult p s i
      overflowFlag := if subcOverflow p s i then true else s.overflowFlag }
  | .lark =>
    if d.auxiliaryRegister then { registers with auxiliaryRegister1 := 0#8 ++ d.immediate }
    else { registers with auxiliaryRegister0 := 0#8 ++ d.immediate }
  | .larp => { registers with auxiliaryRegisterPointer := d.immediate.getLsbD 0 }
  | .ldpk => { registers with dataPagePointer := d.immediate.getLsbD 0 }
  | .abs =>
    if s.accumulator.msb then
      { registers with
        accumulator :=
          if s.overflowMode && s.accumulator == 0x8000_0000 then 0x7fff_ffff
          else ~~~s.accumulator + 1 }
    else registers
  | .dint => { registers with interruptMask := true }
  | .eint => { registers with interruptMask := false }
  | .lst =>
    { registers with
      overflowFlag := (ramReadData p s i).getLsbD 15
      overflowMode := (ramReadData p s i).getLsbD 14
      auxiliaryRegisterPointer := (ramReadData p s i).getLsbD 8
      dataPagePointer := (ramReadData p s i).getLsbD 0 }
  | .zac => { registers with accumulator := 0 }
  | .rovm => { registers with overflowMode := false }
  | .sovm => { registers with overflowMode := true }
  | _ => registers

/-- The auxiliary-register update that ends the issue cycle of an indirect form. -/
def issueModify (registers : Registers) : Registers :=
  let d := decoded i
  if modifiesAuxiliary d.operation && d.indirect then
    let counted : Registers :=
      if (d.addressingField.getLsbD 5 || d.addressingField.getLsbD 4) &&
          !(d.operation == .lar && d.auxiliaryRegister == s.auxiliaryRegisterPointer) then
        (if s.auxiliaryRegisterPointer then
          { registers with auxiliaryRegister1 := auxiliaryCounterResult s i }
        else { registers with auxiliaryRegister0 := auxiliaryCounterResult s i })
      else registers
    if !d.addressingField.getLsbD 3 && d.operation != .lst then
      { counted with auxiliaryRegisterPointer := d.addressingField.getLsbD 0 }
    else counted
  else registers

/-- The pending registers a multi-cycle operation captures on issue. -/
def issueCapture : State :=
  let d := decoded i
  if isComputedControlFlow d.operation then
    { s with
      retired := false
      computedControlPending := true
      pendingComputedOperation := d.operation
      pendingComputedTarget :=
        if d.operation == .cala then s.accumulator.extractLsb' 0 12 else s.stack.top
      pendingComputedReturnAddress := s.pc + 1 }
  else if isTwoWordControlFlow d.operation then
    { s with
      retired := false
      controlOperandPending := true
      pendingControlOperation := d.operation }
  else if d.operation == .in || d.operation == .out then
    { s with
      retired := false
      ioPending := true
      pendingIoOperation := d.operation
      pendingIoPort := d.port
      pendingIoDataAddress := dataAddress s i
      pendingIoIndirect := d.indirect
      pendingIoSelectedArp := s.auxiliaryRegisterPointer
      pendingIoIncrement := d.addressingField.getLsbD 5
      pendingIoDecrement := d.addressingField.getLsbD 4
      pendingIoPreserveArp := d.addressingField.getLsbD 3
      pendingIoNextArp := d.addressingField.getLsbD 0 }
  else if d.operation == .tblr || d.operation == .tblw then
    { s with
      retired := false
      tablePending := true
      tableTransferPhase := false
      pendingTableOperation := d.operation
      pendingTableProgramAddress := s.accumulator.extractLsb' 0 12
      pendingTableDataAddress := dataAddress s i
      pendingTableIndirect := d.indirect
      pendingTableSelectedArp := s.auxiliaryRegisterPointer
      pendingTableIncrement := d.addressingField.getLsbD 5
      pendingTableDecrement := d.addressingField.getLsbD 4
      pendingTablePreserveArp := d.addressingField.getLsbD 3
      pendingTableNextArp := d.addressingField.getLsbD 0 }
  else { s with retired := true }

/-- The first cycle of a supported instruction. -/
def issueCycle : State :=
  { issueCapture s i with
    toRegisters :=
      issueModify s i (executeOperation p s i { s.toRegisters with pc := s.pc + 1 })
    illegal := false
    cycleCount := s.cycleCount + 1 }

/-- The branches of the enabled clock, before the interrupt tracker. -/
def enabledCycle : State :=
  if s.interruptEntryPending then interruptEntryCycle s
  else if s.computedControlPending then
    if instructionValid p s i then computedControlCycle s else illegalCycle s
  else if s.controlOperandPending then
    if instructionValid p s i then controlOperandCycle s i else illegalCycle s
  else if s.tablePending then
    if instructionValid p s i then
      if !s.tableTransferPhase then tablePrefetchCycle s else tableTransferCycle s i
    else illegalCycle s
  else if s.ioPending then
    if instructionValid p s i then ioCycle s i else illegalCycle s
  else if instructionValid p s i then issueCycle p s i
  else illegalCycle s

/-- The request latch and the one-instruction deferral, assigned after the branches. -/
def interruptTracker (next : State) : State :=
  if s.interruptEntryPending then next
  else
    let latched := if !i.int then { next with interruptPending := true } else next
    if retirementBoundary p s i then
      if s.interruptDelayOne then
        if retiringInterruptMask p s i then { latched with interruptDelayOne := false }
        else if extendsInterruptDeferral (retiringOperation s i) then
          { latched with interruptDelayOne := true }
        else { latched with interruptDelayOne := false, interruptEntryPending := true }
      else if (s.interruptPending || !i.int) && !retiringInterruptMask p s i then
        { latched with interruptDelayOne := true }
      else latched
    else latched

/-- The registers `initialize_i` and `reset_i` both clear. -/
def resetCycle : State :=
  { s with
    retired := false
    pc := 0
    interruptMask := true
    interruptPending := false
    interruptDelayOne := false
    interruptEntryPending := false
    illegal := false
    cycleCount := 0
    controlOperandPending := false
    pendingControlOperation := .b
    computedControlPending := false
    pendingComputedOperation := .cala
    pendingComputedTarget := 0
    pendingComputedReturnAddress := 0
    ioPending := false
    pendingIoOperation := .in
    pendingIoPort := 0
    pendingIoDataAddress := 0
    pendingIoIndirect := false
    pendingIoSelectedArp := false
    pendingIoIncrement := false
    pendingIoDecrement := false
    pendingIoPreserveArp := true
    pendingIoNextArp := false
    tablePending := false
    tableTransferPhase := false
    pendingTableOperation := .tblr
    pendingTableProgramAddress := 0
    pendingTableDataAddress := 0
    pendingTableIndirect := false
    pendingTableSelectedArp := false
    pendingTableIncrement := false
    pendingTableDecrement := false
    pendingTablePreserveArp := true
    pendingTableNextArp := false }

/-- `initialize_i` additionally gives every architectural register its FPGA value. -/
def initializeCycle : State :=
  { resetCycle s with
    accumulator := 0
    tRegister := 0
    productRegister := 0
    auxiliaryRegister0 := 0
    auxiliaryRegister1 := 0
    auxiliaryRegisterPointer := false
    dataPagePointer := false
    stack := ⟨0, 0, 0, 0⟩
    overflowFlag := false
    overflowMode := false }

/-- The ports of the internal RAM in this clock. -/
def ramInputs : InternalRam.Inputs where
  readEnable := i.internalRamReadEnable
  readAddress := dataAddress s i
  write := dataWrite s i && i.clockEnable && instructionValid p s i
  writeAddress := dataWriteAddress s i
  writeData := dataWriteData p s i
  debugWrite := i.debugDataWrite
  debugAddress := i.debugDataAddress
  debugData := i.debugData

/-- The registers after the edge, the RAM apart. -/
def nextRegisters : State :=
  if i.initializeRequest then initializeCycle s
  else if i.resetRequest then resetCycle s
  else if i.clockEnable then interruptTracker p s i (enabledCycle p s i)
  else { s with retired := false }

/-- One clock edge of `tms32010_core`. -/
def step : State :=
  { nextRegisters p s i with
    dataRam := s.dataRam.step p.registerInternalRamRead (ramInputs p s i) }

end Edge

/-! ## A power-up state -/

/-- A data RAM and captured registers that are all zero. -/
def blankRam : InternalRam := ⟨fun _ => 0, false, 0, false, 0⟩

/-- Registers that are all zero, reset. -/
def blank : State :=
  resetCycle
    { pc := 0
      accumulator := 0
      tRegister := 0
      productRegister := 0
      auxiliaryRegister0 := 0
      auxiliaryRegister1 := 0
      auxiliaryRegisterPointer := false
      dataPagePointer := false
      stack := ⟨0, 0, 0, 0⟩
      overflowFlag := false
      overflowMode := false
      interruptMask := false
      interruptPending := false
      interruptDelayOne := false
      interruptEntryPending := false
      retired := false
      illegal := false
      cycleCount := 0
      controlOperandPending := false
      pendingControlOperation := .b
      computedControlPending := false
      pendingComputedOperation := .cala
      pendingComputedTarget := 0
      pendingComputedReturnAddress := 0
      ioPending := false
      pendingIoOperation := .in
      pendingIoPort := 0
      pendingIoDataAddress := 0
      pendingIoIndirect := false
      pendingIoSelectedArp := false
      pendingIoIncrement := false
      pendingIoDecrement := false
      pendingIoPreserveArp := false
      pendingIoNextArp := false
      tablePending := false
      tableTransferPhase := false
      pendingTableOperation := .tblr
      pendingTableProgramAddress := 0
      pendingTableDataAddress := 0
      pendingTableIndirect := false
      pendingTableSelectedArp := false
      pendingTableIncrement := false
      pendingTableDecrement := false
      pendingTablePreserveArp := false
      pendingTableNextArp := false
      dataRam := blankRam }

/-- A clock with every input at rest: not enabled, interrupt and `BIO` high. -/
def restingInputs : Inputs where
  initializeRequest := false
  resetRequest := false
  clockEnable := false
  internalRamReadEnable := false
  bio := true
  int := true
  programData := 0
  ioReadData := 0
  debugDataWrite := false
  debugDataAddress := 0
  debugData := 0

end Core

end Tms32010.Rtl
