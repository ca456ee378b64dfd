import Tms32010.Rtl.Units

/-!
# The issue cycle

The enabled clock of an idle core: with no operation pending and no interrupt to
enter, the word on the program bus is decoded and executed, or captured when it
needs more cycles. The signals of that clock are the functions of the
instruction-level machine.
-/

namespace Tms32010.Rtl.Core

/-! ## Situations -/

/-- No operation of an earlier clock is pending. -/
structure Idle (s : State) : Prop where
  control : s.controlOperandPending = false
  computed : s.computedControlPending = false
  io : s.ioPending = false
  table : s.tablePending = false

/-- An enabled clock without reset and without a debug write. -/
structure Running (i : Inputs) : Prop where
  noInitialize : i.initializeRequest = false
  noReset : i.resetRequest = false
  enabled : i.clockEnable = true
  noDebug : i.debugDataWrite = false

/-- The instruction-level state a core shows, given what is outside of it. -/
def machine (s : State) (program : ProgramMemory) (ioOutput : BitVec 3 → BitVec 16)
    (cycleCount : Nat) : Isa.State where
  toRegisters := s.toRegisters
  interruptDelayOne := s.interruptDelayOne
  interruptEntryPending := s.interruptEntryPending
  data := s.dataRam.memory
  program := program
  ioOutput := ioOutput
  cycleCount := cycleCount

/-- Instructions that need more than the issue cycle. -/
def spansCycles (m : Mnemonic) : Bool :=
  m.twoWordControlFlow || m.computedControlFlow || m.tableTransfer || m.ioTransfer

section Issue

variable {p : Params} {s : State} {i : Inputs} {m : Mnemonic}

/-! ## Signals -/

section Signals

variable (found : mnemonic? i.programData = some m) (implemented : m.stackAccess = false)
  (idle : Idle s) (entry : s.interruptEntryPending = false)

include found implemented

theorem decoded_eq : decoded i = encoded i.programData m :=
  decode_of_mnemonic found implemented

include idle

theorem dataWriteAddress_issue :
    dataWriteAddress s i = if m.movesData then dataAddress s i + 1 else dataAddress s i := by
  unfold dataWriteAddress
  rw [decoded_eq found implemented, idle.io, idle.table]
  simp only [encoded, Bool.not_false, Bool.true_and, moves_operation]

include entry

theorem dataAddress_issue (data : m.dataAddressed = true) :
    dataAddress s i = s.toRegisters.dataAddress m i.programData := by
  unfold dataAddress Registers.dataAddress
  rw [decoded_eq found implemented, idle.control, idle.computed, idle.io, idle.table, entry]
  have status : (m.operation == .sst) = (m == .sst) := by
    cases m <;> rfl
  simp only [encoded, data, status]
  cases Instruction.indirect i.programData
  · have narrow : (Instruction.addressingField i.programData).extractLsb' 0 4 =
        i.programData.extractLsb' 0 4 :=
      Halves.extract_extract i.programData (by decide)
    simp only [narrow]
    rfl
  · unfold Registers.auxiliaryRegister
    cases s.auxiliaryRegisterPointer <;> rfl

/-- The core accepts a decoded word unless its data address is unsupported or the
parameter leaves computed control out. -/
theorem instructionValid_issue (running : Running i) (program : ProgramMemory)
    (ioOutput : BitVec 3 → BitVec 16) (cycleCount : Nat) :
    instructionValid p s i =
      ((p.enableInferredComputedControl || !m.computedControlFlow) &&
        (Isa.dataFault? m i.programData (machine s program ioOutput cycleCount)).isNone) := by
  have writeAddress := dataWriteAddress_issue found implemented idle
  have keeps : (m.operation != .dmov && m.operation != .ltd) = !m.movesData := by
    rw [← moves_operation, Bool.not_or]
    rfl
  unfold instructionValid Isa.dataFault? ramAddressValid ramWriteAddressValid
  rw [decoded_eq found implemented, idle.control, idle.computed, idle.io, idle.table, entry,
    running.noInitialize, running.noReset, writeAddress]
  simp only [encoded, isComputedControlFlow_operation, keeps, Bool.false_eq_true, if_false,
    Bool.or_self, Bool.true_and]
  congr 1
  have same : (machine s program ioOutput cycleCount).dataAddress m i.programData =
      s.toRegisters.dataAddress m i.programData := rfl
  rw [same]
  cases data : m.dataAddressed
  · rfl
  · rw [dataAddress_issue found implemented idle entry data]
    generalize s.toRegisters.dataAddress m i.programData = address
    simp only [Bool.not_true, Bool.false_or, if_true]
    cases m.movesData
    · cases DataRam.addressValid address <;> simp
    · simp only [if_true]
      generalize DataRam.addressValid (address + 1) = nextValid
      cases DataRam.addressValid address <;> cases nextValid <;> simp

end Signals

/-- A word without an implemented mnemonic is not accepted. -/
theorem instructionValid_issue_unsupported (idle : Idle s)
    (entry : s.interruptEntryPending = false) (rejected : (decoded i).valid = false) :
    instructionValid p s i = false := by
  unfold instructionValid
  rw [idle.control, idle.computed, idle.io, idle.table, entry, rejected]
  simp

/-! ## Execution -/

/-- The accumulator unit on the operand an arithmetic operation selects. -/
theorem accumulate_add (registers : Registers) (operand : BitVec 32)
    (addition : accumulatorArithmeticSubtract i = false)
    (selected : accumulatorArithmeticOperand p s i = operand)
    (flag : registers.overflowFlag = s.overflowFlag)
    (accumulator : registers.accumulator = s.accumulator)
    (mode : registers.overflowMode = s.overflowMode) :
    accumulate p s i registers = registers.addAccumulator operand := by
  unfold accumulate accumulatorArithmetic
  rw [addition, selected, accumulatorUnit_add, addAccumulator_eq, flag, accumulator, mode]

theorem accumulate_subtract (registers : Registers) (operand : BitVec 32)
    (subtraction : accumulatorArithmeticSubtract i = true)
    (selected : accumulatorArithmeticOperand p s i = operand)
    (flag : registers.overflowFlag = s.overflowFlag)
    (accumulator : registers.accumulator = s.accumulator)
    (mode : registers.overflowMode = s.overflowMode) :
    accumulate p s i registers = registers.subtractAccumulator operand := by
  unfold accumulate accumulatorArithmetic
  rw [subtraction, selected, accumulatorUnit_subtract, subtractAccumulator_eq, flag, accumulator,
    mode]

section Execution

variable (found : mnemonic? i.programData = some m) (implemented : m.stackAccess = false)

/-- An encoded word never asks for both counter controls. -/
theorem single_counter_control {word : BitVec 16} (found : mnemonic? word = some m)
    (modifies : m.modifiesAuxiliary = true) (indirect : Instruction.indirect word = true) :
    (Instruction.increment word && Instruction.decrement word) = false := by
  have byte := addressingByteValid_of_modifies found modifies
  unfold addressingByteValid at byte
  have bit : word.getLsbD 7 = true := indirect
  rw [lowByte_bit _ 7 (by decide), lowByte_bit _ 5 (by decide), lowByte_bit _ 4 (by decide),
    bit] at byte
  simp only [Bool.not_true, Bool.false_or, Bool.and_eq_true, Bool.not_eq_true'] at byte
  exact byte.2

include found implemented

theorem auxiliaryCounterResult_issue (idle : Idle s) (modifies : m.modifiesAuxiliary = true)
    (indirect : Instruction.indirect i.programData = true) :
    auxiliaryCounterResult s i =
      Registers.counted i.programData
        (s.auxiliaryRegister s.auxiliaryRegisterPointer) := by
  have addressed : (m.dataAddressed || m.operation == .mar) = true := by
    cases m <;> first | rfl | exact absurd modifies (by decide)
  have control : auxiliaryCounterControl s i =
      (s.auxiliaryRegisterPointer, Instruction.increment i.programData,
        Instruction.decrement i.programData) := by
    have increment : (Instruction.addressingField i.programData).getLsbD 5 =
        Instruction.increment i.programData := by
      simp
    have decrement : (Instruction.addressingField i.programData).getLsbD 4 =
        Instruction.decrement i.programData := by
      simp
    unfold auxiliaryCounterControl
    rw [decoded_eq found implemented, idle.control, idle.io, idle.table]
    simp only [encoded, addressed, indirect, increment, decrement, Bool.false_and,
      Bool.false_eq_true, if_false, Bool.and_self, if_true]
  unfold auxiliaryCounterResult
  rw [control]
  exact auxiliaryCounter_eq i.programData _ (single_counter_control found modifies indirect)

/-- The `case` of the issue cycle is the machine's `execute`. -/
theorem executeOperation_eq (table : m.tableTransfer = false) :
    executeOperation p s i { s.toRegisters with pc := s.pc + 1 } =
      Registers.execute { s.toRegisters with pc := s.pc + 1 } m i.programData
        (ramReadData p s i) := by
  have decoded := decoded_eq found implemented
  have operandEq : accumulatorArithmeticOperand p s i =
      if m = .apac ∨ m = .spac ∨ m = .lta ∨ m = .ltd then s.productRegister
      else if m = .subh then ramReadData p s i ++ 0#16
      else (ramReadData p s i).signExtend 32 <<<
        (if m = .sach then 0#1 ++ Instruction.storeShift i.programData
          else Instruction.shift i.programData).toNat := by
    unfold accumulatorArithmeticOperand shiftedDataOperand
    rw [decoded]
    cases m <;> rfl
  have subtractEq : accumulatorArithmeticSubtract i =
      (m == .sub || m == .subh || m == .spac) := by
    unfold accumulatorArithmeticSubtract
    rw [decoded]
    cases m <;> rfl
  unfold executeOperation
  rw [decoded]
  cases m with
  | add | apac =>
      exact accumulate_add _ _ (by rw [subtractEq]; rfl) (by rw [operandEq]; rfl) rfl rfl rfl
  | sub | subh | spac =>
      exact accumulate_subtract _ _ (by rw [subtractEq]; rfl) (by rw [operandEq]; rfl) rfl rfl rfl
  | lta | ltd =>
      have sum := accumulate_add (p := p) (s := s) (i := i)
        { s.toRegisters with pc := s.pc + 1, tRegister := ramReadData p s i } s.productRegister
        (by rw [subtractEq]; rfl) (by rw [operandEq]; rfl) rfl rfl rfl
      refine sum.trans ?_
      rw [addAccumulator_eq]
      simp only [Registers.execute, addAccumulator_eq]
  | lack =>
      have widened : 0#24 ++ Instruction.lowByte i.programData =
          (Instruction.lowByte i.programData).setWidth 32 :=
        (Halves.setWidth_add (m := 24) _).symm
      simp only [encoded, Registers.execute, Mnemonic.operation, widened]
  | lark =>
      have widened : 0#8 ++ Instruction.lowByte i.programData =
          (Instruction.lowByte i.programData).setWidth 16 :=
        (Halves.setWidth_add (m := 8) _).symm
      simp only [encoded, Registers.execute, Mnemonic.operation, widened]
      rfl
  | lac =>
      simp only [encoded, Registers.execute, Mnemonic.operation, shiftedDataOperand, decoded]
      rfl
  | mpy =>
      simp only [encoded, Registers.execute, Mnemonic.operation, multiplierProduct,
        multiplierOperand, decoded, multiplierUnit_eq]
      rfl
  | mpyk =>
      simp only [encoded, Registers.execute, Mnemonic.operation, multiplierProduct,
        multiplierOperand, decoded, beq_self_eq_true, if_true, multiplierUnit_constant]
  | adds =>
      simp only [encoded, Registers.execute, Mnemonic.operation, addsOverflow, addsWrappedResult,
        widen_eq, Registers.addAccumulator]
      rw [adds_overflow]
      cases overflow : s.accumulator.saddOverflow ((ramReadData p s i).setWidth 32)
      · rfl
      · have positive : s.accumulator.msb = false := by
          rw [← adds_overflow, Bool.and_eq_true, Bool.not_eq_true'] at overflow
          exact overflow.1
        simp only [if_true, positive, Bool.false_eq_true, if_false]
        rfl
  | subs =>
      simp only [encoded, Registers.execute, Mnemonic.operation, subsOverflow, subsWrappedResult,
        widen_eq, Registers.subtractAccumulator]
      rw [subs_overflow]
      cases overflow : s.accumulator.ssubOverflow ((ramReadData p s i).setWidth 32)
      · rfl
      · have negative : s.accumulator.msb = true := by
          rw [← subs_overflow, Bool.and_eq_true] at overflow
          exact overflow.1
        simp only [if_true, negative]
        rfl
  | subc =>
      simp only [encoded, Registers.execute, Mnemonic.operation, subcResult, subcOverflow,
        subcIntermediate, subcOperand, widen_eq, Registers.conditionalSubtract]
      rw [subc_overflow]
      cases s.accumulator.ssubOverflow ((ramReadData p s i).setWidth 32 <<< 15)
      · simp only [Bool.or_false]
        rfl
      · simp only [Bool.or_true, if_true]
  | addh => rfl
  | xor =>
      simp only [encoded, Registers.execute, Mnemonic.operation, xor_low]
  | and =>
      simp only [encoded, Registers.execute, Mnemonic.operation, and_low]
  | or =>
      simp only [encoded, Registers.execute, Mnemonic.operation, or_low]
  | abs =>
      have negated : ~~~s.accumulator + 1 = -s.accumulator := (BitVec.neg_eq_not_add _).symm
      have extremes : BitVec.intMin 32 = 0x8000_0000 ∧ BitVec.intMax 32 = 0x7fff_ffff := by
        decide
      simp only [encoded, Registers.execute, Mnemonic.operation, Registers.absolute, negated,
        extremes]
  | larp | ldpk =>
      have bit := lowByte_bit i.programData 0 (by decide)
      simp only [encoded, Registers.execute, Mnemonic.operation, bit]
  | zals =>
      simp only [encoded, Registers.execute, Mnemonic.operation, widen_eq]
  | tblr | tblw => exact absurd table (by decide)
  | _ => rfl

/-- An operation that spans cycles executes nothing on issue. -/
theorem executeOperation_spans (spans : spansCycles m = true) (registers : Registers) :
    executeOperation p s i registers = registers := by
  unfold executeOperation
  rw [decoded_eq found implemented]
  cases m with
  | b | banz | bv | bioz | call | bgez | bgz | blez | blz | bnz | bz | cala | ret | «in» | out
  | tblr | tblw => rfl
  | _ => exact absurd spans (by decide)

/-- The counter update, when it is not suppressed. -/
theorem counted_register (idle : Idle s) (modifies : m.modifiesAuxiliary = true)
    (indirect : Instruction.indirect i.programData = true) (executed : Registers)
    (kept : executed.auxiliaryRegister s.auxiliaryRegisterPointer =
      s.auxiliaryRegister s.auxiliaryRegisterPointer) :
    (if Instruction.increment i.programData || Instruction.decrement i.programData then
      (if s.auxiliaryRegisterPointer then
        { executed with auxiliaryRegister1 := auxiliaryCounterResult s i }
      else { executed with auxiliaryRegister0 := auxiliaryCounterResult s i } : Registers)
    else executed) =
      executed.setAuxiliaryRegister s.auxiliaryRegisterPointer
        (Registers.counted i.programData
          (executed.auxiliaryRegister s.auxiliaryRegisterPointer)) := by
  have unchanged : executed.setAuxiliaryRegister s.auxiliaryRegisterPointer
      (executed.auxiliaryRegister s.auxiliaryRegisterPointer) = executed := by
    cases s.auxiliaryRegisterPointer <;> rfl
  rw [auxiliaryCounterResult_issue found implemented idle modifies indirect, ← kept]
  cases counts : Instruction.increment i.programData || Instruction.decrement i.programData
  · rw [Bool.or_eq_false_iff] at counts
    simp only [Registers.counted, counts, Bool.false_eq_true, if_false, unchanged]
  · rfl

/-- The auxiliary update that ends the issue cycle. The counter counts the value
before execution, so it needs the selected register untouched unless it is the
one `LAR` loads. -/
theorem issueModify_eq (idle : Idle s) (spans : spansCycles m = false) (executed : Registers)
    (kept : m.modifiesAuxiliary = true →
      (m == .lar && Instruction.auxiliaryRegister i.programData == s.auxiliaryRegisterPointer) =
        false →
      executed.auxiliaryRegister s.auxiliaryRegisterPointer =
        s.auxiliaryRegister s.auxiliaryRegisterPointer) :
    issueModify s i executed =
      executed.postModify m i.programData s.auxiliaryRegisterPointer := by
  have modifies : modifiesAuxiliary m.operation = m.modifiesAuxiliary := by
    simp only [spansCycles, Bool.or_eq_false_iff] at spans
    rw [modifiesAuxiliary_operation, spans.1.2, spans.2]
    simp
  have lar : (m.operation == .lar) = (m == .lar) := by cases m <;> rfl
  have lst : (m.operation != .lst) = (m != .lst) := by cases m <;> rfl
  unfold issueModify Registers.postModify
  rw [decoded_eq found implemented]
  simp only [encoded, modifies, lar, lst, addressingField_bit, Nat.reduceLT]
  cases updates : m.modifiesAuxiliary && Instruction.indirect i.programData
  · simp only [Bool.false_eq_true, if_false]
  rw [Bool.and_eq_true] at updates
  simp only [if_true]
  cases suppressed :
    (m == .lar && Instruction.auxiliaryRegister i.programData == s.auxiliaryRegisterPointer)
  · simp only [Bool.not_false, Bool.and_true, Bool.false_eq_true, if_false]
    rw [counted_register found implemented idle updates.1 updates.2 executed
      (kept updates.1 suppressed)]
  · simp only [Bool.not_true, Bool.and_false, Bool.false_eq_true, if_false, if_true]

end Execution

/-! ## Data memory -/

/-- The data memory after an enabled clock. -/
theorem memory_step (running : Running i) :
    (step p s i).dataRam.memory =
      if dataWrite s i && instructionValid p s i then
        s.dataRam.memory.write (dataWriteAddress s i) (dataWriteData p s i)
      else s.dataRam.memory := by
  have ignored (address : BitVec 8) (value : BitVec 16)
      (invalid : DataRam.addressValid address = false) :
      s.dataRam.memory.write address value = s.dataRam.memory := by
    rw [← Bool.not_eq_true, DataRam.addressValid_iff] at invalid
    simp [DataRam.write, invalid]
  unfold step
  simp only [InternalRam.step_memory, InternalRam.nextMemory, ramInputs, running.noDebug,
    running.enabled, Bool.false_and, Bool.false_eq_true, if_false, Bool.and_true]
  cases dataWrite s i && instructionValid p s i
  · rfl
  · cases valid : DataRam.addressValid (dataWriteAddress s i)
    · rw [ignored _ _ valid]
      rfl
    · rfl

section Store

variable (found : mnemonic? i.programData = some m) (implemented : m.stackAccess = false)
  (idle : Idle s) (entry : s.interruptEntryPending = false)

include found implemented idle

theorem dataWrite_issue (entry : s.interruptEntryPending = false) (running : Running i) :
    dataWrite s i = (m.storesRegister || m.movesData) := by
  unfold dataWrite
  rw [decoded_eq found implemented, running.noInitialize, running.noReset, entry, idle.control,
    idle.io, idle.table]
  simp only [encoded, writesData_operation]
  simp

theorem dataWriteData_move (moves : m.movesData = true) :
    dataWriteData p s i = ramReadData p s i := by
  unfold dataWriteData
  rw [decoded_eq found implemented, idle.io, idle.table]
  simp only [encoded, moves_operation, moves, Bool.false_and, Bool.false_eq_true, if_false,
    if_true]

/-- The word a store writes is the machine's. -/
theorem dataWriteData_store (stores : m.storesRegister = true) :
    dataWriteData p s i = s.toRegisters.storeWord m i.programData := by
  have decoded := decoded_eq found implemented
  unfold dataWriteData
  rw [decoded, idle.io, idle.table]
  cases m with
  | sacl => rfl
  | sach =>
      have shift : ((encoded i.programData .sach).shift).extractLsb' 0 3 =
          Instruction.storeShift i.programData :=
        BitVec.extractLsb'_append_eq_right
      have word := outputShifter_eq s.accumulator (storeShift_of_sach found)
      change (shiftedAccumulator s i).2 = _
      unfold shiftedAccumulator
      rw [decoded, shift]
      exact word
  | sst => rfl
  | sar =>
      change (if Instruction.indirect i.programData &&
            Instruction.auxiliaryRegister i.programData == s.auxiliaryRegisterPointer then
          auxiliaryCounterResult s i
        else s.auxiliaryRegister (Instruction.auxiliaryRegister i.programData)) = _
      simp only [Registers.storeWord]
      split
      · rename_i counts
        rw [Bool.and_eq_true, beq_iff_eq] at counts
        rw [auxiliaryCounterResult_issue found implemented idle rfl counts.1, counts.2]
      · rfl
  | _ => exact absurd stores (by decide)

end Store

end Issue

end Tms32010.Rtl.Core
