import Tms32010.Isa.Machine
import Tms32010.Rtl.Core
import Tms32010.Rtl.DecodeTable

/-!
# The datapath units compute the register transfers

Each storage-free unit of the core computes, on the operands the core gives it,
the corresponding register transfer of the instruction-level machine.
-/

namespace Tms32010.Rtl

/-! ## Operation classes -/

section Classes

variable {m : Mnemonic}

theorem isTwoWordControlFlow_operation :
    isTwoWordControlFlow m.operation = m.twoWordControlFlow := by
  cases m <;> rfl

theorem isComputedControlFlow_operation :
    isComputedControlFlow m.operation = m.computedControlFlow := by
  cases m <;> rfl

theorem extendsInterruptDeferral_operation :
    extendsInterruptDeferral m.operation = m.multiplies := by
  cases m <;> rfl

theorem writesData_operation :
    writesData m.operation = (m.storesRegister || m.movesData) := by
  cases m <;> rfl

theorem moves_operation :
    (m.operation == .dmov || m.operation == .ltd) = m.movesData := by
  cases m <;> rfl

/-- The operations whose auxiliary update the issue cycle makes; the transfers
make theirs when they complete. -/
theorem modifiesAuxiliary_operation :
    modifiesAuxiliary m.operation =
      (m.modifiesAuxiliary && !m.tableTransfer && !m.ioTransfer) := by
  cases m <;> rfl

end Classes

/-! ## Accumulator unit -/

section Accumulator

variable (acc operand : BitVec 32) (mode : Bool)

theorem accumulatorUnit_add :
    accumulatorUnit acc operand false mode =
      { wrappedResult := acc + operand
        overflow := acc.saddOverflow operand
        result :=
          if acc.saddOverflow operand && mode then
            (if acc.msb then BitVec.intMin 32 else BitVec.intMax 32)
          else acc + operand } := by
  have overflow : (!(acc.msb ^^ operand.msb) && (acc.msb ^^ (acc + operand).msb)) =
      acc.saddOverflow operand := by
    rw [BitVec.saddOverflow_eq]
    cases acc.msb <;> cases operand.msb <;> cases (acc + operand).msb <;> rfl
  unfold accumulatorUnit
  simp only [Bool.false_eq_true, if_false, overflow]
  rfl

theorem accumulatorUnit_subtract :
    accumulatorUnit acc operand true mode =
      { wrappedResult := acc - operand
        overflow := acc.ssubOverflow operand
        result :=
          if acc.ssubOverflow operand && mode then
            (if acc.msb then BitVec.intMin 32 else BitVec.intMax 32)
          else acc - operand } := by
  have overflow : ((acc.msb ^^ operand.msb) && (acc.msb ^^ (acc - operand).msb)) =
      acc.ssubOverflow operand := by
    rw [BitVec.ssubOverflow_eq]
    cases acc.msb <;> cases operand.msb <;> cases (acc - operand).msb <;> rfl
  unfold accumulatorUnit
  simp only [if_true, overflow]
  rfl

/-- The registers after an addition, as one record. -/
theorem addAccumulator_eq (r : Registers) :
    r.addAccumulator operand =
      { r with
        overflowFlag :=
          if r.accumulator.saddOverflow operand then true else r.overflowFlag
        accumulator :=
          if r.accumulator.saddOverflow operand && r.overflowMode then
            (if r.accumulator.msb then BitVec.intMin 32 else BitVec.intMax 32)
          else r.accumulator + operand } := by
  unfold Registers.addAccumulator
  cases r.accumulator.saddOverflow operand
  · rfl
  · rfl

theorem subtractAccumulator_eq (r : Registers) :
    r.subtractAccumulator operand =
      { r with
        overflowFlag :=
          if r.accumulator.ssubOverflow operand then true else r.overflowFlag
        accumulator :=
          if r.accumulator.ssubOverflow operand && r.overflowMode then
            (if r.accumulator.msb then BitVec.intMin 32 else BitVec.intMax 32)
          else r.accumulator - operand } := by
  unfold Registers.subtractAccumulator
  cases r.accumulator.ssubOverflow operand
  · rfl
  · rfl

end Accumulator

/-! ## Widened operands -/

section Widened

variable (acc : BitVec 32) (word : BitVec 16)

theorem widen_eq : 0#16 ++ word = word.setWidth 32 := (Halves.setWidth_add word).symm

theorem widened_msb : (word.setWidth 32).msb = false := by
  rw [BitVec.msb_setWidth]
  simp

/-- `ADDS` tests one sign only, its operand being nonnegative. -/
theorem adds_overflow :
    (!acc.msb && (acc + word.setWidth 32).msb) = acc.saddOverflow (word.setWidth 32) := by
  rw [BitVec.saddOverflow_eq, widened_msb]
  cases acc.msb <;> cases (acc + word.setWidth 32).msb <;> rfl

theorem subs_overflow :
    (acc.msb && !(acc - word.setWidth 32).msb) = acc.ssubOverflow (word.setWidth 32) := by
  rw [BitVec.ssubOverflow_eq, widened_msb]
  cases acc.msb <;> cases (acc - word.setWidth 32).msb <;> rfl

theorem subc_overflow (operand : BitVec 32) :
    ((acc.msb ^^ operand.msb) && (acc.msb ^^ (acc - operand).msb)) =
      acc.ssubOverflow operand := by
  rw [BitVec.ssubOverflow_eq]
  cases acc.msb <;> cases operand.msb <;> cases (acc - operand).msb <;> rfl

theorem xor_low :
    acc.extractLsb' 16 16 ++ (acc.extractLsb' 0 16 ^^^ word) = acc ^^^ word.setWidth 32 := by
  rw [Halves.xor_setWidth (m := 16) (n := 16)]

theorem and_low :
    0#16 ++ (acc.extractLsb' 0 16 &&& word) = acc &&& word.setWidth 32 := by
  rw [Halves.and_setWidth (m := 16) (n := 16)]

theorem or_low :
    acc.extractLsb' 16 16 ++ (acc.extractLsb' 0 16 ||| word) = acc ||| word.setWidth 32 := by
  rw [Halves.or_setWidth (m := 16) (n := 16)]

end Widened

/-! ## Shifters, multiplier and counter -/

theorem shifted_slice (acc : BitVec 32) (k : Nat) (small : k ≤ 4) :
    (acc.extractLsb' 12 20).extractLsb' (4 - k) 16 = (acc <<< k).extractLsb' 16 16 := by
  rw [Halves.extract_extract acc (by omega)]
  apply BitVec.eq_of_getLsbD_eq
  intro j bound
  have position : 12 + (4 - k) + j = 16 + j - k := by omega
  have inside : ¬16 + j < k := by omega
  simp [bound, position, inside]
  omega

/-- The output shifter stores the high half of the shifted accumulator, for the
three shifts it supports. -/
theorem outputShifter_eq (acc : BitVec 32) {shift : BitVec 3}
    (supported : shift = 0 ∨ shift = 1 ∨ shift = 4) :
    (outputShifter (acc.extractLsb' 12 20) shift).2 =
      (acc <<< shift.toNat).extractLsb' 16 16 := by
  rcases supported with rfl | rfl | rfl
  · exact shifted_slice acc 0 (by decide)
  · exact shifted_slice acc 1 (by decide)
  · exact shifted_slice acc 4 (by decide)

theorem multiplierUnit_eq (multiplicand multiplier : BitVec 16) :
    multiplierUnit multiplicand multiplier = Registers.product multiplicand multiplier := by
  unfold multiplierUnit Registers.product
  simp only [Bool.and_eq_true, beq_iff_eq]

/-- A 13-bit constant is never the exceptional multiplier. -/
theorem multiplierUnit_constant (multiplicand : BitVec 16) (constant : BitVec 13) :
    multiplierUnit multiplicand (constant.signExtend 16) =
      multiplicand.signExtend 32 * constant.signExtend 32 := by
  have plain : constant.signExtend 16 ≠ 0x8000 := by
    intro exceptional
    have value := congrArg BitVec.toInt exceptional
    rw [BitVec.toInt_signExtend_of_le (by decide)] at value
    have lower : -4096 ≤ constant.toInt := BitVec.le_toInt constant
    have literal : (0x8000 : BitVec 16).toInt = -32768 := by decide
    rw [literal] at value
    omega
  have widened : (constant.signExtend 16).signExtend 32 = constant.signExtend 32 := by
    apply BitVec.eq_of_toInt_eq
    rw [BitVec.toInt_signExtend_of_le (by decide), BitVec.toInt_signExtend_of_le (by decide),
      BitVec.toInt_signExtend_of_le (by decide)]
  unfold multiplierUnit
  rw [if_neg (by simpa using fun _ => plain), widened]

theorem auxiliaryCounter_eq (word value : BitVec 16)
    (single : (Instruction.increment word && Instruction.decrement word) = false) :
    auxiliaryCounter value (Instruction.increment word) (Instruction.decrement word) =
      Registers.counted word value := by
  have minus : value.extractLsb' 0 9 - 1 = value.extractLsb' 0 9 + (-1) :=
    BitVec.sub_eq_add_neg _ _
  unfold auxiliaryCounter Registers.counted auxiliaryCounterControlValid Registers.count
  rw [single, minus]
  rfl

theorem auxiliaryCounter_decrement (value : BitVec 16) :
    auxiliaryCounter value false true = Registers.count value (-1) := by
  have minus : value.extractLsb' 0 9 - 1 = value.extractLsb' 0 9 + (-1) :=
    BitVec.sub_eq_add_neg _ _
  unfold auxiliaryCounter Registers.count
  rw [minus]
  rfl

end Tms32010.Rtl
