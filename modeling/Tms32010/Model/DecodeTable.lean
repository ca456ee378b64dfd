import Mathlib.Data.Nat.Bitwise
import Mathlib.Tactic.IntervalCases
import Tms32010.Model.Image

/-!
# `_decode` and the encoding table

The decoder of the reference model tests masked opcodes one family after the
other. Every test but those of `LARP` and `LDPK` and the exact words reads the
high byte alone, so the decoder factors through a row of the encoding table.
-/

namespace Tms32010.Model

/-! ## Masks of a split opcode -/

/-- A mask that is zero in the low bits reads the high part only. -/
theorem mask_above (n high mask : Nat) {low : Nat} (lowBound : low < 2 ^ n) :
    (2 ^ n * high + low) &&& (2 ^ n * mask) = 2 ^ n * (high &&& mask) := by
  apply Nat.eq_of_testBit_eq
  intro k
  rw [Nat.testBit_and, Nat.testBit_two_pow_mul_add _ lowBound, Nat.testBit_two_pow_mul,
    Nat.testBit_two_pow_mul, Nat.testBit_and]
  by_cases below : k < n
  · simp [below, Nat.not_le_of_lt below]
  · simp [below, Nat.le_of_not_lt below]

theorem mask_high {high low mask : Nat} (lowBound : low < 256) (byteMask : mask % 256 = 0) :
    (256 * high + low) &&& mask = 256 * (high &&& (mask / 256)) := by
  have mask_eq : mask = 2 ^ 8 * (mask / 256) := by omega
  conv_lhs => rw [mask_eq]
  exact mask_above 8 _ _ lowBound

theorem mask_high_eq {high low mask value : Nat} (lowBound : low < 256)
    (byteMask : mask % 256 = 0) (byteValue : value % 256 = 0) :
    (256 * high + low) &&& mask = value ↔ high &&& (mask / 256) = value / 256 := by
  rw [mask_high lowBound byteMask]
  omega

theorem mask_even_eq {high low value : Nat} (highBound : high < 256) (lowBound : low < 256)
    (even : value % 2 = 0) :
    (256 * high + low) &&& 0xFFFE = value ↔
      high = value / 256 ∧ (low = value % 256 ∨ low = value % 256 + 1) := by
  have mask : (256 * high + low) &&& 0xFFFE = 2 * ((256 * high + low) / 2) := by
    have halves : ((256 * high + low) / 2) &&& 0x7FFF = (256 * high + low) / 2 := by
      have remainder := Nat.and_two_pow_sub_one_eq_mod ((256 * high + low) / 2) 15
      norm_num at remainder
      omega
    rw [← halves]
    apply Nat.eq_of_testBit_eq
    intro k
    cases k with
    | zero => simp
    | succ k =>
        rw [Nat.testBit_and, Nat.testBit_succ, Nat.testBit_succ, Nat.testBit_succ,
          Nat.mul_div_cancel_left _ (by decide), Nat.testBit_and]
  rw [mask]
  omega

theorem mask_byte {high : Nat} (highBound : high < 256) : high &&& 0xFF = high := by
  rw [Nat.and_two_pow_sub_one_eq_mod high 8]
  exact Nat.mod_eq_of_lt highBound

theorem low_seven {high low : Nat} : (256 * high + low) &&& 0x7F = low &&& 0x7F := by
  have left := Nat.and_two_pow_sub_one_eq_mod (256 * high + low) 7
  have right := Nat.and_two_pow_sub_one_eq_mod low 7
  norm_num at left right
  omega

theorem bit_seven {high low : Nat} :
    ((256 * high + low) >>> 7) &&& 1 = (low >>> 7) &&& 1 := by
  simp only [Nat.shiftRight_eq_div_pow, Nat.and_one_is_mod]
  omega

/-! ## Rows -/

/-- The dictionary entries a mnemonic has besides its addressing byte. -/
def entries (m : Mnemonic) (opcode : Nat) : Operands :=
  match m with
  | .in | .out => { port := some ((opcode >>> 8) &&& 0x7) }
  | .add | .sub | .lac => { shift := some ((opcode >>> 8) &&& 0xF) }
  | .sar | .lar => { auxiliaryRegister := some ((opcode >>> 8) &&& 1) }
  | .sach => { shift := some ((opcode >>> 8) &&& 0x7) }
  | .lack => { constant := some (opcode &&& 0xFF : Nat) }
  | .lark =>
      { auxiliaryRegister := some ((opcode >>> 8) &&& 1)
        constant := some (opcode &&& 0xFF : Nat) }
  | .mpyk => { constant := some (mpykConstant opcode) }
  | .larp | .ldpk => { constant := some (opcode &&& 1 : Nat) }
  | _ => {}

/-- The rows `decodeLast` tests for, in its order. -/
def lastRow (high : Nat) : Encoding :=
  if high &&& 0xFE = 0x70 then .constant .lark
  else if high &&& 0xFF = 0x68 then .auxiliary
  else if high &&& 0xFF = 0x6F then .addressed .ldp
  else if high &&& 0xFF = 0x6A then .addressed .lt
  else if high &&& 0xFF = 0x69 then .addressed .dmov
  else if high &&& 0xFF = 0x6C then .addressed .lta
  else if high &&& 0xFF = 0x6B then .addressed .ltd
  else if high &&& 0xFF = 0x6D then .addressed .mpy
  else if high &&& 0xE0 = 0x80 then .constant .mpyk
  else if high = 0x6E then .page
  else if high = 0x7F then .fixed
  else .unassigned

/-- The rows `decodeArithmetic` tests for, in its order. -/
def arithmeticRow (high : Nat) : Encoding :=
  if high &&& 0xFF = 0x65 ∨ high &&& 0xFF = 0x66 then
    .addressed (if high &&& 0xFF = 0x65 then .zalh else .zals)
  else if high &&& 0xFF = 0x61 then .addressed .adds
  else if high &&& 0xFF = 0x60 then .addressed .addh
  else if high &&& 0xFF = 0x62 ∨ high &&& 0xFF = 0x63 then
    .addressed (if high &&& 0xFF = 0x62 then .subh else .subs)
  else if high &&& 0xFF = 0x64 then .addressed .subc
  else if high &&& 0xFF = 0x78 ∨ high &&& 0xFF = 0x79 ∨ high &&& 0xFF = 0x7A ∨
      high &&& 0xFF = 0x7B then
    .addressed
      (if high &&& 0xFF = 0x78 then .xor
       else if high &&& 0xFF = 0x79 then .and
       else if high &&& 0xFF = 0x7A then .or
       else .lst)
  else if high &&& 0xFF = 0x7C then .statusStore
  else lastRow high

/-- The rows `decodeRest` tests for, in its order. -/
def restRow (high : Nat) : Encoding :=
  if high &&& 0xF8 = 0x40 ∨ high &&& 0xF8 = 0x48 then
    .addressed (if high &&& 0xF8 = 0x40 then .in else .out)
  else if high &&& 0xFF = 0x67 ∨ high &&& 0xFF = 0x7D then
    .addressed (if high &&& 0xFF = 0x67 then .tblr else .tblw)
  else if high &&& 0xF0 = 0x00 then .addressed .add
  else if high &&& 0xF0 = 0x10 then .addressed .sub
  else if high &&& 0xF0 = 0x20 then .addressed .lac
  else if high &&& 0xFE = 0x30 then .addressed .sar
  else if high &&& 0xFE = 0x38 then .addressed .lar
  else if high &&& 0xFF = 0x7E then .constant .lack
  else if high &&& 0xFF = 0x50 then .addressed .sacl
  else if high &&& 0xF8 = 0x58 then
    if high &&& 0x7 = 0 ∨ high &&& 0x7 = 1 ∨ high &&& 0x7 = 4 then .addressed .sach
    else .unassigned
  else arithmeticRow high

/-- What the decoder does in a row. -/
def decodeRow (row : Encoding) (high low pc : Nat) : DecodeResult :=
  let opcode := 256 * high + low
  match row with
  | .addressed m => decodeAddressed pc opcode m (entries m opcode)
  | .statusStore => decodeSst pc opcode
  | .auxiliary =>
      if low = 0x80 ∨ low = 0x81 then .ok (.larp, entries .larp opcode)
      else decodeAddressed pc opcode .mar
  | .constant m => .ok (m, entries m opcode)
  | .page =>
      if low = 0 ∨ low = 1 then .ok (.ldpk, entries .ldpk opcode)
      else .error (.unsupportedOpcode pc opcode)
  | .branch m => if low = 0 then .ok (m, {}) else .error (.unsupportedOpcode pc opcode)
  | .fixed => decodeFixed opcode pc
  | .unassigned => .error (.unsupportedOpcode pc opcode)

theorem fixed_of_high_ne {high low : Nat} (lowBound : low < 256) (ne : high ≠ 0x7F) :
    fixed (256 * high + low) = none := by
  have values : ∀ value, 0x7F00 ≤ value → value < 0x8000 → 256 * high + low ≠ value := by
    intro value lower upper
    omega
  unfold fixed
  simp [values]

theorem decodeFixed_of_high_ne {high low : Nat} (lowBound : low < 256) (ne : high ≠ 0x7F)
    (pc : Nat) :
    decodeFixed (256 * high + low) pc = .error (.unsupportedOpcode pc (256 * high + low)) := by
  simp [decodeFixed, fixed_of_high_ne lowBound ne]

theorem decodeLast_eq_row {high low : Nat} (highBound : high < 256) (lowBound : low < 256)
    (pc : Nat) : decodeLast (256 * high + low) pc = decodeRow (lastRow high) high low pc := by
  unfold decodeLast lastRow
  simp only [mask_high_eq lowBound, mask_even_eq highBound lowBound, mask_byte highBound,
    Nat.reduceDiv, Nat.reduceMod, Nat.reduceAdd]
  by_cases auxiliary : high = 0x68
  · subst auxiliary
    simp [decodeRow, entries]
  by_cases page : high = 0x6E
  · rw [decodeFixed_of_high_ne lowBound (by omega)]
    subst page
    simp [decodeRow, entries]
  by_cases last : high = 0x7F
  · simp only [last, Nat.reduceAnd, Nat.reduceEqDiff, false_and, if_false, if_true]
    rfl
  simp only [auxiliary, page, last, false_and, if_false, decodeFixed_of_high_ne lowBound last]
  split_ifs <;> rfl

theorem decodeArithmetic_eq_row {high low : Nat} (highBound : high < 256) (lowBound : low < 256)
    (pc : Nat) :
    decodeArithmetic (256 * high + low) pc = decodeRow (arithmeticRow high) high low pc := by
  unfold decodeArithmetic arithmeticRow
  simp only [mask_high_eq lowBound, mask_byte highBound, decodeLast_eq_row highBound lowBound,
    Nat.reduceDiv, Nat.reduceMod]
  split_ifs <;> rfl

/-- The eight high bytes of the `SACH` family. -/
theorem store_range {high : Nat} (highBound : high < 256) (store : high &&& 0xF8 = 0x58) :
    0x58 ≤ high ∧ high < 0x60 := by
  have masked := mask_above 3 (high / 8) 0x1F (Nat.mod_lt high (by decide))
  have split : 2 ^ 3 * (high / 8) + high % 2 ^ 3 = high := by omega
  have whole : (high / 8) &&& 0x1F = high / 8 := by
    have remainder := Nat.and_two_pow_sub_one_eq_mod (high / 8) 5
    norm_num at remainder
    omega
  rw [split, whole] at masked
  norm_num at masked
  omega

/-- The tests of `decodeRest` factor through the row of the high byte. -/
theorem decodeRest_eq_row {high low : Nat} (highBound : high < 256) (lowBound : low < 256)
    (pc : Nat) : decodeRest (256 * high + low) pc = decodeRow (restRow high) high low pc := by
  have shift_low : (256 * high + low) >>> 8 = high := by
    rw [Nat.shiftRight_eq_div_pow]
    omega
  unfold decodeRest restRow
  simp only [mask_high_eq lowBound, mask_byte highBound,
    decodeArithmetic_eq_row highBound lowBound, Nat.reduceDiv, Nat.reduceMod]
  by_cases store : high &&& 0xF8 = 0x58
  · rcases store_range highBound store with ⟨lower, upper⟩
    simp only [decodeSach, shift_low]
    interval_cases high <;> simp [decodeRow, entries, decodeAddressed, shift_low]
  · simp only [store, if_false]
    split_ifs <;> rfl

/-! ## Agreement with the table -/

theorem opcode_split (word : BitVec 16) :
    word.toNat = 256 * (Instruction.opcode word).toNat + (Instruction.lowByte word).toNat := by
  simp only [BitVec.extractLsb'_toNat, Nat.shiftRight_eq_div_pow]
  omega

/-- The rows of the branch opcodes. -/
def branchRow (high : Nat) : Option Mnemonic :=
  if high = 0xFA then some .blz
  else if high = 0xFB then some .blez
  else if high = 0xFC then some .bgz
  else if high = 0xFD then some .bgez
  else if high = 0xFE then some .bnz
  else if high = 0xFF then some .bz
  else if high = 0xF9 then some .b
  else if high = 0xF4 then some .banz
  else if high = 0xF5 then some .bv
  else if high = 0xF6 then some .bioz
  else if high = 0xF8 then some .call
  else none

theorem decodeBranch_eq_row {high low : Nat} (lowBound : low < 256) :
    decodeBranch (256 * high + low) = if low = 0 then branchRow high else none := by
  have exact_eq : ∀ value, 256 * high + low = value ↔ high = value / 256 ∧ low = value % 256 := by
    intro value
    omega
  unfold decodeBranch branchRow
  simp only [exact_eq, Nat.reduceDiv, Nat.reduceMod]
  by_cases zero : low = 0
  · simp [zero]
  · simp [zero]

/-- The branch opcodes and the rows of `decodeRest` together are the table, and no
branch opcode with a nonzero low byte is another encoding. -/
theorem encoding_eq_row (high : BitVec 8) :
    encoding high = (branchRow high.toNat).elim (restRow high.toNat) .branch ∧
      ((branchRow high.toNat).isSome = true → restRow high.toNat = .unassigned) := by
  revert high
  decide +kernel

/-- `_decode` is the row of the high byte applied to the low byte. -/
theorem decode_eq_row (word : BitVec 16) (pc : Nat) :
    decode word.toNat pc =
      decodeRow (encoding (Instruction.opcode word)) (Instruction.opcode word).toNat
        (Instruction.lowByte word).toNat pc := by
  rcases encoding_eq_row (Instruction.opcode word) with ⟨row, unassigned⟩
  have lowBound := (Instruction.lowByte word).isLt
  have highBound := (Instruction.opcode word).isLt
  rw [row, opcode_split]
  unfold decode
  rw [decodeRest_eq_row highBound lowBound, decodeBranch_eq_row lowBound]
  cases branch : branchRow (Instruction.opcode word).toNat with
  | none => simp
  | some m =>
      rw [unassigned (by rw [branch]; rfl)]
      by_cases zero : (Instruction.lowByte word).toNat = 0
      · simp only [zero, if_true, Option.elim_some, decodeRow]
      · simp only [zero, if_false, Option.elim_some, decodeRow]

/-! ## Operand fields -/

/-- A test of one bit. -/
theorem and_two_pow_ne_zero (x k : Nat) : (x &&& 2 ^ k != 0) = x.testBit k := by
  rw [Nat.and_two_pow]
  cases x.testBit k <;> simp

theorem bit_test (word : BitVec 16) (k : Nat) :
    (word.toNat &&& 2 ^ k != 0) = word.getLsbD k := and_two_pow_ne_zero word.toNat k

theorem bit_value (word : BitVec 16) (k : Nat) :
    (word.toNat >>> k) &&& 1 = (word.getLsbD k).toNat := by
  rw [Nat.and_one_is_mod, Nat.shiftRight_eq_div_pow]
  exact (Nat.toNat_testBit word.toNat k).symm

theorem port_field (word : BitVec 16) : (word.toNat >>> 8) &&& 0x7 = (Instruction.port word).toNat := by
  rw [BitVec.extractLsb'_toNat]
  exact Nat.and_two_pow_sub_one_eq_mod _ 3

theorem shift_field (word : BitVec 16) : (word.toNat >>> 8) &&& 0xF = (Instruction.shift word).toNat := by
  rw [BitVec.extractLsb'_toNat]
  exact Nat.and_two_pow_sub_one_eq_mod _ 4

theorem constant_field (word : BitVec 16) : word.toNat &&& 0xFF = (Instruction.lowByte word).toNat := by
  rw [BitVec.extractLsb'_toNat]
  exact Nat.and_two_pow_sub_one_eq_mod _ 8

theorem low_bit_field (word : BitVec 16) : word.toNat &&& 1 = (word.getLsbD 0).toNat := bit_value word 0

theorem mpykConstant_eq (word : BitVec 16) :
    mpykConstant word.toNat = (Instruction.constant13 word).toInt := by
  have low : word.toNat &&& 0x1FFF = (Instruction.constant13 word).toNat := by
    rw [BitVec.extractLsb'_toNat]
    exact Nat.and_two_pow_sub_one_eq_mod word.toNat 13
  have sign : ((Instruction.constant13 word).toNat &&& 0x1000 != 0) =
      (Instruction.constant13 word).msb := by
    rw [BitVec.msb_eq_getLsbD_last]
    exact and_two_pow_ne_zero _ 12
  simp only [mpykConstant, low, sign]
  rw [BitVec.toInt_eq_msb_cond]
  rfl

/-- The dictionary entries besides the addressing byte, as fields of the word. -/
def fieldEntries (m : Mnemonic) (word : BitVec 16) : Operands :=
  match m with
  | .in | .out => { port := some (Instruction.port word).toNat }
  | .add | .sub | .lac => { shift := some (Instruction.shift word).toNat }
  | .sar | .lar => { auxiliaryRegister := some (Instruction.auxiliaryRegister word).toNat }
  | .sach => { shift := some (Instruction.storeShift word).toNat }
  | .lack => { constant := some (Instruction.lowByte word).toNat }
  | .lark =>
      { auxiliaryRegister := some (Instruction.auxiliaryRegister word).toNat
        constant := some (Instruction.lowByte word).toNat }
  | .mpyk => { constant := some (Instruction.constant13 word).toInt }
  | .larp | .ldpk => { constant := some (word.getLsbD 0).toNat }
  | _ => {}

theorem entries_eq (m : Mnemonic) (word : BitVec 16) :
    entries m word.toNat = fieldEntries m word := by
  cases m <;>
    simp only [entries, fieldEntries, port_field, shift_field, constant_field, low_bit_field,
      bit_value, mpykConstant_eq]

/-- The dictionary `_decode` returns for a mnemonic. -/
def decodedOperands (m : Mnemonic) (word : BitVec 16) : Operands :=
  if m.modifiesAuxiliary then
    { fieldEntries m word with
      indirect := some (Instruction.indirect word).toNat
      addressingField := some (Instruction.addressingField word).toNat }
  else fieldEntries m word

/-- The tests of the low byte that the model writes with masks. -/
theorem low_byte_tests (low : BitVec 8) :
    addressingRejected low.toNat = !addressingByteValid low ∧
      fixed (256 * 0x7F + low.toNat) = fixedMnemonic low ∧
      ((low.toNat >>> 7) &&& 1 == 0 && ((low.toNat &&& 0x7F) &&& 0x70) != 0) =
        !(low.getLsbD 7 || low.extractLsb' 4 3 == 0) := by
  revert low
  decide +kernel

theorem addressingRejected_eq (word : BitVec 16) :
    addressingRejected word.toNat = !addressingByteValid (Instruction.lowByte word) := by
  rw [← (low_byte_tests (Instruction.lowByte word)).1]
  unfold addressingRejected
  rw [opcode_split word, bit_seven, low_seven]

theorem indirect_eq (word : BitVec 16) :
    (word.toNat >>> 7) &&& 1 = (Instruction.indirect word).toNat := by
  rw [Nat.and_one_is_mod, Nat.shiftRight_eq_div_pow]
  exact (Nat.toNat_testBit word.toNat 7).symm

theorem addressingField_eq (word : BitVec 16) :
    word.toNat &&& 0x7F = (Instruction.addressingField word).toNat := by
  rw [BitVec.extractLsb'_toNat]
  exact Nat.and_two_pow_sub_one_eq_mod word.toNat 7

theorem decodeAddressed_eq {word : BitVec 16} {pc : Nat} {m : Mnemonic}
    (modifies : m.modifiesAuxiliary = true) :
    decodeAddressed pc word.toNat m (entries m word.toNat) =
      if addressingByteValid (Instruction.lowByte word) then
        .ok (m, decodedOperands m word)
      else .error (.unsupportedOpcode pc word.toNat) := by
  unfold decodeAddressed decodedOperands
  rw [addressingRejected_eq, indirect_eq, addressingField_eq, entries_eq, if_pos modifies]
  cases addressingByteValid (Instruction.lowByte word) <;> rfl

theorem decodedOperands_of_control {m : Mnemonic} (control : m.twoWordControlFlow = true)
    (word : BitVec 16) : decodedOperands m word = {} := by
  cases m <;> first | rfl | cases control

theorem fixed_eq {word : BitVec 16} (row : encoding (Instruction.opcode word) = .fixed) :
    fixed word.toNat = fixedMnemonic (Instruction.lowByte word) := by
  rw [opcode_split, (encoding_rows _).2.1 row]
  exact (low_byte_tests (Instruction.lowByte word)).2.1

theorem decodedOperands_of_fixed {low : BitVec 8} {m : Mnemonic}
    (found : fixedMnemonic low = some m) (word : BitVec 16) : decodedOperands m word = {} := by
  unfold fixedMnemonic at found
  split at found <;> cases found <;> rfl

theorem decodeSst_eq (word : BitVec 16) (pc : Nat) :
    decodeSst pc word.toNat =
      if addressingByteValid (Instruction.lowByte word) &&
          (Instruction.indirect word || (Instruction.lowByte word).extractLsb' 4 3 == 0) then
        .ok (.sst, decodedOperands .sst word)
      else .error (.unsupportedOpcode pc word.toNat) := by
  have direct : ((word.toNat >>> 7) &&& 1 == 0 && ((word.toNat &&& 0x7F) &&& 0x70) != 0) =
      !(Instruction.indirect word || (Instruction.lowByte word).extractLsb' 4 3 == 0) := by
    have bit : (Instruction.lowByte word).getLsbD 7 = Instruction.indirect word := by
      simp
    rw [← bit, ← (low_byte_tests (Instruction.lowByte word)).2.2, opcode_split word, bit_seven,
      low_seven]
  unfold decodeSst
  simp only [direct, addressingRejected_eq]
  rw [indirect_eq, addressingField_eq]
  cases addressingByteValid (Instruction.lowByte word) <;>
    cases (Instruction.indirect word || (Instruction.lowByte word).extractLsb' 4 3 == 0) <;> rfl

/-- The decoder of the reference model implements the encoding table. -/
theorem decode_eq (word : BitVec 16) (pc : Nat) :
    decode word.toNat pc =
      match mnemonic? word with
      | some m => .ok (m, decodedOperands m word)
      | none => .error (.unsupportedOpcode pc word.toNat) := by
  rw [decode_eq_row]
  unfold mnemonic?
  rcases encoding_rows (Instruction.opcode word) with ⟨consistent, -⟩
  cases row : encoding (Instruction.opcode word) with
  | addressed m =>
      have modifies : m.modifiesAuxiliary = true := by
        rw [row] at consistent
        simp only [Encoding.consistent, Bool.and_eq_true] at consistent
        simp [Mnemonic.modifiesAuxiliary, consistent.1]
      simp only [decodeRow, Encoding.mnemonic?]
      rw [← opcode_split, decodeAddressed_eq modifies]
      split <;> rfl
  | statusStore =>
      simp only [decodeRow, Encoding.mnemonic?]
      rw [← opcode_split, decodeSst_eq]
      have bit : (Instruction.lowByte word).getLsbD 7 = Instruction.indirect word := by
        simp
      rw [bit]
      split <;> rfl
  | auxiliary =>
      have larp : ((Instruction.lowByte word).toNat = 0x80 ∨
          (Instruction.lowByte word).toNat = 0x81) ↔
          (Instruction.lowByte word == 0x80 || Instruction.lowByte word == 0x81) = true := by
        simp [BitVec.toNat_eq]
      simp only [decodeRow, Encoding.mnemonic?]
      rw [← opcode_split, if_congr larp rfl rfl, entries_eq]
      split
      · rfl
      · refine (decodeAddressed_eq (m := .mar) rfl).trans ?_
        split <;> rfl
  | constant m =>
      rw [row] at consistent
      simp only [decodeRow, Encoding.mnemonic?]
      rw [← opcode_split]
      have plain : m.modifiesAuxiliary = false := by
        simp only [Encoding.consistent, Bool.and_eq_true, Bool.not_eq_true'] at consistent
        exact consistent.1
      simp [decodedOperands, plain, entries_eq]
  | page =>
      have page : ((Instruction.lowByte word).toNat = 0 ∨
          (Instruction.lowByte word).toNat = 1) ↔
          (Instruction.lowByte word == 0 || Instruction.lowByte word == 1) = true := by
        simp [BitVec.toNat_eq]
      simp only [decodeRow, Encoding.mnemonic?]
      rw [← opcode_split, if_congr page rfl rfl, entries_eq]
      split <;> rfl
  | branch m =>
      rw [row] at consistent
      have zero : (Instruction.lowByte word).toNat = 0 ↔
          (Instruction.lowByte word == 0) = true := by
        simp [BitVec.toNat_eq]
      simp only [decodeRow, Encoding.mnemonic?]
      rw [← opcode_split, if_congr zero rfl rfl]
      split
      · simp only [decodedOperands_of_control consistent]
      · rfl
  | fixed =>
      simp only [decodeRow, Encoding.mnemonic?]
      rw [← opcode_split, decodeFixed, fixed_eq row]
      cases found : fixedMnemonic (Instruction.lowByte word) with
      | none => rfl
      | some m => simp [decodedOperands_of_fixed found]
  | unassigned =>
      simp only [decodeRow, Encoding.mnemonic?]
      rw [← opcode_split]

end Tms32010.Model
