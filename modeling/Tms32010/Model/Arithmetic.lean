import Tms32010.Lib.Halves
import Tms32010.Model.DecodeTable

/-!
# Integer arithmetic of the reference model

The model computes with integers and masks; the typed machine computes with
bit-vectors. Each helper of the model is here one bit-vector operation.
-/

namespace Tms32010.Model

/-! ## Masks -/

theorem and_pcMask (x : Nat) : x &&& 4095 = x % 4096 := Nat.and_two_pow_sub_one_eq_mod x 12

theorem and_wordMask (x : Nat) : x &&& 65535 = x % 65536 := Nat.and_two_pow_sub_one_eq_mod x 16

theorem and_accMask (x : Nat) : x &&& 4294967295 = x % 4294967296 :=
  Nat.and_two_pow_sub_one_eq_mod x 32

theorem and_byteMask (x : Nat) : x &&& 255 = x % 256 := Nat.and_two_pow_sub_one_eq_mod x 8

theorem and_counterMask (x : Nat) : x &&& 511 = x % 512 := Nat.and_two_pow_sub_one_eq_mod x 9

@[simp]
theorem word_and_mask (x : BitVec 16) : x.toNat &&& 65535 = x.toNat := by
  rw [and_wordMask]
  exact Nat.mod_eq_of_lt x.isLt

@[simp]
theorem pc_and_mask (x : BitVec 12) : x.toNat &&& 4095 = x.toNat := by
  rw [and_pcMask]
  exact Nat.mod_eq_of_lt x.isLt

@[simp]
theorem acc_and_mask (x : BitVec 32) : x.toNat &&& 4294967295 = x.toNat := by
  rw [and_accMask]
  exact Nat.mod_eq_of_lt x.isLt

@[simp]
theorem acc_and_wordMask (x : BitVec 32) :
    x.toNat &&& 65535 = (x.extractLsb' 0 16).toNat := by
  rw [and_wordMask, BitVec.extractLsb'_toNat]
  rfl

@[simp]
theorem acc_and_pcMask (x : BitVec 32) : x.toNat &&& 4095 = (x.extractLsb' 0 12).toNat := by
  rw [and_pcMask, BitVec.extractLsb'_toNat]
  rfl

@[simp]
theorem word_and_pcMask (x : BitVec 16) : x.toNat &&& 4095 = (x.extractLsb' 0 12).toNat := by
  rw [and_pcMask, BitVec.extractLsb'_toNat]
  rfl

@[simp]
theorem next_pc (pc : BitVec 12) : (pc.toNat + 1) &&& 4095 = (pc + 1).toNat := by
  rw [and_pcMask, BitVec.toNat_add]
  rfl

@[simp]
theorem after_next_pc (pc : BitVec 12) : (pc.toNat + 2) &&& 4095 = (pc + 2).toNat := by
  rw [and_pcMask, BitVec.toNat_add]
  rfl

@[simp]
theorem pc_mod_acc (x : BitVec 12) : x.toNat % 4294967296 = x.toNat :=
  Nat.mod_eq_of_lt (by omega)

@[simp]
theorem word_mod_acc (x : BitVec 16) : x.toNat % 4294967296 = x.toNat :=
  Nat.mod_eq_of_lt (by omega)

theorem sign_bit (x : BitVec 32) : (x.toNat &&& 0x80000000 != 0) = x.msb := by
  rw [BitVec.msb_eq_getLsbD_last]
  exact and_two_pow_ne_zero x.toNat 31

theorem lowBits_ofNat (bits x : Nat) : lowBits bits (x : Int) = x % 2 ^ bits := by
  simp only [lowBits]
  norm_cast

theorem lowBits_eq (bits : Nat) (x : Int) : lowBits bits x = (BitVec.ofInt bits x).toNat := by
  simp [lowBits, BitVec.toNat_ofInt]

theorem signedWord_eq (word : BitVec 16) : signedWord word.toNat = word.toInt := by
  unfold signedWord
  rw [BitVec.toInt_eq_toNat_cond]
  split <;> split <;> omega

/-! ## Accumulator -/

theorem complement_sign (x y : BitVec 32) :
    (complement x.toNat &&& y.toNat &&& 0x80000000 != 0) = (!x.msb && y.msb) := by
  have complement_eq : complement x.toNat = (~~~x).toNat := by
    unfold complement
    rw [show ~~~x = BitVec.allOnes 32 ^^^ x from (BitVec.allOnes_xor).symm, BitVec.toNat_xor]
    rfl
  rw [complement_eq, ← BitVec.toNat_and, sign_bit, BitVec.msb_and, BitVec.msb_not]
  simp

theorem difference_eq (x y : BitVec 32) :
    lowBits 32 ((x.toNat : Int) - y.toNat) = (x - y).toNat := by
  rw [lowBits_eq]
  congr 1
  apply BitVec.eq_of_toInt_eq
  rw [BitVec.toInt_ofInt, BitVec.toInt_sub]
  simp only [BitVec.toInt_eq_toNat_bmod, Int.bmod_sub_bmod, Int.sub_bmod_bmod]

theorem sum_eq (x y : BitVec 32) : (x.toNat + y.toNat) &&& 4294967295 = (x + y).toNat := by
  rw [and_accMask, BitVec.toNat_add]

/-- A model whose registers are the given ones. -/
def withRegisters (self : Tms32010Model) (r : Registers) : Tms32010Model :=
  { self with state := embedRegisters r }

theorem add_overflow (x y : BitVec 32) :
    (complement (x.toNat ^^^ y.toNat) &&& (x.toNat ^^^ (x + y).toNat) &&& 0x80000000 != 0) =
      x.saddOverflow y := by
  rw [← BitVec.toNat_xor, ← BitVec.toNat_xor, complement_sign, BitVec.saddOverflow_eq,
    BitVec.msb_xor, BitVec.msb_xor]
  cases x.msb <;> cases y.msb <;> cases (x + y).msb <;> rfl

theorem subtract_overflow (x y : BitVec 32) :
    ((x.toNat ^^^ y.toNat) &&& (x.toNat ^^^ (x - y).toNat) &&& 0x80000000 != 0) =
      x.ssubOverflow y := by
  rw [← BitVec.toNat_xor, ← BitVec.toNat_xor, ← BitVec.toNat_and, sign_bit,
    BitVec.ssubOverflow_eq, BitVec.msb_and, BitVec.msb_xor, BitVec.msb_xor]
  cases x.msb <;> cases y.msb <;> cases (x - y).msb <;> rfl

theorem addAccumulator_run (self : Tms32010Model) (r : Registers) (addend : BitVec 32) :
    addAccumulator addend.toNat (withRegisters self r) =
      EStateM.Result.ok () (withRegisters self (r.addAccumulator addend)) := by
  unfold addAccumulator Registers.addAccumulator
  simp only [withRegisters, embedRegisters, get_run, bind_run, acc_and_mask, sum_eq,
    add_overflow, sign_bit]
  cases r.accumulator.saddOverflow addend
  · simp
  · cases r.overflowMode <;> cases r.accumulator.msb <;> simp

theorem subtractAccumulator_run (self : Tms32010Model) (r : Registers)
    (subtrahend : BitVec 32) :
    subtractAccumulator subtrahend.toNat (withRegisters self r) =
      EStateM.Result.ok () (withRegisters self (r.subtractAccumulator subtrahend)) := by
  unfold subtractAccumulator Registers.subtractAccumulator
  simp only [withRegisters, embedRegisters, get_run, bind_run, acc_and_mask, difference_eq,
    subtract_overflow, sign_bit]
  cases r.accumulator.ssubOverflow subtrahend
  · simp
  · cases r.overflowMode <;> cases r.accumulator.msb <;> simp

theorem modifyCounter_eq (v : BitVec 16) (delta : Int) :
    modifyCounter v.toNat delta = (Registers.count v (BitVec.ofInt 9 delta)).toNat := by
  have high : v.toNat &&& 0xFE00 = (v.extractLsb' 9 7).toNat <<< 9 := by
    have masked := mask_above 9 (v.toNat / 512) 0x7F
      (Nat.mod_lt v.toNat (by decide))
    have whole : (v.toNat / 512) &&& 0x7F = v.toNat / 512 := by
      have remainder := Nat.and_two_pow_sub_one_eq_mod (v.toNat / 512) 7
      norm_num at remainder
      omega
    have split : 2 ^ 9 * (v.toNat / 512) + v.toNat % 2 ^ 9 = v.toNat := by omega
    rw [whole, split] at masked
    rw [BitVec.extractLsb'_toNat, Nat.shiftLeft_eq, Nat.shiftRight_eq_div_pow]
    norm_num at masked ⊢
    omega
  have low : lowBits 9 (v.toNat + delta) =
      (v.extractLsb' 0 9 + BitVec.ofInt 9 delta).toNat := by
    rw [BitVec.toNat_add, BitVec.extractLsb'_toNat, BitVec.toNat_ofInt, lowBits]
    norm_num
    omega
  rw [modifyCounter, high, low, Registers.count, BitVec.toNat_append]

/-- `_conditional_subtract` assigns the accumulator and the overflow flag only. -/
theorem conditionalSubtract_apply (self : Tms32010Model) {acc : BitVec 32}
    (held : self.state.acc = acc.toNat) (word : BitVec 16) :
    conditionalSubtract word.toNat self =
      EStateM.Result.ok ()
        { self with
          state :=
            { self.state with
              acc :=
                (if (acc - word.setWidth 32 <<< 15).msb then acc <<< 1
                 else (acc - word.setWidth 32 <<< 15) <<< 1 ||| 1).toNat
              status :=
                { self.state.status with
                  ov := self.state.status.ov || acc.ssubOverflow (word.setWidth 32 <<< 15) } } } := by
  have operand : (word.toNat <<< 15) &&& 4294967295 = (word.setWidth 32 <<< 15).toNat := by
    rw [and_accMask, BitVec.toNat_shiftLeft, BitVec.toNat_setWidth,
      Nat.mod_eq_of_lt (a := word.toNat) (by omega)]
  have doubled (x : BitVec 32) : (x.toNat <<< 1) &&& 4294967295 = (x <<< 1).toNat := by
    rw [and_accMask, BitVec.toNat_shiftLeft]
  have incremented (x : BitVec 32) :
      ((x.toNat <<< 1) ||| 1) &&& 4294967295 = (x <<< 1 ||| 1).toNat := by
    rw [Nat.and_or_distrib_right, doubled, BitVec.toNat_or]
    rfl
  unfold conditionalSubtract
  simp only [get_run, bind_run, held, acc_and_mask, word_and_mask, operand, difference_eq,
    subtract_overflow, sign_bit]
  cases acc.ssubOverflow (word.setWidth 32 <<< 15) <;>
    cases (acc - word.setWidth 32 <<< 15).msb <;>
      simp only [Bool.false_eq_true, if_false, if_true, modifyState_run,
        modifyStatus_run, bind_run, Bool.or_false, Bool.or_true, doubled, incremented]

theorem conditionalSubtract_run (self : Tms32010Model) (r : Registers) (word : BitVec 16) :
    conditionalSubtract word.toNat (withRegisters self r) =
      EStateM.Result.ok () (withRegisters self (r.conditionalSubtract word)) := by
  rw [conditionalSubtract_apply (withRegisters self r) rfl]
  rfl

theorem accumulatorBranchTaken_run (m : Mnemonic) (self : Tms32010Model) (r : Registers)
    (bio : Bool)
    (branch : m = .bgez ∨ m = .bgz ∨ m = .blez ∨ m = .blz ∨ m = .bnz ∨ m = .bz) :
    accumulatorBranchTaken m r.accumulator.toNat self =
      EStateM.Result.ok (r.branchTaken m bio) self := by
  have zero : (r.accumulator.toNat == 0) = (r.accumulator == 0) := by
    rw [Bool.eq_iff_iff, beq_iff_eq, beq_iff_eq, BitVec.toNat_eq]
    rfl
  unfold accumulatorBranchTaken
  simp only [acc_and_mask, sign_bit, zero]
  rcases branch with rfl | rfl | rfl | rfl | rfl | rfl <;> rfl

theorem counter_ne_zero (v : BitVec 16) :
    (v.toNat &&& 0x01FF != 0) = (v.extractLsb' 0 9 != 0) := by
  rw [and_counterMask, Bool.eq_iff_iff, bne_iff_ne, bne_iff_ne, Ne, Ne, BitVec.toNat_eq,
    BitVec.extractLsb'_toNat]
  rfl

theorem shifted_eq (word : BitVec 16) (shift : Nat) :
    lowBits 32 (signedWord word.toNat * 2 ^ shift) = (word.signExtend 32 <<< shift).toNat := by
  rw [lowBits_eq, signedWord_eq, BitVec.ofInt_mul, BitVec.shiftLeft_eq_mul_twoPow]
  congr 2
  apply BitVec.eq_of_toNat_eq
  rw [BitVec.toNat_twoPow, ← lowBits_eq]
  exact_mod_cast lowBits_ofNat 32 (2 ^ shift)

theorem product_eq {w : Nat} (x : BitVec 16) (y : BitVec w) :
    lowBits 32 (x.toInt * y.toInt) = (x.signExtend 32 * y.signExtend 32).toNat := by
  rw [lowBits_eq, BitVec.ofInt_mul]
  rfl

theorem mpy_eq (t word : BitVec 16) :
    product t.toNat word.toNat = (Registers.product t word).toNat := by
  have exceptional : (t.toNat = 0x8000 ∧ word.toNat = 0x8000) ↔
      (t = 0x8000 ∧ word = 0x8000) := by
    rw [BitVec.toNat_eq, BitVec.toNat_eq]
    rfl
  unfold product Registers.product
  simp only [exceptional, signedWord_eq, product_eq]
  split <;> rfl

theorem high_half_eq (word : BitVec 16) : word.toNat <<< 16 = (word ++ 0#16).toNat := by
  rw [BitVec.toNat_append]
  simp

theorem widened_eq (word : BitVec 16) : word.toNat = (word.setWidth 32).toNat := by
  rw [BitVec.toNat_setWidth, Nat.mod_eq_of_lt (by omega)]

theorem addh_eq (acc : BitVec 32) (word : BitVec 16) :
    ((((acc.toNat >>> 16) + word.toNat) &&& 65535) <<< 16) ||| (acc.extractLsb' 0 16).toNat =
      ((acc.extractLsb' 16 16 + word) ++ acc.extractLsb' 0 16).toNat := by
  have high : (acc.extractLsb' 16 16).toNat = acc.toNat >>> 16 := by
    rw [BitVec.extractLsb'_toNat, Nat.shiftRight_eq_div_pow]
    omega
  rw [BitVec.toNat_append, BitVec.toNat_add, and_wordMask, high]

theorem high_mask_eq (acc : BitVec 32) :
    acc.toNat &&& 0xFFFF0000 = (acc.extractLsb' 16 16).toNat <<< 16 := by
  have masked := mask_above 16 (acc.toNat / 65536) 65535
    (Nat.mod_lt acc.toNat (by decide))
  have split : 2 ^ 16 * (acc.toNat / 65536) + acc.toNat % 2 ^ 16 = acc.toNat := by omega
  rw [split, and_wordMask] at masked
  rw [BitVec.extractLsb'_toNat, Nat.shiftLeft_eq, Nat.shiftRight_eq_div_pow]
  norm_num at masked ⊢
  omega

theorem xor_eq (acc : BitVec 32) (word : BitVec 16) :
    (acc.toNat &&& 0xFFFF0000) ||| ((acc.extractLsb' 0 16).toNat ^^^ word.toNat) =
      (acc ^^^ word.setWidth 32).toNat := by
  rw [Halves.xor_setWidth (m := 16) (n := 16), BitVec.toNat_append, BitVec.toNat_xor,
    high_mask_eq]

theorem and_eq (acc : BitVec 32) (word : BitVec 16) :
    (acc.extractLsb' 0 16).toNat &&& word.toNat = (acc &&& word.setWidth 32).toNat := by
  rw [BitVec.toNat_and, ← widened_eq, ← acc_and_wordMask, Nat.and_assoc]
  congr 1
  rw [Nat.and_comm, word_and_mask]

theorem negate_eq (acc : BitVec 32) : lowBits 32 (-(acc.toNat : Int)) = (-acc).toNat := by
  rw [lowBits, BitVec.toNat_neg]
  omega

theorem absolute_run (self : Tms32010Model) (r : Registers) :
    absolute (withRegisters self r) = EStateM.Result.ok () (withRegisters self r.absolute) := by
  have lowest : (r.accumulator.toNat == 0x80000000) = (r.accumulator == BitVec.intMin 32) := by
    rw [Bool.eq_iff_iff, beq_iff_eq, beq_iff_eq, BitVec.toNat_eq]
    rfl
  unfold absolute Registers.absolute
  simp only [withRegisters, embedRegisters, get_run, bind_run, sign_bit, lowest]
  cases sign : r.accumulator.msb
  · simp
  · cases r.accumulator == BitVec.intMin 32 <;> cases r.overflowMode <;>
      simp [negate_eq]

theorem sach_eq (acc : BitVec 32) (shift : Nat) :
    ((acc.toNat <<< shift) &&& 4294967295) >>> 16 =
      ((acc <<< shift).extractLsb' 16 16).toNat := by
  rw [BitVec.extractLsb'_toNat, BitVec.toNat_shiftLeft, and_accMask, Nat.shiftRight_eq_div_pow]
  omega

theorem sstWord_eq (r : Registers) :
    sstWord (embedRegisters r).status = r.statusWord.toNat := by
  simp only [sstWord, embedRegisters, Registers.statusWord]
  cases r.overflowFlag <;> cases r.overflowMode <;> cases r.interruptMask <;>
    cases r.auxiliaryRegisterPointer <;> cases r.dataPagePointer <;> rfl

/-! ## Data addresses -/

theorem indirect_address (value : BitVec 16) :
    value.toNat &&& 255 = (value.extractLsb' 0 8).toNat := by
  rw [and_byteMask, BitVec.extractLsb'_toNat]
  rfl

theorem direct_address (page : Bool) (field : BitVec 7) :
    (page.toNat <<< 7) ||| field.toNat = (BitVec.ofBool page ++ field).toNat := by
  rw [BitVec.toNat_append]
  cases page <;> rfl

end Tms32010.Model
