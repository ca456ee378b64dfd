import Mathlib.Data.BitVec
import Mathlib.Order.Lattice

/-!
# Saturating arithmetic

Sums and differences of two's complement words against the exact integers: when
the hardware overflow test reports, what a wrapped word is, and that the bound
of the first operand's sign is the nearest representable value.
-/

namespace Saturating

/-- The integers a `w`-bit two's complement word represents. -/
def Fits (w : ℕ) (value : ℤ) : Prop := -2 ^ (w - 1) ≤ value ∧ value < 2 ^ (w - 1)

instance (w : ℕ) (value : ℤ) : Decidable (Fits w value) := by
  unfold Fits
  infer_instance

/-- The representable integer nearest to `value`. -/
def clamp (w : ℕ) (value : ℤ) : ℤ := max (-2 ^ (w - 1)) (min value (2 ^ (w - 1) - 1))

/-- The bound on the side of a word's sign. -/
def signBound {w : ℕ} (x : BitVec w) : BitVec w :=
  if x.msb then BitVec.intMin w else BitVec.intMax w

variable {w : ℕ} (x y : BitVec w)

theorem saddOverflow_iff : x.saddOverflow y = true ↔ ¬Fits w (x.toInt + y.toInt) := by
  unfold BitVec.saddOverflow Fits
  simp only [Bool.or_eq_true, decide_eq_true_eq]
  omega

theorem ssubOverflow_iff : x.ssubOverflow y = true ↔ ¬Fits w (x.toInt - y.toInt) := by
  unfold BitVec.ssubOverflow Fits
  simp only [Bool.or_eq_true, decide_eq_true_eq]
  omega

theorem toNat_eq_emod : (x.toNat : ℤ) = x.toInt % 2 ^ w := by
  have bound : (x.toNat : ℤ) < ((2 ^ w : ℕ) : ℤ) := by exact_mod_cast x.isLt
  have modulus : (2 : ℤ) ^ w = ((2 ^ w : ℕ) : ℤ) := by push_cast; rfl
  rw [BitVec.toInt_eq_toNat_bmod, modulus, Int.bmod_emod, Int.emod_eq_of_lt (by omega) bound]

theorem add_toNat : ((x + y).toNat : ℤ) = (x.toInt + y.toInt) % 2 ^ w := by
  have modulus : (2 : ℤ) ^ w = ((2 ^ w : ℕ) : ℤ) := by push_cast; rfl
  rw [toNat_eq_emod, BitVec.toInt_add, modulus, Int.bmod_emod]

theorem sub_toNat : ((x - y).toNat : ℤ) = (x.toInt - y.toInt) % 2 ^ w := by
  have modulus : (2 : ℤ) ^ w = ((2 ^ w : ℕ) : ℤ) := by push_cast; rfl
  rw [toNat_eq_emod, BitVec.toInt_sub, modulus, Int.bmod_emod]

/-- A value that does not fit on the side of `x`'s sign clamps to that side's bound. -/
theorem signBound_toInt {value : ℤ} (positive : 0 < w) (outside : ¬Fits w value)
    (side : x.msb = true ↔ value < 0) : (signBound x).toInt = clamp w value := by
  have power : (0 : ℤ) < 2 ^ (w - 1) := Int.pow_pos (by decide)
  unfold signBound clamp
  unfold Fits at outside
  by_cases sign : x.msb = true
  · have below : value < -2 ^ (w - 1) := by
      have negative := side.mp sign
      omega
    rw [if_pos sign, BitVec.toInt_intMin_of_pos positive,
      max_eq_left ((min_le_left _ _).trans below.le)]
  · have above : 2 ^ (w - 1) ≤ value := by
      have nonnegative : ¬value < 0 := fun negative => sign (side.mpr negative)
      omega
    rw [if_neg sign, BitVec.toInt_intMax, min_eq_right (by omega), max_eq_right (by omega)]

theorem msb_iff_add_negative (outside : ¬Fits w (x.toInt + y.toInt)) :
    x.msb = true ↔ x.toInt + y.toInt < 0 := by
  have lower := BitVec.le_toInt y
  have upper := BitVec.toInt_lt (x := y)
  rw [BitVec.msb_eq_toInt, decide_eq_true_eq]
  unfold Fits at outside
  omega

theorem msb_iff_sub_negative (outside : ¬Fits w (x.toInt - y.toInt)) :
    x.msb = true ↔ x.toInt - y.toInt < 0 := by
  have lower := BitVec.le_toInt y
  have upper := BitVec.toInt_lt (x := y)
  rw [BitVec.msb_eq_toInt, decide_eq_true_eq]
  unfold Fits at outside
  omega

end Saturating
