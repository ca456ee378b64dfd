import Mathlib.Data.BitVec

/-!
# Bitwise operations on a widened operand

A `2n`-bit word combined with an `n`-bit one: the high half passes through, or is
cleared by a conjunction.
-/

namespace Halves

/-- A slice of a slice. -/
theorem extract_extract {w a n k l : Nat} (x : BitVec w) (inside : k + l ≤ n) :
    (x.extractLsb' a n).extractLsb' k l = x.extractLsb' (a + k) l := by
  apply BitVec.eq_of_getLsbD_eq
  intro j bound
  simp only [BitVec.getLsbD_extractLsb', bound, decide_true, Bool.true_and]
  rw [decide_eq_true (by omega), Bool.true_and, Nat.add_assoc]

variable {n m : Nat}

/-- The low and high parts of a word reassemble it. -/
theorem append_extract (x : BitVec (m + n)) :
    x.extractLsb' n m ++ x.extractLsb' 0 n = x := by
  apply BitVec.eq_of_getLsbD_eq
  intro k bound
  rw [BitVec.getLsbD_append]
  by_cases low : k < n
  · simp [low]
  · have high : k - n < m := by omega
    have position : n + (k - n) = k := by omega
    simp [low, high, position]

theorem setWidth_add (y : BitVec n) : y.setWidth (m + n) = 0#m ++ y := by
  apply BitVec.eq_of_getLsbD_eq
  intro k bound
  rw [BitVec.getLsbD_append, BitVec.getLsbD_setWidth]
  by_cases low : k < n
  · simp [low, bound]
  · simp [low, BitVec.getLsbD_of_ge y k (Nat.le_of_not_lt low)]

theorem xor_setWidth (x : BitVec (m + n)) (y : BitVec n) :
    x ^^^ y.setWidth (m + n) = x.extractLsb' n m ++ (x.extractLsb' 0 n ^^^ y) := by
  conv_lhs => rw [← append_extract x, setWidth_add]
  rw [BitVec.xor_append]
  simp

theorem and_setWidth (x : BitVec (m + n)) (y : BitVec n) :
    x &&& y.setWidth (m + n) = 0#m ++ (x.extractLsb' 0 n &&& y) := by
  conv_lhs => rw [← append_extract x, setWidth_add]
  rw [BitVec.and_append]
  simp

theorem or_setWidth (x : BitVec (m + n)) (y : BitVec n) :
    x ||| y.setWidth (m + n) = x.extractLsb' n m ++ (x.extractLsb' 0 n ||| y) := by
  conv_lhs => rw [← append_extract x, setWidth_add]
  rw [BitVec.or_append]
  simp

end Halves
