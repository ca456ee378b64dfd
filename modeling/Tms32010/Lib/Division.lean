import Mathlib.Logic.Function.Iterate
import Mathlib.Tactic.Ring

/-!
# Division in one register

A conditional subtraction compares a register with the divisor, scaled to half
of the register, and shifts the difference or the register itself left, with the
comparison as the new low bit. The register holds the partial remainder above
the quotient bits found so far; after as many steps as the quotient has bits
both are complete.
-/

namespace Division

/-- One conditional subtraction of `divisor`, for an `n`-bit quotient. -/
def step (n divisor register : ℕ) : ℕ :=
  if divisor * 2 ^ (n - 1) ≤ register then 2 * (register - divisor * 2 ^ (n - 1)) + 1
  else 2 * register

/-- What the register holds after `k` steps from `dividend`. -/
def partialResult (n divisor dividend k : ℕ) : ℕ :=
  2 ^ k * dividend % (divisor * 2 ^ n) + 2 ^ k * dividend / (divisor * 2 ^ n)

variable {n divisor dividend k : ℕ}

/-- Doubling a dividend brings down one quotient bit. -/
theorem double_div_mod {modulus : ℕ} (value : ℕ) (positive : 0 < modulus) (even : 2 ∣ modulus) :
    2 * value % modulus + 2 * value / modulus =
      if modulus / 2 ≤ value % modulus then
        2 * (value % modulus + value / modulus - modulus / 2) + 1
      else 2 * (value % modulus + value / modulus) := by
  rcases even with ⟨half, rfl⟩
  have halves : 2 * half / 2 = half := Nat.mul_div_cancel_left half (by decide)
  have split := Nat.mod_add_div value (2 * half)
  have bound := Nat.mod_lt value positive
  generalize value % (2 * half) = remainder at split bound ⊢
  generalize value / (2 * half) = quotient at split ⊢
  rw [halves]
  split_ifs with reaches
  · have whole : 2 * value = 2 * (remainder - half) + (2 * half) * (2 * quotient + 1) := by
      rw [← split]
      have regroup : (2 * half) * (2 * quotient + 1) = 2 * (2 * half * quotient) + 2 * half := by
        ring
      omega
    have small : 2 * (remainder - half) < 2 * half := by omega
    rw [whole, Nat.add_mul_mod_self_left, Nat.add_mul_div_left _ _ positive,
      Nat.mod_eq_of_lt small, Nat.div_eq_of_lt small]
    omega
  · have whole : 2 * value = 2 * remainder + (2 * half) * (2 * quotient) := by
      rw [← split]
      ring
    have small : 2 * remainder < 2 * half := by omega
    rw [whole, Nat.add_mul_mod_self_left, Nat.add_mul_div_left _ _ positive,
      Nat.mod_eq_of_lt small, Nat.div_eq_of_lt small]
    omega

/-- The quotient bits do not disturb the comparison: remainder and scaled divisor
are both multiples of `2 ^ k`, and the quotient has `k` bits. -/
theorem reaches_iff (fits : dividend < 2 ^ n) (positive : 0 < divisor) (early : k < n) :
    divisor * 2 ^ (n - 1) ≤ partialResult n divisor dividend k ↔
      divisor * 2 ^ (n - 1) ≤ 2 ^ k * dividend % (divisor * 2 ^ n) := by
  have modulus : divisor * 2 ^ n = 2 ^ k * (divisor * 2 ^ (n - k)) := by
    rw [Nat.mul_left_comm, ← Nat.pow_add, Nat.add_sub_cancel' early.le]
  have half : divisor * 2 ^ (n - 1) = 2 ^ k * (divisor * 2 ^ (n - 1 - k)) := by
    rw [Nat.mul_left_comm, ← Nat.pow_add, Nat.add_sub_cancel' (by omega)]
  have remainder : 2 ^ k * dividend % (divisor * 2 ^ n) =
      2 ^ k * (dividend % (divisor * 2 ^ (n - k))) := by
    rw [modulus, Nat.mul_mod_mul_left]
  have quotient : 2 ^ k * dividend / (divisor * 2 ^ n) < 2 ^ k := by
    have whole : 2 ^ n ≤ divisor * 2 ^ n := Nat.le_mul_of_pos_left _ positive
    rw [Nat.div_lt_iff_lt_mul (Nat.mul_pos positive (Nat.two_pow_pos n))]
    exact Nat.mul_lt_mul_of_pos_left (fits.trans_le whole) (Nat.two_pow_pos k)
  unfold partialResult
  rw [remainder, half]
  generalize 2 ^ k * dividend / (divisor * 2 ^ n) = q at quotient
  generalize dividend % (divisor * 2 ^ (n - k)) = r
  generalize divisor * 2 ^ (n - 1 - k) = h
  constructor
  · intro reaches
    by_contra short
    have less : r < h := by
      by_contra notLess
      exact short (Nat.mul_le_mul_left _ (not_lt.mp notLess))
    have room : 2 ^ k * (r + 1) ≤ 2 ^ k * h := Nat.mul_le_mul_left _ less
    rw [Nat.mul_add, Nat.mul_one] at room
    omega
  · intro reaches
    exact reaches.trans (Nat.le_add_right _ _)

/-- A step turns the result after `k` steps into that after `k + 1`. -/
theorem step_partialResult (fits : dividend < 2 ^ n) (positive : 0 < divisor) (early : k < n) :
    step n divisor (partialResult n divisor dividend k) =
      partialResult n divisor dividend (k + 1) := by
  have whole : divisor * 2 ^ n = 2 * (divisor * 2 ^ (n - 1)) := by
    rw [Nat.mul_left_comm, ← Nat.pow_succ', Nat.succ_eq_add_one,
      Nat.sub_add_cancel (show 1 ≤ n by omega)]
  have next : 2 ^ (k + 1) * dividend = 2 * (2 ^ k * dividend) := by
    rw [Nat.pow_succ', Nat.mul_assoc]
  have half : divisor * 2 ^ n / 2 = divisor * 2 ^ (n - 1) := by
    rw [whole, Nat.mul_div_cancel_left _ (by decide)]
  have doubled := double_div_mod (2 ^ k * dividend)
    (Nat.mul_pos positive (Nat.two_pow_pos n)) ⟨_, whole⟩
  have reaches := reaches_iff (k := k) fits positive early
  rw [half] at doubled
  unfold step
  rw [partialResult.eq_def n divisor dividend (k + 1), next, doubled]
  by_cases bit : divisor * 2 ^ (n - 1) ≤ 2 ^ k * dividend % (divisor * 2 ^ n)
  · rw [if_pos bit, if_pos (reaches.mpr bit)]
    rfl
  · rw [if_neg bit, if_neg (fun reached => bit (reaches.mp reached))]
    rfl

/-- The register after `k` steps. -/
theorem iterate_step (fits : dividend < 2 ^ n) (positive : 0 < divisor) (within : k ≤ n) :
    (step n divisor)^[k] dividend = partialResult n divisor dividend k := by
  induction k with
  | zero =>
      have small : dividend < divisor * 2 ^ n :=
        fits.trans_le (Nat.le_mul_of_pos_left _ positive)
      simp [partialResult, Nat.mod_eq_of_lt small, Nat.div_eq_of_lt small]
  | succ k ih =>
      rw [Function.iterate_succ_apply', ih (by omega),
        step_partialResult fits positive (by omega)]

/-- After `n` steps the register holds remainder and quotient. -/
theorem iterate_step_complete (fits : dividend < 2 ^ n) (positive : 0 < divisor) :
    (step n divisor)^[n] dividend = dividend % divisor * 2 ^ n + dividend / divisor := by
  rw [iterate_step fits positive le_rfl, partialResult, Nat.mul_comm divisor,
    Nat.mul_mod_mul_left, Nat.mul_div_mul_left _ _ (Nat.two_pow_pos n), Nat.mul_comm]

/-- Before its last step the register is below the scaled divisor's sign bit. -/
theorem partialResult_le (positive : 0 < divisor) :
    partialResult n divisor dividend k ≤ 2 ^ k * dividend := by
  have split := Nat.mod_add_div (2 ^ k * dividend) (divisor * 2 ^ n)
  have grows : 2 ^ k * dividend / (divisor * 2 ^ n) ≤
      divisor * 2 ^ n * (2 ^ k * dividend / (divisor * 2 ^ n)) :=
    Nat.le_mul_of_pos_left _ (Nat.mul_pos positive (Nat.two_pow_pos n))
  unfold partialResult
  omega

end Division
