import Mathlib.Data.Nat.Bitwise
import Mathlib.Data.Int.ModEq
import Mathlib.Data.List.Basic
import Mathlib.Tactic.Zify
import Mathlib.Tactic.Positivity
import Mathlib.Tactic.ByContra

/-!
# Bit fields

A span is a run of bits of a word. Values for spans that share no bit are put
together with a bitwise or, and each of them is read back from the result.
-/

/-- A run of bits. -/
structure Span where
  lsb : ℕ
  width : ℕ
  deriving DecidableEq, Repr

namespace Span

section Span

variable (span : Span)

/-- The bits of the span. -/
def mask : ℕ := (2 ^ span.width - 1) <<< span.lsb

/-- The value of the bits of a word. -/
def read (word : ℕ) : ℕ := (word >>> span.lsb) &&& (2 ^ span.width - 1)

/-- A value in the place of the span. -/
def place (value : ℕ) : ℕ := value <<< span.lsb

/-- Spans without a common bit. -/
def Disjoint (left right : Span) : Prop := left.mask &&& right.mask = 0

end Span

variable {span : Span} {word value k : ℕ}

theorem testBit_mask :
    span.mask.testBit k = decide (span.lsb ≤ k ∧ k < span.lsb + span.width) := by
  unfold mask
  rw [Nat.testBit_shiftLeft, Nat.testBit_two_pow_sub_one, Bool.decide_and]
  by_cases above : span.lsb ≤ k
  · have same : k - span.lsb < span.width ↔ k < span.lsb + span.width := by omega
    simp [above, same]
  · simp [above]

theorem testBit_read :
    (span.read word).testBit k = (word.testBit (span.lsb + k) && decide (k < span.width)) := by
  unfold read
  rw [Nat.testBit_and, Nat.testBit_shiftRight, Nat.testBit_two_pow_sub_one]

theorem testBit_place :
    (span.place value).testBit k = (decide (span.lsb ≤ k) && value.testBit (k - span.lsb)) := by
  unfold place
  rw [Nat.testBit_shiftLeft]

theorem read_lt : span.read word < 2 ^ span.width := by
  unfold read
  rw [Nat.and_two_pow_sub_one_eq_mod]
  exact Nat.mod_lt _ (Nat.two_pow_pos _)

/-- The value read, in its place. -/
theorem place_read : span.place (span.read word) = word &&& span.mask := by
  apply Nat.eq_of_testBit_eq
  intro k
  rw [testBit_place, testBit_read, Nat.testBit_and, testBit_mask]
  by_cases above : span.lsb ≤ k
  · have back : span.lsb + (k - span.lsb) = k := by omega
    have same : k - span.lsb < span.width ↔ k < span.lsb + span.width := by omega
    simp [above, back, same]
  · simp [above]

theorem read_or (left right : ℕ) :
    span.read (left ||| right) = span.read left ||| span.read right := by
  apply Nat.eq_of_testBit_eq
  intro k
  simp only [testBit_read, Nat.testBit_or, Bool.and_or_distrib_right]

/-- A value in its place is read back. -/
theorem read_place (fits : value < 2 ^ span.width) : span.read (span.place value) = value := by
  apply Nat.eq_of_testBit_eq
  intro k
  rw [testBit_read, testBit_place, Nat.add_sub_cancel_left]
  by_cases inside : k < span.width
  · simp [inside]
  · have large : value.testBit k = false :=
      Nat.testBit_lt_two_pow
        (Nat.lt_of_lt_of_le fits (Nat.pow_le_pow_right (by omega) (Nat.le_of_not_lt inside)))
    simp [large]

/-- Nothing is read from a word without bits in the span. -/
theorem read_apart (apart : word &&& span.mask = 0) : span.read word = 0 := by
  apply Nat.eq_of_testBit_eq
  intro k
  have bit := congrArg (Nat.testBit · (span.lsb + k)) apart
  simp only [Nat.testBit_and, testBit_mask, Nat.zero_testBit] at bit
  rw [testBit_read, Nat.zero_testBit]
  by_cases inside : k < span.width
  · have range : span.lsb ≤ span.lsb + k ∧ span.lsb + k < span.lsb + span.width := by omega
    simpa [inside, range] using bit
  · simp [inside]

/-- A value in its place has no bit outside the span. -/
theorem place_and_mask (fits : value < 2 ^ span.width) :
    span.place value &&& span.mask = span.place value := by
  rw [← place_read, read_place fits]

end Span

/-! ## Values with a sign -/

section Sign

variable {value width n k : ℕ}

/-- A bit of a natural number modulo a larger power of two. -/
theorem testBit_emod (inside : k < n) : ((value : ℤ) % 2 ^ n).toNat.testBit k = value.testBit k := by
  have same : ((value : ℤ) % 2 ^ n).toNat = value % 2 ^ n := by
    zify
    exact Int.toNat_of_nonneg (Int.emod_nonneg _ (by positivity))
  rw [same, Nat.testBit_mod_two_pow, decide_eq_true inside, Bool.true_and]

/-- A value below its sign: all bits beyond the width are set. -/
theorem testBit_sub_emod (fits : value < 2 ^ width) (inside : k < n) :
    (((value : ℤ) - 2 ^ width) % 2 ^ n).toNat.testBit k =
      if k < width then value.testBit k else true := by
  rcases Nat.lt_or_ge width n with narrow | wide
  · have powers : 2 ^ n = 2 ^ width * 2 ^ (n - width) := by
      rw [← Nat.pow_add]
      congr 1
      omega
    have ones : 2 ^ width * (2 ^ (n - width) - 1) + value = 2 ^ n - 2 ^ width + value := by
      rw [powers, Nat.mul_sub, Nat.mul_one]
    have larger : 2 ^ width ≤ 2 ^ n := Nat.pow_le_pow_right (by decide) (Nat.le_of_lt narrow)
    have same : (((value : ℤ) - 2 ^ width) % 2 ^ n).toNat =
        2 ^ width * (2 ^ (n - width) - 1) + value := by
      rw [ones, ← Int.add_emod_right, Int.emod_eq_of_lt]
      · zify at fits larger ⊢
        rw [Int.toNat_of_nonneg (by omega), Nat.cast_sub (by exact_mod_cast larger)]
        push_cast
        omega
      · zify at fits larger
        omega
      · zify at fits
        omega
    rw [same, Nat.testBit_two_pow_mul_add _ fits, Nat.testBit_two_pow_sub_one]
    by_cases low : k < width
    · rw [if_pos low, if_pos low]
    · rw [if_neg low, if_neg low, decide_eq_true (by omega)]
  · have powers : (2 : ℤ) ^ width = 2 ^ (width - n) * 2 ^ n := by
      rw [← pow_add]
      congr 1
      omega
    rw [powers, Int.sub_mul_emod_self_right, testBit_emod inside, if_pos (by omega)]

end Sign

/-! ## Spans put together -/

section Together

variable {φ : Type} (span : φ → Span) (value : φ → ℕ)

/-- The values of all spans in their places. -/
def together : List φ → ℕ
  | [] => 0
  | field :: fields => (span field).place (value field) ||| together fields

/-- The bits of all spans. -/
def masks : List φ → ℕ
  | [] => 0
  | field :: fields => (span field).mask ||| masks fields

variable {span value} {fields : List φ} {field : φ} {word : ℕ}

@[simp]
theorem masks_cons : masks span (field :: fields) = (span field).mask ||| masks span fields := rfl

@[simp]
theorem together_cons : together span value (field :: fields) =
    (span field).place (value field) ||| together span value fields :=
  rfl

theorem masks_apart {mask : ℕ} :
    masks span fields &&& mask = 0 ↔ ∀ field ∈ fields, (span field).mask &&& mask = 0 := by
  induction fields with
  | nil => simp [masks]
  | cons field fields ih =>
      rw [List.forall_mem_cons, ← ih, masks_cons, Nat.and_or_distrib_right, Nat.or_eq_zero_iff]

/-- The spans of a word, put together. -/
theorem together_read :
    together span (fun field => (span field).read word) fields = word &&& masks span fields := by
  induction fields with
  | nil => exact (Nat.and_zero word).symm
  | cons field fields ih =>
      rw [together_cons, masks_cons, ih, Span.place_read, Nat.and_or_distrib_left]

theorem together_and_masks (fits : ∀ field ∈ fields, value field < 2 ^ (span field).width) :
    together span value fields &&& masks span fields = together span value fields := by
  induction fields with
  | nil => exact Nat.zero_and _
  | cons field fields ih =>
      rw [List.forall_mem_cons] at fits
      have rest := ih fits.2
      have first := Span.place_and_mask fits.1
      apply Nat.eq_of_testBit_eq
      intro k
      have restBit := congrArg (Nat.testBit · k) rest
      have firstBit := congrArg (Nat.testBit · k) first
      simp only [Nat.testBit_and] at restBit firstBit
      simp only [together_cons, masks_cons, Nat.testBit_and, Nat.testBit_or]
      revert restBit firstBit
      cases ((span field).place (value field)).testBit k <;>
        cases (together span value fields).testBit k <;>
        cases ((span field).mask).testBit k <;> cases (masks span fields).testBit k <;> decide

/-- The spans of other fields add nothing to a span. -/
theorem read_together_apart {other : Span}
    (fits : ∀ field ∈ fields, value field < 2 ^ (span field).width)
    (apart : masks span fields &&& other.mask = 0) :
    other.read (together span value fields) = 0 := by
  apply Span.read_apart
  rw [← together_and_masks fits, Nat.and_assoc, apart, Nat.and_zero]

/-- Each value is read back. -/
theorem read_together (fits : ∀ field ∈ fields, value field < 2 ^ (span field).width)
    (apart : fields.Pairwise fun left right => (span left).Disjoint (span right))
    (among : field ∈ fields) :
    (span field).read (together span value fields) = value field := by
  induction apart with
  | nil => exact absurd among List.not_mem_nil
  | @cons first fields others _ ih =>
      rw [List.forall_mem_cons] at fits
      rw [together_cons, Span.read_or]
      rcases List.mem_cons.mp among with rfl | among
      · have none : masks span fields &&& (span field).mask = 0 := by
          rw [masks_apart]
          intro other among
          rw [Nat.and_comm]
          exact others other among
        rw [Span.read_place fits.1, read_together_apart fits.2 none, Nat.or_zero]
      · have disjoint : (span first).place (value first) &&& (span field).mask = 0 := by
          rw [← Span.place_and_mask fits.1, Nat.and_assoc, others field among, Nat.and_zero]
        rw [Span.read_apart disjoint, Nat.zero_or]
        exact ih fits.2 among

/-- A word is fixed bits and the values of its spans just when each value is the one
the word has there. -/
theorem eq_or_together_iff {fixed mask : ℕ} (bits : word &&& mask = fixed)
    (fits : ∀ field ∈ fields, value field < 2 ^ (span field).width)
    (apart : fields.Pairwise fun left right => (span left).Disjoint (span right))
    (outside : ∀ field ∈ fields, mask &&& (span field).mask = 0)
    (covers : word &&& mask ||| word &&& masks span fields = word) :
    word = fixed ||| together span value fields ↔
      ∀ field ∈ fields, value field = (span field).read word := by
  constructor
  · intro same field among
    have none : fixed &&& (span field).mask = 0 := by
      rw [← bits, Nat.and_assoc, outside field among, Nat.and_zero]
    have found := congrArg (span field).read same
    rw [Span.read_or, Span.read_apart none, Nat.zero_or, read_together fits apart among] at found
    exact found.symm
  · intro values
    have same : together span value fields = word &&& masks span fields := by
      rw [← together_read]
      clear fits apart outside covers bits
      induction fields with
      | nil => rfl
      | cons field fields ih =>
          rw [List.forall_mem_cons] at values
          rw [together_cons, together_cons, values.1, ih values.2]
    rw [same, ← bits, covers]

end Together
