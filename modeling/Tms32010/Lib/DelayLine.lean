import Mathlib.Algebra.BigOperators.Group.Finset.Basic
import Mathlib.Data.Set.Function

/-!
# Delay lines

A delay line multiplies a block of samples by coefficients, adds the products up and
moves every sample one place on. A tap adds the product of the tap before it, loads
its sample, moves it and forms its own product; taps are taken from the last place to
the first, so that a sample is moved after the one beside it was read.
-/

namespace DelayLine

universe u v w

/-- The registers and the memory of a delay line. -/
@[ext]
structure State (ι : Type u) (α : Type v) (β : Type w) where
  sum : β
  sample : α
  product : β
  memory : ι → α

section Taps

variable {ι : Type u} {α : Type v} {β : Type w} [DecidableEq ι] [AddCommMonoid β]

section Step

variable (times : α → α → β)

/-- Clear the sum. -/
def clear (s : State ι α β) : State ι α β := { s with sum := 0 }

/-- Load a sample. -/
def load (address : ι) (s : State ι α β) : State ι α β :=
  { s with sample := s.memory address }

/-- Form the product with a coefficient. -/
def multiply (address : ι) (s : State ι α β) : State ι α β :=
  { s with product := times s.sample (s.memory address) }

/-- Add the product up. -/
def accumulate (s : State ι α β) : State ι α β := { s with sum := s.sum + s.product }

/-- Add the product up, load a sample and move it on. -/
def shift (address next : ι) (s : State ι α β) : State ι α β :=
  { s with
    sum := s.sum + s.product
    sample := s.memory address
    memory := Function.update s.memory next (s.memory address) }

variable (place coefficient : ℕ → ι)

/-- A tap. -/
def tap (k : ℕ) (s : State ι α β) : State ι α β :=
  multiply times (coefficient k) (shift (place k) (place (k + 1)) s)

/-- The taps below a number, the last of them first. -/
def taps : ℕ → State ι α β → State ι α β
  | 0, s => s
  | k + 1, s => taps k (tap times place coefficient k s)

/-- The whole line of some taps beside the first one. -/
def line (last : ℕ) (s : State ι α β) : State ι α β :=
  accumulate (taps times place coefficient last
    (multiply times (coefficient last) (load (place last) (clear s))))

end Step

variable {times : α → α → β} {place coefficient : ℕ → ι} {s : State ι α β} {last : ℕ}

/-- The places of a line are distinct, and no coefficient is in one of them. -/
structure Separate (place coefficient : ℕ → ι) (last : ℕ) : Prop where
  places : Set.InjOn place {k | k ≤ last}
  coefficients : ∀ j ≤ last, ∀ k ≤ last, coefficient j ≠ place k

omit [DecidableEq ι] in
theorem Separate.place_ne (separate : Separate place coefficient last) {j k : ℕ} (left : j ≤ last)
    (right : k ≤ last) (apart : j ≠ k) : place j ≠ place k :=
  fun same => apart (separate.places left right same)

/-- What a tap leaves of the memory: only the place it moves to changes. -/
theorem tap_memory {k : ℕ} {address : ι} (other : address ≠ place (k + 1)) :
    (tap times place coefficient k s).memory address = s.memory address :=
  Function.update_of_ne other _ _

theorem tap_moved (k : ℕ) :
    (tap times place coefficient k s).memory (place (k + 1)) = s.memory (place k) :=
  Function.update_self _ _ _

theorem taps_memory_of_ne {k : ℕ} {address : ι}
    (other : ∀ j < k, address ≠ place (j + 1)) :
    (taps times place coefficient k s).memory address = s.memory address := by
  induction k generalizing s with
  | zero => rfl
  | succ k ih =>
      unfold taps
      rw [ih fun j below => other j (Nat.lt_succ_of_lt below),
        tap_memory (other k (Nat.lt_succ_self k))]

/-- Every sample is moved on by one place. -/
theorem taps_moved (separate : Separate place coefficient last) {j k : ℕ} (within : k ≤ last)
    (below : j < k) :
    (taps times place coefficient k s).memory (place (j + 1)) = s.memory (place j) := by
  induction k generalizing s with
  | zero => exact absurd below (Nat.not_lt_zero j)
  | succ k ih =>
      unfold taps
      rcases Nat.lt_succ_iff_lt_or_eq.mp below with earlier | rfl
      · rw [ih (Nat.le_of_succ_le within) earlier, tap_memory]
        exact separate.place_ne (by omega) within (by omega)
      · rw [taps_memory_of_ne, tap_moved]
        intro i early
        exact separate.place_ne within (by omega) (by omega)

/-- The last sample loaded is the first of the block. -/
theorem taps_sample (separate : Separate place coefficient last) {k : ℕ} (within : k ≤ last) :
    (taps times place coefficient k s).sample =
      if k = 0 then s.sample else s.memory (place 0) := by
  induction k generalizing s with
  | zero => rfl
  | succ k ih =>
      unfold taps
      rw [ih (Nat.le_of_succ_le within), if_neg (Nat.succ_ne_zero k)]
      by_cases first : k = 0
      · rw [if_pos first, first]
        rfl
      · rw [if_neg first, tap_memory]
        exact separate.place_ne (Nat.zero_le last) within (by omega)

/-- The sum and the last product make up the products of all taps. -/
theorem taps_sum (separate : Separate place coefficient last) {k : ℕ} (within : k ≤ last) :
    (taps times place coefficient k s).sum + (taps times place coefficient k s).product =
      s.sum + s.product +
        ∑ j ∈ Finset.range k, times (s.memory (place j)) (s.memory (coefficient j)) := by
  induction k generalizing s with
  | zero => exact (add_zero _).symm
  | succ k ih =>
      have kept (j : ℕ) (below : j < k) :
          times ((tap times place coefficient k s).memory (place j))
              ((tap times place coefficient k s).memory (coefficient j)) =
            times (s.memory (place j)) (s.memory (coefficient j)) := by
        rw [tap_memory (separate.place_ne (by omega) within (by omega)),
          tap_memory (separate.coefficients j (by omega) (k + 1) within)]
      have product : (tap times place coefficient k s).product =
          times (s.memory (place k)) (s.memory (coefficient k)) := by
        change times (s.memory (place k)) (Function.update s.memory _ _ (coefficient k)) = _
        rw [Function.update_of_ne (separate.coefficients k (by omega) (k + 1) within)]
      unfold taps
      rw [ih (Nat.le_of_succ_le within), product,
        Finset.sum_congr rfl fun j among => kept j (Finset.mem_range.mp among),
        Finset.sum_range_succ, add_assoc, add_comm (times _ _)]
      rfl

variable (times) in
/-- A delay line convolves: the sum is that of all products, every sample but the last
is moved on, and nothing else changes. -/
theorem line_convolves (separate : Separate place coefficient last) (s : State ι α β) :
    (line times place coefficient last s).sum =
        ∑ j ∈ Finset.range (last + 1), times (s.memory (place j)) (s.memory (coefficient j)) ∧
      (∀ j < last, (line times place coefficient last s).memory (place (j + 1)) =
        s.memory (place j)) ∧
      (∀ address, (∀ j < last, address ≠ place (j + 1)) →
        (line times place coefficient last s).memory address = s.memory address) ∧
      (line times place coefficient last s).sample = s.memory (place 0) := by
  refine ⟨?_, ?_, ?_, ?_⟩
  · change (taps times place coefficient last _).sum +
      (taps times place coefficient last _).product = _
    rw [taps_sum separate (Nat.le_refl last), Finset.sum_range_succ, add_comm]
    change _ + (0 + times (s.memory (place last)) (s.memory (coefficient last))) = _
    rw [zero_add]
    rfl
  · intro j below
    exact taps_moved separate (Nat.le_refl last) below
  · intro address other
    exact taps_memory_of_ne other
  · change (taps times place coefficient last _).sample = _
    rw [taps_sample separate (Nat.le_refl last)]
    by_cases first : last = 0
    · rw [if_pos first, first]
      rfl
    · rw [if_neg first]
      rfl

end Taps

end DelayLine
