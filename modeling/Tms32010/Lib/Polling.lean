import Tms32010.Lib.Timeline

/-!
# Polled flags

A flag between two parties: one sets it and the other clears it. A party that acts only
after it has polled the flag since its own last act finds it as it was polled, whatever
the other party does meanwhile.
-/

namespace Timeline

/-- A party has made an observation since its last act before a clock, after `first`. -/
def Polled (observes acts : ℕ → Prop) (first clock : ℕ) : Prop :=
  ∃ seen, first < seen ∧ seen ≤ clock ∧ observes seen ∧
    ∀ between, seen ≤ between → between < clock → ¬acts between

/-- What only an act ends is still so for a party that has polled it since. -/
theorem Polled.still {observes acts holds : ℕ → Prop} {first clock : ℕ}
    (polled : Polled observes acts first clock)
    (sees : ∀ seen, first < seen → observes seen → holds seen)
    (keeps : ∀ clock, first < clock → holds clock → ¬acts clock → holds (clock + 1)) :
    holds clock := by
  rcases polled with ⟨seen, after, before, observed, quiet⟩
  induction clock, before using Nat.le_induction with
  | base => exact sees seen after observed
  | succ clock before ih =>
      have held := ih fun between later earlier => quiet between later (Nat.lt_succ_of_lt earlier)
      exact keeps clock (by omega) held (quiet clock before (Nat.lt_succ_self clock))

end Timeline
