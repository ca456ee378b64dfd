import Mathlib.Algebra.Order.Interval.Finset.SuccPred
import Mathlib.Data.Finset.Card
import Mathlib.Order.Interval.Finset.Nat

/-!
# Timelines

A run of a clocked module numbers its clocks. A timeline gives the state before
each clock; an event is a property of a clock. The rules below speak of the last
event before a clock and of the marked clocks since it.
-/

namespace Timeline

universe u v

/-! ## States -/

section State

variable {σ : Type u} {ι : Type v}

/-- The state before each clock of a run. -/
def state (next : σ → ι → σ) (start : σ) (inputs : ℕ → ι) : ℕ → σ
  | 0 => start
  | clock + 1 => next (state next start inputs clock) (inputs clock)

@[simp]
theorem state_succ (next : σ → ι → σ) (start : σ) (inputs : ℕ → ι) (clock : ℕ) :
    state next start inputs (clock + 1) =
      next (state next start inputs clock) (inputs clock) :=
  rfl

end State

/-! ## The last event -/

/-- `last` is the latest clock before `now` with the event. -/
structure Last (event : ℕ → Prop) (last now : ℕ) : Prop where
  before : last < now
  happened : event last
  quiet : ∀ clock, last < clock → clock < now → ¬event clock

section Last

variable {event : ℕ → Prop} {last now : ℕ}

/-- An event is the last one in the next clock. -/
theorem Last.of_event (happened : event now) : Last event now (now + 1) := by
  refine ⟨Nat.lt_succ_self now, happened, ?_⟩
  intro clock after earlier
  omega

/-- The last event stays the last one over a clock without an event. -/
theorem Last.succ (since : Last event last now) (absent : ¬event now) :
    Last event last (now + 1) := by
  refine ⟨Nat.lt_succ_of_lt since.before, since.happened, ?_⟩
  intro clock after earlier
  rcases Nat.lt_succ_iff_lt_or_eq.mp earlier with earlier | rfl
  · exact since.quiet clock after earlier
  · exact absent

/-- What holds in the clock after an event and persists until the next one holds since
the last event. -/
@[elab_as_elim]
theorem Last.induction {motive : ∀ now, Last event last now → Prop}
    (starts : ∀ happened : event last, motive (last + 1) (Last.of_event happened))
    (persists : ∀ clock (since : Last event last clock) (absent : ¬event clock),
      motive clock since → motive (clock + 1) (since.succ absent))
    {now : ℕ} (since : Last event last now) : motive now since := by
  have before := since.before
  induction now, before using Nat.le_induction with
  | base => exact starts since.happened
  | succ now before ih =>
      have earlier : Last event last now := by
        refine ⟨before, since.happened, ?_⟩
        intro clock after earlier
        exact since.quiet clock after (Nat.lt_succ_of_lt earlier)
      exact persists now earlier (since.quiet now before (Nat.lt_succ_self now)) (ih earlier)

/-- After some event there is a last one. -/
theorem exists_last [DecidablePred event] {clock : ℕ} (before : clock < now)
    (happened : event clock) : ∃ last, Last event last now := by
  induction now with
  | zero => omega
  | succ now ih =>
      by_cases absent : event now
      · exact ⟨now, Last.of_event absent⟩
      · have earlier : clock < now := by
          rcases Nat.lt_succ_iff_lt_or_eq.mp before with earlier | rfl
          · exact earlier
          · exact absurd happened absent
        rcases ih earlier with ⟨last, since⟩
        exact ⟨last, since.succ absent⟩

end Last

/-! ## Counting -/

/-- The number of marked clocks strictly between two clocks. -/
def between (mark : ℕ → Bool) (first last : ℕ) : ℕ :=
  ((Finset.Ioo first last).filter fun clock => mark clock = true).card

section Counting

variable {mark : ℕ → Bool} {first last : ℕ}

@[simp]
theorem between_succ_self (mark : ℕ → Bool) (first : ℕ) : between mark first (first + 1) = 0 := by
  unfold between
  rw [Finset.card_eq_zero, Finset.filter_eq_empty_iff]
  intro clock inside
  rw [Finset.mem_Ioo] at inside
  omega

/-- A later clock counts the clock before it. -/
theorem between_succ (later : first < last) :
    between mark first (last + 1) = between mark first last + (mark last).toNat := by
  unfold between
  have interval : Finset.Ioo first (last + 1) = insert last (Finset.Ioo first last) := by
    ext clock
    simp only [Finset.mem_Ioo, Finset.mem_insert]
    omega
  rw [interval, Finset.filter_insert]
  cases marked : mark last
  · simp
  · simp [Finset.card_insert_of_notMem]

end Counting

end Timeline
