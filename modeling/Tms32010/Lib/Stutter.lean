import Mathlib.Logic.Function.Iterate
import Tms32010.Lib.Timeline

/-!
# Stuttering runs

A view of a run that changes at its ticks only, and there by a fixed map, runs along the
orbit of that map. Two runs with one first view that tick as long as the view lets them
pass through the same views, whatever lies between their ticks.
-/

namespace Timeline

universe u

variable {μ : Type u}

/-- After the clock `first` the view moves at the ticks only. -/
structure Stutters (next : μ → μ) (view : ℕ → μ) (ticks : ℕ → Bool) (first : ℕ) : Prop where
  keeps : ∀ clock, first < clock → ticks clock = false → view (clock + 1) = view clock
  moves : ∀ clock, first < clock → ticks clock = true → view (clock + 1) = next (view clock)

/-- The run ticks exactly as long as the view lets it. -/
structure Ticking (stops : μ → Prop) (view : ℕ → μ) (ticks : ℕ → Bool) (first : ℕ) : Prop where
  free : ∀ clock, first < clock → ticks clock = true → ¬stops (view clock)
  fair : ∀ clock, first < clock → ¬stops (view clock) → ∃ later, clock ≤ later ∧ ticks later = true

section Ticks

variable {ticks : ℕ → Bool} {first now : ℕ}

/-- A tick that comes has a first occurrence. -/
theorem next_tick {later : ℕ} (after : now ≤ later) (ticking : ticks later = true) :
    ∃ tick, now ≤ tick ∧ ticks tick = true ∧ ∀ clock, now ≤ clock → clock < tick →
      ticks clock = false := by
  have some : ∃ tick, now ≤ tick ∧ ticks tick = true := ⟨later, after, ticking⟩
  refine ⟨Nat.find some, (Nat.find_spec some).1, (Nat.find_spec some).2, ?_⟩
  intro clock begins before
  by_contra marked
  rw [Bool.not_eq_false] at marked
  exact Nat.find_min some before ⟨begins, marked⟩

/-- No tick is counted where there is none. -/
theorem between_quiet {later : ℕ} (after : first < now) (within : now ≤ later)
    (quiet : ∀ clock, now ≤ clock → clock < later → ticks clock = false) :
    between ticks first later = between ticks first now := by
  induction later, within using Nat.le_induction with
  | base => rfl
  | succ later within ih =>
      rw [between_succ (Nat.lt_of_lt_of_le after within), quiet later within (Nat.lt_succ_self _),
        Bool.toNat_false, Nat.add_zero]
      exact ih fun clock begins before => quiet clock begins (Nat.lt_succ_of_lt before)

end Ticks

section Orbit

variable {next : μ → μ} {view : ℕ → μ} {ticks : ℕ → Bool} {first now : ℕ} {stops : μ → Prop}

/-- The view is the point of the orbit that the ticks count. -/
theorem Stutters.orbit (stutters : Stutters next view ticks first) (later : first < now) :
    view now = next^[between ticks first now] (view (first + 1)) := by
  induction now, later using Nat.le_induction with
  | base => rw [between_succ_self, Function.iterate_zero, id_eq]
  | succ now later ih =>
      rw [between_succ later]
      cases ticking : ticks now
      · rw [stutters.keeps now later ticking, ih]
        rfl
      · rw [stutters.moves now later ticking, ih, Bool.toNat_true, Function.iterate_succ_apply']

/-- The run has passed no point of the orbit that stops it. -/
theorem Ticking.passed (ticking : Ticking stops view ticks first)
    (stutters : Stutters next view ticks first) (later : first < now) {count : ℕ}
    (before : count < between ticks first now) :
    ¬stops (next^[count] (view (first + 1))) := by
  induction now, later using Nat.le_induction with
  | base =>
      rw [between_succ_self] at before
      exact absurd before (Nat.not_lt_zero count)
  | succ now later ih =>
      rw [between_succ later] at before
      cases marked : ticks now
      · rw [marked, Bool.toNat_false, Nat.add_zero] at before
        exact ih before
      · rw [marked, Bool.toNat_true] at before
        rcases Nat.lt_succ_iff_lt_or_eq.mp before with before | rfl
        · exact ih before
        · rw [← stutters.orbit later]
          exact ticking.free now later marked

/-- The run reaches every point of the orbit up to the first that stops it. -/
theorem Ticking.reaches (ticking : Ticking stops view ticks first)
    (stutters : Stutters next view ticks first) (count : ℕ)
    (free : ∀ earlier, earlier < count → ¬stops (next^[earlier] (view (first + 1)))) :
    ∃ now, first < now ∧ between ticks first now = count := by
  induction count with
  | zero => exact ⟨first + 1, Nat.lt_succ_self first, between_succ_self ticks first⟩
  | succ count ih =>
      rcases ih fun earlier before => free earlier (Nat.lt_succ_of_lt before) with
        ⟨now, after, counted⟩
      have goes := free count (Nat.lt_succ_self count)
      rw [← counted, ← stutters.orbit after] at goes
      rcases ticking.fair now after goes with ⟨later, within, marked⟩
      rcases next_tick within marked with ⟨tick, begins, ticks, quiet⟩
      have later := Nat.lt_of_lt_of_le after begins
      refine ⟨tick + 1, Nat.lt_succ_of_lt later, ?_⟩
      rw [between_succ later, ticks, between_quiet after begins quiet, counted]
      rfl

/-- A run reaches every view that another one with the same first view reaches. -/
theorem Ticking.meets {other : ℕ → μ} {otherTicks : ℕ → Bool} {otherFirst : ℕ}
    (ticking : Ticking stops view ticks first) (stutters : Stutters next view ticks first)
    (otherTicking : Ticking stops other otherTicks otherFirst)
    (otherStutters : Stutters next other otherTicks otherFirst)
    (start : view (first + 1) = other (otherFirst + 1)) (later : first < now) :
    ∃ meeting, otherFirst < meeting ∧ other meeting = view now := by
  have free : ∀ earlier, earlier < between ticks first now →
      ¬stops (next^[earlier] (other (otherFirst + 1))) := by
    intro earlier before
    rw [← start]
    exact ticking.passed stutters later before
  rcases otherTicking.reaches otherStutters _ free with ⟨meeting, after, counted⟩
  refine ⟨meeting, after, ?_⟩
  rw [otherStutters.orbit after, counted, ← start, ← stutters.orbit later]

end Orbit

end Timeline
