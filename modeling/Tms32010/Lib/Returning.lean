/-!
# Results of stateful computations

What a computation with state and exceptions returns from a given state, when it
returns. Nothing is said of a computation that raises.
-/

namespace Returning

variable {ε σ α β : Type}

/-- What a computation returns from a state has a property. -/
def Returns (s : σ) (post : α → Prop) (x : EStateM ε σ α) : Prop :=
  ∀ a t, x s = .ok a t → post a

variable {s : σ} {post : β → Prop} {x : EStateM ε σ α} {f : α → EStateM ε σ β}

theorem Returns.mono {first second : α → Prop} (returns : Returns s first x)
    (weaker : ∀ a, first a → second a) : Returns s second x :=
  fun a t ran => weaker a (returns a t ran)

theorem returns_pure {post : α → Prop} {a : α} (holds : post a) :
    Returns s post (pure a : EStateM ε σ α) := by
  intro b t ran
  cases ran
  exact holds

theorem returns_throw {post : α → Prop} (raised : ε) :
    Returns s post (throw raised : EStateM ε σ α) := by
  intro b t ran
  cases ran

/-- The second computation starts where the first one ends. -/
theorem returns_bind (later : ∀ a t, x s = .ok a t → Returns t post (f a)) :
    Returns s post (x >>= f) := by
  intro b t ran
  change EStateM.bind x f s = .ok b t at ran
  unfold EStateM.bind at ran
  cases first : x s with
  | error raised middle =>
      rw [first] at ran
      cases ran
  | ok a middle =>
      rw [first] at ran
      exact later a middle first b t ran

theorem Returns.bind {middle : α → Prop} (first : Returns s middle x)
    (later : ∀ a t, middle a → Returns t post (f a)) : Returns s post (x >>= f) :=
  returns_bind fun a t ran => later a t (first a t ran)

theorem returns_get {f : σ → EStateM ε σ β} (later : Returns s post (f s)) :
    Returns s post (get >>= f) := by
  apply returns_bind
  intro a t ran
  cases ran
  exact later

theorem returns_ite {condition : Prop} [Decidable condition] {post : α → Prop}
    {first second : EStateM ε σ α} (positive : condition → Returns s post first)
    (negative : ¬condition → Returns s post second) :
    Returns s post (if condition then first else second) := by
  by_cases holds : condition
  · rw [if_pos holds]
    exact positive holds
  · rw [if_neg holds]
    exact negative holds

end Returning
