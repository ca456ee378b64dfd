import Mathlib.Data.List.Basic
import Mathlib.Tactic.Tauto

/-!
# Checks in sequence

Inversion of computations that may raise: what a success or a failure of a sequence or of
a loop says about its parts, and what a computation needs to succeed.
-/

namespace Checks

universe u v w

variable {ε : Type u} {α : Type v} {β : Type v} {σ : Type v}

theorem ok_bind (a : α) (f : α → Except ε β) : (.ok a : Except ε α) >>= f = f a := rfl

@[simp]
theorem bind_eq_ok {x : Except ε α} {f : α → Except ε β} {b : β} :
    (x >>= f) = .ok b ↔ ∃ a, x = .ok a ∧ f a = .ok b := by
  cases x with
  | error raised => simp [bind, Except.bind]
  | ok a => simp [bind, Except.bind]

@[simp]
theorem pure_eq_ok {a b : α} : (pure a : Except ε α) = .ok b ↔ a = b := by
  simp [pure, Except.pure]

/-- A loop succeeds where every iteration does. -/
theorem forM_eq_ok {xs : List α} {f : α → Except ε PUnit.{v + 1}} :
    xs.forM f = .ok PUnit.unit ↔ ∀ x ∈ xs, f x = .ok PUnit.unit := by
  induction xs with
  | nil => simp [List.forM, pure, Except.pure]
  | cons x xs ih =>
      rw [List.forall_mem_cons, ← ih]
      change (f x >>= fun _ => xs.forM f) = _ ↔ _
      rw [bind_eq_ok]
      constructor
      · rintro ⟨⟨⟩, first, rest⟩
        exact ⟨first, rest⟩
      · rintro ⟨first, rest⟩
        exact ⟨PUnit.unit, first, rest⟩

/-- The steps of a loop that succeeds. -/
theorem foldlM_cons_eq_ok {f : σ → α → Except ε σ} {x : α} {xs : List α} {start last : σ} :
    (x :: xs).foldlM f start = .ok last ↔
      ∃ next, f start x = .ok next ∧ xs.foldlM f next = .ok last := by
  rw [List.foldlM_cons, bind_eq_ok]

/-- What every iteration preserves holds after the loop. -/
theorem foldlM_preserves {f : σ → α → Except ε σ} {P : σ → Prop} {xs : List α} {start last : σ}
    (holds : P start)
    (preserves : ∀ state x next, x ∈ xs → P state → f state x = .ok next → P next)
    (success : xs.foldlM f start = .ok last) : P last := by
  induction xs generalizing start with
  | nil =>
      rw [List.foldlM_nil, pure_eq_ok] at success
      rw [← success]
      exact holds
  | cons x xs ih =>
      rcases foldlM_cons_eq_ok.mp success with ⟨next, first, rest⟩
      apply ih (preserves start x next List.mem_cons_self holds first) _ rest
      intro state y after among
      exact preserves state y after (List.mem_cons_of_mem x among)

/-- Every element was the one of an iteration that succeeded. -/
theorem foldlM_reaches {f : σ → α → Except ε σ} {xs : List α} {start last : σ} {x : α}
    (among : x ∈ xs) (success : xs.foldlM f start = .ok last) :
    ∃ state next, f state x = .ok next := by
  induction xs generalizing start with
  | nil => exact absurd among List.not_mem_nil
  | cons y ys ih =>
      rcases foldlM_cons_eq_ok.mp success with ⟨next, first, rest⟩
      rcases List.mem_cons.mp among with rfl | among
      · exact ⟨start, next, first⟩
      · exact ih among rest

/-- A loop that succeeds succeeds up to every element, and goes on from there. -/
theorem foldlM_take {f : σ → α → Except ε σ} {xs : List α} {start last : σ}
    (success : xs.foldlM f start = .ok last) (n : ℕ) :
    ∃ state, (xs.take n).foldlM f start = .ok state ∧ (xs.drop n).foldlM f state = .ok last := by
  rw [← List.take_append_drop n xs, List.foldlM_append, bind_eq_ok] at success
  exact success

/-- One more element of a loop. -/
theorem foldlM_take_succ {f : σ → α → Except ε σ} {xs : List α} {start : σ} {n : ℕ} {x : α}
    (element : xs[n]? = some x) :
    (xs.take (n + 1)).foldlM f start = (xs.take n).foldlM f start >>= fun state => f state x := by
  rw [List.take_add_one, element, List.foldlM_append]
  congr 1
  funext state
  change (f state x >>= fun next => List.foldlM f next []) = _
  cases f state x with
  | error raised => rfl
  | ok next => rfl

/-! ## Outcomes -/

/-- The computation returns only such values. -/
def Yields (returns : α → Prop) : Except ε α → Prop
  | .ok a => returns a
  | .error _ => True

section Yields

variable {returns : α → Prop} {x : Except ε α}

theorem Yields.ok (yields : Yields returns x) {a : α} (success : x = .ok a) : returns a := by
  rw [success] at yields
  exact yields

theorem Yields.any (x : Except ε α) : Yields (fun _ => True) x := by
  cases x <;> trivial

theorem Yields.mono {weaker : α → Prop} (yields : Yields returns x)
    (implies : ∀ a, returns a → weaker a) : Yields weaker x := by
  cases x with
  | error raised => trivial
  | ok a => exact implies a yields

/-- The rule for a sequence. -/
theorem Yields.bind {β : Type v} {f : α → Except ε β} {gives : β → Prop}
    (first : Yields returns x) (rest : ∀ a, returns a → Yields gives (f a)) :
    Yields gives (x >>= f) := by
  cases x with
  | error raised => trivial
  | ok a => exact rest a first

/-- The rule for a check. -/
theorem Yields.ite {condition : Prop} [Decidable condition] {y : Except ε α}
    (holds : condition → Yields returns x) (fails : ¬condition → Yields returns y) :
    Yields returns (if condition then x else y) := by
  by_cases decided : condition
  · rw [if_pos decided]
    exact holds decided
  · rw [if_neg decided]
    exact fails decided

/-- The rule for a comprehension. -/
theorem Yields.mapM {f : β → Except ε α} {xs : List β} (each : ∀ x ∈ xs, Yields returns (f x)) :
    Yields (fun ys => ys.length = xs.length ∧ ∀ y ∈ ys, returns y) (xs.mapM f) := by
  induction xs with
  | nil => exact ⟨rfl, List.forall_mem_nil _⟩
  | cons x xs ih =>
      rw [List.forall_mem_cons] at each
      rw [List.mapM_cons]
      apply each.1.bind
      intro y holds
      apply (ih each.2).bind
      rintro ys ⟨length, all⟩
      refine ⟨?_, List.forall_mem_cons.mpr ⟨holds, all⟩⟩
      rw [List.length_cons, List.length_cons, length]

end Yields

/-! ## Failures of a kind -/

/-- The computation raises an error of the kind. -/
def Fails (kind : ε → Prop) : Except ε α → Prop
  | .ok _ => False
  | .error raised => kind raised

section Fails

variable {kind : ε → Prop} {x y : Except ε α}

theorem fails_iff : Fails kind x ↔ ∃ raised, x = .error raised ∧ kind raised := by
  cases x with
  | error raised => simp [Fails]
  | ok a => simp [Fails]

@[simp]
theorem fails_ok (a : α) : ¬Fails kind (.ok a : Except ε α) := id

@[simp]
theorem fails_pure (a : α) : ¬Fails kind (pure a : Except ε α) := id

@[simp]
theorem fails_error (raised : ε) : Fails kind (.error raised : Except ε α) ↔ kind raised := Iff.rfl

/-- A sequence fails in its first part, or in its second one. -/
theorem fails_bind {β : Type v} {f : α → Except ε β} :
    Fails kind (x >>= f) ↔ Fails kind x ∨ ∃ a, x = .ok a ∧ Fails kind (f a) := by
  cases x with
  | error raised => simp [bind, Except.bind]
  | ok a => simp [bind, Except.bind]

theorem fails_map {β : Type v} {f : α → β} : Fails kind (f <$> x) ↔ Fails kind x := by
  cases x with
  | error raised => simp [Functor.map, Except.map]
  | ok a => simp [Functor.map, Except.map]

/-- A loop fails at an element that it comes to. -/
theorem fails_foldlM {f : σ → α → Except ε σ} {xs : List α} {start : σ} :
    Fails kind (xs.foldlM f start) ↔ ∃ n x state, xs[n]? = some x ∧
      (xs.take n).foldlM f start = .ok state ∧ Fails kind (f state x) := by
  induction xs generalizing start with
  | nil => simp
  | cons x xs ih =>
      rw [List.foldlM_cons, fails_bind]
      simp only [ih]
      constructor
      · rintro (here | ⟨next, first, n, y, state, element, reached, fails⟩)
        · exact ⟨0, x, start, rfl, rfl, here⟩
        · refine ⟨n + 1, y, state, element, ?_, fails⟩
          rw [List.take_succ_cons, foldlM_cons_eq_ok]
          exact ⟨next, first, reached⟩
      · rintro ⟨n, y, state, element, reached, fails⟩
        cases n with
        | zero =>
            cases element
            cases reached
            exact Or.inl fails
        | succ n =>
            rw [List.take_succ_cons, foldlM_cons_eq_ok] at reached
            rcases reached with ⟨next, first, reached⟩
            exact Or.inr ⟨next, first, n, y, state, element, reached, fails⟩

end Fails

/-! ## Needs -/

section Needs

variable {δ : Type w} {meets breaks : δ → Prop} {kind : ε → Prop}

/-- All needs before one that breaks are met. -/
def BreaksAt (meets breaks : δ → Prop) : List δ → Prop
  | [] => False
  | d :: ds => breaks d ∨ meets d ∧ BreaksAt meets breaks ds

theorem breaksAt_append {ds es : List δ} :
    BreaksAt meets breaks (ds ++ es) ↔
      BreaksAt meets breaks ds ∨ (∀ d ∈ ds, meets d) ∧ BreaksAt meets breaks es := by
  induction ds with
  | nil => simp [BreaksAt]
  | cons d ds ih =>
      rw [List.forall_mem_cons, List.cons_append, BreaksAt, BreaksAt, ih]
      tauto

/-- The computation has these needs, in this order: it succeeds where they are met, and
raises an error of the kind where one breaks after others that are met. -/
structure Needs (meets breaks : δ → Prop) (kind : ε → Prop) (ds : List δ) (x : Except ε α) :
    Prop where
  succeeds : (∃ a, x = .ok a) ↔ ∀ d ∈ ds, meets d
  fails : Fails kind x ↔ BreaksAt meets breaks ds

theorem BreaksAt.congr {meets' : δ → Prop} {ds : List δ}
    (same : ∀ d ∈ ds, meets d ↔ meets' d) :
    BreaksAt meets breaks ds ↔ BreaksAt meets' breaks ds := by
  induction ds with
  | nil => exact Iff.rfl
  | cons d ds ih =>
      rw [List.forall_mem_cons] at same
      rw [BreaksAt, BreaksAt, same.1, ih same.2]

/-- What meets a need can be stated in another way. -/
theorem Needs.congr {meets' : δ → Prop} {ds : List δ} {x : Except ε α}
    (needs : Needs meets breaks kind ds x) (same : ∀ d ∈ ds, meets d ↔ meets' d) :
    Needs meets' breaks kind ds x where
  succeeds := needs.succeeds.trans (forall₂_congr same)
  fails := needs.fails.trans (BreaksAt.congr same)

theorem Needs.ok (a : α) : Needs meets breaks kind [] (.ok a : Except ε α) where
  succeeds := by simp
  fails := Iff.rfl

/-- An error of another kind, whatever comes after. -/
theorem Needs.error {raised : ε} {d : δ} (other : ¬kind raised) (unmet : ¬meets d)
    (whole : ¬breaks d) : Needs meets breaks kind [d] (.error raised : Except ε α) where
  succeeds := by simp [unmet]
  fails := by simp [BreaksAt, other, unmet, whole]

/-- The rule for a sequence. -/
theorem Needs.bind {β : Type v} {x : Except ε α} {f : α → Except ε β} {ds es : List δ}
    (first : Needs meets breaks kind ds x)
    (rest : ∀ a, x = .ok a → Needs meets breaks kind es (f a)) :
    Needs meets breaks kind (ds ++ es) (x >>= f) := by
  cases x with
  | ok a =>
      have all : ∀ d ∈ ds, meets d := first.succeeds.mp ⟨a, rfl⟩
      have none : ¬BreaksAt meets breaks ds := first.fails.not.mp (fails_ok a)
      have after := rest a rfl
      constructor
      · rw [List.forall_mem_append]
        exact after.succeeds.trans (iff_and_self.mpr fun _ => all)
      · rw [breaksAt_append]
        exact after.fails.trans (by tauto)
  | error raised =>
      have some : ¬∀ d ∈ ds, meets d := first.succeeds.not.mp (by simp)
      constructor
      · rw [List.forall_mem_append]
        constructor
        · rintro ⟨_, same⟩
          cases same
        · intro all
          exact absurd all.1 some
      · rw [breaksAt_append]
        exact first.fails.trans (by tauto)

/-- The rule for a check of what the first part returns. -/
theorem Needs.check_bind {β γ : Type v} {x : Except ε γ} {check : γ → Except ε α}
    {f : α → Except ε β} {ds es : List δ} (first : Needs meets breaks kind ds (x >>= check))
    (rest : ∀ a, Needs meets breaks kind es (f a)) :
    Needs meets breaks kind (ds ++ es) (x >>= fun value => check value >>= f) := by
  rw [← bind_assoc]
  exact first.bind fun a _ => rest a

theorem Needs.map {β : Type v} {x : Except ε α} {ds : List δ} (f : α → β)
    (first : Needs meets breaks kind ds x) : Needs meets breaks kind ds (f <$> x) := by
  cases x with
  | ok a => exact ⟨by simpa using first.succeeds, first.fails⟩
  | error raised => exact ⟨by simpa using first.succeeds, first.fails⟩

/-- The rule for a comprehension. -/
theorem Needs.mapM {f : β → Except ε α} {needs : β → List δ} (xs : List β)
    (each : ∀ x ∈ xs, Needs meets breaks kind (needs x) (f x)) :
    Needs meets breaks kind (xs.flatMap needs) (xs.mapM f) := by
  induction xs with
  | nil => exact Needs.ok []
  | cons x xs ih =>
      rw [List.forall_mem_cons] at each
      rw [List.mapM_cons, List.flatMap_cons]
      apply each.1.bind
      intro y _
      rw [bind_pure_comp]
      exact (ih each.2).map _

end Needs

end Checks
