import Mathlib.Data.List.Basic

/-!
# One-place channel

A channel that holds at most one word: what is put is taken once, in order, when
every put finds the place empty and every take finds it full.
-/

namespace OnePlace

universe u

variable {α : Type u}

/-- What one moment does to the place. -/
inductive Action (α : Type u) where
  | rest
  | put (word : α)
  | take

/-- The contents after an action. -/
def Action.apply : Action α → Option α → Option α
  | .rest, contents => contents
  | .put word, _ => some word
  | .take, _ => none

/-- A put needs an empty place and a take a full one. -/
def Action.Allowed : Action α → Option α → Prop
  | .rest, _ => True
  | .put _, contents => contents = none
  | .take, contents => contents.isSome = true

/-- The words an action puts. -/
def Action.puts : Action α → List α
  | .put word => [word]
  | _ => []

/-- The words an action takes from the contents. -/
def Action.takes : Action α → Option α → List α
  | .take, contents => contents.toList
  | _, _ => []

/-- One action neither loses nor duplicates a word. -/
theorem Action.conserves {action : Action α} {contents : Option α}
    (allowed : action.Allowed contents) :
    contents.toList ++ action.puts =
      action.takes contents ++ (action.apply contents).toList := by
  cases action with
  | rest => simp [puts, takes, apply]
  | put word =>
      have empty : contents = none := allowed
      simp [empty, puts, takes, apply]
  | take => simp [puts, takes, apply]

/-- Actions one after the other, each allowed where it happens. -/
inductive Run : Option α → List (Action α) → Option α → Prop where
  | done (contents : Option α) : Run contents [] contents
  | step {contents final : Option α} {action : Action α} {rest : List (Action α)}
      (allowed : action.Allowed contents) (tail : Run (action.apply contents) rest final) :
      Run contents (action :: rest) final

/-- The words a run puts. -/
def puts (actions : List (Action α)) : List α := (actions.map Action.puts).flatten

/-- The words a run takes, starting from the contents. -/
def takes : Option α → List (Action α) → List α
  | _, [] => []
  | contents, action :: rest => action.takes contents ++ takes (action.apply contents) rest

/-- Along a run the words put are the words taken and the one still there. -/
theorem Run.conserves {contents final : Option α} {actions : List (Action α)}
    (run : Run contents actions final) :
    contents.toList ++ puts actions = takes contents actions ++ final.toList := by
  induction run with
  | done contents => simp [puts, takes]
  | @step contents final action rest allowed tail ih =>
      have head := Action.conserves allowed
      calc contents.toList ++ puts (action :: rest)
          = contents.toList ++ action.puts ++ puts rest := by simp [puts]
        _ = action.takes contents ++ ((action.apply contents).toList ++ puts rest) := by
            rw [head, List.append_assoc]
        _ = takes contents (action :: rest) ++ final.toList := by
            rw [ih, takes, List.append_assoc]

end OnePlace
