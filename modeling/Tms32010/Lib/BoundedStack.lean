import Mathlib.Data.List.Basic

/-!
# Bounded stacks

A stack of a fixed number of levels against one without a bound. Pushing onto the first
loses its bottom, popping it repeats the bottom. As long as the moves stay within the
room of the levels the two agree, so what a push saves is what the matching pop finds.
-/

namespace BoundedStack

variable {α : Type*}

/-- What is done to a stack. -/
inductive Move (α : Type*) where
  | push (value : α)
  | pop
  deriving DecidableEq, Repr

namespace Move

/-- A move on levels whose number stays. -/
def onLevels : Move α → List α → List α
  | .push value, levels => value :: levels.dropLast
  | .pop, levels => levels.tail ++ levels.getLast?.toList

/-- A move on frames without a bound. -/
def onFrames : Move α → List α → List α
  | .push value, frames => value :: frames
  | .pop, frames => frames.tail

end Move

/-- Moves on levels, one after the other. -/
def levelsAfter (moves : List (Move α)) (levels : List α) : List α :=
  moves.foldl (fun levels move => move.onLevels levels) levels

/-- Moves on frames, one after the other. -/
def framesAfter (moves : List (Move α)) (frames : List α) : List α :=
  moves.foldl (fun frames move => move.onFrames frames) frames

/-- The height that moves reach from a height, unless they rise above the room or sink
below zero. -/
def climb (room : ℕ) : ℕ → List (Move α) → Option ℕ
  | height, [] => some height
  | height, .push _ :: rest => if height < room then climb room (height + 1) rest else none
  | 0, .pop :: _ => none
  | height + 1, .pop :: rest => climb room height rest

/-- Moves that return to their height within the room. -/
def Balanced (room : ℕ) (moves : List (Move α)) : Prop :=
  climb room 0 moves = some 0

instance (room : ℕ) (moves : List (Move α)) : Decidable (Balanced room moves) :=
  inferInstanceAs (Decidable (climb room 0 moves = some 0))

section Moves

variable {levels frames : List α} {moves : List (Move α)} {room height after : ℕ} {value : α}

theorem levelsAfter_append (first second : List (Move α)) :
    levelsAfter (first ++ second) levels = levelsAfter second (levelsAfter first levels) := by
  simp [levelsAfter]

theorem length_onLevels (nonempty : 0 < levels.length) (move : Move α) :
    (move.onLevels levels).length = levels.length := by
  cases move with
  | push value => simp [Move.onLevels]; omega
  | pop =>
      rcases List.exists_cons_of_length_pos nonempty with ⟨top, rest, rfl⟩
      simp [Move.onLevels, List.getLast?_cons]

theorem take_push (below : height < levels.length) :
    ((Move.push value).onLevels levels).take (height + 1) = value :: levels.take height := by
  simp only [Move.onLevels, List.take_succ_cons, List.cons.injEq, true_and]
  rw [List.dropLast_eq_take, List.take_take]
  congr 1
  omega

theorem take_pop (below : height < levels.length) :
    (Move.pop.onLevels levels).take height = (levels.take (height + 1)).tail := by
  rcases List.exists_cons_of_length_pos (Nat.zero_lt_of_lt below) with ⟨top, rest, rfl⟩
  simp only [List.length_cons, Nat.lt_succ_iff] at below
  simp [Move.onLevels, List.take_append_of_le_length below]

theorem tail_take (frames : List α) (count : ℕ) :
    (frames.take (count + 1)).tail = frames.tail.take count := by
  cases frames <;> simp

/-- Within the room the levels agree with the frames. -/
theorem take_levelsAfter (climbs : climb room height moves = some after)
    (within : height ≤ room) (room_le : room ≤ levels.length)
    (agree : levels.take (height + (levels.length - room)) =
      frames.take (height + (levels.length - room))) :
    (levelsAfter moves levels).length = levels.length ∧
      (levelsAfter moves levels).take (after + (levels.length - room)) =
        (framesAfter moves frames).take (after + (levels.length - room)) := by
  induction moves generalizing levels frames height with
  | nil =>
      cases climbs
      exact ⟨rfl, agree⟩
  | cons move rest ih =>
      have positive : 0 < height ∨ height < room → 0 < levels.length := by omega
      cases move with
      | push value =>
          simp only [climb, Option.ite_none_right_eq_some] at climbs
          rcases climbs with ⟨below, climbs⟩
          have same := length_onLevels (positive (Or.inr below)) (.push value)
          have next := @ih ((Move.push value).onLevels levels)
            ((Move.push value).onFrames frames) (height + 1) climbs below (by omega)
          rw [same] at next
          apply next
          have lower : height + (levels.length - room) < levels.length := by omega
          rw [Nat.add_right_comm, take_push lower, agree]
          simp [Move.onFrames]
      | pop =>
          cases height with
          | zero => simp [climb] at climbs
          | succ height =>
              have same := length_onLevels (positive (Or.inl (Nat.succ_pos height))) .pop
              have next := @ih (Move.pop.onLevels levels) (Move.pop.onFrames frames) height climbs
                (by omega) (by omega)
              rw [same] at next
              apply next
              rw [Nat.add_right_comm] at agree
              rw [take_pop (by omega), agree, tail_take]
              rfl

/-- Frames below the moves are left alone. -/
theorem drop_framesAfter (climbs : climb room height moves = some after) :
    (framesAfter moves frames).drop after = frames.drop height := by
  induction moves generalizing frames height with
  | nil =>
      cases climbs
      rfl
  | cons move rest ih =>
      cases move with
      | push value =>
          simp only [climb, Option.ite_none_right_eq_some] at climbs
          exact ih climbs.2
      | pop =>
          cases height with
          | zero => simp [climb] at climbs
          | succ height =>
              have next := @ih (Move.pop.onFrames frames) height climbs
              simpa [Move.onFrames, framesAfter] using next

/-- Balanced moves restore the levels that the room leaves. -/
theorem Balanced.take_levelsAfter (balanced : Balanced room moves)
    (room_le : room ≤ levels.length) :
    (levelsAfter moves levels).length = levels.length ∧
      (levelsAfter moves levels).take (levels.length - room) =
        levels.take (levels.length - room) := by
  have agree := @BoundedStack.take_levelsAfter _ levels levels _ _ _ _ balanced
    (Nat.zero_le room) room_le rfl
  have restored : framesAfter moves levels = levels := drop_framesAfter balanced
  rw [restored, Nat.zero_add] at agree
  exact agree

/-- The pop that matches a push finds its value, over what was below it. -/
theorem Balanced.matched (balanced : Balanced room moves) (room_lt : room < levels.length) :
    (levelsAfter moves ((Move.push value).onLevels levels)).head? = some value ∧
      (Move.pop.onLevels (levelsAfter moves ((Move.push value).onLevels levels))).take
          (levels.length - 1 - room) = levels.take (levels.length - 1 - room) := by
  have same := length_onLevels (Nat.zero_lt_of_lt room_lt) (.push value)
  have kept := @Balanced.take_levelsAfter _ ((Move.push value).onLevels levels) _ _ balanced
    (by omega)
  rw [same] at kept
  have split : levels.length - room = levels.length - 1 - room + 1 := by omega
  rw [split, take_push (by omega)] at kept
  constructor
  · have first := congrArg List.head? kept.2
    rwa [List.head?_take, if_neg (Nat.succ_ne_zero _)] at first
  · rw [take_pop (by omega), kept.2, List.tail_cons]

end Moves

end BoundedStack
