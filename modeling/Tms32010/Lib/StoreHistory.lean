import Mathlib.Logic.Function.Basic
import Tms32010.Lib.Timeline

/-!
# Store histories

A memory that takes at most one store in every clock of a run. A word of it is the one
last stored at its address, or the initial one if nothing was.
-/

namespace Timeline

universe u v

variable {α : Type u} {β : Type v} [DecidableEq α]

/-- The memory after a clock with or without a store. -/
def stored (memory : α → β) : Option (α × β) → α → β
  | some (address, word) => Function.update memory address word
  | none => memory

@[simp]
theorem stored_none (memory : α → β) : stored memory none = memory := rfl

@[simp]
theorem stored_some (memory : α → β) (address : α) (word : β) :
    stored memory (some (address, word)) = Function.update memory address word :=
  rfl

theorem stored_other {memory : α → β} {store : Option (α × β)} {address : α}
    (other : ∀ word, store ≠ some (address, word)) :
    stored memory store address = memory address := by
  cases store with
  | none => rfl
  | some item =>
      have differs : address ≠ item.1 := by
        intro same
        exact other item.2 (by rw [same])
      exact Function.update_of_ne differs item.2 memory

/-- The memory of a run takes the store of each clock. -/
def Takes (memory : ℕ → α → β) (store : ℕ → Option (α × β)) : Prop :=
  ∀ clock, memory (clock + 1) = stored (memory clock) (store clock)

/-- A clock stores at an address. -/
def storesAt (store : ℕ → Option (α × β)) (address : α) (clock : ℕ) : Prop :=
  ∃ word, store clock = some (address, word)

section Takes

variable {memory : ℕ → α → β} {store : ℕ → Option (α × β)} {address : α} {now : ℕ}

/-- A word is the one last stored at its address. -/
theorem Takes.recent (takes : Takes memory store) {last : ℕ} {word : β}
    (since : Last (storesAt store address) last now) (stores : store last = some (address, word)) :
    memory now address = word := by
  induction since using Last.induction with
  | starts happened =>
      rw [takes last, stores, stored_some]
      exact Function.update_self address word (memory last)
  | persists clock since absent ih =>
      rw [takes clock, stored_other fun word happens => absent ⟨word, happens⟩]
      exact ih

/-- A word nothing was stored at is the initial one. -/
theorem Takes.initial (takes : Takes memory store)
    (absent : ∀ clock, clock < now → ¬storesAt store address clock) :
    memory now address = memory 0 address := by
  induction now with
  | zero => rfl
  | succ now ih =>
      have here := absent now (Nat.lt_succ_self now)
      rw [takes now, stored_other fun word happens => here ⟨word, happens⟩]
      exact ih fun clock before => absent clock (Nat.lt_succ_of_lt before)

/-- The memory is the initial one with the stores so far, in their order. -/
theorem Takes.fold (takes : Takes memory store) :
    memory now = ((List.range now).map store).foldl stored (memory 0) := by
  induction now with
  | zero => rfl
  | succ now ih =>
      rw [List.range_succ, List.map_append, List.foldl_append, ← ih, takes now]
      rfl

end Takes

end Timeline
