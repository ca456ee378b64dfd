import Mathlib.Logic.Function.Basic
import Mathlib.Tactic.SplitIfs

/-!
# Registered reads of two owners

A memory with one registered read response that serves two owners. A request of an
owner is a level: the first clock of it captures the word at the address presented in
that clock, and the response stays as long as the request does.
-/

namespace RegisteredRead

universe u v

variable {α : Type u} {β : Type v}

/-- The memory and its response register; `first` names the owner it answers. -/
structure State (α : Type u) (β : Type v) where
  memory : α → β
  valid : Bool
  first : Bool
  data : β

/-- One clock: the requests of the owners, the addresses they present and a write. -/
structure Inputs (α : Type u) (β : Type v) where
  clear : Bool
  firstRequest : Bool
  secondRequest : Bool
  firstAddress : α
  secondAddress : α
  write : Option (α × β)

/-- The request of an owner. -/
def Inputs.request (i : Inputs α β) (first : Bool) : Bool :=
  if first then i.firstRequest else i.secondRequest

/-- The address of an owner. -/
def Inputs.address (i : Inputs α β) (first : Bool) : α :=
  if first then i.firstAddress else i.secondAddress

/-- The requests exclude each other, and no word is written under a request. -/
structure Inputs.Orderly (i : Inputs α β) : Prop where
  apart : ¬(i.firstRequest = true ∧ i.secondRequest = true)
  quiet : ∀ first, i.request first = true → i.write = none

section Step

variable [DecidableEq α] (s : State α β) (cleared : β) (i : Inputs α β)

/-- The memory after a clock. -/
def nextMemory : α → β :=
  match i.write with
  | some (address, word) => Function.update s.memory address word
  | none => s.memory

/-- One clock edge; `cleared` is the word a clear leaves. -/
def step : State α β :=
  if i.clear then { s with valid := false, first := false, data := cleared }
  else if s.valid then
    { s with
      memory := nextMemory s i
      valid := i.request s.first }
  else if i.firstRequest || i.secondRequest then
    { memory := nextMemory s i
      valid := true
      first := i.firstRequest
      data := s.memory (i.address i.firstRequest) }
  else { s with memory := nextMemory s i }

/-- A response is an older one whose request holds, or the word just captured. -/
theorem step_valid (valid : (step s cleared i).valid = true) :
    (s.valid = true ∧ i.request s.first = true ∧ (step s cleared i).first = s.first ∧
        (step s cleared i).data = s.data ∧ (step s cleared i).memory = nextMemory s i) ∨
      (i.request (step s cleared i).first = true ∧
        (step s cleared i).data = s.memory (i.address (step s cleared i).first) ∧
        (step s cleared i).memory = nextMemory s i) := by
  unfold step at valid ⊢
  split_ifs at valid ⊢ with clear held asked
  · exact Or.inl ⟨held, valid, rfl, rfl, rfl⟩
  · refine Or.inr ⟨?_, rfl, rfl⟩
    unfold Inputs.request
    dsimp only
    cases first : i.firstRequest
    · simpa [first] using asked
    · rfl
  · exact absurd valid held

end Step

/-- The data is the word stored now at the address that was presented in an earlier clock
of a request that has held since. -/
def Captured {ι : Type*} (asks : ι → Bool) (address : ι → α) (history : List ι)
    (memory : α → β) (data : β) : Prop :=
  ∃ before capture held, history = before ++ capture :: held ∧
    (∀ i ∈ capture :: held, asks i = true) ∧ data = memory (address capture)

theorem Captured.of_map {ι κ : Type*} {f : κ → ι} {asks : ι → Bool} {address : ι → α}
    {history : List κ} {memory : α → β} {data : β}
    (captured : Captured asks address (history.map f) memory data) :
    Captured (fun i => asks (f i)) (fun i => address (f i)) history memory data := by
  rcases captured with ⟨before, capture, held, split, since, word⟩
  rcases List.map_eq_append_iff.mp split with ⟨first, rest, rfl, rfl, mapped⟩
  rcases List.map_eq_cons_iff.mp mapped with ⟨i, later, rfl, rfl, rfl⟩
  refine ⟨first, i, later, rfl, ?_, word⟩
  intro j among
  exact since (f j) (by simpa using List.mem_map_of_mem (f := f) among)

/-- The request held at the end of the history has presented one address all along. -/
def Steady {ι : Type*} (asks : ι → Bool) (address : ι → α) (history : List ι) (now : α) :
    Prop :=
  ∀ before capture held, history = before ++ capture :: held →
    (∀ i ∈ capture :: held, asks i = true) → address capture = now

/-- A captured word of a steady request is the word stored at its address. -/
theorem Captured.fresh {ι : Type*} {asks : ι → Bool} {address : ι → α} {history : List ι}
    {memory : α → β} {data : β} {now : α}
    (captured : Captured asks address history memory data)
    (steady : Steady asks address history now) : data = memory now := by
  rcases captured with ⟨before, capture, held, split, asked, word⟩
  rw [word, steady before capture held split asked]

section Run

variable [DecidableEq α] (cleared : β)

/-- The state after a run. -/
def run (s : State α β) : List (Inputs α β) → State α β
  | [] => s
  | i :: inputs => run (step s cleared i) inputs

/-- The response is a captured one. -/
def Answers (s : State α β) (history : List (Inputs α β)) : Prop :=
  s.valid = true →
    Captured (fun i => i.request s.first) (fun i => i.address s.first) history s.memory s.data

theorem step_answers {s : State α β} {history : List (Inputs α β)} {i : Inputs α β}
    (orderly : i.Orderly) (answers : Answers s history) :
    Answers (step s cleared i) (history ++ [i]) := by
  intro valid
  have quiet {first : Bool} (asked : i.request first = true) : nextMemory s i = s.memory := by
    unfold nextMemory
    rw [orderly.quiet first asked]
  rcases step_valid s cleared i valid with
    ⟨old, asked, first, data, memory⟩ | ⟨asked, data, memory⟩
  · rcases answers old with ⟨before, capture, held, split, since, word⟩
    refine ⟨before, capture, held ++ [i], by simp [split], ?_, ?_⟩
    · rw [first]
      intro j among
      rcases List.mem_append.mp (by simpa using among : j ∈ (capture :: held) ++ [i]) with
        earlier | last
      · exact since j earlier
      · rw [List.mem_singleton.mp last]
        exact asked
    · rw [data, first, memory, quiet asked]
      exact word
  · refine ⟨history, i, [], rfl, ?_, ?_⟩
    · intro j among
      rw [List.mem_singleton.mp among]
      exact asked
    · rw [data, memory, quiet asked]

/-- Along a run every response answers. -/
theorem run_answers {s : State α β} {history : List (Inputs α β)} (answers : Answers s history)
    (inputs : List (Inputs α β)) (orderly : ∀ i ∈ inputs, i.Orderly) :
    Answers (run cleared s inputs) (history ++ inputs) := by
  induction inputs generalizing s history with
  | nil => simpa [run] using answers
  | cons i inputs ih =>
      have next := step_answers cleared (orderly i (by simp)) answers
      have rest := ih next (fun j among => orderly j (by simp [among]))
      simpa [run] using rest

/-- From a state without response, every response of a run answers. -/
theorem run_answers_of_empty {s : State α β} (empty : s.valid = false)
    (inputs : List (Inputs α β)) (orderly : ∀ i ∈ inputs, i.Orderly) :
    Answers (run cleared s inputs) inputs := by
  have start : Answers s [] := fun valid => absurd (empty.symm.trans valid) (by decide)
  simpa using run_answers cleared start inputs orderly

end Run

end RegisteredRead
