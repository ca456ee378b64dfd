import Tms32010.Lib.WordBytes
import Tms32010.Model.State

/-!
# Reference model: program images

`load_words` and `load_binary`, the latter on the content of the file. The words are stored
one by one, so a rejected word leaves the earlier ones loaded.
-/

namespace Tms32010.Model

/-- The loop of `load_words` from an address on. -/
def loadFrom (address : ℕ) : List ℕ → Exec Unit
  | [] => pure ()
  | word :: rest => do
      if address ≥ programWords then throw .valueError
      else if ¬word ≤ wordMask then throw .valueError
      else
        let self ← get
        set { self with program := ← setIndex self.program address word }
        loadFrom (address + 1) rest

/-- `load_words`. -/
def loadWords (words : List ℕ) (origin : ℕ := 0) : Exec Unit :=
  if ¬origin < programWords then throw .valueError else loadFrom origin words

/-- `load_binary`. -/
def loadBinary (content : List ℕ) (byteorder : ByteOrder) (origin : ℕ := 0) : Exec Unit :=
  if content.length % 2 ≠ 0 then throw .valueError
  else loadWords (byteorder.words content) origin

/-! ## The loaded program -/

/-- The words replace those from the address on, and nothing else changes. -/
theorem loadFrom_run {words : List ℕ} (before after : List ℕ) {self : Tms32010Model}
    (range : ∀ word ∈ words, word ≤ wordMask)
    (program : self.program = before ++ after) (room : words.length ≤ after.length)
    (size : self.program.length = programWords) :
    (loadFrom before.length words).run self =
      .ok () { self with program := before ++ words ++ after.drop words.length } := by
  induction words generalizing before after self with
  | nil =>
      rw [List.append_nil, List.length_nil, List.drop_zero, ← program]
      rfl
  | cons word rest ih =>
      cases after with
      | nil => exact absurd room (by simp)
      | cons old after =>
          have inside : before.length < self.program.length := by simp [program]
          have stored : self.program.set before.length word = before ++ [word] ++ after := by
            simp [program]
          let next : Tms32010Model := { self with program := before ++ [word] ++ after }
          have stepped : next.program = before ++ [word] ++ after := rfl
          have later := ih (before ++ [word]) after
            (fun other among => range other (by simp [among])) stepped (by simpa using room)
            (by rw [← size, program]; simp [next])
          have allowed : ¬before.length ≥ programWords := by omega
          have small : ¬¬word ≤ wordMask := not_not.mpr (range word (by simp))
          have step : (loadFrom before.length (word :: rest)).run self =
              (loadFrom (before.length + 1) rest).run next := by
            rw [loadFrom, if_neg allowed, if_neg small]
            change EStateM.run (do
              let program ← setIndex self.program before.length word
              set { self with program := program }
              loadFrom (before.length + 1) rest) self = _
            unfold setIndex
            rw [if_pos inside, stored]
            rfl
          rw [step, show before.length + 1 = (before ++ [word]).length by simp, later]
          simp [next]

/-- An image that fits is loaded at the start of the program space. -/
theorem loadBinary_run {words : List ℕ} {self : Tms32010Model}
    (range : ∀ word ∈ words, word ≤ wordMask) (room : words.length ≤ programWords)
    (size : self.program.length = programWords) (byteorder : ByteOrder) :
    (loadBinary (words.flatMap byteorder.bytes) byteorder).run self =
      .ok () { self with program := words ++ self.program.drop words.length } := by
  have even : ¬(words.flatMap byteorder.bytes).length % 2 ≠ 0 := by
    rw [byteorder.length_flatMap_bytes]
    omega
  unfold loadBinary loadWords
  rw [if_neg even, if_neg (not_not.mpr (by decide)), byteorder.words_flatMap_bytes]
  exact loadFrom_run [] self.program range rfl (by omega) size

end Tms32010.Model
