import Mathlib.Algebra.Order.Ring.Nat

/-!
# Words as pairs of bytes

Sixteen-bit words in either byte order, and a raw image as the bytes of its words.
-/

/-- The order of the two bytes of a word. -/
inductive ByteOrder where
  | big | little
  deriving DecidableEq, Repr

namespace ByteOrder

/-- The bytes of a word. -/
def bytes (order : ByteOrder) (word : ℕ) : List ℕ :=
  match order with
  | .big => [word / 256, word % 256]
  | .little => [word % 256, word / 256]

/-- The word of two bytes. -/
def word (order : ByteOrder) (first second : ℕ) : ℕ :=
  match order with
  | .big => 256 * first + second
  | .little => 256 * second + first

/-- The words of a raw image, whose length is even. -/
def words (order : ByteOrder) : List ℕ → List ℕ
  | first :: second :: rest => order.word first second :: order.words rest
  | _ => []

variable (order : ByteOrder)

theorem words_bytes_append (value : ℕ) (rest : List ℕ) :
    order.words (order.bytes value ++ rest) = value :: order.words rest := by
  cases order <;> exact congrArg (· :: _) (Nat.div_add_mod value 256)

/-- The words of an image are recovered from its bytes. -/
theorem words_flatMap_bytes (image : List ℕ) :
    order.words (image.flatMap order.bytes) = image := by
  induction image with
  | nil => rfl
  | cons value image ih => rw [List.flatMap_cons, words_bytes_append, ih]

theorem length_bytes (value : ℕ) : (order.bytes value).length = 2 := by
  cases order <;> rfl

theorem length_flatMap_bytes (image : List ℕ) :
    (image.flatMap order.bytes).length = 2 * image.length := by
  induction image with
  | nil => rfl
  | cons value image ih =>
      rw [List.flatMap_cons, List.length_append, ih, length_bytes, List.length_cons]
      omega

end ByteOrder
