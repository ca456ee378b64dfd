import Mathlib.Data.Int.Bitwise
import Tms32010.Lib.Text

/-!
# Operand expressions

The syntax trees that `_ExpressionEvaluator` walks, and the part of Python's expression
grammar that can give a tree it accepts, for short texts of printable ASCII: integer
literals, names, parentheses and the arithmetic and bit operators.
-/

namespace Tms32010.Tools

/-- The keys of `BINARY`. -/
inductive Operator where
  | add | sub | mult | floorDiv | mod | lShift | rShift | bitOr | bitAnd | bitXor
  deriving DecidableEq, Repr

/-- The keys of `UNARY`. -/
inductive Sign where
  | uAdd | uSub | invert
  deriving DecidableEq, Repr

/-- The nodes the evaluator visits. It refuses those it has no method or no operator for,
whatever is below them. -/
inductive Expression where
  | constant (value : ℕ)
  | otherConstant
  | name (id : Text)
  | binOp (left : Expression) (op : Operator) (right : Expression)
  | otherBinOp (type : Text)
  | unaryOp (op : Sign) (operand : Expression)
  | otherUnaryOp (type : Text)
  | element (type : Text)
  deriving DecidableEq, Repr

/-! ## Tokens -/

/-- The tokens of the accepted expressions. -/
inductive Token where
  | number (value : ℕ)
  | name (id : Text)
  | operator (op : Operator)
  | tilde
  | openParenthesis
  | closeParenthesis
  deriving DecidableEq, Repr

/-- The words Python does not accept as names. -/
def keywords : List Text :=
  ["False", "None", "True", "and", "as", "assert", "async", "await", "break", "class",
    "continue", "def", "del", "elif", "else", "except", "finally", "for", "from", "global",
    "if", "import", "in", "is", "lambda", "nonlocal", "not", "or", "pass", "raise", "return",
    "try", "while", "with", "yield"].map String.toList

/-- The characters of a number or a name; a point makes a number one of the rejected ones. -/
def isWordCharacter (c : Char) : Bool := c.isAlphanum || c == '_' || c == '.'

/-- The operator at the start of a text, and what follows it. -/
def operator? : Text → Option (Token × Text)
  | '<' :: '<' :: rest => some (.operator .lShift, rest)
  | '>' :: '>' :: rest => some (.operator .rShift, rest)
  | '/' :: '/' :: rest => some (.operator .floorDiv, rest)
  | '*' :: '*' :: _ => none
  | '*' :: rest => some (.operator .mult, rest)
  | '+' :: rest => some (.operator .add, rest)
  | '-' :: rest => some (.operator .sub, rest)
  | '%' :: rest => some (.operator .mod, rest)
  | '|' :: rest => some (.operator .bitOr, rest)
  | '&' :: rest => some (.operator .bitAnd, rest)
  | '^' :: rest => some (.operator .bitXor, rest)
  | '~' :: rest => some (.tilde, rest)
  | '(' :: rest => some (.openParenthesis, rest)
  | ')' :: rest => some (.closeParenthesis, rest)
  | _ => none

/-- The tokens of a printable ASCII text; a comment ends it. Each takes at least one
character, so the length of the text is enough fuel. -/
def tokens? : ℕ → Text → Option (List Token)
  | _, [] => some []
  | 0, _ => none
  | fuel + 1, c :: rest =>
      if c == ' ' || c == '\t' || c == '\x0c' then tokens? fuel rest
      else if c == '#' then some []
      else if c.isDigit then
        match Text.literal? ((c :: rest).takeWhile isWordCharacter) with
        | some value =>
            (tokens? fuel ((c :: rest).dropWhile isWordCharacter)).map (.number value :: ·)
        | none => none
      else if c.isAlpha || c == '_' then
        let id := (c :: rest).takeWhile fun d => d.isAlphanum || d == '_'
        if id ∈ keywords then none
        else
          (tokens? fuel ((c :: rest).dropWhile fun d => d.isAlphanum || d == '_')).map
            (.name id :: ·)
      else
        match operator? (c :: rest) with
        | some (token, after) => (tokens? fuel after).map (token :: ·)
        | none => none

/-! ## Grammar -/

/-- The binding strength of an operator. -/
def Operator.level : Operator → ℕ
  | .bitOr => 0
  | .bitXor => 1
  | .bitAnd => 2
  | .lShift | .rShift => 3
  | .add | .sub => 4
  | .mult | .floorDiv | .mod => 5

mutual

/-- An expression whose operators bind at least as strongly as a level. -/
def parseLevel : ℕ → ℕ → List Token → Option (Expression × List Token)
  | 0, _, _ => none
  | fuel + 1, level, tokens =>
      if level < 6 then
        match parseLevel fuel (level + 1) tokens with
        | some (left, rest) => parseMore fuel level left rest
        | none => none
      else parseUnary fuel tokens

/-- The further operands at a level; they associate to the left. -/
def parseMore : ℕ → ℕ → Expression → List Token → Option (Expression × List Token)
  | fuel + 1, level, left, .operator op :: rest =>
      if op.level = level then
        match parseLevel fuel (level + 1) rest with
        | some (right, after) => parseMore fuel level (.binOp left op right) after
        | none => none
      else some (left, .operator op :: rest)
  | _, _, left, rest => some (left, rest)

/-- A primary with its signs. -/
def parseUnary : ℕ → List Token → Option (Expression × List Token)
  | fuel + 1, .operator .add :: rest =>
      (parseUnary fuel rest).map fun result => (.unaryOp .uAdd result.1, result.2)
  | fuel + 1, .operator .sub :: rest =>
      (parseUnary fuel rest).map fun result => (.unaryOp .uSub result.1, result.2)
  | fuel + 1, .tilde :: rest =>
      (parseUnary fuel rest).map fun result => (.unaryOp .invert result.1, result.2)
  | _, .number value :: rest => some (.constant value, rest)
  | _, .name id :: rest => some (.name id, rest)
  | fuel + 1, .openParenthesis :: rest =>
      match parseLevel fuel 0 rest with
      | some (inner, .closeParenthesis :: after) => some (inner, after)
      | _ => none
  | _, _ => none

end

/-- The tree of an expression of the grammar; the limits of the parser are those of longer
texts. -/
def parse? (text : Text) : Option Expression :=
  match tokens? text.length text with
  | some tokens =>
      match parseLevel (8 * (tokens.length + 1)) 0 tokens with
      | some (expression, []) => some expression
      | _ => none
  | none => none

/-! ## Literals -/

/-- The text of an unsigned literal: a digit and further word characters. -/
structure IsLiteral (text : Text) (value : ℕ) : Prop where
  starts : ∃ c rest, text = c :: rest ∧ c.isDigit = true
  word : ∀ c ∈ text, isWordCharacter c = true
  reads : Text.literal? text = some value

section Literals

variable {text : Text} {value : ℕ}

theorem isLiteral_decimal (n : ℕ) : IsLiteral (Text.decimal n) n where
  starts := by
    cases shown : Text.decimal n with
    | nil => exact absurd shown (Text.decimal_ne_nil n)
    | cons c rest =>
        exact ⟨c, rest, rfl, Text.isDigit_of_mem_decimal (n := n) (by simp [shown])⟩
  word c among := by
    have digit := Text.isDigit_of_mem_decimal among
    simp [isWordCharacter, Char.isAlphanum, digit]
  reads := Text.literal?_decimal n

theorem isLiteral_hexDigits {width n : ℕ} (positive : 0 < width) (bound : n < 16 ^ width) :
    IsLiteral ('0' :: 'x' :: Text.hexDigits width n) n where
  starts := ⟨'0', _, rfl, by decide⟩
  word c among := by
    simp only [List.mem_cons] at among
    rcases among with rfl | rfl | digit
    · decide
    · decide
    · simp [isWordCharacter, Text.hexDigits_plain c digit]
  reads := Text.literal?_hexDigits positive bound

theorem IsLiteral.tokens? (literal : IsLiteral text value) (fuel : ℕ) :
    tokens? (fuel + 1) text = some [.number value] := by
  rcases literal.starts with ⟨c, rest, rfl, digit⟩
  have whole : (c :: rest).takeWhile isWordCharacter = c :: rest := by
    exact List.takeWhile_eq_self_iff.mpr literal.word
  have after : (c :: rest).dropWhile isWordCharacter = [] := by
    exact List.dropWhile_eq_nil_iff.mpr literal.word
  have blank : (c == ' ' || c == '\t' || c == '\x0c') = false := by
    simp only [Bool.or_eq_false_iff, beq_eq_false_iff_ne]
    refine ⟨⟨?_, ?_⟩, ?_⟩ <;> rintro rfl <;> exact absurd digit (by decide)
  have comment : (c == '#') = false := by
    rw [beq_eq_false_iff_ne]
    rintro rfl
    exact absurd digit (by decide)
  rw [Tools.tokens?, blank, comment, digit, whole, after, literal.reads]
  simp [Tools.tokens?]

/-- A literal is parsed as its constant. -/
theorem IsLiteral.parse? (literal : IsLiteral text value) :
    parse? text = some (.constant value) := by
  rcases literal.starts with ⟨c, rest, same, -⟩
  have length : text.length = rest.length + 1 := by simp [same]
  unfold Tools.parse?
  rw [length, literal.tokens?]
  rfl

/-- A negated literal is parsed as the negation of its constant. -/
theorem IsLiteral.parse?_negated (literal : IsLiteral text value) :
    Tools.parse? ('-' :: text) = some (.unaryOp .uSub (.constant value)) := by
  rcases literal.starts with ⟨c, rest, same, -⟩
  have length : text.length = rest.length + 1 := by simp [same]
  have tokens : Tools.tokens? ('-' :: text).length ('-' :: text) =
      some [.operator .sub, .number value] := by
    rw [List.length_cons, length, Tools.tokens?]
    simp [operator?, literal.tokens?]
  unfold Tools.parse?
  rw [tokens]
  rfl

end Literals

end Tms32010.Tools
