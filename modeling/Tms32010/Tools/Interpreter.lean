import Tms32010.Tools.Database
import Tms32010.Tools.Expression

/-!
# The interpreter

What the assembler leaves to the Python interpreter it runs on: the library functions that
follow Unicode, the parser of expressions, and the limits of recursion, of memory and of the
conversion of integers. Their documented behaviour on short ASCII text is part of the
structure.
-/

namespace Tms32010.Tools

/-- The methods that call `_evaluate`; the deeper ones leave it less of the stack. -/
inductive CallSite where
  | assemble | comprehension | encode | encodeDataAddress
  deriving DecidableEq, Repr

/-- Why an operator cannot hold its result. -/
inductive Exhaustion where
  | overflowError | memoryError
  deriving DecidableEq, Repr

/-- A short text of printable ASCII characters that does not start with a space. -/
structure PlainText (text : Text) : Prop where
  printable : ∀ c ∈ text, 32 ≤ c.toNat ∧ c.toNat < 127
  start : ∀ c ∈ text.head?, c ≠ ' '
  short : text.length ≤ 100

/-- An interpreter. -/
class Interpreter where
  /-- `str.upper`. -/
  upper : Text → Text
  /-- Whether two characters match under `re.IGNORECASE`. -/
  sameLetter : Char → Char → Bool
  /-- `int(text, 0)`, where it does not raise. -/
  int : Text → Option ℤ
  /-- `repr`. -/
  repr : Text → Text
  /-- `ast.parse` in mode `eval`. -/
  parse : Text → Except Failure Expression
  /-- The nested visits that the recursion limit leaves. -/
  levels : CallSite → ℕ
  /-- An operator whose result the interpreter cannot hold. -/
  exhausts : Operator → ℤ → ℤ → Option Exhaustion
  /-- `sys.get_int_max_str_digits()`; zero is no limit. -/
  intMaxStrDigits : ℕ
  /-- The reason of `str` for an integer of too many digits. -/
  digitsReason : ℤ → Text
  /-- The reason of an operator for a zero divisor. -/
  zeroDivisionReason : Operator → Text
  upper_plain : ∀ text : Text, (∀ c ∈ text, c.toNat < 128) → upper text = Text.upper text
  sameLetter_plain : ∀ c d : Char, c.toNat < 128 → d.toNat < 128 →
    sameLetter c d = (c.toUpper == d.toUpper)
  int_plain : ∀ text, PlainText text → int text = Text.int? text
  parse_plain : ∀ text tree, PlainText text → parse? text = some tree → parse text = .ok tree
  levels_least : ∀ site, 10 ≤ levels site
  intMaxStrDigits_least : intMaxStrDigits = 0 ∨ 640 ≤ intMaxStrDigits

/-- The message of an exception that `except (SyntaxError, ValueError, ZeroDivisionError)`
catches; the errors of the tools are a `ValueError`. -/
def Failure.reason? : Failure → Option Text
  | .assemblyError message => some message
  | .isaDatabaseError message => some message
  | .valueError message => some message
  | .syntaxError message => some message
  | .zeroDivisionError message => some message
  | .keyError => none
  | .indexError => none
  | .overflowError => none
  | .recursionError => none
  | .memoryError => none

/-- The exception of an exhausted operator. -/
def Exhaustion.failure : Exhaustion → Failure
  | .overflowError => .overflowError
  | .memoryError => .memoryError

/-! ## Evaluation -/

section Evaluation

variable [Interpreter]

/-- `str` cannot convert the integer. -/
def Unprintable (value : ℤ) : Prop :=
  0 < Interpreter.intMaxStrDigits ∧ 10 ^ Interpreter.intMaxStrDigits ≤ value.natAbs

instance decidableUnprintable (value : ℤ) : Decidable (Unprintable value) :=
  inferInstanceAs (Decidable (_ ∧ _))

/-- `str` of an integer. -/
def str (value : ℤ) : Except Failure Text :=
  if Unprintable value then .error (.valueError (Interpreter.digitsReason value))
  else .ok (Text.signed value)

/-- The right operands that Python's operators refuse. -/
def Operator.refusal? (op : Operator) (right : ℤ) : Option Failure :=
  match op with
  | .floorDiv | .mod =>
      if right = 0 then some (.zeroDivisionError (Interpreter.zeroDivisionReason op)) else none
  | .lShift | .rShift =>
      if right < 0 then some (.valueError "negative shift count".toList) else none
  | _ => none

/-- `BINARY`, where no operand is refused. -/
def Operator.value (op : Operator) (left right : ℤ) : ℤ :=
  match op with
  | .add => left + right
  | .sub => left - right
  | .mult => left * right
  | .floorDiv => left.fdiv right
  | .mod => left.fmod right
  | .lShift => left * 2 ^ right.toNat
  | .rShift => left.fdiv (2 ^ right.toNat)
  | .bitOr => left.lor right
  | .bitAnd => left.land right
  | .bitXor => left.xor right

/-- `BINARY`. -/
def Operator.apply (op : Operator) (left right : ℤ) : Except Failure ℤ :=
  match op.refusal? right with
  | some refusal => .error refusal
  | none =>
      match Interpreter.exhausts op left right with
      | some exhaustion => .error exhaustion.failure
      | none => .ok (op.value left right)

/-- `UNARY`. -/
def Sign.value (op : Sign) (value : ℤ) : ℤ :=
  match op with
  | .uAdd => value
  | .uSub => -value
  | .invert => -value - 1

/-- `visit`; `names` are the symbols in capitals. -/
def Expression.visit (names : List (Text × ℤ)) : ℕ → Expression → Except Failure ℤ
  | 0, _ => .error .recursionError
  | _ + 1, .constant value => .ok value
  | _ + 1, .otherConstant => .error (.valueError "only integer constants are allowed".toList)
  | _ + 1, .name id =>
      match names.lookup (Interpreter.upper id) with
      | some value => .ok value
      | none => .error (.valueError ("undefined symbol ".toList ++ id))
  | levels + 1, .binOp left op right => do
      let x ← left.visit names levels
      let y ← right.visit names levels
      op.apply x y
  | _ + 1, .otherBinOp type =>
      .error (.valueError ("operator ".toList ++ type ++ " is not allowed".toList))
  | levels + 1, .unaryOp op operand => do
      return op.value (← operand.visit names levels)
  | _ + 1, .otherUnaryOp type =>
      .error (.valueError ("operator ".toList ++ type ++ " is not allowed".toList))
  | _ + 1, .element type =>
      .error (.valueError ("expression element ".toList ++ type ++ " is not allowed".toList))

end Evaluation

/-! ## An interpreter for short ASCII text -/

/-- CPython with its default limits and memory for shifts below `2 ^ 40`, on short ASCII text.
An expression outside the grammar is a syntax error. -/
@[reducible]
def Interpreter.plain : Interpreter where
  upper := Text.upper
  sameLetter c d := c.toUpper == d.toUpper
  int := Text.int?
  repr := Text.quoted
  parse text :=
    match parse? text with
    | some tree => .ok tree
    | none => .error (.syntaxError "invalid syntax (<unknown>, line 1)".toList)
  levels _ := 490
  exhausts op left right :=
    match op with
    | .lShift =>
        if left = 0 ∨ right < 2 ^ 40 then none
        else if right < 2 ^ 66 then some .memoryError
        else some .overflowError
    | _ => none
  intMaxStrDigits := 4300
  digitsReason _ :=
    ("Exceeds the limit (4300 digits) for integer string conversion; " ++
      "use sys.set_int_max_str_digits() to increase the limit").toList
  zeroDivisionReason op :=
    match op with
    | .mod => "integer modulo by zero".toList
    | _ => "integer division or modulo by zero".toList
  upper_plain _ _ := rfl
  sameLetter_plain _ _ _ _ := rfl
  int_plain _ _ := rfl
  parse_plain _ _ _ parsed := by rw [parsed]
  levels_least _ := by decide
  intMaxStrDigits_least := by decide

end Tms32010.Tools
