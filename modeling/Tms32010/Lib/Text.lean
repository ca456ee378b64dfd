import Mathlib

/-!
# Source text

The operations of Python's `str` that line-oriented tools use, on lists of
characters, and how they undo the composition of a text from lines, words and
comma-separated fields. Those on letters and digits are for short ASCII texts.
-/

/-- A text as its characters. -/
abbrev Text := List Char

namespace Text

instance lawfulBEq : LawfulBEq Text := inferInstance

/-! ## Characters -/

/-- The characters `str.strip` removes. -/
def isSpace (c : Char) : Bool :=
  let n := c.toNat
  (9 ≤ n && n ≤ 13) || (28 ≤ n && n ≤ 32) || n == 0x85 || n == 0xa0 || n == 0x1680 ||
    (0x2000 ≤ n && n ≤ 0x200a) || n == 0x2028 || n == 0x2029 || n == 0x202f || n == 0x205f ||
    n == 0x3000

/-- The characters that end a line. -/
def isLineBreak (c : Char) : Bool :=
  let n := c.toNat
  (10 ≤ n && n ≤ 13) || (28 ≤ n && n ≤ 30) || n == 0x85 || n == 0x2028 || n == 0x2029

/-- The value of a digit of a base. -/
def digitValue? (base : ℕ) (c : Char) : Option ℕ :=
  let value :=
    if '0' ≤ c ∧ c ≤ '9' then c.toNat - '0'.toNat
    else if 'a' ≤ c ∧ c ≤ 'z' then c.toNat - 'a'.toNat + 10
    else if 'A' ≤ c ∧ c ≤ 'Z' then c.toNat - 'A'.toNat + 10
    else base
  if value < base then some value else none

/-! ## Operations -/

/-- `str.strip`. -/
def strip (t : Text) : Text :=
  ((t.dropWhile isSpace).reverse.dropWhile isSpace).reverse

/-- `str.upper`, for ASCII text. -/
def upper (t : Text) : Text := t.map Char.toUpper

/-- `str.split(None, 1)`. -/
def splitSpace (t : Text) : List Text :=
  let start := t.dropWhile isSpace
  let first := start.takeWhile fun c => !isSpace c
  let rest := (start.dropWhile fun c => !isSpace c).dropWhile isSpace
  if start.isEmpty then [] else if rest.isEmpty then [first] else [first, rest]

/-- `str.splitlines` with the characters of the current line. -/
def linesFrom (line : Text) : Text → List Text
  | [] => if line.isEmpty then [] else [line]
  | '\r' :: '\n' :: rest => line :: linesFrom [] rest
  | c :: rest => if isLineBreak c then line :: linesFrom [] rest else linesFrom (line ++ [c]) rest

/-- `str.splitlines`. -/
def splitlines (t : Text) : List Text := linesFrom [] t

/-- The digits of a literal after the value so far; a single underscore may stand
between two digits. -/
def digits? (base value : ℕ) (after : Bool) : Text → Option ℕ
  | [] => if after then some value else none
  | '_' :: rest => if after then digits? base value false rest else none
  | c :: rest =>
      match digitValue? base c with
      | some digit => digits? base (base * value + digit) true rest
      | none => none

/-- An ASCII integer literal without sign. -/
def literal? : Text → Option ℕ
  | ['0'] => some 0
  | '0' :: c :: rest =>
      if c = 'x' ∨ c = 'X' then digits? 16 0 (!rest.isEmpty) rest
      else if c = 'o' ∨ c = 'O' then digits? 8 0 (!rest.isEmpty) rest
      else if c = 'b' ∨ c = 'B' then digits? 2 0 (!rest.isEmpty) rest
      else digits? 1 0 true (c :: rest)
  | t => digits? 10 0 false t

/-- `int(text, 0)`, for short ASCII text. -/
def int? (t : Text) : Option ℤ :=
  match strip t with
  | '-' :: rest => (literal? rest).map fun n => -(n : ℤ)
  | '+' :: rest => (literal? rest).map fun n => (n : ℤ)
  | rest => (literal? rest).map fun n => (n : ℤ)

/-- `str` of a natural number with few enough digits. -/
def decimal (n : ℕ) : Text := Nat.toDigits 10 n

/-- `str` of an integer with few enough digits. -/
def signed (z : ℤ) : Text := if z < 0 then '-' :: decimal z.natAbs else decimal z.natAbs

/-- Hexadecimal digits padded with zeros to a width. -/
def hexDigits : ℕ → ℕ → Text
  | 0, _ => []
  | width + 1, n => hexDigits width (n / 16) ++ [Nat.digitChar (n % 16)]

/-- `repr` of ASCII text. -/
def quoted (t : Text) : Text :=
  let quote := if '\'' ∈ t ∧ '"' ∉ t then '"' else '\''
  let escape (c : Char) : Text :=
    if c = quote ∨ c = '\\' then ['\\', c]
    else if c = '\n' then ['\\', 'n']
    else if c = '\r' then ['\\', 'r']
    else if c = '\t' then ['\\', 't']
    else if c.toNat < 32 ∨ c.toNat = 127 then ['\\', 'x'] ++ hexDigits 2 c.toNat
    else [c]
  quote :: t.flatMap escape ++ [quote]

/-! ## Lines -/

theorem linesFrom_line {t : Text} (plain : ∀ c ∈ t, isLineBreak c = false) (line rest : Text) :
    linesFrom line (t ++ '\n' :: rest) = (line ++ t) :: linesFrom [] rest := by
  induction t generalizing line with
  | nil =>
      rw [List.nil_append, List.append_nil]
      simp [linesFrom, isLineBreak]
  | cons c t ih =>
      have notBreak := plain c (by simp)
      have notReturn : c ≠ '\r' := by
        rintro rfl
        exact absurd notBreak (by decide)
      rw [List.cons_append, linesFrom]
      · rw [notBreak]
        simp only [Bool.false_eq_true, if_false]
        rw [ih fun d among => plain d (by simp [among])]
        simp
      · rintro later rfl
        exact absurd rfl notReturn

/-- Terminated lines are split into the lines. -/
theorem splitlines_terminated (rows : List Text)
    (plain : ∀ row ∈ rows, ∀ c ∈ row, isLineBreak c = false) :
    splitlines (rows.map (· ++ ['\n'])).flatten = rows := by
  unfold splitlines
  induction rows with
  | nil => rfl
  | cons row rows ih =>
      have rest := ih fun other among => plain other (by simp [among])
      rw [List.map_cons, List.flatten_cons, List.append_assoc, List.singleton_append,
        linesFrom_line (plain row (by simp)), rest, List.nil_append]

/-! ## Words and fields -/

theorem strip_of_bounds {t : Text} (first : ∀ c ∈ t.head?, isSpace c = false)
    (last : ∀ c ∈ t.getLast?, isSpace c = false) : strip t = t := by
  have left : t.dropWhile isSpace = t := by
    cases t with
    | nil => rfl
    | cons c t => rw [List.dropWhile_cons, first c rfl]; rfl
  have right : t.reverse.dropWhile isSpace = t.reverse := by
    cases reversed : t.reverse with
    | nil => rfl
    | cons c u =>
        have same : t.getLast? = some c := by
          rw [← List.head?_reverse, reversed]
          rfl
        rw [List.dropWhile_cons, last c (by rw [same]; rfl)]
        rfl
  rw [strip, left, right, List.reverse_reverse]

theorem strip_of_plain {t : Text} (plain : ∀ c ∈ t, isSpace c = false) : strip t = t :=
  strip_of_bounds (fun c among => plain c (List.mem_of_mem_head? among))
    fun c among => plain c (List.mem_of_mem_getLast? among)

/-- A word alone. -/
theorem splitSpace_word {word : Text} (nonempty : word ≠ [])
    (plain : ∀ c ∈ word, isSpace c = false) : splitSpace word = [word] := by
  have start : word.dropWhile isSpace = word := by
    cases word with
    | nil => rfl
    | cons c t => rw [List.dropWhile_cons, plain c (by simp)]; rfl
  have keeps : ∀ c ∈ word, (!isSpace c) = true := fun c among => by rw [plain c among]; rfl
  have first : (word.takeWhile fun c => !isSpace c) = word := by
    exact List.takeWhile_eq_self_iff.mpr keeps
  have rest : (word.dropWhile fun c => !isSpace c) = [] := by
    exact List.dropWhile_eq_nil_iff.mpr keeps
  unfold splitSpace
  simp [start, first, rest, nonempty]

/-- A word, a space and the rest. -/
theorem splitSpace_words {word rest : Text} (nonempty : word ≠ [])
    (plain : ∀ c ∈ word, isSpace c = false) (more : rest ≠ [])
    (begins : ∀ c ∈ rest.head?, isSpace c = false) :
    splitSpace (word ++ ' ' :: rest) = [word, rest] := by
  have start : (word ++ ' ' :: rest).dropWhile isSpace = word ++ ' ' :: rest := by
    cases word with
    | nil => exact absurd rfl nonempty
    | cons c t => rw [List.cons_append, List.dropWhile_cons, plain c (by simp)]; rfl
  have keeps : ∀ c ∈ word, (!isSpace c) = true := fun c among => by rw [plain c among]; rfl
  have first : ((word ++ ' ' :: rest).takeWhile fun c => !isSpace c) = word := by
    rw [List.takeWhile_append_of_pos keeps]
    simp [isSpace]
  have after : ((word ++ ' ' :: rest).dropWhile fun c => !isSpace c) = ' ' :: rest := by
    rw [List.dropWhile_append_of_pos keeps]
    simp [isSpace]
  have trimmed : (' ' :: rest).dropWhile isSpace = rest := by
    cases rest with
    | nil => exact absurd rfl more
    | cons c t =>
        rw [List.dropWhile_cons, if_pos (by decide), List.dropWhile_cons, begins c rfl]
        rfl
  unfold splitSpace
  simp only [start, first, after, trimmed]
  simp [more]

/-! ## Numbers -/

theorem digitValue?_digitChar {base n : ℕ} (small : n < base) (bound : base ≤ 16) :
    digitValue? base (Nat.digitChar n) = some n := by
  have inside : n < 16 := by omega
  interval_cases n <;> simp [digitValue?, Nat.digitChar, small]

theorem digits?_digitChar {base n : ℕ} (small : n < base) (bound : base ≤ 16) (value : ℕ)
    (after : Bool) (rest : Text) :
    digits? base value after (Nat.digitChar n :: rest) =
      digits? base (base * value + n) true rest := by
  have digit := digitValue?_digitChar small bound
  have inside : n < 16 := by omega
  have notUnderscore : Nat.digitChar n ≠ '_' := by interval_cases n <;> decide
  rw [digits?, digit]
  exact notUnderscore

theorem digits?_decimal (n : ℕ) (after : Bool) (rest : Text) :
    digits? 10 0 after (decimal n ++ rest) = digits? 10 n true rest := by
  induction n using Nat.strongRecOn generalizing after rest with
  | _ n ih =>
      unfold decimal
      by_cases small : n < 10
      · rw [Nat.toDigits_of_lt_base small, List.singleton_append,
          digits?_digitChar small (by decide)]
        congr 1
        omega
      · have shorter := ih (n / 10) (by omega) after (Nat.digitChar (n % 10) :: rest)
        unfold decimal at shorter
        rw [Nat.toDigits_of_base_le (by decide) (by omega), List.append_assoc,
          List.singleton_append, shorter, digits?_digitChar (by omega) (by decide)]
        congr 1
        omega

theorem digits?_hexDigits (width n : ℕ) (rest : Text) :
    digits? 16 0 true (hexDigits width n ++ rest) = digits? 16 (n % 16 ^ width) true rest := by
  induction width generalizing n rest with
  | zero => rw [pow_zero, Nat.mod_one]; rfl
  | succ width ih =>
      rw [hexDigits, List.append_assoc, ih, List.singleton_append,
        digits?_digitChar (Nat.mod_lt n (by decide)) le_rfl, pow_succ', Nat.mod_mul, Nat.add_comm]

theorem isDigit_of_mem_decimal {n : ℕ} {c : Char} (among : c ∈ decimal n) : c.isDigit = true :=
  Nat.isDigit_of_mem_toDigits (by decide) le_rfl among

theorem decimal_ne_nil (n : ℕ) : decimal n ≠ [] := Nat.toDigits_ne_nil

/-- A positive number does not start with zero. -/
theorem decimal_head {n : ℕ} (positive : 0 < n) : ∀ c ∈ (decimal n).head?, c ≠ '0' := by
  induction n using Nat.strongRecOn with
  | _ n ih =>
      unfold decimal
      by_cases small : n < 10
      · rw [Nat.toDigits_of_lt_base small]
        interval_cases n <;> simp [Nat.digitChar]
      · have same : (Nat.toDigits 10 (n / 10) ++ [Nat.digitChar (n % 10)]).head? =
            (Nat.toDigits 10 (n / 10)).head? := by
          cases shown : Nat.toDigits 10 (n / 10) with
          | nil => exact absurd shown Nat.toDigits_ne_nil
          | cons c rest => rfl
        rw [Nat.toDigits_of_base_le (by decide) (by omega), same]
        exact ih (n / 10) (by omega) (by omega)

/-- A printed number is its literal. -/
theorem literal?_decimal (n : ℕ) : literal? (decimal n) = some n := by
  rcases Nat.eq_zero_or_pos n with rfl | positive
  · rfl
  · have head := decimal_head positive
    have read : digits? 10 0 false (decimal n) = some n := by
      simpa [digits?] using digits?_decimal n false []
    cases shown : decimal n with
    | nil => exact absurd shown (decimal_ne_nil n)
    | cons c rest =>
        rw [shown] at head read
        have first : c ≠ '0' := head c rfl
        unfold literal?
        split
        · rename_i same
          exact absurd (List.cons.inj same).1 first
        · rename_i same
          exact absurd (List.cons.inj same).1 first
        · exact read

/-- A printed hexadecimal word is its literal. -/
theorem literal?_hexDigits {width n : ℕ} (positive : 0 < width) (bound : n < 16 ^ width) :
    literal? ('0' :: 'x' :: hexDigits width n) = some n := by
  have nonempty : hexDigits width n ≠ [] := by
    cases width with
    | zero => exact absurd positive (by decide)
    | succ width => simp [hexDigits]
  have read := digits?_hexDigits width n []
  rw [List.append_nil, Nat.mod_eq_of_lt bound] at read
  unfold literal?
  simp only [true_or, if_true]
  have kept : (hexDigits width n).isEmpty = false := by simpa using nonempty
  rw [kept]
  exact read

theorem hexDigits_length (width n : ℕ) : (hexDigits width n).length = width := by
  induction width generalizing n with
  | zero => rfl
  | succ width ih => rw [hexDigits, List.length_append, ih, List.length_singleton]

theorem hexDigits_plain {width n : ℕ} : ∀ c ∈ hexDigits width n, c.isAlphanum = true := by
  induction width generalizing n with
  | zero => simp [hexDigits]
  | succ width ih =>
      intro c among
      rw [hexDigits, List.mem_append, List.mem_singleton] at among
      rcases among with earlier | rfl
      · exact ih c earlier
      · have small : n % 16 < 16 := Nat.mod_lt n (by decide)
        interval_cases n % 16 <;> decide

end Text
