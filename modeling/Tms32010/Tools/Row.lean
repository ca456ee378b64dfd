import Tms32010.Tools.Layout

/-!
# Rows

A source line of the shape the disassembler writes: an operation and its operands, joined by
commas. The assembler takes it apart again without loss.
-/

namespace Tms32010.Tools

/-- The characters of an operation or an operand. -/
def isPlain (c : Char) : Bool :=
  c.isAlphanum || c == '.' || c == '*' || c == '+' || c == '-'

/-- An operation with operands. -/
structure Row where
  operation : Text
  operands : List Text
  operation_ne : operation ≠ []
  operation_plain : ∀ c ∈ operation, isPlain c = true
  operands_ne : ∀ operand ∈ operands, operand ≠ []
  operands_plain : ∀ operand ∈ operands, ∀ c ∈ operand, isPlain c = true

/-! ## Plain characters -/

section Plain

variable {c : Char}

theorem isPlain_of_isAlphanum (word : c.isAlphanum = true) : isPlain c = true := by
  simp [isPlain, word]

theorem plain_of_all {text : Text} (all : text.all isPlain = true) :
    ∀ c ∈ text, isPlain c = true :=
  List.all_eq_true.mp all

theorem isSpace_of_isPlain (plain : isPlain c = true) : Text.isSpace c = false := by
  rw [Bool.eq_false_iff]
  intro space
  simp only [isPlain, Char.isAlphanum, Char.isAlpha, Char.isUpper, Char.isLower, Char.isDigit,
    Bool.or_eq_true, Bool.and_eq_true, decide_eq_true_eq, beq_iff_eq, ge_iff_le,
    UInt32.le_iff_toNat_le] at plain
  simp only [Text.isSpace, Bool.or_eq_true, Bool.and_eq_true, decide_eq_true_eq,
    beq_iff_eq] at space
  rcases plain with (((((upper | lower) | digit) | rfl) | rfl) | rfl) | rfl
  · simp at upper
    omega
  · simp at lower
    omega
  · simp at digit
    omega
  all_goals simp at space

theorem printable_of_isPlain (plain : isPlain c = true) : 32 < c.toNat ∧ c.toNat < 127 := by
  simp only [isPlain, Char.isAlphanum, Char.isAlpha, Char.isUpper, Char.isLower, Char.isDigit,
    Bool.or_eq_true, Bool.and_eq_true, decide_eq_true_eq, beq_iff_eq, ge_iff_le,
    UInt32.le_iff_toNat_le] at plain
  rcases plain with (((((upper | lower) | digit) | rfl) | rfl) | rfl) | rfl
  · simp at upper
    omega
  · simp at lower
    omega
  · simp at digit
    omega
  all_goals decide

theorem plainText_of_isPlain {text : Text} (plain : ∀ c ∈ text, isPlain c = true)
    (short : text.length ≤ 100) : PlainText text where
  printable c among := by
    have bounds := printable_of_isPlain (plain c among)
    exact ⟨Nat.le_of_lt bounds.1, bounds.2⟩
  start c first := by
    rintro rfl
    exact absurd (plain ' ' (List.mem_of_mem_head? first)) (by decide)
  short := short

theorem upper_of_isPlain [Interpreter] {text : Text} (plain : ∀ c ∈ text, isPlain c = true) :
    Interpreter.upper text = Text.upper text := by
  apply Interpreter.upper_plain
  intro c among
  have bounds := printable_of_isPlain (plain c among)
  omega

theorem ne_of_isPlain {d : Char} (plain : isPlain c = true) (other : isPlain d = false) : c ≠ d := by
  rintro rfl
  rw [plain] at other
  cases other

end Plain

namespace Row

variable (row : Row)

/-- The operands as one text. -/
def operandText : Text := List.intercalate [','] row.operands

/-- The row as a source line. -/
def text : Text :=
  if row.operands = [] then row.operation else row.operation ++ ' ' :: row.operandText

theorem operandText_nil (none : row.operands = []) : row.operandText = [] := by
  rw [operandText, none]
  rfl

theorem operandText_ne_nil (some : row.operands ≠ []) : row.operandText ≠ [] := by
  cases operands : row.operands with
  | nil => exact absurd operands some
  | cons first rest =>
      have nonempty := row.operands_ne first (by simp [operands])
      cases rest with
      | nil => simpa [operandText, operands] using nonempty
      | cons second rest => simp [operandText, operands, List.intercalate]

theorem operandText_chars : ∀ c ∈ row.operandText, isPlain c = true ∨ c = ',' := by
  unfold operandText
  have plain := row.operands_plain
  generalize row.operands = operands at plain
  induction operands with
  | nil => simp
  | cons first rest ih =>
      have later := ih fun operand among => plain operand (List.mem_cons_of_mem first among)
      have here := plain first List.mem_cons_self
      intro c among
      cases rest with
      | nil =>
          rw [List.intercalate_singleton] at among
          exact Or.inl (here c among)
      | cons second rest =>
          rw [List.intercalate_cons_cons, List.mem_append, List.mem_append,
            List.mem_singleton] at among
          rcases among with (first | comma) | rest
          · exact Or.inl (here c first)
          · exact Or.inr comma
          · exact later c rest

/-- The first operand starts and the last one ends with a plain character. -/
theorem operandText_bounds (some : row.operands ≠ []) :
    (∀ c ∈ row.operandText.head?, isPlain c = true) ∧
      ∀ c ∈ row.operandText.getLast?, isPlain c = true := by
  unfold operandText
  have plain := row.operands_plain
  have nonempty := row.operands_ne
  generalize row.operands = operands at plain nonempty some
  induction operands with
  | nil => exact absurd rfl some
  | cons first rest ih =>
      have here := plain first List.mem_cons_self
      have firstNe := nonempty first List.mem_cons_self
      cases rest with
      | nil =>
          rw [List.intercalate_singleton]
          exact ⟨fun c among => here c (List.mem_of_mem_head? among),
            fun c among => here c (List.mem_of_mem_getLast? among)⟩
      | cons second rest =>
          have later := ih (fun operand among => plain operand (List.mem_cons_of_mem first among))
            (fun operand among => nonempty operand (List.mem_cons_of_mem first among)) (by simp)
          rw [List.intercalate_cons_cons]
          constructor
          · intro c among
            rw [List.append_assoc, List.head?_append_of_ne_nil _ firstNe] at among
            exact here c (List.mem_of_mem_head? among)
          · intro c among
            have restNe : List.intercalate [','] (second :: rest) ≠ [] := by
              intro none
              cases rest with
              | nil =>
                  rw [List.intercalate_singleton] at none
                  exact nonempty second (by simp) none
              | cons third rest => simp [List.intercalate_cons_cons] at none
            rw [List.getLast?_append_of_ne_nil _ restNe] at among
            exact later.2 c among

theorem text_chars : ∀ c ∈ row.text, isPlain c = true ∨ c = ',' ∨ c = ' ' := by
  intro c among
  unfold text at among
  split_ifs at among with none
  · exact Or.inl (row.operation_plain c among)
  · rw [List.mem_append, List.mem_cons] at among
    rcases among with operation | space | operands
    · exact Or.inl (row.operation_plain c operation)
    · exact Or.inr (Or.inr space)
    · exact (row.operandText_chars c operands).imp_right Or.inl

theorem not_mem_text {d : Char} (special : isPlain d = false) (comma : d ≠ ',') (space : d ≠ ' ') :
    d ∉ row.text := by
  intro among
  rcases row.text_chars d among with plain | same | same
  · rw [plain] at special
    cases special
  · exact comma same
  · exact space same

theorem text_isLineBreak : ∀ c ∈ row.text, Text.isLineBreak c = false := by
  intro c among
  rcases row.text_chars c among with plain | rfl | rfl
  · have space := isSpace_of_isPlain plain
    rw [Bool.eq_false_iff] at space ⊢
    intro ends
    apply space
    simp only [Text.isLineBreak, Bool.or_eq_true, Bool.and_eq_true, decide_eq_true_eq,
      beq_iff_eq] at ends
    simp only [Text.isSpace, Bool.or_eq_true, Bool.and_eq_true, decide_eq_true_eq, beq_iff_eq]
    omega
  · decide
  · decide

theorem strip_text : Text.strip row.text = row.text := by
  apply Text.strip_of_bounds
  · intro c among
    unfold text at among
    split_ifs at among with none
    · exact isSpace_of_isPlain (row.operation_plain c (List.mem_of_mem_head? among))
    · rw [List.head?_append_of_ne_nil _ row.operation_ne] at among
      exact isSpace_of_isPlain (row.operation_plain c (List.mem_of_mem_head? among))
  · intro c among
    unfold text at among
    split_ifs at among with none
    · exact isSpace_of_isPlain (row.operation_plain c (List.mem_of_mem_getLast? among))
    · rw [List.append_cons, List.getLast?_append_of_ne_nil _ (row.operandText_ne_nil none)] at among
      exact isSpace_of_isPlain ((row.operandText_bounds none).2 c among)

theorem text_ne_nil : row.text ≠ [] := by
  unfold text
  split_ifs with none
  · exact row.operation_ne
  · simp

/-! ## The assembler on a row -/

theorem statement_text : statement row.text = row.text := by
  have kept : row.text.takeWhile (· ≠ ';') = row.text := by
    have all : ∀ c ∈ row.text, decide (c ≠ ';') = true := by
      intro c among
      rw [decide_eq_true_eq]
      rintro rfl
      exact row.not_mem_text (by decide) (by decide) (by decide) among
    exact List.takeWhile_eq_self_iff.mpr all
  rw [statement, kept, strip_text]

theorem label?_text : label? row.text = none := by
  unfold label?
  split
  · rename_i first rest colon after same
    have among : ':' ∈ row.text.dropWhile isIdentifierCharacter := by rw [same]; simp
    exact absurd ((List.dropWhile_suffix _).mem among)
      (row.not_mem_text (by decide) (by decide) (by decide))
  · rfl

theorem includeName?_text [Interpreter] : includeName? row.text = none := by
  unfold includeName?
  dsimp only
  split
  · rename_i space rest name after same
    have among : '"' ∈ (row.text.drop 8).dropWhile Text.isSpace := by rw [same]; simp
    exact absurd (List.mem_of_mem_drop ((List.dropWhile_suffix _).mem among))
      (row.not_mem_text (by decide) (by decide) (by decide))
  · rfl

theorem splitLabel_text [Interpreter] {line : SourceLine} (same : line.text = row.text) :
    splitLabel line = (row.text, none) := by
  rw [splitLabel, same, statement_text, label?_text]

theorem operation_isSpace : ∀ c ∈ row.operation, Text.isSpace c = false := fun c among =>
  isSpace_of_isPlain (row.operation_plain c among)

theorem splitOperation_text [Interpreter] :
    splitOperation row.text = (Interpreter.upper row.operation, row.operandText) := by
  unfold splitOperation text
  split_ifs with none
  · rw [Text.splitSpace_word row.operation_ne row.operation_isSpace, row.operandText_nil none]
  · have bounds := row.operandText_bounds none
    have stripped : Text.strip row.operandText = row.operandText :=
      Text.strip_of_bounds (fun c among => isSpace_of_isPlain (bounds.1 c among))
        fun c among => isSpace_of_isPlain (bounds.2 c among)
    rw [Text.splitSpace_words row.operation_ne row.operation_isSpace
      (row.operandText_ne_nil none) fun c among => isSpace_of_isPlain (bounds.1 c among)]
    simp only [stripped]

theorem operandList_operandText (line : SourceLine) (some : row.operands ≠ []) :
    operandList row.operandText line = .ok row.operands := by
  have fields : row.operandText.splitOn ',' = row.operands := by
    apply List.splitOn_intercalate _ _ some
    intro operand among comma
    exact absurd (row.operands_plain operand among ',' comma) (by decide)
  have stripped : row.operands.map Text.strip = row.operands := by
    calc row.operands.map Text.strip
        = row.operands.map id :=
          List.map_congr_left fun operand among =>
            Text.strip_of_plain fun c inside =>
              isSpace_of_isPlain (row.operands_plain operand among c inside)
      _ = row.operands := List.map_id _
  have full : (row.operands.any fun operand => operand.isEmpty) = false := by
    rw [List.any_eq_false]
    intro operand among
    simpa using row.operands_ne operand among
  have nonempty : row.operandText.isEmpty = false := by
    simpa using row.operandText_ne_nil some
  unfold operandList
  simp only [fields, stripped, full, nonempty]
  rfl

theorem instructionOperands_operandText (line : SourceLine) :
    instructionOperands row.operandText line = .ok row.operands := by
  unfold instructionOperands
  by_cases none : row.operands = []
  · rw [row.operandText_nil none, none]
    rfl
  · rw [if_neg (by simpa using row.operandText_ne_nil none), row.operandList_operandText line none]

end Row

/-! ## Literals -/

section Literals

variable {text : Text} {value : ℕ}

theorem tiHex_plain {text : Text} (plain : '>' ∉ text) (after : Bool) : tiHex after text = text := by
  induction text generalizing after with
  | nil => rfl
  | cons c rest ih =>
      have first : c ≠ '>' := fun same => plain (by simp [same])
      have later : '>' ∉ rest := fun among => plain (by simp [among])
      rw [tiHex, ih later]
      intro d more same
      exact absurd same first

theorem normalized_plain {text : Text} (plain : ∀ c ∈ text, isPlain c = true) :
    normalized text = text := by
  have arrow : '>' ∉ text := fun among => absurd (plain '>' among) (by decide)
  unfold normalized
  rw [tiHex_plain arrow]
  have single : ∀ c ∈ text, (if c = '$' then "__CURRENT".toList else [c]) = [c] := by
    intro c among
    rw [if_neg]
    rintro rfl
    exact absurd (plain '$' among) (by decide)
  rw [List.flatMap_congr single]
  simp

variable [Interpreter] (site : CallSite) (symbols : List (Text × ℕ)) (location : ℕ)
  (line : SourceLine)

/-- A tree of the grammar has its value wherever it stands, where two levels are enough. -/
theorem evaluate_tree {tree : Expression} {value : ℤ} (plain : ∀ c ∈ text, isPlain c = true)
    (short : text.length ≤ 100) (parsed : parse? text = some tree)
    (visits : ∀ levels, tree.visit (currentNames symbols location) (levels + 2) = .ok value) :
    evaluate site text symbols location line = .ok value := by
  have same : Interpreter.parse text = .ok tree :=
    Interpreter.parse_plain text tree (plainText_of_isPlain plain short) parsed
  rcases Nat.exists_eq_add_of_le' (Interpreter.levels_least site) with ⟨levels, limit⟩
  apply evaluate_eq_ok.mpr
  unfold visited
  rw [normalized_plain plain, same, Checks.ok_bind, limit]
  exact visits (levels + 8)

/-- A literal has its value wherever it stands. -/
theorem evaluate_literal (literal : IsLiteral text value) (plain : ∀ c ∈ text, isPlain c = true)
    (short : text.length ≤ 100) :
    evaluate site text symbols location line = .ok (value : ℤ) :=
  evaluate_tree site symbols location line plain short literal.parse? fun _ => rfl

theorem evaluate_negated (literal : IsLiteral text value)
    (plain : ∀ c ∈ text, isPlain c = true) (short : text.length < 100) :
    evaluate site ('-' :: text) symbols location line = .ok (-(value : ℤ)) := by
  have signed : ∀ c ∈ '-' :: text, isPlain c = true := by
    intro c among
    rcases List.mem_cons.mp among with rfl | among
    · decide
    · exact plain c among
  exact evaluate_tree site symbols location line signed short literal.parse?_negated fun _ => rfl

end Literals

end Tms32010.Tools
