import Tms32010.Tools.Statements

/-!
# Layout

Where a line stands and what it takes up: its size, how it moves the location in either
pass, and the words it places in the second one.
-/

namespace Tms32010.Tools

open Checks

/-! ## Words at consecutive addresses -/

/-- Words at consecutive addresses. -/
def placedAt (location : ℕ) (values : List ℤ) : List (ℕ × ℤ) :=
  (values.zipIdx location).map Prod.swap

/-- The emission goes on with words at free addresses of the program memory. -/
structure Places (before after : Emission) (values : List ℤ) : Prop where
  location : after.location = before.location + values.length
  words : after.words = before.words ++ placedAt before.location values
  fresh : ∀ address, before.location ≤ address → address < before.location + values.length →
    address < programWords ∧ before.words.lookup address = none

section Words

variable {before middle after : Emission} {first second : List ℤ}

theorem placedAt_append (location : ℕ) (first second : List ℤ) :
    placedAt location (first ++ second) =
      placedAt location first ++ placedAt (location + first.length) second := by
  unfold placedAt
  rw [List.zipIdx_append, List.map_append]

theorem placedAt_addresses (location : ℕ) (values : List ℤ) :
    (placedAt location values).map Prod.fst = List.range' location values.length := by
  unfold placedAt
  rw [List.map_map]
  exact List.zipIdx_map_snd location values

/-- The words placed are found at their addresses. -/
theorem placedAt_lookup (location k : ℕ) (values : List ℤ) :
    (placedAt location values).lookup (location + k) = values[k]? := by
  induction values generalizing location k with
  | nil => rfl
  | cons value values ih =>
      change List.lookup (location + k) ((location, value) :: placedAt (location + 1) values) = _
      rw [List.lookup_cons]
      cases k with
      | zero => simp
      | succ k =>
          have later : (location + (k + 1) == location) = false := by
            rw [beq_eq_false_iff_ne]
            omega
          have next : location + (k + 1) = location + 1 + k := by omega
          rw [later, List.getElem?_cons_succ, next]
          exact ih (location + 1) k

theorem lookup_eq_none {words : List (ℕ × ℤ)} {address : ℕ} :
    words.lookup address = none ↔ address ∉ words.map Prod.fst := by
  rw [List.lookup_eq_none_iff, List.mem_map]
  constructor
  · rintro absent ⟨pair, among, rfl⟩
    exact absurd rfl (bne_iff_ne.mp (absent pair among))
  · intro absent pair among
    rw [bne_iff_ne]
    rintro rfl
    exact absent ⟨pair, among, rfl⟩

theorem Places.refl (before : Emission) : Places before before [] where
  location := rfl
  words := (List.append_nil _).symm
  fresh _ low high := absurd high (Nat.not_lt_of_le low)

theorem Places.trans (one : Places before middle first) (two : Places middle after second) :
    Places before after (first ++ second) where
  location := by
    rw [two.location, one.location, List.length_append, Nat.add_assoc]
  words := by
    rw [two.words, one.words, one.location, placedAt_append, List.append_assoc]
  fresh address low high := by
    rw [List.length_append] at high
    by_cases here : address < before.location + first.length
    · exact one.fresh address low here
    · have later := two.fresh address (by rw [one.location]; omega)
        (by rw [one.location]; omega)
      rw [one.words, List.lookup_append, Option.or_eq_none_iff] at later
      exact ⟨later.1, later.2.1⟩

theorem emit_yields (before : Emission) (word : ℤ) (line : SourceLine) :
    Yields (fun after => Places before after [word]) (emit before word line) := by
  unfold emit
  apply Yields.ite
  · intro _
    trivial
  · intro inside
    rw [not_not] at inside
    apply Yields.ite
    · intro _
      trivial
    · intro free
      rw [Option.not_isSome_iff_eq_none] at free
      refine ⟨rfl, rfl, ?_⟩
      intro address low high
      have same : address = before.location := Nat.le_antisymm (Nat.le_of_lt_succ high) low
      rw [same]
      exact ⟨inside, free⟩

end Words

theorem instructions_words : ∀ entry ∈ instructions,
    entry.wordCount = if mnemonicText entry.mnemonic ∈ twoWordOperations then 2 else 1 := by
  decide +kernel

theorem directives_unknown : findEntry ".ORG".toList = none ∧ findEntry ".WORD".toList = none := by
  decide +kernel

variable [Interpreter]

/-! ## Lines -/

/-- The operation of a line and the text of its operands. -/
def SourceLine.operation? (line : SourceLine) : Option (Text × Text) :=
  if (splitLabel line).1.isEmpty then none else some (splitOperation (splitLabel line).1)

/-- The addresses that a statement takes up. -/
def statementSize (operation operandText : Text) : ℕ :=
  if operation = ".ORG".toList then 0
  else if operation = ".WORD".toList then (operandText.splitOn ',').length
  else ((findEntry operation).map (·.wordCount)).getD 0

/-- The addresses that a line takes up. -/
def SourceLine.size (line : SourceLine) : ℕ :=
  (line.operation?.map fun parts => statementSize parts.1 parts.2).getD 0

/-- The addresses of a line at a location. -/
def SourceLine.extent (line : SourceLine) (location : ℕ) : List ℕ :=
  List.range' location line.size

theorem SourceLine.mem_extent {line : SourceLine} {location address : ℕ} :
    address ∈ line.extent location ↔ location ≤ address ∧ address < location + line.size := by
  unfold SourceLine.extent
  exact List.mem_range'_1

/-- A line moves the location. -/
inductive Moves (symbols : List (Text × ℕ)) (line : SourceLine) (location : ℕ) : ℕ → Prop where
  | org {operandText : Text} {value : ℤ}
      (directive : line.operation? = some (".ORG".toList, operandText))
      (evaluated : evaluate .assemble operandText symbols location line = .ok value) :
      Moves symbols line location value.toNat
  | takes (other : ∀ operandText, line.operation? ≠ some (".ORG".toList, operandText)) :
      Moves symbols line location (location + line.size)

/-! ## Symbols -/

section Symbols

variable {symbols later : List (Text × ℕ)}

/-- A value is the same with more symbols. -/
theorem Expression.visit_of_prefix {first second : List (Text × ℤ)} (extended : first <+: second)
    (expression : Expression) {levels : ℕ} {value : ℤ}
    (visited : expression.visit first levels = .ok value) :
    expression.visit second levels = .ok value := by
  induction expression generalizing levels value with
  | constant | otherConstant | otherBinOp | otherUnaryOp | element =>
      cases levels <;> exact visited
  | name id =>
      cases levels with
      | zero => exact visited
      | succ levels =>
          unfold Expression.visit at visited ⊢
          cases found : first.lookup (Interpreter.upper id) with
          | none =>
              rw [found] at visited
              cases visited
          | some known =>
              rw [found] at visited
              rw [extended.lookup_eq_some found]
              exact visited
  | binOp left op right leftIh rightIh =>
      cases levels with
      | zero => exact visited
      | succ levels =>
          unfold Expression.visit at visited ⊢
          rcases bind_eq_ok.mp visited with ⟨x, leftValue, visited⟩
          rcases bind_eq_ok.mp visited with ⟨y, rightValue, applied⟩
          rw [leftIh leftValue, rightIh rightValue]
          exact applied
  | unaryOp op operand ih =>
      cases levels with
      | zero => exact visited
      | succ levels =>
          unfold Expression.visit at visited ⊢
          rcases bind_eq_ok.mp visited with ⟨x, operandValue, applied⟩
          rw [ih operandValue]
          exact applied

theorem evaluate_eq_ok {site : CallSite} {expression : Text} {location : ℕ} {line : SourceLine}
    {value : ℤ} :
    evaluate site expression symbols location line = .ok value ↔
      visited site expression symbols location = .ok value := by
  unfold evaluate
  cases visited site expression symbols location with
  | error raised =>
      dsimp only
      constructor
      · intro same
        split at same <;> cases same
      · intro same
        cases same
  | ok found => exact Iff.rfl

/-- The recursion limit does not change a value. -/
theorem Expression.visit_unique {names : List (Text × ℤ)} (expression : Expression)
    {first second : ℕ} {x y : ℤ} (one : expression.visit names first = .ok x)
    (two : expression.visit names second = .ok y) : x = y := by
  induction expression generalizing first second x y with
  | constant | otherConstant | name | otherBinOp | otherUnaryOp | element =>
      cases first with
      | zero => cases one
      | succ first =>
          cases second with
          | zero => cases two
          | succ second => exact Except.ok.inj (one.symm.trans two)
  | binOp left op right leftIh rightIh =>
      cases first with
      | zero => cases one
      | succ first =>
          cases second with
          | zero => cases two
          | succ second =>
              unfold Expression.visit at one two
              rcases bind_eq_ok.mp one with ⟨a, leftOne, one⟩
              rcases bind_eq_ok.mp one with ⟨b, rightOne, one⟩
              rcases bind_eq_ok.mp two with ⟨c, leftTwo, two⟩
              rcases bind_eq_ok.mp two with ⟨d, rightTwo, two⟩
              rw [leftIh leftOne leftTwo, rightIh rightOne rightTwo] at one
              exact Except.ok.inj (one.symm.trans two)
  | unaryOp op operand ih =>
      cases first with
      | zero => cases one
      | succ first =>
          cases second with
          | zero => cases two
          | succ second =>
              unfold Expression.visit at one two
              rcases bind_eq_ok.mp one with ⟨a, operandOne, one⟩
              rcases bind_eq_ok.mp two with ⟨b, operandTwo, two⟩
              rw [ih operandOne operandTwo] at one
              exact Except.ok.inj (one.symm.trans two)

/-- The value of an expression is the same wherever it is evaluated. -/
theorem evaluate_unique {first second : CallSite} {expression : Text} {location : ℕ}
    {line : SourceLine} {x y : ℤ} (one : evaluate first expression symbols location line = .ok x)
    (two : evaluate second expression symbols location line = .ok y) : x = y := by
  rw [evaluate_eq_ok] at one two
  rcases bind_eq_ok.mp one with ⟨tree, parsed, visits⟩
  rcases bind_eq_ok.mp two with ⟨tree', parsed', visits'⟩
  cases parsed.symm.trans parsed'
  exact tree.visit_unique visits visits'

/-- An expression that the first pass evaluates has the same value in the second. -/
theorem evaluate_of_prefix (extended : symbols <+: later) {site : CallSite} {expression : Text}
    {location : ℕ} {line : SourceLine} {value : ℤ}
    (evaluated : evaluate site expression symbols location line = .ok value) :
    evaluate site expression later location line = .ok value := by
  rw [evaluate_eq_ok] at evaluated ⊢
  rcases bind_eq_ok.mp evaluated with ⟨tree, parsed, visits⟩
  have names : currentNames symbols location <+: currentNames later location :=
    (List.prefix_cons_inj _).mpr (extended.map _)
  unfold visited
  rw [parsed]
  exact tree.visit_of_prefix names visits

/-- A line moves the location alike in both passes. -/
theorem Moves.unique {line : SourceLine} {location first second : ℕ}
    (extended : symbols <+: later) (one : Moves symbols line location first)
    (two : Moves later line location second) : first = second := by
  cases one with
  | org directive evaluated =>
      cases two with
      | org directive' evaluated' =>
          rw [directive, Option.some.injEq, Prod.mk.injEq] at directive'
          rw [← directive'.2, evaluate_of_prefix extended evaluated, Except.ok.injEq]
            at evaluated'
          rw [evaluated']
      | takes other => exact absurd directive (other _)
  | takes other =>
      cases two with
      | org directive => exact absurd directive (other _)
      | takes => rfl

end Symbols

/-! ## First pass -/

section Survey

variable {survey : Survey} {line : SourceLine}

/-- The symbols after a line. -/
inductive Labels (survey : Survey) (line : SourceLine) : List (Text × ℕ) → Prop where
  | label {name : Text} (defines : (splitLabel line).2 = some name)
      (fresh : survey.symbols.lookup name = none) :
      Labels survey line (survey.symbols ++ [(name, survey.location)])
  | none (plain : (splitLabel line).2 = none) : Labels survey line survey.symbols

theorem Labels.extended {symbols : List (Text × ℕ)} (labels : Labels survey line symbols) :
    survey.symbols <+: symbols := by
  cases labels with
  | label => exact List.prefix_append _ _
  | none => exact List.prefix_refl _

theorem nextLocation_yields (symbols : List (Text × ℕ)) (location : ℕ)
    (nonempty : (splitLabel line).1.isEmpty = false) :
    Yields (Moves symbols line location)
      (nextLocation symbols location (splitLabel line).1 line) := by
  have parts : line.operation? = some (splitOperation (splitLabel line).1) := by
    unfold SourceLine.operation?
    rw [nonempty, if_neg Bool.false_ne_true]
  unfold nextLocation
  dsimp only
  apply Yields.ite
  · intro directive
    cases evaluated : evaluate .assemble (splitOperation (splitLabel line).1).2 symbols location
        line with
    | error raised => trivial
    | ok value =>
        apply (checked_yields value 0 _ line _).mono
        rintro n ⟨rfl, -⟩
        apply Moves.org _ evaluated
        rw [parts, ← directive]
  · intro noOrg
    have other : ∀ operandText, line.operation? ≠ some (".ORG".toList, operandText) := by
      intro operandText same
      rw [parts, Option.some.injEq] at same
      exact noOrg (congrArg Prod.fst same)
    have moves : Moves symbols line location (location + line.size) := Moves.takes other
    have size : line.size = statementSize (splitOperation (splitLabel line).1).1
        (splitOperation (splitLabel line).1).2 := by
      unfold SourceLine.size
      rw [parts]
      rfl
    unfold statementSize at size
    rw [if_neg noOrg] at size
    apply Yields.ite
    · intro word
      rw [if_pos word] at size
      apply (operandList_yields _ line).bind
      intro operands length
      apply (checkedLocation_yields _ line).mono
      rintro n ⟨rfl, -⟩
      rw [length, ← size]
      exact moves
    · intro noWord
      rw [if_neg noWord] at size
      apply (validateInstructionShape_yields _ _ line).bind
      rintro entry ⟨found, -⟩
      rw [found] at size
      apply (checkedLocation_yields _ line).mono
      rintro n ⟨rfl, -⟩
      have count : line.size = entry.wordCount := size
      rw [← count]
      exact moves

/-- A line without a statement takes up nothing. -/
theorem moves_empty (symbols : List (Text × ℕ)) (location : ℕ)
    (empty : (splitLabel line).1.isEmpty = true) : Moves symbols line location location := by
  have parts : line.operation? = none := by
    unfold SourceLine.operation?
    rw [if_pos empty]
  have moves : Moves symbols line location (location + line.size) := by
    apply Moves.takes
    intro operandText same
    rw [parts] at same
    simp at same
  have size : line.size = 0 := by
    unfold SourceLine.size
    rw [parts]
    rfl
  rwa [size] at moves

/-- A line in the first pass. -/
theorem surveyLine_yields (survey : Survey) (line : SourceLine) :
    Yields
      (fun next : Survey => Labels survey line next.symbols ∧
        Moves next.symbols line survey.location next.location)
      (surveyLine survey line) := by
  have goesOn (symbols : List (Text × ℕ)) (labels : Labels survey line symbols) :
      Yields
        (fun next : Survey => Labels survey line next.symbols ∧
          Moves next.symbols line survey.location next.location)
        (if (splitLabel line).1.isEmpty then return ⟨symbols, survey.location⟩
          else return ⟨symbols,
            ← nextLocation symbols survey.location (splitLabel line).1 line⟩) := by
    apply Yields.ite
    · intro empty
      exact ⟨labels, moves_empty symbols survey.location empty⟩
    · intro nonempty
      rw [Bool.not_eq_true] at nonempty
      apply (nextLocation_yields symbols survey.location nonempty).bind
      intro location moves
      exact ⟨labels, moves⟩
  unfold surveyLine
  dsimp only
  cases defines : (splitLabel line).2 with
  | none => exact goesOn survey.symbols (Labels.none defines)
  | some name =>
      dsimp only
      cases fresh : survey.symbols.lookup name with
      | some old => trivial
      | none => exact goesOn _ (Labels.label defines fresh)

end Survey

/-! ## Second pass -/


/-- The values of a data directive. -/
def dataValues (symbols : List (Text × ℕ)) (location : ℕ) (line : SourceLine)
    (expressions : List Text) : Except Failure (List ℤ) :=
  expressions.zipIdx.mapM fun item =>
    evaluate .comprehension item.1 symbols (location + item.2) line

/-- The words of a line at a location. -/
inductive Values (symbols : List (Text × ℕ)) (line : SourceLine) (location : ℕ) :
    List ℤ → Prop where
  | empty (none : line.operation? = none) : Values symbols line location []
  | org {operandText : Text} (directive : line.operation? = some (".ORG".toList, operandText)) :
      Values symbols line location []
  | word {operandText : Text} {expressions : List Text} {values : List ℤ}
      (directive : line.operation? = some (".WORD".toList, operandText))
      (listed : operandList operandText line = .ok expressions)
      (evaluated : dataValues symbols location line expressions = .ok values)
      (range : ∀ value ∈ values, 0 ≤ value ∧ value ≤ 0xFFFF) :
      Values symbols line location values
  | one {operation operandText : Text} {word : ℕ}
      (instruction : line.operation? = some (operation, operandText))
      (single : operation ∉ twoWordOperations)
      (encoded : encode symbols location line operation operandText = .ok word) :
      Values symbols line location [(word : ℤ)]
  | two {operation operandText : Text} {word : ℕ} {target : ℤ}
      (instruction : line.operation? = some (operation, operandText))
      (double : operation ∈ twoWordOperations)
      (encoded : encode symbols location line operation operandText = .ok word)
      (evaluated : evaluate .assemble operandText symbols location line = .ok target) :
      Values symbols line location [(word : ℤ), target]

section Emission

variable {symbols : List (Text × ℕ)} {line : SourceLine} {before after : Emission}
  {values : List ℤ} {location : ℕ}

theorem emitValues_yields (values : List ℤ) (before : Emission) (line : SourceLine) :
    Yields
      (fun after => Places before after values ∧ ∀ value ∈ values, 0 ≤ value ∧ value ≤ 0xFFFF)
      (values.foldlM (emitValue line) before) := by
  induction values generalizing before with
  | nil => exact ⟨Places.refl before, List.forall_mem_nil _⟩
  | cons value values ih =>
      rw [List.foldlM_cons]
      unfold emitValue
      rw [bind_assoc]
      apply (checked_yields value 0 0xFFFF line _).bind
      rintro _ ⟨-, range⟩
      apply (emit_yields before value line).bind
      intro middle one
      apply (ih middle).mono
      rintro after ⟨rest, all⟩
      exact ⟨one.trans rest, List.forall_mem_cons.mpr ⟨range, all⟩⟩

theorem dataValues_yields (expressions : List Text) :
    Yields (fun values => values.length = expressions.length)
      (dataValues symbols location line expressions) := by
  apply (Yields.mapM fun item _ => Yields.any _).mono
  rintro values ⟨length, -⟩
  rw [length, List.length_zipIdx]

/-- The words of a line fill its extent. -/
theorem Values.length (line_values : Values symbols line location values) :
    values.length = line.size := by
  unfold SourceLine.size
  have known {operation operandText : Text} {word : ℕ}
      (encoded : encode symbols location line operation operandText = .ok word) :
      ∃ entry, findEntry operation = some entry := by
    unfold encode at encoded
    rw [bind_eq_ok] at encoded
    rcases encoded with ⟨entry, shape, -⟩
    exact ⟨entry, ((validateInstructionShape_yields operation operandText line).ok shape).1⟩
  have instructionSize {operation operandText : Text} {word : ℕ}
      (encoded : encode symbols location line operation operandText = .ok word) :
      statementSize operation operandText = if operation ∈ twoWordOperations then 2 else 1 := by
    rcases known encoded with ⟨entry, found⟩
    unfold statementSize
    have noOrg : operation ≠ ".ORG".toList := by
      rintro rfl
      rw [directives_unknown.1] at found
      exact absurd found nofun
    have noWord : operation ≠ ".WORD".toList := by
      rintro rfl
      rw [directives_unknown.2] at found
      exact absurd found nofun
    rcases findEntry_mem found with ⟨among, name⟩
    have count := instructions_words entry among
    rw [name] at count
    rw [if_neg noOrg, if_neg noWord, found]
    exact count
  cases line_values with
  | empty none =>
      rw [none]
      rfl
  | org directive =>
      rw [directive]
      rfl
  | word directive listed evaluated range =>
      have count := (operandList_yields _ line).ok listed
      have evaluatedCount := (dataValues_yields _).ok evaluated
      rw [directive, evaluatedCount, count]
      rfl
  | one instruction single encoded =>
      have size := instructionSize encoded
      rw [if_neg single] at size
      rw [instruction]
      exact size.symm
  | two instruction double encoded evaluated =>
      have size := instructionSize encoded
      rw [if_pos double] at size
      rw [instruction]
      exact size.symm

theorem operandBits_branch {mnemonic : Mnemonic} {text : Text} {operands : List Text}
    (double : mnemonicText mnemonic ∈ twoWordOperations) :
    operandBits symbols location line mnemonic text operands =
      evaluate .encode text symbols location line >>= fun value =>
        checked value 0 (programWords - 1) line
          (mnemonicText mnemonic ++ " program address out of range 0..4095".toList) >>= fun _ =>
            pure 0 := by
  revert double
  cases mnemonic <;>
    first
    | exact fun _ => rfl
    | exact fun double => absurd double (by decide)

/-- The second word of an instruction was checked with the first. -/
theorem encode_target {operation operandText : Text} {word : ℕ} {target : ℤ}
    (double : operation ∈ twoWordOperations)
    (encoded : encode symbols location line operation operandText = .ok word)
    (evaluated : evaluate .assemble operandText symbols location line = .ok target) :
    0 ≤ target ∧ target ≤ programWords - 1 := by
  unfold encode at encoded
  rw [bind_eq_ok] at encoded
  rcases encoded with ⟨entry, shape, encoded⟩
  have found := ((validateInstructionShape_yields operation operandText line).ok shape).1
  rw [bind_eq_ok] at encoded
  rcases encoded with ⟨operands, -, encoded⟩
  rw [bind_eq_ok] at encoded
  rcases encoded with ⟨bits, encoded, -⟩
  have branch : mnemonicText entry.mnemonic ∈ twoWordOperations := by
    rw [(findEntry_mem found).2]
    exact double
  rw [operandBits_branch branch] at encoded
  rcases bind_eq_ok.mp encoded with ⟨value, first, checks⟩
  rcases bind_eq_ok.mp checks with ⟨n, passed, -⟩
  rw [evaluate_unique evaluated first]
  exact ((checked_yields _ _ _ _ _).ok passed).2

theorem Values.range (line_values : Values symbols line location values) :
    ∀ value ∈ values, 0 ≤ value ∧ value ≤ 0xFFFF := by
  have natural {operation operandText : Text} {word : ℕ}
      (encoded : encode symbols location line operation operandText = .ok word) :
      0 ≤ (word : ℤ) ∧ (word : ℤ) ≤ 0xFFFF := by
    have small := (encode_yields operation operandText).ok encoded
    omega
  cases line_values with
  | empty => exact List.forall_mem_nil _
  | org => exact List.forall_mem_nil _
  | word directive listed evaluated range => exact range
  | one instruction single encoded =>
      rw [List.forall_mem_singleton]
      exact natural encoded
  | two instruction double encoded evaluated =>
      rw [List.forall_mem_cons, List.forall_mem_singleton]
      have bounds := encode_target double encoded evaluated
      have size : (programWords : ℤ) = 4096 := rfl
      exact ⟨natural encoded, by omega⟩

/-- What a line does in the second pass. -/
structure Emits (symbols : List (Text × ℕ)) (line : SourceLine) (before after : Emission) :
    Prop where
  moves : Moves symbols line before.location after.location
  places : ∃ values, Values symbols line before.location values ∧
    after.words = before.words ++ placedAt before.location values
  fresh : ∀ address ∈ line.extent before.location,
    address < programWords ∧ before.words.lookup address = none

/-- A line that places words and moves past them. -/
theorem Emits.of_places (line_values : Values symbols line before.location values)
    (other : ∀ operandText, line.operation? ≠ some (".ORG".toList, operandText))
    (placed : Places before after values) : Emits symbols line before after where
  moves := by
    rw [placed.location, line_values.length]
    exact Moves.takes other
  places := ⟨values, line_values, placed.words⟩
  fresh address among := by
    rw [SourceLine.mem_extent, ← line_values.length] at among
    exact placed.fresh address among.1 among.2

/-- A line that places nothing. -/
theorem Emits.of_nothing (line_values : Values symbols line before.location [])
    (moves : Moves symbols line before.location after.location)
    (same : after.words = before.words) : Emits symbols line before after where
  moves := moves
  places := ⟨[], line_values, same.trans (List.append_nil _).symm⟩
  fresh address among := by
    rw [SourceLine.mem_extent, ← line_values.length] at among
    exact absurd among.2 (Nat.not_lt_of_le among.1)

/-- A line in the second pass. -/
theorem emitLine_yields (symbols : List (Text × ℕ)) (before : Emission) (line : SourceLine) :
    Yields (Emits symbols line before) (emitLine symbols before line) := by
  unfold emitLine
  apply Yields.ite
  · intro empty
    have parts : line.operation? = none := by
      unfold SourceLine.operation?
      rw [if_pos empty]
    exact Emits.of_nothing (Values.empty parts) (moves_empty symbols before.location empty) rfl
  · intro nonempty
    have parts : line.operation? = some (splitOperation (splitLabel line).1) := by
      unfold SourceLine.operation?
      rw [if_neg nonempty]
    unfold emitStatement
    generalize splitOperation (splitLabel line).1 = split at parts
    rcases split with ⟨operation, operandText⟩
    dsimp only
    apply Yields.ite
    · intro directive
      rw [directive] at parts
      cases evaluated : evaluate .assemble operandText symbols before.location line with
      | error raised => trivial
      | ok value =>
          apply (checked_yields value 0 _ line _).bind
          rintro location ⟨rfl, -⟩
          exact Emits.of_nothing (Values.org parts) (Moves.org parts evaluated) rfl
    · intro noOrg
      have other : ∀ operandText, line.operation? ≠ some (".ORG".toList, operandText) := by
        intro text same
        rw [parts, Option.some.injEq] at same
        exact noOrg (congrArg Prod.fst same)
      apply Yields.ite
      · intro directive
        rw [directive] at parts
        cases listed : operandList operandText line with
        | error raised => trivial
        | ok expressions =>
            change Yields _ (dataValues symbols before.location line expressions >>=
              fun values => values.foldlM (emitValue line) before)
            cases evaluated : dataValues symbols before.location line expressions with
            | error raised => trivial
            | ok values =>
                apply (emitValues_yields values before line).mono
                rintro after ⟨placed, range⟩
                exact Emits.of_places (Values.word parts listed evaluated range) other placed
      · intro _
        cases encoded : encode symbols before.location line operation operandText with
        | error raised => trivial
        | ok word =>
            apply (emit_yields before word line).bind
            intro middle first
            apply Yields.ite
            · intro double
              cases evaluated : evaluate .assemble operandText symbols before.location line with
              | error raised =>
                  trivial
              | ok target =>
                  apply (emit_yields middle target line).mono
                  intro after second
                  exact Emits.of_places (Values.two parts double encoded evaluated) other
                    (first.trans second)
            · intro single
              exact Emits.of_places (Values.one parts single encoded) other first

/-! ## Contents -/

/-- A line adds its extent to the addresses with a word. -/
theorem Emits.addresses (emits : Emits symbols line before after) :
    after.words.map Prod.fst = before.words.map Prod.fst ++ line.extent before.location := by
  rcases emits.places with ⟨values, line_values, words⟩
  rw [words, List.map_append, placedAt_addresses, line_values.length]
  rfl

theorem Emits.extended (emits : Emits symbols line before after) :
    before.words <+: after.words := by
  rcases emits.places with ⟨values, -, words⟩
  rw [words]
  exact List.prefix_append _ _

/-- The words of a line are found at its extent. -/
theorem Emits.lookup (emits : Emits symbols line before after) :
    ∃ values, Values symbols line before.location values ∧
      ∀ k value, values[k]? = some value →
        after.words.lookup (before.location + k) = some value := by
  rcases emits.places with ⟨values, line_values, words⟩
  refine ⟨values, line_values, ?_⟩
  intro k value found
  have inside : k < values.length := by
    by_contra outside
    rw [List.getElem?_eq_none (Nat.le_of_not_lt outside)] at found
    exact absurd found nofun
  have among : before.location + k ∈ line.extent before.location := by
    rw [SourceLine.mem_extent, ← line_values.length]
    omega
  rw [words, List.lookup_append, (emits.fresh _ among).2, placedAt_lookup]
  exact found

end Emission

end Tms32010.Tools
