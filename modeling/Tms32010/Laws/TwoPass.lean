import Tms32010.Tools.Escapes

/-!
# Agreement of the two passes

The first pass gives a line its location with the symbols defined so far, the second
pass with all of them. A label is never redefined, so what the first pass evaluates
has the same value in the second; the location of a line is the same in both, and the
words of the result are those of the statements at these locations.
-/

namespace Tms32010.Tools

open Checks

section Interpreter

variable [Interpreter]

/-! ## Passes -/

/-- The first pass before a line. -/
def surveyAt (lines : List SourceLine) (n : ℕ) : Except Failure Survey :=
  (lines.take n).foldlM surveyLine {}

/-- The second pass before a line. -/
def emissionAt (symbols : List (Text × ℕ)) (lines : List SourceLine) (n : ℕ) :
    Except Failure Emission :=
  (lines.take n).foldlM (emitLine symbols) {}

/-- The location before a line in the first pass. -/
def surveyLocation? (lines : List SourceLine) (n : ℕ) : Option ℕ :=
  (surveyAt lines n).toOption.map (·.location)

/-- The location before a line in the second pass. -/
def emissionLocation? (symbols : List (Text × ℕ)) (lines : List SourceLine) (n : ℕ) : Option ℕ :=
  (emissionAt symbols lines n).toOption.map (·.location)

/-- What the two passes establish about a result. -/
structure Agreement (lines : List SourceLine) (result : AssemblyResult) : Prop where
  passes : ∀ n ≤ lines.length, ∃ location, surveyLocation? lines n = some location ∧
    emissionLocation? result.symbols lines n = some location
  labels : ∀ n line label, lines[n]? = some line → (splitLabel line).2 = some label →
    result.symbols.lookup label = emissionLocation? result.symbols lines n
  symbols : ∀ symbol ∈ result.symbols, ∃ n line, lines[n]? = some line ∧
    (splitLabel line).2 = some symbol.1 ∧
      emissionLocation? result.symbols lines n = some symbol.2
  addresses : ∀ address, address ∈ result.words.map Prod.fst ↔ ∃ n line location,
    lines[n]? = some line ∧ emissionLocation? result.symbols lines n = some location ∧
      address ∈ line.extent location
  apart : ∀ m n first second low high, m < n → lines[m]? = some first → lines[n]? = some second →
    emissionLocation? result.symbols lines m = some low →
      emissionLocation? result.symbols lines n = some high →
        (first.extent low).Disjoint (second.extent high)
  distinct : (result.words.map Prod.fst).Nodup
  range : ∀ word ∈ result.words, word.1 < programWords ∧ 0 ≤ word.2 ∧ word.2 ≤ 0xFFFF
  contents : ∀ n line location, lines[n]? = some line →
    emissionLocation? result.symbols lines n = some location →
      ∃ values, Values result.symbols line location values ∧ values.length = line.size ∧
        ∀ k value, values[k]? = some value → result.words.lookup (location + k) = some value
  target : ∀ n line location operation operandText, lines[n]? = some line →
    emissionLocation? result.symbols lines n = some location →
      line.operation? = some (operation, operandText) → operation ∈ twoWordOperations →
        ∃ value, evaluate .assemble operandText result.symbols location line = .ok value ∧
          line.size = 2 ∧ result.words.lookup (location + 1) = some value

/-- Two statements would place a word at one address, or one beyond the program memory. -/
def Collides (lines : List SourceLine) : Prop :=
  (∃ m n first second low high address, m < n ∧ lines[m]? = some first ∧
      lines[n]? = some second ∧ surveyLocation? lines m = some low ∧
      surveyLocation? lines n = some high ∧ address ∈ first.extent low ∧
      address ∈ second.extent high) ∨
    ∃ n line location address, lines[n]? = some line ∧ surveyLocation? lines n = some location ∧
      address ∈ line.extent location ∧ programWords ≤ address

/-! ## Runs -/

/-- Both passes succeed. -/
structure Passes (lines : List SourceLine) (survey : Survey) (emission : Emission) : Prop where
  first : lines.foldlM surveyLine {} = .ok survey
  second : lines.foldlM (emitLine survey.symbols) {} = .ok emission

section Run

variable {lines : List SourceLine} {survey : Survey} {emission : Emission} {line : SourceLine}
  {n : ℕ}

theorem Passes.surveyAt (passes : Passes lines survey emission) (n : ℕ) :
    ∃ s, surveyAt lines n = .ok s ∧ s.symbols <+: survey.symbols := by
  rcases foldlM_take passes.first n with ⟨s, before, after⟩
  refine ⟨s, before, ?_⟩
  apply foldlM_preserves (P := fun state : Survey => s.symbols <+: state.symbols)
    (List.prefix_refl _) _ after
  intro state line next _ extended surveyed
  exact extended.trans ((surveyLine_yields state line).ok surveyed).1.extended

theorem Passes.emissionAt (passes : Passes lines survey emission) (n : ℕ) :
    ∃ e, emissionAt survey.symbols lines n = .ok e ∧ e.words <+: emission.words := by
  rcases foldlM_take passes.second n with ⟨e, before, after⟩
  refine ⟨e, before, ?_⟩
  apply foldlM_preserves (P := fun state : Emission => e.words <+: state.words)
    (List.prefix_refl _) _ after
  intro state line next _ extended emitted
  exact extended.trans ((emitLine_yields survey.symbols state line).ok emitted).extended

/-- What a line does in both passes. -/
structure Both (lines : List SourceLine) (survey : Survey) (emission : Emission) (n : ℕ)
    (line : SourceLine) (s s' : Survey) (e e' : Emission) : Prop where
  surveyed : Tools.surveyAt lines n = .ok s
  surveyed' : Tools.surveyAt lines (n + 1) = .ok s'
  emitted : Tools.emissionAt survey.symbols lines n = .ok e
  emitted' : Tools.emissionAt survey.symbols lines (n + 1) = .ok e'
  labels : Labels s line s'.symbols
  moves : Moves s'.symbols line s.location s'.location
  symbols : s'.symbols <+: survey.symbols
  emits : Emits survey.symbols line e e'
  words : e'.words <+: emission.words

theorem Passes.both (passes : Passes lines survey emission) (element : lines[n]? = some line) :
    ∃ s s' e e', Both lines survey emission n line s s' e e' := by
  rcases passes.surveyAt n with ⟨s, surveyed, -⟩
  rcases passes.surveyAt (n + 1) with ⟨s', surveyed', symbols⟩
  rcases passes.emissionAt n with ⟨e, emitted, -⟩
  rcases passes.emissionAt (n + 1) with ⟨e', emitted', words⟩
  have surveyStep := surveyed'
  have emissionStep := emitted'
  unfold Tools.surveyAt at surveyed surveyStep
  unfold Tools.emissionAt at emitted emissionStep
  rw [foldlM_take_succ element, surveyed] at surveyStep
  rw [foldlM_take_succ element, emitted] at emissionStep
  rcases (surveyLine_yields s line).ok surveyStep with ⟨labels, moves⟩
  exact ⟨s, s', e, e', surveyed, surveyed', emitted, emitted', labels, moves, symbols,
    (emitLine_yields survey.symbols e line).ok emissionStep, words⟩

/-- The location of every line is the same in both passes. -/
theorem Passes.locations (passes : Passes lines survey emission) (inside : n ≤ lines.length) :
    ∃ s e, Tools.surveyAt lines n = .ok s ∧ Tools.emissionAt survey.symbols lines n = .ok e ∧
      s.location = e.location := by
  induction n with
  | zero => exact ⟨{}, {}, rfl, rfl, rfl⟩
  | succ n ih =>
      rcases ih (Nat.le_of_succ_le inside) with ⟨s, e, surveyed, emitted, same⟩
      rcases passes.both (List.getElem?_eq_getElem inside) with ⟨s₀, s', e₀, e', both⟩
      cases surveyed.symm.trans both.surveyed
      cases emitted.symm.trans both.emitted
      refine ⟨s', e', both.surveyed', both.emitted', ?_⟩
      have moves := both.moves
      rw [same] at moves
      exact moves.unique both.symbols both.emits.moves

theorem Both.location {s s' : Survey} {e e' : Emission}
    (both : Both lines survey emission n line s s' e e') :
    emissionLocation? survey.symbols lines n = some e.location := by
  unfold emissionLocation?
  rw [both.emitted]
  rfl

/-- A line and its location in the second pass. -/
theorem Passes.at_location (passes : Passes lines survey emission) {location : ℕ}
    (element : lines[n]? = some line)
    (here : emissionLocation? survey.symbols lines n = some location) :
    ∃ s s' e e', Both lines survey emission n line s s' e e' ∧ s.location = location ∧
      e.location = location := by
  have inside : n < lines.length := (List.getElem?_eq_some_iff.mp element).1
  rcases passes.both element with ⟨s, s', e, e', both⟩
  rcases passes.locations (Nat.le_of_lt inside) with ⟨s₀, e₀, surveyed, emitted, same⟩
  cases surveyed.symm.trans both.surveyed
  cases emitted.symm.trans both.emitted
  rw [both.location, Option.some_inj] at here
  exact ⟨s, s', e, e', both, same.trans here, here⟩

/-- The extent of a line, at its location in the second pass. -/
def InExtent (symbols : List (Text × ℕ)) (lines : List SourceLine) (n address : ℕ) : Prop :=
  ∃ line location, lines[n]? = some line ∧ emissionLocation? symbols lines n = some location ∧
    address ∈ line.extent location

/-- The addresses with a word before a line are those of the lines before it. -/
theorem Passes.addresses (passes : Passes lines survey emission) (inside : n ≤ lines.length) :
    ∃ e, Tools.emissionAt survey.symbols lines n = .ok e ∧
      (∀ address, address ∈ e.words.map Prod.fst ↔
        ∃ m < n, InExtent survey.symbols lines m address) ∧
      (e.words.map Prod.fst).Nodup := by
  induction n with
  | zero =>
      refine ⟨{}, rfl, ?_, List.nodup_nil⟩
      intro address
      constructor
      · intro among
        exact absurd among List.not_mem_nil
      · rintro ⟨m, early, -⟩
        exact absurd early (Nat.not_lt_zero m)
  | succ n ih =>
      rcases ih (Nat.le_of_succ_le inside) with ⟨e, emitted, before, distinct⟩
      have element : lines[n]? = some lines[n] := List.getElem?_eq_getElem inside
      rcases passes.both element with ⟨s, s', e₀, e', both⟩
      cases emitted.symm.trans both.emitted
      have added := both.emits.addresses
      refine ⟨e', both.emitted', ?_, ?_⟩
      · intro address
        rw [added, List.mem_append, before]
        constructor
        · rintro (⟨m, early, extent⟩ | here)
          · exact ⟨m, Nat.lt_succ_of_lt early, extent⟩
          · exact ⟨n, Nat.lt_succ_self n, lines[n], e.location, element, both.location, here⟩
        · rintro ⟨m, early, extent⟩
          rcases Nat.lt_succ_iff_lt_or_eq.mp early with early | rfl
          · exact Or.inl ⟨m, early, extent⟩
          · rcases extent with ⟨line, location, same, here, among⟩
            cases element.symm.trans same
            rw [both.location, Option.some_inj] at here
            rw [here]
            exact Or.inr among
      · rw [added, List.nodup_append]
        refine ⟨distinct, List.nodup_range', ?_⟩
        rintro old among new extent rfl
        exact lookup_eq_none.mp (both.emits.fresh old extent).2 among

/-- Every word before a line is in range. -/
theorem Passes.range (passes : Passes lines survey emission) :
    ∀ word ∈ emission.words, word.1 < programWords ∧ 0 ≤ word.2 ∧ word.2 ≤ 0xFFFF := by
  apply foldlM_preserves (P := fun state : Emission => ∀ word ∈ state.words,
    word.1 < programWords ∧ 0 ≤ word.2 ∧ word.2 ≤ 0xFFFF) (List.forall_mem_nil _) _ passes.second
  intro state line next _ holds emitted word among
  have emits := (emitLine_yields survey.symbols state line).ok emitted
  rcases emits.places with ⟨values, line_values, words⟩
  rw [words, List.mem_append] at among
  rcases among with old | new
  · exact holds word old
  · constructor
    · have address : word.1 ∈ line.extent state.location := by
        unfold SourceLine.extent
        rw [← line_values.length, ← placedAt_addresses]
        exact List.mem_map_of_mem new
      exact (emits.fresh word.1 address).1
    · rcases List.mem_map.mp new with ⟨item, inside, rfl⟩
      exact line_values.range item.1 (List.fst_mem_of_mem_zipIdx inside)

/-- The symbols before a line are the labels of the lines before it. -/
theorem Passes.symbols (passes : Passes lines survey emission) (inside : n ≤ lines.length) :
    ∃ s, Tools.surveyAt lines n = .ok s ∧ ∀ symbol ∈ s.symbols, ∃ m line,
      lines[m]? = some line ∧ (splitLabel line).2 = some symbol.1 ∧
        emissionLocation? survey.symbols lines m = some symbol.2 := by
  induction n with
  | zero => exact ⟨{}, rfl, List.forall_mem_nil _⟩
  | succ n ih =>
      rcases ih (Nat.le_of_succ_le inside) with ⟨s, surveyed, before⟩
      have element : lines[n]? = some lines[n] := List.getElem?_eq_getElem inside
      rcases passes.both element with ⟨s₀, s', e, e', both⟩
      cases surveyed.symm.trans both.surveyed
      rcases passes.at_location element both.location with ⟨s₁, _, _, _, again, same, -⟩
      cases both.surveyed.symm.trans again.surveyed
      refine ⟨s', both.surveyed', ?_⟩
      intro symbol among
      have labels := both.labels
      generalize s'.symbols = symbols at among labels
      cases labels with
      | none => exact before symbol among
      | label defines fresh =>
          rcases List.mem_append.mp among with old | new
          · exact before symbol old
          · rw [List.mem_singleton.mp new]
            refine ⟨n, lines[n], element, defines, ?_⟩
            rw [both.location, same]

/-- A label has the location of its line. -/
theorem Passes.label (passes : Passes lines survey emission) {name : Text}
    (element : lines[n]? = some line) (defines : (splitLabel line).2 = some name) :
    survey.symbols.lookup name = emissionLocation? survey.symbols lines n := by
  rcases passes.both element with ⟨s, s', e, e', both⟩
  rcases passes.at_location element both.location with ⟨s₀, _, _, _, again, same, -⟩
  cases both.surveyed.symm.trans again.surveyed
  have labels := both.labels
  have extended := both.symbols
  rw [both.location, ← same]
  apply extended.lookup_eq_some
  generalize s'.symbols = symbols at labels
  cases labels with
  | none plain =>
      rw [plain] at defines
      exact absurd defines nofun
  | label defines' fresh =>
      cases defines.symm.trans defines'
      rw [List.lookup_append, fresh]
      simp

/-- The words of a line are found in the result. -/
theorem Passes.contents (passes : Passes lines survey emission) {location : ℕ}
    (element : lines[n]? = some line)
    (here : emissionLocation? survey.symbols lines n = some location) :
    ∃ values, Values survey.symbols line location values ∧ values.length = line.size ∧
      ∀ k value, values[k]? = some value →
        emission.words.lookup (location + k) = some value := by
  rcases passes.at_location element here with ⟨s, s', e, e', both, -, rfl⟩
  rcases both.emits.lookup with ⟨values, line_values, found⟩
  refine ⟨values, line_values, line_values.length, ?_⟩
  intro k value element
  exact both.words.lookup_eq_some (found k value element)

/-- The second word of an instruction is its evaluated target. -/
theorem Passes.target (passes : Passes lines survey emission) {location : ℕ}
    {operation operandText : Text} (element : lines[n]? = some line)
    (here : emissionLocation? survey.symbols lines n = some location)
    (parts : line.operation? = some (operation, operandText))
    (double : operation ∈ twoWordOperations) :
    ∃ value, evaluate .assemble operandText survey.symbols location line = .ok value ∧
      line.size = 2 ∧ emission.words.lookup (location + 1) = some value := by
  rcases passes.contents element here with ⟨values, line_values, length, found⟩
  have noDirective : ".ORG".toList ∉ twoWordOperations ∧ ".WORD".toList ∉ twoWordOperations := by
    decide
  cases line_values with
  | empty none =>
      rw [none] at parts
      exact absurd parts nofun
  | org directive =>
      rw [directive, Option.some.injEq, Prod.mk.injEq] at parts
      exact absurd (parts.1 ▸ double) noDirective.1
  | word directive =>
      rw [directive, Option.some.injEq, Prod.mk.injEq] at parts
      exact absurd (parts.1 ▸ double) noDirective.2
  | one instruction single =>
      rw [instruction, Option.some.injEq, Prod.mk.injEq] at parts
      exact absurd double (parts.1 ▸ single)
  | two instruction _ encoded evaluated =>
      rw [instruction, Option.some.injEq, Prod.mk.injEq] at parts
      rw [parts.2] at evaluated
      exact ⟨_, evaluated, length.symm, found 1 _ rfl⟩

/-- The extents of two lines share no address. -/
theorem Passes.apart (passes : Passes lines survey emission) {m low high : ℕ}
    {first second : SourceLine} (early : m < n) (one : lines[m]? = some first)
    (two : lines[n]? = some second)
    (oneHere : emissionLocation? survey.symbols lines m = some low)
    (twoHere : emissionLocation? survey.symbols lines n = some high) :
    (first.extent low).Disjoint (second.extent high) := by
  have inside : n < lines.length := (List.getElem?_eq_some_iff.mp two).1
  intro address firstAmong secondAmong
  rcases passes.at_location two twoHere with ⟨s, s', e, e', both, -, rfl⟩
  rcases passes.addresses (Nat.le_of_lt inside) with ⟨e₀, emitted, before, -⟩
  cases emitted.symm.trans both.emitted
  have occupied := (before address).mpr ⟨m, early, first, low, one, oneHere, firstAmong⟩
  exact lookup_eq_none.mp (both.emits.fresh address secondAmong).2 occupied

theorem Passes.surveyAt_length (passes : Passes lines survey emission) :
    Tools.surveyAt lines lines.length = .ok survey := by
  unfold Tools.surveyAt
  rw [List.take_length]
  exact passes.first

theorem Passes.emissionAt_length (passes : Passes lines survey emission) :
    Tools.emissionAt survey.symbols lines lines.length = .ok emission := by
  unfold Tools.emissionAt
  rw [List.take_length]
  exact passes.second

/-- The result of both passes. -/
theorem Passes.agreement (passes : Passes lines survey emission) :
    Agreement lines ⟨emission.words, emission.listing, survey.symbols⟩ where
  passes n inside := by
    rcases passes.locations inside with ⟨s, e, surveyed, emitted, same⟩
    refine ⟨s.location, ?_, ?_⟩
    · unfold surveyLocation?
      rw [surveyed]
      rfl
    · unfold emissionLocation?
      rw [emitted, same]
      rfl
  labels _ _ _ element defines := passes.label element defines
  symbols symbol among := by
    rcases passes.symbols (Nat.le_refl _) with ⟨s, surveyed, all⟩
    cases surveyed.symm.trans passes.surveyAt_length
    exact all symbol among
  addresses address := by
    rcases passes.addresses (Nat.le_refl _) with ⟨e, emitted, before, -⟩
    cases emitted.symm.trans passes.emissionAt_length
    rw [before]
    constructor
    · rintro ⟨n, -, extent⟩
      exact ⟨n, extent⟩
    · rintro ⟨n, line, location, element, rest⟩
      exact ⟨n, (List.getElem?_eq_some_iff.mp element).1, line, location, element, rest⟩
  apart _ _ _ _ _ _ early one two oneHere twoHere := passes.apart early one two oneHere twoHere
  distinct := by
    rcases passes.addresses (Nat.le_refl _) with ⟨e, emitted, -, distinct⟩
    cases emitted.symm.trans passes.emissionAt_length
    exact distinct
  range := passes.range
  contents _ _ _ element here := passes.contents element here
  target _ _ _ _ _ element here parts double := passes.target element here parts double

/-- Lines that collide do not pass. -/
theorem Passes.not_collides (passes : Passes lines survey emission) : ¬Collides lines := by
  have agreement := passes.agreement
  have transfer {n location : ℕ} {line : SourceLine} (element : lines[n]? = some line)
      (here : surveyLocation? lines n = some location) :
      emissionLocation? survey.symbols lines n = some location := by
    have inside : n < lines.length := (List.getElem?_eq_some_iff.mp element).1
    rcases agreement.passes n (Nat.le_of_lt inside) with ⟨same, surveyed, emitted⟩
    rw [here, Option.some_inj] at surveyed
    rw [surveyed]
    exact emitted
  rintro (⟨m, n, first, second, low, high, address, early, one, two, oneHere, twoHere, inFirst,
    inSecond⟩ | ⟨n, line, location, address, element, here, among, beyond⟩)
  · exact agreement.apart m n first second low high early one two (transfer one oneHere)
      (transfer two twoHere) inFirst inSecond
  · rcases passes.at_location element (transfer element here) with ⟨s, s', e, e', both, -, rfl⟩
    exact Nat.not_lt_of_le beyond (both.emits.fresh address among).1

/-- The assembler returns only results on which its passes agree. -/
theorem assemble_yields (lines : List SourceLine) :
    Yields (fun result => Agreement lines result ∧ ¬Collides lines) (assemble lines) := by
  unfold assemble
  cases first : lines.foldlM surveyLine {} with
  | error raised => trivial
  | ok survey =>
      change Yields _ (lines.foldlM (emitLine survey.symbols) {} >>= _)
      cases second : lines.foldlM (emitLine survey.symbols) {} with
      | error raised => trivial
      | ok emission =>
          have passes : Passes lines survey emission := ⟨first, second⟩
          exact ⟨passes.agreement, passes.not_collides⟩

end Run

/-! ## Exceptions -/

/-- Before a pass rejects a line, it comes to one that lets an exception out: to an origin in
the first pass, or in the second to a need of a line that does, after needs that are met. -/
def LetsOut (lines : List SourceLine) : Prop :=
  (∃ n line survey, lines[n]? = some line ∧ surveyAt lines n = .ok survey ∧
      SurveyEscapes survey line) ∨
    ∃ survey n line emission, surveyAt lines lines.length = .ok survey ∧
      lines[n]? = some line ∧ emissionAt survey.symbols lines n = .ok emission ∧
      BreaksAt (Need.Met survey.symbols emission.words) (Need.Escapes survey.symbols)
        (line.needs emission.location)

theorem assemble_escapes (lines : List SourceLine) :
    Escapes (assemble lines) ↔ LetsOut lines := by
  have firstPass : Escapes (lines.foldlM surveyLine {}) ↔
      ∃ n line survey, lines[n]? = some line ∧ surveyAt lines n = .ok survey ∧
        SurveyEscapes survey line := by
    unfold Escapes
    rw [fails_foldlM]
    simp only [← surveyLine_escapes]
    rfl
  have secondPass (symbols : List (Text × ℕ)) : Escapes (lines.foldlM (emitLine symbols) {}) ↔
      ∃ n line emission, lines[n]? = some line ∧ emissionAt symbols lines n = .ok emission ∧
        BreaksAt (Need.Met symbols emission.words) (Need.Escapes symbols)
          (line.needs emission.location) := by
    unfold Escapes
    rw [fails_foldlM]
    simp only [(requires_emitLine _ _).fails]
    rfl
  unfold assemble LetsOut
  rw [surveyAt, List.take_length, Escapes, fails_bind]
  refine or_congr firstPass ?_
  constructor
  · rintro ⟨survey, first, fails⟩
    rw [bind_pure_comp] at fails
    rcases (secondPass survey.symbols).mp (fails_map.mp fails) with
      ⟨n, line, emission, element, emitted, breaks⟩
    exact ⟨survey, n, line, emission, first, element, emitted, breaks⟩
  · rintro ⟨survey, n, line, emission, first, element, emitted, breaks⟩
    refine ⟨survey, first, ?_⟩
    rw [bind_pure_comp]
    exact fails_map.mpr
      ((secondPass survey.symbols).mpr ⟨n, line, emission, element, emitted, breaks⟩)

theorem assembleText_agrees {expandFile : Text → Except Failure (List SourceLine)}
    {sourceName text : Text} {result : AssemblyResult}
    (assembled : assembleText expandFile sourceName text = .ok result) :
    ∃ lines, expandText expandFile sourceName text = .ok lines ∧ Agreement lines result := by
  rcases bind_eq_ok.mp assembled with ⟨lines, expanded, success⟩
  exact ⟨lines, expanded, ((assemble_yields lines).ok success).1⟩

/-- The passes agree on every text that is assembled. A text whose statements collide raises
an `AssemblyError` exactly where no pass lets another exception out first. -/
theorem assembleText_agreement (expandFile : Text → Except Failure (List SourceLine))
    (sourceName text : Text) :
    (∀ result, assembleText expandFile sourceName text = .ok result →
      ∃ lines, expandText expandFile sourceName text = .ok lines ∧ Agreement lines result) ∧
      ((∀ lines, expandText expandFile sourceName text = .ok lines → Collides lines →
          ∃ message, assembleText expandFile sourceName text = .error (.assemblyError message)) ↔
        ∀ lines, expandText expandFile sourceName text = .ok lines → Collides lines →
          ¬LetsOut lines) := by
  constructor
  · intro result assembled
    exact assembleText_agrees assembled
  · apply forall_congr'
    intro lines
    apply imp_congr_right
    intro expanded
    apply imp_congr_right
    intro collides
    unfold assembleText
    rw [expanded, ok_bind, ← assemble_escapes]
    cases assembled : assemble lines with
    | ok result => exact absurd collides ((assemble_yields lines).ok assembled).2
    | error raised =>
        change _ ↔ ¬¬IsAssemblyError raised
        rw [not_not]
        simp only [Except.error.injEq]
        rfl

end Interpreter

/-! ## Two programs -/

/-- A program with a label in use before its definition. -/
def forwardSource : Text := "START: B NEXT\n.ORG $ + 1\nNEXT: .WORD START, $".toList

/-- The image of `forwardSource`. -/
def forwardResult : AssemblyResult where
  words := [(0, 0xF900), (1, 3), (3, 0), (4, 4)]
  listing :=
    [⟨0, 0xF900, ⟨[], 1, "START: B NEXT".toList⟩⟩, ⟨1, 3, ⟨[], 1, "START: B NEXT".toList⟩⟩,
      ⟨3, 0, ⟨[], 3, "NEXT: .WORD START, $".toList⟩⟩,
      ⟨4, 4, ⟨[], 3, "NEXT: .WORD START, $".toList⟩⟩]
  symbols := [("START".toList, 0), ("NEXT".toList, 3)]

/-- A program that places two words at one address, the second too long to be shown. -/
def wideSource : Text := ".WORD 1\n.ORG 0\n.WORD 1<<15000".toList

/-- The lines of `wideSource`. -/
def wideLines : List SourceLine :=
  [⟨[], 1, ".WORD 1".toList⟩, ⟨[], 2, ".ORG 0".toList⟩, ⟨[], 3, ".WORD 1<<15000".toList⟩]

theorem wideSource_expanded :
    @expandText .plain (fun _ => .ok []) [] wideSource = .ok wideLines := by
  decide +kernel

theorem wideLines_collides : @Collides .plain wideLines :=
  Or.inl ⟨0, 2, _, _, 0, 0, 0, by decide, rfl, rfl, by decide +kernel, by decide +kernel,
    by decide +kernel, by decide +kernel⟩

/-- The error of the message that cannot be written. -/
theorem wideSource_raises : @assembleText .plain (fun _ => .ok []) [] wideSource =
    .error (.valueError (Interpreter.plain.digitsReason (2 ^ 15000))) := by
  decide +kernel

theorem wideSource_not_reported :
    ¬∀ lines, @expandText .plain (fun _ => .ok []) [] wideSource = .ok lines →
      @Collides .plain lines →
        ∃ message, @assembleText .plain (fun _ => .ok []) [] wideSource =
          .error (.assemblyError message) := by
  intro claimed
  rcases claimed _ wideSource_expanded wideLines_collides with ⟨message, reported⟩
  cases wideSource_raises.symm.trans reported

/-- The passes agree on the first program; on the second one, an exception is let out. -/
theorem assembleText_agreement_sources :
    (∃ lines, @Agreement .plain lines forwardResult) ∧ @LetsOut .plain wideLines := by
  constructor
  · rcases (@assembleText_agreement .plain (fun _ => .ok []) [] forwardSource).1 forwardResult
      (by decide +kernel) with ⟨lines, -, agreement⟩
    exact ⟨lines, agreement⟩
  · by_contra none
    have reported := (@assembleText_agreement .plain (fun _ => .ok []) [] wideSource).2.mpr
      (fun lines expanded _ => by cases wideSource_expanded.symm.trans expanded; exact none)
    rcases reported _ wideSource_expanded wideLines_collides with ⟨message, reported⟩
    cases wideSource_raises.symm.trans reported

end Tms32010.Tools
