import Tms32010.Tools.Layout

/-!
# Escapes

Which exceptions other than `AssemblyError` leave the assembler: those of an operand that the
interpreter cannot parse or evaluate within its limits, and the one of a message that shows
an integer of too many digits. What a statement needs, in the order of the source, decides
whether it comes to one of them.
-/

namespace Tms32010.Tools

open Checks

/-- An error that the assembler reports itself. -/
def IsAssemblyError (raised : Failure) : Prop := ∃ message, raised = .assemblyError message

/-- An error that passes through the assembler. -/
def Escapes {α : Type} (x : Except Failure α) : Prop :=
  Fails (fun raised => ¬IsAssemblyError raised) x

theorem SourceLine.error_isAssemblyError (line : SourceLine) (message : Text) :
    IsAssemblyError (line.error message) := ⟨_, rfl⟩

theorem operandList_reports (text : Text) (line : SourceLine) :
    ¬Escapes (operandList text line) := by
  unfold operandList
  dsimp only
  split_ifs
  · exact not_not_intro (line.error_isAssemblyError _)
  · exact id

theorem instructionOperands_reports (text : Text) (line : SourceLine) :
    ¬Escapes (instructionOperands text line) := by
  unfold instructionOperands
  split_ifs
  · exact id
  · exact operandList_reports text line

theorem validateInstructionShape_reports (operation text : Text) (line : SourceLine) :
    ¬Escapes (validateInstructionShape operation text line) := by
  unfold validateInstructionShape
  split
  · split_ifs
    all_goals exact not_not_intro (line.error_isAssemblyError _)
  · unfold Escapes
    rw [fails_bind]
    rintro (fails | ⟨operands, -, fails⟩)
    · exact instructionOperands_reports text line fails
    · dsimp only at fails
      split_ifs at fails
      · exact fails
      · exact fails (line.error_isAssemblyError _)

theorem checkedLocation_reports (value : ℕ) (line : SourceLine) :
    ¬Escapes (checkedLocation value line) := by
  unfold checkedLocation
  split_ifs
  · exact id
  · exact not_not_intro (line.error_isAssemblyError _)

/-- The error of a computation that reports its errors. -/
theorem isAssemblyError_of_reports {α : Type} {x : Except Failure α} {raised : Failure}
    (reports : ¬Escapes x) (failure : x = .error raised) : IsAssemblyError raised := by
  rw [failure] at reports
  exact not_not.mp reports

/-- A range. -/
def Within (low high value : ℤ) : Prop := low ≤ value ∧ value ≤ high

theorem within_register : ∀ n : ℕ, n ≤ 1 → Within 0 1 n := by
  intro n small
  exact ⟨Int.natCast_nonneg n, by exact_mod_cast small⟩

theorem operand_eq {operands : List Text} {i : ℕ} (indexed : i < operands.length) :
    operand operands i = .ok operands[i] := by
  unfold operand
  rw [List.getElem?_eq_getElem indexed]

variable [Interpreter]

/-! ## Operands -/

/-- The evaluation of a tree comes to the recursion limit, or to an operator whose result
the interpreter cannot hold. -/
inductive Expression.Exhausts (names : List (Text × ℤ)) : ℕ → Expression → Prop where
  | deep (tree : Expression) : Exhausts names 0 tree
  | left {levels : ℕ} {left right : Expression} {op : Operator}
      (exhausts : Exhausts names levels left) :
      Exhausts names (levels + 1) (.binOp left op right)
  | right {levels : ℕ} {left right : Expression} {op : Operator} {x : ℤ}
      (first : left.visit names levels = .ok x) (exhausts : Exhausts names levels right) :
      Exhausts names (levels + 1) (.binOp left op right)
  | operator {levels : ℕ} {left right : Expression} {op : Operator} {x y : ℤ}
      (first : left.visit names levels = .ok x) (second : right.visit names levels = .ok y)
      (accepted : op.refusal? y = none) (exhausts : Interpreter.exhausts op x y ≠ none) :
      Exhausts names (levels + 1) (.binOp left op right)
  | operand {levels : ℕ} {operand : Expression} {op : Sign}
      (exhausts : Exhausts names levels operand) :
      Exhausts names (levels + 1) (.unaryOp op operand)

/-- An operand whose parsing or evaluation ends in an exception that `_evaluate` does not
catch. -/
def OperandEscapes (site : CallSite) (text : Text) (symbols : List (Text × ℕ)) (location : ℕ) :
    Prop :=
  (∃ raised, Interpreter.parse (normalized text) = .error raised ∧ raised.reason? = none) ∨
    ∃ tree, Interpreter.parse (normalized text) = .ok tree ∧
      tree.Exhausts (currentNames symbols location) (Interpreter.levels site)

section Operands

variable {names : List (Text × ℤ)} {symbols : List (Text × ℕ)} {location : ℕ}

theorem Operator.refusal?_caught {op : Operator} {right : ℤ} {refusal : Failure}
    (refused : op.refusal? right = some refusal) : refusal.reason? ≠ none := by
  unfold Operator.refusal? at refused
  split at refused
  iterate 4
    split_ifs at refused
    cases refused
    exact Option.some_ne_none _
  cases refused

theorem Operator.apply_fails (op : Operator) (x y : ℤ) :
    Fails (fun raised => raised.reason? = none) (op.apply x y) ↔
      op.refusal? y = none ∧ Interpreter.exhausts op x y ≠ none := by
  unfold Operator.apply
  cases refused : op.refusal? y with
  | some refusal => simp [op.refusal?_caught refused]
  | none =>
      cases exhausted : Interpreter.exhausts op x y with
      | some exhaustion => cases exhaustion <;> simp [Exhaustion.failure, Failure.reason?]
      | none => simp

/-- The exceptions of an evaluation that are not caught. -/
theorem Expression.visit_fails (tree : Expression) (levels : ℕ) :
    Fails (fun raised => raised.reason? = none) (tree.visit names levels) ↔
      tree.Exhausts names levels := by
  induction tree generalizing levels with
  | constant | otherConstant | otherBinOp | otherUnaryOp | element =>
      cases levels with
      | zero => exact ⟨fun _ => Exhausts.deep _, fun _ => rfl⟩
      | succ levels =>
          constructor
          · intro fails
            cases fails
          · intro exhausts
            cases exhausts
  | name id =>
      cases levels with
      | zero => exact ⟨fun _ => Exhausts.deep _, fun _ => rfl⟩
      | succ levels =>
          unfold Expression.visit
          constructor
          · intro fails
            cases found : names.lookup (Interpreter.upper id) <;> rw [found] at fails <;>
              cases fails
          · intro exhausts
            cases exhausts
  | binOp left op right leftIh rightIh =>
      cases levels with
      | zero => exact ⟨fun _ => Exhausts.deep _, fun _ => rfl⟩
      | succ levels =>
          unfold Expression.visit
          rw [fails_bind, leftIh]
          simp only [fails_bind, rightIh, Operator.apply_fails]
          constructor
          · rintro (exhausts | ⟨x, first, exhausts | ⟨y, second, accepted, exhausts⟩⟩)
            · exact Exhausts.left exhausts
            · exact Exhausts.right first exhausts
            · exact Exhausts.operator first second accepted exhausts
          · intro exhausts
            cases exhausts with
            | left exhausts => exact Or.inl exhausts
            | right first exhausts => exact Or.inr ⟨_, first, Or.inl exhausts⟩
            | operator first second accepted exhausts =>
                exact Or.inr ⟨_, first, Or.inr ⟨_, second, accepted, exhausts⟩⟩
  | unaryOp op operand ih =>
      cases levels with
      | zero => exact ⟨fun _ => Exhausts.deep _, fun _ => rfl⟩
      | succ levels =>
          unfold Expression.visit
          rw [fails_bind, ih]
          constructor
          · rintro (exhausts | ⟨_, _, fails⟩)
            · exact Exhausts.operand exhausts
            · exact absurd fails (fails_pure _)
          · intro exhausts
            cases exhausts with
            | operand exhausts => exact Or.inl exhausts

theorem evaluate_escapes (site : CallSite) (text : Text) (line : SourceLine) :
    Escapes (evaluate site text symbols location line) ↔
      OperandEscapes site text symbols location := by
  have uncaught : Escapes (evaluate site text symbols location line) ↔
      Fails (fun raised => raised.reason? = none) (visited site text symbols location) := by
    unfold evaluate Escapes
    cases visited site text symbols location with
    | ok value => exact Iff.rfl
    | error raised =>
        dsimp only
        cases caught : raised.reason? with
        | some reason => simp [caught, SourceLine.error_isAssemblyError]
        | none =>
            have other : ¬IsAssemblyError raised := by
              rintro ⟨message, rfl⟩
              cases caught
            simp [caught, other]
  rw [uncaught]
  unfold visited OperandEscapes
  rw [fails_bind, fails_iff]
  simp only [Expression.visit_fails]

end Operands

/-! ## Needs -/

/-- What a statement needs: that an operand has an allowed value, that it names a register
or a port, or that an address is free. The need of a refused statement is never met. -/
inductive Need where
  | value (site : CallSite) (text : Text) (location : ℕ) (allowed : ℤ → Prop)
  | register (text : Text)
  | port (text : Text)
  | room (address : ℕ)
  | refused

/-- The need is met, with these symbols and words. -/
def Need.Met (symbols : List (Text × ℕ)) (words : List (ℕ × ℤ)) : Need → Prop
  | .value site text location allowed =>
      ∃ value, visited site text symbols location = .ok value ∧ allowed value
  | .register text =>
      Interpreter.upper (Text.strip text) ∈ ["AR0".toList, "0".toList, "AR1".toList, "1".toList]
  | .port text => ∃ value, portNumber? text = some value ∧ 0 ≤ value ∧ value ≤ 7
  | .room address => address < programWords ∧ words.lookup address = none
  | .refused => False

/-- The need lets an exception out: of its operand, or of the message about its value. -/
def Need.Escapes (symbols : List (Text × ℕ)) : Need → Prop
  | .value site text location allowed =>
      OperandEscapes site text symbols location ∨
        ∃ value, visited site text symbols location = .ok value ∧ ¬allowed value ∧
          Unprintable value
  | .port text =>
      ∃ value, portNumber? text = some value ∧ ¬(0 ≤ value ∧ value ≤ 7) ∧ Unprintable value
  | .register _ | .room _ | .refused => False

/-- The need of an optional shift. -/
def shiftNeeds (operands : List Text) (location : ℕ) (allowed : ℤ → Prop) : List Need :=
  match operands[1]? with
  | some text => [.value .encode text location allowed]
  | none => []

/-- The needs of `nextArp`. -/
def nextArpNeed (text : Text) (location : ℕ) : Need :=
  let upper := Interpreter.upper (Text.strip text)
  if upper = "AR0".toList ∨ upper = "AR1".toList then .register upper
  else .value .encodeDataAddress text location (Within 0 1)

/-- The needs of `encodeDataAddress`. -/
def addressNeeds (operation : Text) (operands : List Text) (nextArpIndex location : ℕ) :
    List Need :=
  match operands[0]? with
  | none => []
  | some first =>
      match indirectControl? (Interpreter.upper (first.filter (· ≠ ' '))) with
      | some _ =>
          match operands[nextArpIndex]? with
          | some text => [nextArpNeed text location]
          | none => []
      | none =>
          if nextArpIndex < operands.length then [.refused]
          else
            [.value .encodeDataAddress first location
              (Within 0 (if operation = "SST".toList then 15 else 127 : ℕ))]

/-- The needs of `operandBits`. -/
def operandNeeds (mnemonic : Mnemonic) (operandText : Text) (operands : List Text)
    (location : ℕ) : List Need :=
  let operation := mnemonicText mnemonic
  match mnemonic with
  | .lack => [.value .encode operandText location (Within 0 0xFF)]
  | .b | .banz | .bgez | .bgz | .bioz | .blez | .blz | .bnz | .bv | .bz | .call =>
      [.value .encode operandText location (Within 0 (programWords - 1))]
  | .add | .lac | .sub =>
      shiftNeeds operands location (Within 0 15) ++
        addressNeeds operation operands 2 location
  | .sacl =>
      shiftNeeds operands location (· = 0) ++ addressNeeds operation operands 2 location
  | .sach =>
      shiftNeeds operands location (fun value => value = 0 ∨ value = 1 ∨ value = 4) ++
        addressNeeds operation operands 2 location
  | .in | .out =>
      (operands[1]?.toList.map .port) ++ addressNeeds operation operands 2 location
  | .addh | .adds | .and | .dmov | .ldp | .lst | .lt | .lta | .ltd | .mar | .mpy | .or | .sst
  | .subc | .subh | .subs | .tblr | .tblw | .xor | .zalh | .zals =>
      addressNeeds operation operands 1 location
  | .lar | .sar =>
      (operands[0]?.toList.map .register) ++
        addressNeeds operation (operands.drop 1) 1 location
  | .lark =>
      (operands[0]?.toList.map .register) ++
        operands[1]?.toList.map fun text => .value .encode text location (Within 0 0xFF)
  | .larp =>
      let upper := Interpreter.upper (Text.strip operandText)
      [if upper = "AR0".toList ∨ upper = "AR1".toList then .register operandText
      else .value .encode operandText location (Within 0 1)]
  | .ldpk => [.value .encode operandText location (Within 0 1)]
  | .mpyk => [.value .encode operandText location (Within (-4096) 4095)]
  | _ => []

/-- The needs of `encode`. -/
def encodeNeeds (operation operandText : Text) (location : ℕ) (line : SourceLine) :
    List Need :=
  match validateInstructionShape operation operandText line,
      instructionOperands operandText line with
  | .ok entry, .ok operands => operandNeeds entry.mnemonic operandText operands location
  | _, _ => [.refused]

/-- The needs of the values of a data directive: all are evaluated before the first one
is placed. -/
def dataNeeds (expressions : List Text) (location : ℕ) : List Need :=
  (expressions.zipIdx.map fun item =>
      .value .comprehension item.1 (location + item.2) fun _ => True) ++
    expressions.zipIdx.flatMap fun item =>
      [.value .comprehension item.1 (location + item.2) (Within 0 0xFFFF),
        .room (location + item.2)]

/-- The needs of a line in the second pass. -/
def SourceLine.needs (line : SourceLine) (location : ℕ) : List Need :=
  match line.operation? with
  | none => []
  | some (operation, operandText) =>
      if operation = ".ORG".toList then
        [.value .assemble operandText location (Within 0 (programWords - 1))]
      else if operation = ".WORD".toList then
        match operandList operandText line with
        | .ok expressions => dataNeeds expressions location
        | .error _ => [.refused]
      else
        encodeNeeds operation operandText location line ++ .room location ::
          if operation ∈ twoWordOperations then
            [.value .assemble operandText location fun _ => True, .room (location + 1)]
          else []

/-! ## Instructions -/

/-- The computation succeeds where these needs are met, and lets an exception out where one
of them does, after others that are met. -/
abbrev Requires (symbols : List (Text × ℕ)) (words : List (ℕ × ℤ)) {α : Type}
    (needs : List Need) (x : Except Failure α) : Prop :=
  Needs (Need.Met symbols words) (Need.Escapes symbols) (fun raised => ¬IsAssemblyError raised)
    needs x

section Instructions

variable {symbols : List (Text × ℕ)} {words : List (ℕ × ℤ)} {location : ℕ} {line : SourceLine}
  {operands : List Text} {α β : Type} {allowed : ℤ → Prop} {needs : List Need}

theorem requires_refused {raised : Failure} (own : IsAssemblyError raised) :
    Requires symbols words [.refused] (.error raised : Except Failure α) :=
  Needs.error (not_not_intro own) id id

theorem errorWith_isAssemblyError (message : Text) (value : ℤ) :
    IsAssemblyError (line.errorWith message value) ↔ ¬Unprintable value := by
  unfold SourceLine.errorWith str
  by_cases long : Unprintable value
  · rw [if_pos long]
    constructor
    · rintro ⟨_, same⟩
      cases same
    · intro short
      exact absurd long short
  · rw [if_neg long]
    exact ⟨fun _ => long, fun _ => line.error_isAssemblyError _⟩

/-- A check lets the allowed values pass, and shows the others in its message. -/
structure Guards (line : SourceLine) (allowed : ℤ → Prop) (check : ℤ → Except Failure α) :
    Prop where
  passes : ∀ value, allowed value → ∃ a, check value = .ok a
  shows : ∀ value, ¬allowed value → ∃ message, check value = .error (line.errorWith message value)

theorem guards_checked (low high : ℤ) (message : Text) :
    Guards line (Within low high) (fun value => checked value low high line message) where
  passes _ inside := ⟨_, if_pos inside⟩
  shows _ outside := ⟨message, if_neg outside⟩

theorem guards_pure : Guards line (fun _ => True) (pure : ℤ → Except Failure ℤ) where
  passes value _ := ⟨value, rfl⟩
  shows _ never := absurd trivial never

theorem guards_sachShift :
    Guards line (fun value => value = 0 ∨ value = 1 ∨ value = 4) (sachShift line) where
  passes _ inside := ⟨_, if_pos inside⟩
  shows _ outside := ⟨_, if_neg outside⟩

theorem guards_saclShift : Guards line (· = 0) (saclShift line) where
  passes _ inside := ⟨_, if_pos inside⟩
  shows _ outside := ⟨_, if_neg outside⟩

section Guards

variable {check : ℤ → Except Failure α}

theorem Guards.map (guards : Guards line allowed check) (finish : ℤ → α → β) :
    Guards line allowed fun value => finish value <$> check value where
  passes value inside := by
    rcases guards.passes value inside with ⟨a, passed⟩
    exact ⟨finish value a, by rw [passed]; rfl⟩
  shows value outside := by
    rcases guards.shows value outside with ⟨message, shown⟩
    exact ⟨message, by rw [shown]; rfl⟩

theorem Guards.succeeds (guards : Guards line allowed check) (value : ℤ) :
    (∃ a, check value = .ok a) ↔ allowed value := by
  constructor
  · rintro ⟨a, passed⟩
    by_contra outside
    rcases guards.shows value outside with ⟨message, shown⟩
    cases passed.symm.trans shown
  · exact guards.passes value

theorem Guards.fails (guards : Guards line allowed check) (value : ℤ) :
    Escapes (check value) ↔ ¬allowed value ∧ Unprintable value := by
  by_cases inside : allowed value
  · rcases guards.passes value inside with ⟨a, passed⟩
    rw [passed]
    exact ⟨fun fails => absurd fails (fails_ok a), fun outside => absurd inside outside.1⟩
  · rcases guards.shows value inside with ⟨message, shown⟩
    rw [shown]
    exact (errorWith_isAssemblyError message value).not_left.trans (and_iff_right inside).symm

/-- An operand whose value is checked. -/
theorem Guards.requires (guards : Guards line allowed check) (site : CallSite) (text : Text) :
    Requires symbols words [.value site text location allowed]
      (evaluate site text symbols location line >>= check) where
  succeeds := by
    rw [List.forall_mem_singleton]
    constructor
    · rintro ⟨a, success⟩
      rcases bind_eq_ok.mp success with ⟨value, evaluated, passed⟩
      exact ⟨value, evaluate_eq_ok.mp evaluated, (guards.succeeds value).mp ⟨a, passed⟩⟩
    · rintro ⟨value, evaluated, inside⟩
      rcases guards.passes value inside with ⟨a, passed⟩
      exact ⟨a, bind_eq_ok.mpr ⟨value, evaluate_eq_ok.mpr evaluated, passed⟩⟩
  fails := by
    rw [fails_bind]
    change Escapes _ ∨ (∃ value, _ ∧ Escapes _) ↔ Need.Escapes symbols _ ∨ _ ∧ False
    simp only [evaluate_escapes, evaluate_eq_ok, guards.fails, and_false, or_false, Need.Escapes]

end Guards

theorem requires_evaluate (site : CallSite) (text : Text) :
    Requires symbols words [.value site text location fun _ => True]
      (evaluate site text symbols location line) := by
  rw [← bind_pure (evaluate site text symbols location line)]
  exact guards_pure.requires site text

theorem requires_checked (site : CallSite) (text : Text) (low high : ℤ) (message : Text) :
    Requires symbols words [.value site text location (Within low high)]
      (evaluate site text symbols location line >>= fun value =>
        checked value low high line message) :=
  (guards_checked low high message).requires site text

theorem requires_auxiliaryRegister (text : Text) :
    Requires symbols words [.register text] (auxiliaryRegister text line) := by
  have met : (∃ n, auxiliaryRegister text line = .ok n) ↔
      (Need.register text).Met symbols words := by
    unfold auxiliaryRegister
    simp only [Need.Met, List.mem_cons, List.not_mem_nil, or_false]
    split_ifs with zero one
    · exact ⟨fun _ => by tauto, fun _ => ⟨0, rfl⟩⟩
    · exact ⟨fun _ => by tauto, fun _ => ⟨1, rfl⟩⟩
    · constructor
      · rintro ⟨_, same⟩
        cases same
      · intro named
        exact absurd named (by tauto)
  constructor
  · rw [List.forall_mem_singleton]
    exact met
  · refine iff_of_false ?_ (by simp [BreaksAt, Need.Escapes])
    unfold auxiliaryRegister
    dsimp only
    split_ifs
    · exact id
    · exact id
    · exact not_not_intro (line.error_isAssemblyError _)

theorem requires_ioPort (text : Text) :
    Requires symbols words [.port text] (ioPort text line) := by
  unfold ioPort
  cases named : portNumber? text with
  | none =>
      refine Needs.error (not_not_intro (line.error_isAssemblyError _)) ?_ ?_
      · rintro ⟨value, same, -⟩
        cases named.symm.trans same
      · rintro ⟨value, same, -⟩
        cases named.symm.trans same
  | some value =>
      have guards : Guards line (fun value => 0 ≤ value ∧ value ≤ 7) fun value =>
          if 0 ≤ value ∧ value ≤ 7 then .ok value.toNat
          else .error (line.errorWith "I/O port out of range 0..7".toList value) :=
        ⟨fun _ inside => ⟨_, if_pos inside⟩, fun _ outside => ⟨_, if_neg outside⟩⟩
      constructor
      · rw [List.forall_mem_singleton]
        refine (guards.succeeds value).trans ⟨fun inside => ⟨value, named, inside⟩, ?_⟩
        rintro ⟨_, same, inside⟩
        cases named.symm.trans same
        exact inside
      · apply (guards.fails value).trans
        constructor
        · rintro ⟨outside, long⟩
          exact Or.inl ⟨value, named, outside, long⟩
        · rintro (⟨_, same, outside⟩ | never)
          · cases named.symm.trans same
            exact outside
          · exact absurd never.2 id

/-- A computation that needs nothing. -/
theorem requires_nothing {x : Except Failure α} (success : ∃ a, x = .ok a) :
    Requires symbols words [] x := by
  rcases success with ⟨a, rfl⟩
  exact Needs.ok a

/-- A register by its name, or a value that is checked. -/
theorem requires_named_or_value {condition : Prop} [Decidable condition]
    {check : ℤ → Except Failure α} (site : CallSite) (name text : Text)
    (guards : Guards line allowed check) (registers : ∀ n ≤ 1, allowed (n : ℕ)) :
    Requires symbols words
      [if condition then .register name else .value site text location allowed]
      (if condition then
        ((fun register : ℕ => (register : ℤ)) <$> auxiliaryRegister name line) >>= check
      else evaluate site text symbols location line >>= check) := by
  by_cases named : condition
  · rw [if_pos named, if_pos named, ← List.append_nil [Need.register name]]
    apply ((requires_auxiliaryRegister name).map _).bind
    intro value register
    apply requires_nothing
    apply guards.passes
    rw [map_eq_pure_bind] at register
    rcases bind_eq_ok.mp register with ⟨n, success, same⟩
    cases same
    exact registers n ((auxiliaryRegister_yields name line).ok success)
  · rw [if_neg named, if_neg named]
    exact guards.requires site text

theorem requires_nextArp (operation text : Text) :
    Requires symbols words [nextArpNeed text location]
      (nextArp symbols location line operation text) := by
  exact requires_named_or_value .encodeDataAddress _ text (guards_checked 0 1 _) within_register

/-- An addressing byte, of an instruction with that operand. -/
theorem requires_encodeDataAddress (operation : Text) (nextArpIndex : ℕ)
    (indexed : 0 < operands.length) :
    Requires symbols words (addressNeeds operation operands nextArpIndex location)
      (encodeDataAddress symbols location line operation operands nextArpIndex) := by
  unfold encodeDataAddress addressNeeds operand
  rw [List.getElem?_eq_getElem indexed]
  dsimp only
  rw [ok_bind]
  cases indirectControl? (Interpreter.upper (operands[0].filter (· ≠ ' '))) with
  | some control =>
      dsimp only
      cases operands[nextArpIndex]? with
      | some text =>
          dsimp only
          rw [bind_pure_comp]
          exact (requires_nextArp operation text).map _
      | none => exact Needs.ok _
  | none =>
      dsimp only
      by_cases more : nextArpIndex < operands.length
      · rw [if_pos more, if_pos more]
        exact requires_refused (line.error_isAssemblyError _)
      · rw [if_neg more, if_neg more]
        exact requires_checked .encodeDataAddress _ 0 _ _

/-- An optional shift, where zero is allowed. -/
theorem Guards.requires_optionalShift {check : ℤ → Except Failure α}
    (guards : Guards line allowed check) (zero : allowed 0) :
    Requires symbols words (shiftNeeds operands location allowed)
      (optionalShift symbols location line operands >>= check) := by
  unfold optionalShift shiftNeeds
  cases operands[1]? with
  | some text => exact guards.requires .encode text
  | none => exact requires_nothing (guards.passes 0 zero)

/-- The bits of the operands, where the instruction has those it indexes. -/
theorem requires_operandBits (mnemonic : Mnemonic) (text : Text)
    (indexed : indexedOperands mnemonic ≤ operands.length) :
    Requires symbols words (operandNeeds mnemonic text operands location)
      (operandBits symbols location line mnemonic text operands) := by
  have shifted {check : ℤ → Except Failure ℕ} {allowed : ℤ → Prop} {operation : Text}
      (guards : Guards line allowed check) (zero : allowed 0) (one : 0 < operands.length)
      (finish : ℕ → ℕ → ℕ) :
      Requires symbols words
        (shiftNeeds operands location allowed ++ addressNeeds operation operands 2 location)
        (optionalShift symbols location line operands >>= fun value => check value >>=
          fun shift => finish shift <$>
            encodeDataAddress symbols location line operation operands 2) :=
    (guards.requires_optionalShift zero).check_bind fun shift =>
      (requires_encodeDataAddress operation 2 one).map (finish shift)
  unfold operandBits operandNeeds
  simp only [bind_pure_comp]
  cases mnemonic with
  | lack => exact requires_checked .encode text 0 0xFF _
  | b | banz | bgez | bgz | bioz | blez | blz | bnz | bv | bz | call =>
      exact ((guards_checked 0 (programWords - 1) _).map fun _ _ => 0).requires .encode text
  | add | lac | sub =>
      have zero : Within 0 15 0 := ⟨by decide, by decide⟩
      exact shifted (guards_checked 0 15 _) zero indexed _
  | sacl =>
      exact (guards_saclShift.requires_optionalShift rfl).check_bind fun _ =>
        requires_encodeDataAddress _ 2 indexed
  | sach => exact shifted guards_sachShift (Or.inl rfl) indexed _
  | «in» | out =>
      dsimp only
      rw [operand_eq indexed, ok_bind, List.getElem?_eq_getElem indexed]
      apply (requires_ioPort _).bind
      intro port _
      exact (requires_encodeDataAddress _ 2 (Nat.lt_of_succ_lt indexed)).map _
  | addh | adds | and | dmov | ldp | lst | lt | lta | ltd | mar | mpy | or | sst | subc | subh
  | subs | tblr | tblw | xor | zalh | zals => exact requires_encodeDataAddress _ 1 indexed
  | lar | sar =>
      have first : 0 < operands.length := Nat.lt_of_succ_lt indexed
      dsimp only
      rw [operand_eq first, ok_bind, List.getElem?_eq_getElem first]
      apply (requires_auxiliaryRegister _).bind
      intro register _
      apply Needs.map
      apply requires_encodeDataAddress
      rw [List.length_drop]
      exact Nat.sub_pos_of_lt indexed
  | lark =>
      have first : 0 < operands.length := Nat.lt_of_succ_lt indexed
      dsimp only
      rw [operand_eq first, ok_bind, List.getElem?_eq_getElem first, operand_eq indexed,
        List.getElem?_eq_getElem indexed]
      apply (requires_auxiliaryRegister _).bind
      intro register _
      rw [ok_bind]
      exact ((guards_checked 0 0xFF _).map fun _ value => register <<< 8 ||| value).requires
        .encode _
  | larp => exact requires_named_or_value .encode text text (guards_checked 0 1 _) within_register
  | ldpk => exact requires_checked .encode text 0 1 _
  | mpyk =>
      exact ((guards_checked (-4096) 4095 _).map fun value _ => (value % 0x2000).toNat).requires
        .encode text
  | _ => exact Needs.ok 0

end Instructions

/-! ## Passes -/

section Passes

variable {symbols : List (Text × ℕ)} {words : List (ℕ × ℤ)} {location : ℕ} {line : SourceLine}
  {emission : Emission}

theorem requires_encode (operation text : Text) :
    Requires symbols words (encodeNeeds operation text location line)
      (encode symbols location line operation text) := by
  unfold encode encodeNeeds
  have reports := validateInstructionShape_reports operation text line
  have shape := validateInstructionShape_yields operation text line
  cases valid : validateInstructionShape operation text line with
  | error raised => exact requires_refused (isAssemblyError_of_reports reports valid)
  | ok entry =>
      cases listed : instructionOperands text line with
      | error raised =>
          have own := isAssemblyError_of_reports (instructionOperands_reports text line) listed
          exact requires_refused own
      | ok operands =>
          have enough := (shape.ok valid).2 operands listed
          dsimp only
          rw [ok_bind, ok_bind, bind_pure_comp]
          exact (requires_operandBits entry.mnemonic text enough).map _

/-- A word at a free address. -/
theorem requires_emit (word : ℤ) :
    Requires symbols emission.words [.room emission.location] (emit emission word line) := by
  unfold emit
  by_cases inside : emission.location < programWords
  · rw [if_neg (not_not_intro inside)]
    cases found : emission.words.lookup emission.location with
    | some old =>
        rw [if_pos Option.isSome_some]
        refine Needs.error (not_not_intro (line.error_isAssemblyError _)) ?_ id
        rintro ⟨-, free⟩
        cases found.symm.trans free
    | none =>
        rw [if_neg (by simp)]
        constructor
        · rw [List.forall_mem_singleton]
          exact ⟨fun _ => ⟨inside, found⟩, fun _ => ⟨_, rfl⟩⟩
        · simp [BreaksAt, Need.Escapes]
  · rw [if_pos inside]
    refine Needs.error (not_not_intro (line.error_isAssemblyError _)) ?_ id
    exact fun met => inside met.1

/-- A free address after the words placed is free as before. -/
theorem Places.met_room {before after : Emission} {values : List ℤ}
    (placed : Places before after values) {address : ℕ} (later : after.location ≤ address) :
    (Need.room address).Met symbols after.words ↔ (Need.room address).Met symbols before.words := by
  have outside : (placedAt before.location values).lookup address = none := by
    rw [lookup_eq_none, placedAt_addresses, List.mem_range'_1, ← placed.location]
    exact fun inside => Nat.not_lt_of_le later inside.2
  change _ ∧ _ ↔ _ ∧ _
  rw [placed.words, List.lookup_append, outside, Option.or_none]

/-- A known value that is checked. -/
theorem Guards.requires_known {α : Type} {allowed : ℤ → Prop} {check : ℤ → Except Failure α}
    (guards : Guards line allowed check) {site : CallSite} {text : Text} {value : ℤ}
    (known : evaluate site text symbols location line = .ok value) :
    Requires symbols words [.value site text location allowed] (check value) := by
  have checks : Requires symbols words [.value site text location allowed] _ :=
    guards.requires site text
  rw [known, ok_bind] at checks
  exact checks

/-- The values of a data directive, from one of them on. -/
theorem requires_emitValues (expressions : List Text) (k : ℕ) {values : List ℤ}
    (here : emission.location = location + k)
    (evaluated : (expressions.zipIdx k).mapM (fun item =>
      evaluate .comprehension item.1 symbols (location + item.2) line) = .ok values) :
    Requires symbols emission.words
      ((expressions.zipIdx k).flatMap fun item =>
        [.value .comprehension item.1 (location + item.2) (Within 0 0xFFFF),
          .room (location + item.2)])
      (values.foldlM (emitValue line) emission) := by
  induction expressions generalizing k values emission with
  | nil =>
      cases evaluated
      exact Needs.ok _
  | cons expression expressions ih =>
      rw [List.zipIdx_cons, List.mapM_cons] at evaluated
      rcases bind_eq_ok.mp evaluated with ⟨value, first, evaluated⟩
      rcases bind_eq_ok.mp evaluated with ⟨others, rest, same⟩
      cases same
      rw [List.zipIdx_cons, List.flatMap_cons, List.foldlM_cons]
      have placed : Requires symbols emission.words
          [.value .comprehension expression (location + k) (Within 0 0xFFFF), .room (location + k)]
          (emitValue line emission value) := by
        rw [← here] at first ⊢
        exact ((guards_checked 0 0xFFFF _).requires_known first).bind fun _ _ =>
          requires_emit value
      apply placed.bind
      intro middle emitted
      rcases bind_eq_ok.mp emitted with ⟨_, -, emitted⟩
      have places := (emit_yields emission value line).ok emitted
      have next : middle.location = location + (k + 1) := by
        rw [places.location, here]
        rfl
      apply (ih (k + 1) next rest).congr
      intro need among
      rcases List.mem_flatMap.mp among with ⟨item, inside, among⟩
      rcases List.mem_pair.mp among with rfl | rfl
      · exact Iff.rfl
      · apply places.met_room
        rw [next]
        exact Nat.add_le_add_left (List.le_snd_of_mem_zipIdx inside) location

/-- A line in the second pass. -/
theorem requires_emitLine (emission : Emission) (line : SourceLine) :
    Requires symbols emission.words (line.needs emission.location)
      (emitLine symbols emission line) := by
  unfold emitLine SourceLine.needs SourceLine.operation?
  by_cases empty : (splitLabel line).1.isEmpty
  · rw [if_pos empty, if_pos empty]
    exact Needs.ok emission
  · rw [if_neg empty, if_neg empty]
    unfold emitStatement
    generalize splitOperation (splitLabel line).1 = parts
    rcases parts with ⟨operation, operandText⟩
    dsimp only
    split_ifs with org data
    · simp only [bind_pure_comp]
      exact ((guards_checked 0 (programWords - 1) _).map _).requires .assemble operandText
    · have reports := operandList_reports operandText line
      cases listed : operandList operandText line with
      | error raised => exact requires_refused (isAssemblyError_of_reports reports listed)
      | ok expressions =>
          dsimp only
          unfold dataNeeds
          rw [ok_bind, List.map_eq_flatMap]
          apply (Needs.mapM expressions.zipIdx fun item _ => requires_evaluate _ item.1).bind
          intro values evaluated
          exact requires_emitValues expressions 0 rfl evaluated
    · apply (requires_encode operation operandText).bind
      intro word _
      refine (requires_emit word).bind ?_
      intro first emitted
      have places := (emit_yields emission word line).ok emitted
      apply (requires_evaluate .assemble operandText).bind
      intro target _
      have next : first.location = emission.location + 1 := places.location
      rw [← next]
      apply (requires_emit target).congr
      rw [List.forall_mem_singleton]
      exact places.met_room (Nat.le_refl _)
    · apply (requires_encode operation operandText).bind
      intro word _
      rw [bind_pure]
      exact requires_emit word

/-- A line lets an exception out of the first pass: its origin does. -/
def SurveyEscapes (survey : Survey) (line : SourceLine) : Prop :=
  ∃ symbols operandText, Labels survey line symbols ∧
    line.operation? = some (".ORG".toList, operandText) ∧
      (Need.value .assemble operandText survey.location (Within 0 (programWords - 1))).Escapes
        symbols

theorem nextLocation_escapes (symbols : List (Text × ℕ)) (location : ℕ) (statement : Text)
    (line : SourceLine) :
    Escapes (nextLocation symbols location statement line) ↔
      (splitOperation statement).1 = ".ORG".toList ∧
        (Need.value .assemble (splitOperation statement).2 location
          (Within 0 (programWords - 1))).Escapes symbols := by
  unfold nextLocation
  generalize splitOperation statement = parts
  rcases parts with ⟨operation, operandText⟩
  dsimp only
  split_ifs with org data
  · have needs : Requires symbols []
        [.value .assemble operandText location (Within 0 (programWords - 1))]
        (evaluate .assemble operandText symbols location line >>= fun value =>
          checkedAddress value line) :=
      requires_checked .assemble operandText 0 (programWords - 1) _
    exact needs.fails.trans (by simp [BreaksAt, org])
  · refine iff_of_false ?_ fun directive => org directive.1
    unfold Escapes
    rw [fails_bind]
    rintro (fails | ⟨operands, -, fails⟩)
    · exact operandList_reports operandText line fails
    · exact checkedLocation_reports _ line fails
  · refine iff_of_false ?_ fun directive => org directive.1
    unfold Escapes
    rw [fails_bind]
    rintro (fails | ⟨entry, -, fails⟩)
    · exact validateInstructionShape_reports operation operandText line fails
    · exact checkedLocation_reports _ line fails

theorem Labels.unique {survey : Survey} {first second : List (Text × ℕ)}
    (one : Labels survey line first) (two : Labels survey line second) : first = second := by
  cases one with
  | none plain =>
      cases two with
      | none => rfl
      | label defines => cases defines.symm.trans plain
  | label defines =>
      cases two with
      | none plain => cases defines.symm.trans plain
      | label defines' =>
          cases defines.symm.trans defines'
          rfl

theorem surveyLine_escapes (survey : Survey) (line : SourceLine) :
    Escapes (surveyLine survey line) ↔ SurveyEscapes survey line := by
  have goesOn {symbols : List (Text × ℕ)} (labels : Labels survey line symbols) :
      Escapes (if (splitLabel line).1.isEmpty then (return ⟨symbols, survey.location⟩)
          else (return ⟨symbols,
            ← nextLocation symbols survey.location (splitLabel line).1 line⟩ :
            Except Failure Survey)) ↔ SurveyEscapes survey line := by
    unfold SurveyEscapes SourceLine.operation?
    by_cases empty : (splitLabel line).1.isEmpty
    · rw [if_pos empty, if_pos empty]
      refine iff_of_false id ?_
      rintro ⟨_, _, _, same, -⟩
      cases same
    · rw [if_neg empty, if_neg empty, bind_pure_comp]
      refine (fails_map.trans (nextLocation_escapes symbols _ _ line)).trans ?_
      constructor
      · rintro ⟨directive, escapes⟩
        exact ⟨symbols, _, labels, congrArg some (Prod.ext directive rfl), escapes⟩
      · rintro ⟨symbols', operandText, labels', same, escapes⟩
        cases labels.unique labels'
        rw [Option.some.injEq] at same
        rw [same]
        exact ⟨rfl, escapes⟩
  unfold surveyLine
  dsimp only
  cases defines : (splitLabel line).2 with
  | none => exact goesOn (Labels.none defines)
  | some name =>
      dsimp only
      cases fresh : survey.symbols.lookup name with
      | none => exact goesOn (Labels.label defines fresh)
      | some old =>
          refine iff_of_false (not_not_intro (line.error_isAssemblyError _)) ?_
          rintro ⟨symbols, operandText, labels, -⟩
          cases labels with
          | none plain => cases defines.symm.trans plain
          | label defines' fresh' =>
              cases defines.symm.trans defines'
              cases fresh.symm.trans fresh'

end Passes

end Tms32010.Tools
