import Tms32010.Laws.TwoPass
import Tms32010.Model.Load
import Tms32010.Model.Run
import Tms32010.Tools.Meaning
import Tms32010.Tools.Reassembly

/-!
# Assembled programs run as written

An assembled text always gives an image that loads. Wherever the reference model then
stands at the location of an instruction, its trace reports the mnemonic and the operands
that the line says, as long as no `TBLW` stores over the assembled words.
-/

namespace Tms32010.Tools

open Checks (bind_eq_ok)
open Model (Operands StepTrace Tms32010Model embed trajectory Along)

/-! ## Images -/

/-- A program memory with the words of a result. -/
def Carried (result : AssemblyResult) (program : List ℕ) : Prop :=
  ∀ address word, result.words.lookup address = some word → program[address]? = some word.toNat

/-- The words of an image. -/
def imageWords (result : AssemblyResult) (fill : ℕ) : List ℕ :=
  (List.range result.addressRange).map fun address =>
    ((result.words.lookup address).getD fill).toNat

section Image

variable {lines : List SourceLine} {result : AssemblyResult} {fill : ℕ}

theorem mem_of_lookup {words : List (ℕ × ℤ)} {address : ℕ} {word : ℤ}
    (found : words.lookup address = some word) : (address, word) ∈ words := by
  rcases List.lookup_eq_some_iff.mp found with ⟨first, last, rfl, -⟩
  simp

theorem foldl_max_le {values : List ℕ} {start limit : ℕ} (below : start ≤ limit)
    (bound : ∀ value ∈ values, value ≤ limit) : values.foldl max start ≤ limit := by
  induction values generalizing start with
  | nil => exact below
  | cons value values ih =>
      rw [List.forall_mem_cons] at bound
      exact ih (max_le below bound.1) bound.2

theorem le_foldl_max {values : List ℕ} (start : ℕ) :
    start ≤ values.foldl max start ∧ ∀ value ∈ values, value ≤ values.foldl max start := by
  induction values generalizing start with
  | nil => exact ⟨Nat.le_refl start, List.forall_mem_nil _⟩
  | cons value values ih =>
      rcases ih (max start value) with ⟨first, rest⟩
      rw [List.forall_mem_cons]
      exact ⟨(le_max_left _ _).trans first, (le_max_right _ _).trans first, rest⟩

theorem lookup_lt {address : ℕ} {word : ℤ} (found : result.words.lookup address = some word) :
    address < result.addressRange := by
  have among := List.mem_map_of_mem (f := (·.1 + 1)) (mem_of_lookup found)
  exact (le_foldl_max 0).2 _ among

/-- The loaded image carries the words of the result. -/
theorem carried_load (rest : List ℕ) : Carried result (imageWords result fill ++ rest) := by
  intro address word found
  have inside := lookup_lt found
  have short : address < (imageWords result fill).length := by simpa [imageWords] using inside
  rw [List.getElem?_append_left short]
  simp [imageWords, inside, found]

variable [Interpreter]

theorem Agreement.addressRange_le (agreement : Agreement lines result) :
    result.addressRange ≤ programWords := by
  refine foldl_max_le (Nat.zero_le _) fun value among => ?_
  rcases List.mem_map.mp among with ⟨word, here, rfl⟩
  exact (agreement.range word here).1

/-- The image of a result is always written. -/
theorem Agreement.rawBytes (agreement : Agreement lines result) (small : fill ≤ 0xFFFF)
    (byteorder : ByteOrder) :
    result.rawBytes byteorder fill =
      .ok ((imageWords result fill).flatMap byteorder.bytes) ∧
        ∀ word ∈ imageWords result fill, word ≤ 0xFFFF := by
  have range (address : ℕ) : 0 ≤ (result.words.lookup address).getD (fill : ℤ) ∧
      (result.words.lookup address).getD (fill : ℤ) ≤ 0xFFFF := by
    cases found : result.words.lookup address with
    | none =>
        change (0 : ℤ) ≤ fill ∧ (fill : ℤ) ≤ 0xFFFF
        omega
    | some word => exact (agreement.range _ (mem_of_lookup found)).2
  constructor
  · have bytes : ∀ address ∈ List.range result.addressRange,
        toBytes byteorder ((result.words.lookup address).getD fill) =
          .ok (byteorder.bytes ((result.words.lookup address).getD (fill : ℤ)).toNat) := by
      intro address _
      unfold toBytes
      rw [if_pos (range address)]
    have mapped : (List.range result.addressRange).mapM (fun address =>
        toBytes byteorder ((result.words.lookup address).getD fill)) =
          .ok ((List.range result.addressRange).map fun address =>
            byteorder.bytes ((result.words.lookup address).getD (fill : ℤ)).toNat) := by
      generalize List.range result.addressRange = addresses at bytes
      induction addresses with
      | nil => rfl
      | cons address addresses ih =>
          rw [List.forall_mem_cons] at bytes
          rw [List.mapM_cons, bytes.1, ih bytes.2]
          rfl
    unfold AssemblyResult.rawBytes
    rw [if_pos small, mapped]
    unfold imageWords
    rw [List.flatMap_def, List.map_map]
    rfl
  · intro word among
    rcases List.mem_map.mp among with ⟨address, -, rfl⟩
    have bounds := range address
    omega

end Image

/-! ## Statements -/

section Statements

variable [Interpreter]

/-- A line at a location says an instruction. -/
def Stated (lines : List SourceLine) (result : AssemblyResult) (location : ℕ)
    (said : Mnemonic × Operands) : Prop :=
  ∃ n line m operandText operands, lines[n]? = some line ∧
    emissionLocation? result.symbols lines n = some location ∧
    line.operation? = some (mnemonicText m, operandText) ∧
    instructionOperands operandText line = .ok operands ∧
    reading result.symbols location line m operandText operands = .ok said

variable {lines : List SourceLine} {result : AssemblyResult} {line : SourceLine} {location n : ℕ}
  {said : Mnemonic × Operands} {operation operandText : Text}

/-- Every line with an operation that is no directive says an instruction. -/
theorem Agreement.stated (agreement : Agreement lines result) (element : lines[n]? = some line)
    (instruction : line.operation? = some (operation, operandText))
    (plain : operation ≠ ".ORG".toList ∧ operation ≠ ".WORD".toList) :
    ∃ location said, emissionLocation? result.symbols lines n = some location ∧
      Stated lines result location said := by
  have inside : n < lines.length := (List.getElem?_eq_some_iff.mp element).1
  rcases agreement.passes n (Nat.le_of_lt inside) with ⟨location, -, here⟩
  rcases agreement.contents n line location element here with ⟨values, line_values, -, -⟩
  have encodes : ∃ word, encode result.symbols location line operation operandText = .ok word := by
    cases line_values with
    | empty none => cases none.symm.trans instruction
    | org directive =>
        rw [instruction, Option.some.injEq, Prod.mk.injEq] at directive
        exact absurd directive.1 plain.1
    | word directive =>
        rw [instruction, Option.some.injEq, Prod.mk.injEq] at directive
        exact absurd directive.1 plain.2
    | one same _ encoded | two same _ encoded =>
        rw [instruction, Option.some.injEq, Prod.mk.injEq] at same
        rw [← same.1, ← same.2] at encoded
        exact ⟨_, encoded⟩
  rcases encodes with ⟨word, encoded⟩
  rcases encode_mnemonic encoded with ⟨m, rfl⟩
  rcases encode_reading encoded with ⟨operands, said, listed, read, -⟩
  exact ⟨location, said, here, n, line, m, operandText, operands, element, here, instruction,
    listed, read⟩

/-- A branch says its address. -/
theorem reading_branch {m : Mnemonic} {symbols : List (Text × ℕ)} {operands : List Text}
    (control : m.twoWordControlFlow = true)
    (read : reading symbols location line m operandText operands = .ok said) :
    ∃ value, evaluate .encode operandText symbols location line = .ok value ∧
      said = (m, { programAddress := some value.toNat }) := by
  have meaning : reading symbols location line m operandText operands = (do
      let value ← evaluate .encode operandText symbols location line
      return (m, { programAddress := some value.toNat })) := by
    cases m <;> first | rfl | exact absurd control (by decide)
  rw [meaning, bind_eq_ok] at read
  rcases read with ⟨value, evaluated, same⟩
  cases same
  exact ⟨value, evaluated, rfl⟩

/-- Only `MAR` says another instruction. -/
theorem reading_mnemonic {m : Mnemonic} {symbols : List (Text × ℕ)} {operands : List Text}
    (read : reading symbols location line m operandText operands = .ok said) :
    said.1 = m ∨ m = .mar ∧ said.1 = .larp := by
  cases m with
  | nop | zac | rovm | sovm | dint | eint | pac | apac | spac | cala | ret | pop | push | abs =>
      cases read
      exact Or.inl rfl
  | lack | ldpk | mpyk | larp | b | banz | bgez | bgz | bioz | blez | blz | bnz | bv | bz | call
  | sacl | addh | adds | and | dmov | ldp | lst | lt | lta | ltd | mpy | or | sst | subc | subh
  | subs | tblr | tblw | xor | zalh | zals =>
      rcases bind_eq_ok.mp read with ⟨_, -, same⟩
      cases same
      exact Or.inl rfl
  | add | lac | sub | sach =>
      rcases bind_eq_ok.mp read with ⟨_, -, rest⟩
      rcases bind_eq_ok.mp rest with ⟨_, -, same⟩
      cases same
      exact Or.inl rfl
  | «in» | out | lar | sar =>
      rcases bind_eq_ok.mp read with ⟨_, -, rest⟩
      rcases bind_eq_ok.mp rest with ⟨_, -, rest⟩
      rcases bind_eq_ok.mp rest with ⟨_, -, same⟩
      cases same
      exact Or.inl rfl
  | lark =>
      rcases bind_eq_ok.mp read with ⟨_, -, rest⟩
      rcases bind_eq_ok.mp rest with ⟨_, -, rest⟩
      rcases bind_eq_ok.mp rest with ⟨_, -, rest⟩
      rcases bind_eq_ok.mp rest with ⟨_, -, same⟩
      cases same
      exact Or.inl rfl
  | mar =>
      rcases bind_eq_ok.mp read with ⟨data, -, same⟩
      split at same
      · cases same
        exact Or.inr ⟨rfl, rfl⟩
      · cases same
        exact Or.inl rfl

/-- The words of a statement. -/
structure Holds (result : AssemblyResult) (location : ℕ) (said : Mnemonic × Operands)
    (word : ℕ) : Prop where
  first : result.words.lookup location = some (word : ℤ)
  decodes : Decodes (BitVec.ofNat 16 word) said
  second : said.1.twoWordControlFlow = true → ∃ target : ℕ, target < 4096 ∧
    result.words.lookup (location + 1) = some (target : ℤ) ∧
      said.2 = { programAddress := some target }

theorem Stated.holds (stated : Stated lines result location said)
    (agreement : Agreement lines result) : ∃ word, Holds result location said word := by
  rcases stated with ⟨n, line, m, operandText, operands, element, here, instruction, listed, read⟩
  rcases agreement.contents n line location element here with ⟨values, line_values, -, placed⟩
  have plain := mnemonicText_directive m
  cases line_values with
  | empty none => cases none.symm.trans instruction
  | org directive =>
      rw [instruction, Option.some.injEq, Prod.mk.injEq] at directive
      exact absurd directive.1 plain.1
  | word directive =>
      rw [instruction, Option.some.injEq, Prod.mk.injEq] at directive
      exact absurd directive.1 plain.2
  | @one operation text word same single encoded =>
      rw [instruction, Option.some.injEq, Prod.mk.injEq] at same
      rcases same with ⟨rfl, rfl⟩
      rcases encode_reading encoded with ⟨operands', said', listed', read', decodes⟩
      cases listed.symm.trans listed'
      cases read.symm.trans read'
      refine ⟨word, placed 0 word rfl, decodes, fun control => ?_⟩
      rw [mem_twoWordOperations] at single
      rcases reading_mnemonic read with same | ⟨-, other⟩
      · exact absurd (same ▸ control) single
      · rw [other] at control
        cases control
  | @two operation text word target same double encoded evaluated =>
      rw [instruction, Option.some.injEq, Prod.mk.injEq] at same
      rcases same with ⟨rfl, rfl⟩
      rcases encode_reading encoded with ⟨operands', said', listed', read', decodes⟩
      cases listed.symm.trans listed'
      cases read.symm.trans read'
      have bounds := encode_target double encoded evaluated
      have limit : (programWords : ℤ) = 4096 := rfl
      refine ⟨word, placed 0 word rfl, decodes, fun _ => ⟨target.toNat, by omega, ?_, ?_⟩⟩
      · have second := placed 1 target rfl
        rwa [Int.toNat_of_nonneg bounds.1]
      · rcases reading_branch ((mem_twoWordOperations m).mp double) read with
          ⟨value, evaluated', rfl⟩
        cases evaluate_unique evaluated evaluated'
        rfl

end Statements

/-! ## Runs -/

/-- A call does not store over the words of a result. -/
def Spares (result : AssemblyResult) (before : Tms32010Model) (call : StepTrace × Tms32010Model) :
    Prop :=
  call.1.mnemonic = .instruction .tblw →
    result.words.lookup (before.state.acc % programWords) = none

instance (result : AssemblyResult) (before : Tms32010Model) (call : StepTrace × Tms32010Model) :
    Decidable (Spares result before call) :=
  inferInstanceAs (Decidable (_ → _))

/-- A call that reports an instruction at a location, or raises because it has no data
word. -/
structure Reported (location : ℕ) (said : Mnemonic × Operands)
    (called : EStateM.Result Model.Error Tms32010Model StepTrace) : Prop where
  trace : ∀ trace self, called = .ok trace self →
    trace.pc = location ∧ trace.mnemonic = .instruction said.1 ∧ said.2.Within trace.operands
  error : ∀ error self, called = .error error self →
    ∃ opcode address, error = .unsupportedDataAddress location opcode address

section Runs

variable {lines : List SourceLine} {result : AssemblyResult} {location : ℕ}
  {said : Mnemonic × Operands} {i : Isa.Input} {s : Isa.State} {word : ℕ}

theorem Carried.program (carried : Carried result (embed i s).program) {value : ℤ}
    {address : BitVec 12} (found : result.words.lookup address.toNat = some value) :
    (s.program address).toNat = value.toNat := by
  have held := carried address.toNat value found
  rwa [Model.embed_program, Option.some_inj] at held

/-- A call at the location of a statement. -/
theorem Holds.reported (holds : Holds result location said word)
    (carried : Carried result (embed i s).program) (pc : s.pc.toNat = location)
    (entry : s.interruptEntryPending = false) : Reported location said (Model.step (embed i s)) := by
  subst pc
  have stored : s.program s.pc = BitVec.ofNat 16 word := by
    apply BitVec.eq_of_toNat_eq
    have same := carried.program holds.first
    have small := (s.program s.pc).isLt
    rw [Int.toNat_natCast] at same
    rw [BitVec.toNat_ofNat, same, Nat.mod_eq_of_lt (same ▸ small)]
  have found : mnemonic? (s.program s.pc) = some said.1 := by
    rw [stored]
    exact holds.decodes.1
  have branches : said.1.twoWordControlFlow = true → ∃ target : ℕ, target < 4096 ∧
      (s.program (s.pc + 1)).toNat = target ∧ said.2 = { programAddress := some target } := by
    intro control
    rcases holds.second control with ⟨target, small, second, same⟩
    refine ⟨target, small, ?_, same⟩
    have inside : s.pc.toNat + 1 < 4096 := by
      have held := carried _ _ second
      have length : (embed i s).program.length = 4096 := (Model.embed_wellFormed i s).programLength
      rw [List.getElem?_eq_some_iff] at held
      rcases held with ⟨bound, -⟩
      omega
    have next : (s.pc + 1).toNat = s.pc.toNat + 1 := by
      rw [BitVec.toNat_add]
      exact Nat.mod_eq_of_lt inside
    rw [← next] at second
    have read := carried.program second
    rwa [Int.toNat_natCast] at read
  constructor
  · intro trace self called
    rcases Model.step_reports entry found called with ⟨reports, target⟩
    refine ⟨reports.pc, reports.mnemonic, ?_⟩
    cases control : said.1.twoWordControlFlow with
    | false =>
        rw [← holds.decodes.2 control, ← stored]
        exact reports.operands
    | true =>
        rcases branches control with ⟨address, small, second, same⟩
        have low : ((s.program (s.pc + 1)).extractLsb' 0 12).toNat = address := by
          rw [BitVec.extractLsb'_toNat, second, Nat.shiftRight_zero]
          exact Nat.mod_eq_of_lt small
        have reported := target control
        rw [low] at reported
        rw [same]
        constructor <;> simp [reported]
  · intro error self called
    have supported : said.1.twoWordControlFlow = true →
        (s.program (s.pc + 1)).extractLsb' 12 4 = 0 := by
      intro control
      rcases branches control with ⟨target, small, second, -⟩
      apply BitVec.eq_of_toNat_eq
      rw [BitVec.extractLsb'_toNat, second, Nat.shiftRight_eq_div_pow, Nat.div_eq_of_lt small]
      rfl
    have matched := Model.step_embed i s
    cases made : Isa.step i s with
    | ok outcome =>
        rw [made, called] at matched
        rcases matched with ⟨trace, same, -⟩
        cases same
    | error fault =>
        rcases Isa.step_dataFault entry found supported made with ⟨address, rfl⟩
        rw [made, called] at matched
        cases matched
        exact ⟨_, _, rfl⟩

/-- A call that spares the words keeps them. -/
theorem Carried.call {outcome : Isa.Outcome} {call : StepTrace × Tms32010Model}
    (carried : Carried result (embed i s).program) (made : Isa.step i s = .ok outcome)
    (matched : Model.CallMatches (i, outcome) call) (spares : Spares result (embed i s) call) :
    Carried result (embed i outcome.state).program := by
  intro address word found
  have inside : address < 4096 := by
    have length : (embed i s).program.length = 4096 := (Model.embed_wellFormed i s).programLength
    rw [← length]
    exact (List.getElem?_eq_some_iff.mp (carried address word found)).1
  have place : (BitVec.ofNat 12 address).toNat = address := by
    rw [BitVec.toNat_ofNat]
    exact Nat.mod_eq_of_lt inside
  have kept : outcome.state.program (BitVec.ofNat 12 address) =
      s.program (BitVec.ofNat 12 address) := by
    refine Isa.step_program made _ fun stores same => ?_
    have label : call.1.mnemonic = .instruction .tblw := by
      rw [matched.mnemonic, stores]
      rfl
    have free := spares label
    have target : (embed i s).state.acc % programWords = address := by
      have low := congrArg BitVec.toNat same
      rw [BitVec.extractLsb'_toNat, place, Nat.shiftRight_zero] at low
      exact low
    rw [target, found] at free
    cases free
  have held := carried address word found
  rw [← place, Model.embed_program] at held ⊢
  rw [kept]
  exact held

/-- Every model of a run carries the words. -/
theorem Carried.trajectory {pins : List Isa.Input} {calls : List (StepTrace × Tms32010Model)}
    (carried : Carried result (embed i s).program)
    (ran : Model.trajectory (embed i s) pins = .ok calls)
    (spares : Along (Spares result) (embed i s) pins calls) :
    ∀ reached ∈ embed i s :: calls.map Prod.snd,
      ∃ j t, reached = embed j t ∧ Carried result (embed j t).program := by
  induction pins generalizing i s calls with
  | nil =>
      cases ran
      intro reached among
      rw [List.map_nil, List.mem_singleton] at among
      exact ⟨i, s, among, carried⟩
  | cons input pins ih =>
      have first := ran
      unfold Model.trajectory at first
      rw [Model.drive_embed] at first
      cases called : Model.step (embed input s) with
      | error fault self =>
          rw [called] at first
          cases first
      | ok trace self =>
          rcases Model.matches_of_step called with ⟨outcome, made, -⟩
          rcases Model.trajectory_cons made ran with ⟨trace', tail, rfl, -, matched, rest⟩
          rcases spares with ⟨spared, later⟩
          rw [Model.drive_embed] at spared
          have driven : Carried result (embed input s).program := carried
          intro reached among
          rcases List.mem_cons.mp among with rfl | among
          · exact ⟨i, s, rfl, carried⟩
          · exact ih (driven.call made matched spared) rest later reached among

variable [Interpreter]

/-- Every call of a run that spares the words reports what is said at its location. -/
theorem Agreement.reported (agreement : Agreement lines result) {loaded : Tms32010Model}
    (wellFormed : loaded.WellFormed) (carried : Carried result loaded.program)
    {pins : List Isa.Input} {calls : List (StepTrace × Tms32010Model)}
    (ran : Model.trajectory loaded pins = .ok calls)
    (spares : Along (Spares result) loaded pins calls) :
    ∀ reached ∈ loaded :: calls.map Prod.snd, reached.interruptEntryPending = false →
      ∀ said, Stated lines result reached.state.pc said →
        ∀ inputs, Reported reached.state.pc said (Model.step (reached.drive inputs)) := by
  intro reached among entry said stated inputs
  rcases stated.holds agreement with ⟨word, holds⟩
  rcases wellFormed.exists_embed with ⟨i, s, rfl⟩
  rcases carried.trajectory ran spares reached among with ⟨j, t, rfl, here⟩
  have driven : Carried result (embed inputs t).program := here
  have pending : t.interruptEntryPending = false := entry
  rw [Model.drive_embed]
  exact holds.reported driven rfl pending

/-- A call that starts at a statement executes it. -/
def AsWritten (lines : List SourceLine) (result : AssemblyResult) (before : Tms32010Model)
    (call : StepTrace × Tms32010Model) : Prop :=
  before.interruptEntryPending = false → ∀ said, Stated lines result before.state.pc said →
    call.1.pc = before.state.pc ∧ call.1.mnemonic = .instruction said.1 ∧
      said.2.Within call.1.operands

/-- A run that spares the words executes the statements. -/
theorem Agreement.along (agreement : Agreement lines result) {loaded : Tms32010Model}
    (wellFormed : loaded.WellFormed) (carried : Carried result loaded.program)
    {pins : List Isa.Input} {calls : List (StepTrace × Tms32010Model)}
    (ran : Model.trajectory loaded pins = .ok calls)
    (spares : Along (Spares result) loaded pins calls) :
    Along (AsWritten lines result) loaded pins calls := by
  apply Model.along_of_reached ran
  intro reached among inputs trace next called entry said stated
  have reported := agreement.reported wellFormed carried ran spares reached among entry said stated
  exact (reported inputs).trace trace next called

end Runs

/-! ## Whole texts -/

/-- An assembled text gives an image that loads, and every call at the location of an
instruction reports that instruction, after any number of calls that do not store over the
assembled words. -/
theorem assembled_runs_as_written [Interpreter]
    (expandFile : Text → Except Failure (List SourceLine)) (sourceName text : Text)
    {result : AssemblyResult}
    (assembled : assembleText expandFile sourceName text = .ok result) :
    ∃ lines, expandText expandFile sourceName text = .ok lines ∧
      (∀ n line operation operandText, lines[n]? = some line →
        line.operation? = some (operation, operandText) →
        operation ≠ ".ORG".toList ∧ operation ≠ ".WORD".toList →
        ∃ location said, emissionLocation? result.symbols lines n = some location ∧
          Stated lines result location said) ∧
      ∀ (byteorder : ByteOrder) (fill : ℕ) (self : Tms32010Model), fill ≤ 0xFFFF →
        self.WellFormed →
        ∃ content loaded, result.rawBytes byteorder fill = .ok content ∧
          (Model.loadBinary content byteorder).run self = .ok () loaded ∧
          ∀ pins calls, trajectory loaded pins = .ok calls →
            Along (Spares result) loaded pins calls →
            ∀ reached ∈ loaded :: calls.map Prod.snd, reached.interruptEntryPending = false →
              ∀ said, Stated lines result reached.state.pc said →
                ∀ inputs, Reported reached.state.pc said (Model.step (reached.drive inputs)) := by
  rcases assembleText_agrees assembled with ⟨lines, expanded, agreement⟩
  refine ⟨lines, expanded, fun n line operation operandText element instruction plain =>
    agreement.stated element instruction plain, ?_⟩
  intro byteorder fill self small wellFormed
  rcases agreement.rawBytes small byteorder with ⟨written, range⟩
  have room : (imageWords result fill).length ≤ Model.programWords := by
    simpa [imageWords] using agreement.addressRange_le
  refine ⟨_, _, written,
    Model.loadBinary_run range room wellFormed.programLength byteorder, ?_⟩
  intro pins calls ran spares
  exact agreement.reported (wellFormed.loaded range room) (carried_load _) ran spares

/-- A table store outside the program, and a loop after it. -/
def storeText : Text := "LACK 5\nTBLW 0\nLOOP: B LOOP".toList

def storeLines : List SourceLine :=
  [⟨[], 1, "LACK 5".toList⟩, ⟨[], 2, "TBLW 0".toList⟩, ⟨[], 3, "LOOP: B LOOP".toList⟩]

def storeResult : AssemblyResult where
  words := [(0, 0x7E05), (1, 0x7D00), (2, 0xF900), (3, 2)]
  listing := [⟨0, 0x7E05, ⟨[], 1, "LACK 5".toList⟩⟩, ⟨1, 0x7D00, ⟨[], 2, "TBLW 0".toList⟩⟩,
    ⟨2, 0xF900, ⟨[], 3, "LOOP: B LOOP".toList⟩⟩, ⟨3, 2, ⟨[], 3, "LOOP: B LOOP".toList⟩⟩]
  symbols := [("LOOP".toList, 2)]

def storePins : List Isa.Input := List.replicate 2 ⟨true, true, fun _ => 0⟩

def storeLoaded : Tms32010Model where
  program := [0x7E05, 0x7D00, 0xF900, 2] ++ (List.replicate Model.programWords 0).drop 4

set_option maxRecDepth 8000 in
theorem storeRun :
    ∃ calls, trajectory storeLoaded storePins = .ok calls ∧
      Along (Spares storeResult) storeLoaded storePins calls ∧
      ∃ reached ∈ calls.map Prod.snd,
        reached.state.pc = 2 ∧ reached.interruptEntryPending = false :=
  ⟨(trajectory storeLoaded storePins).toOption.getD [], by decide +kernel, by decide +kernel,
    by decide +kernel⟩

theorem assembled_runs_as_written_store :
    ∃ loaded calls reached, trajectory loaded storePins = .ok calls ∧
      reached ∈ calls.map Prod.snd ∧
      ∀ inputs, Reported 2 (.b, { programAddress := some 2 }) (Model.step (reached.drive inputs)) := by
  have assembled : @assembleText .plain (fun _ => .error .keyError) [] storeText =
      .ok storeResult := by
    decide +kernel
  rcases @assembled_runs_as_written .plain _ [] storeText storeResult assembled with
    ⟨lines, expanded, -, runs⟩
  have expected : @expandText .plain (fun _ => .error .keyError) [] storeText = .ok storeLines := by
    decide +kernel
  cases expected.symm.trans expanded
  rcases runs .little 0 {} (by decide) Model.constructed_wellFormed with
    ⟨content, loaded, written, load, reports⟩
  have bytes : storeResult.rawBytes .little 0 = .ok [5, 0x7E, 0, 0x7D, 0, 0xF9, 2, 0] := by
    decide +kernel
  cases bytes.symm.trans written
  have image : (Model.loadBinary [5, 0x7E, 0, 0x7D, 0, 0xF9, 2, 0] .little).run {} =
      .ok () storeLoaded :=
    @Model.loadBinary_run [0x7E05, 0x7D00, 0xF900, 2] {} (by decide) (by decide)
      List.length_replicate .little
  cases load.symm.trans image
  rcases storeRun with ⟨calls, ran, spares, reached, among, pc, entry⟩
  have stated : @Stated .plain storeLines storeResult 2 (.b, { programAddress := some 2 }) :=
    ⟨2, ⟨[], 3, "LOOP: B LOOP".toList⟩, .b, "LOOP".toList, ["LOOP".toList], rfl,
      by decide +kernel, by decide +kernel, by decide +kernel, by decide +kernel⟩
  refine ⟨storeLoaded, calls, reached, ran, among, fun inputs => ?_⟩
  have reported := reports storePins calls ran spares reached (List.mem_cons_of_mem _ among)
    entry (.b, { programAddress := some 2 })
  rw [pc] at reported
  exact reported stated inputs

end Tms32010.Tools
