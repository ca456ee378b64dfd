import Tms32010.Model.Load
import Tms32010.Tools.Instructions

/-!
# The toolchain round trip

The rows the disassembler writes for an image cover its words in order, the two passes of the
assembler place them at consecutive locations, and the bytes of the result are those of the
image, which the reference model loads unchanged.
-/

namespace Tms32010.Tools

open Checks

/-! ## The disassembled rows -/

/-- Rows with the words they stand for. -/
abbrev Rows := List (Row × List ℕ)

/-- The source the disassembler writes for an image. -/
theorem disassembleRows_cover [Interpreter] (words : List ℕ)
    (range : ∀ word ∈ words, word ≤ 0xFFFF) :
    ∃ rows : Rows, disassembleRows words = .ok (rows.map (·.1.text)) ∧
      (rows.map (·.2)).flatten = words ∧ ∀ pair ∈ rows, pair.1.Restores pair.2 := by
  induction words using disassembleRows.induct with
  | case1 => exact ⟨[], rfl, rfl, by simp⟩
  | case2 word =>
      rcases word_row (range word (by simp)) with ⟨row, printed, restores⟩
      refine ⟨[(row, [word])], ?_, rfl, by simpa using restores⟩
      rw [disassembleRows, printed]
      rfl
  | case3 word target rest ihPair ihRest =>
      have wordRange := range word (by simp)
      have targetRange := range target (by simp)
      have restRange : ∀ other ∈ rest, other ≤ 0xFFFF := fun other among =>
        range other (by simp [among])
      rw [disassembleRows]
      rcases pair_row wordRange targetRange with single | ⟨row, printed, restores⟩
      · rcases ihRest fun other among => range other (List.mem_cons_of_mem word among) with
          ⟨rows, later, cover, all⟩
        rcases word_row wordRange with ⟨row, printed, restores⟩
        refine ⟨(row, [word]) :: rows, ?_, by simp [cover], ?_⟩
        · rw [single, ok_bind]
          dsimp only
          rw [printed, ok_bind, later, ok_bind]
          rfl
        · rintro pair (_ | ⟨_, among⟩)
          · exact restores
          · exact all pair among
      · rcases ihPair restRange with ⟨rows, later, cover, all⟩
        refine ⟨(row, [word, target]) :: rows, ?_, by simp [cover], ?_⟩
        · rw [printed, ok_bind]
          dsimp only
          rw [later, ok_bind]
          rfl
        · rintro pair (_ | ⟨_, among⟩)
          · exact restores
          · exact all pair among

/-! ## The two passes -/

/-- Lines that carry the texts of rows. -/
abbrev Carries (lines : List SourceLine) (rows : Rows) : Prop :=
  List.Forall₂ (fun line pair => line.text = pair.1.text) lines rows

/-- The words of rows. -/
def Rows.words (rows : Rows) : List ℕ := (rows.map (·.2)).flatten

theorem Rows.words_cons (pair : Row × List ℕ) (rows : Rows) :
    Rows.words (pair :: rows) = pair.2 ++ Rows.words rows := rfl

theorem surveyLine_row [Interpreter] {row : Row} {words : List ℕ} (restores : row.Restores words)
    {line : SourceLine} (same : line.text = row.text) (survey : Survey)
    (room : survey.location + words.length ≤ programWords) :
    surveyLine survey line = .ok ⟨survey.symbols, survey.location + words.length⟩ := by
  have nonempty : row.text.isEmpty = false := by simpa using row.text_ne_nil
  unfold surveyLine
  rw [row.splitLabel_text same]
  dsimp only
  rw [nonempty]
  change (nextLocation survey.symbols survey.location row.text line >>= fun location =>
    Except.ok (Survey.mk survey.symbols location)) = _
  rw [restores.survey _ _ _ room]
  rfl

/-- The first pass advances over every word. -/
theorem survey_rows [Interpreter] {lines : List SourceLine} {rows : Rows}
    (carries : Carries lines rows) (all : ∀ pair ∈ rows, pair.1.Restores pair.2) (survey : Survey)
    (room : survey.location + rows.words.length ≤ programWords) :
    lines.foldlM surveyLine survey =
      .ok ⟨survey.symbols, survey.location + rows.words.length⟩ := by
  induction carries generalizing survey with
  | nil => rfl
  | @cons line pair lines rows same _ ih =>
      rw [Rows.words_cons, List.length_append] at room ⊢
      have here := surveyLine_row (all pair List.mem_cons_self) same survey (by omega)
      have later := ih (fun other among => all other (List.mem_cons_of_mem pair among))
        ⟨survey.symbols, survey.location + pair.2.length⟩ (by dsimp only; omega)
      rw [List.foldlM_cons, here, ok_bind, later]
      dsimp only
      rw [Nat.add_assoc]

theorem placed_append (location : ℕ) (first second : List ℕ) :
    placed location (first ++ second) =
      placed location first ++ placed (location + first.length) second := by
  unfold placed
  rw [List.zipIdx_append, List.map_append]

theorem placed_bound {location : ℕ} {words : List ℕ} :
    ∀ pair ∈ placed location words, pair.1 < location + words.length := by
  intro pair among
  rcases List.mem_map.mp among with ⟨⟨word, position⟩, inside, rfl⟩
  exact List.snd_lt_add_of_mem_zipIdx inside

theorem emitLine_row [Interpreter] {row : Row} {words : List ℕ} (restores : row.Restores words)
    {line : SourceLine} (same : line.text = row.text) (symbols : List (Text × ℕ))
    (emission : Emission) (room : emission.location + words.length ≤ programWords)
    (earlier : ∀ pair ∈ emission.words, pair.1 < emission.location) :
    ∃ listing, emitLine symbols emission line =
      .ok ⟨emission.words ++ placed emission.location words, listing,
        emission.location + words.length⟩ := by
  have nonempty : row.text.isEmpty = false := by simpa using row.text_ne_nil
  unfold emitLine
  rw [row.splitLabel_text same]
  dsimp only
  rw [nonempty]
  exact restores.emits symbols emission line room earlier

/-- The second pass places every word. -/
theorem emit_rows [Interpreter] {lines : List SourceLine} {rows : Rows}
    (carries : Carries lines rows) (all : ∀ pair ∈ rows, pair.1.Restores pair.2)
    (symbols : List (Text × ℕ))
    (emission : Emission) (room : emission.location + rows.words.length ≤ programWords)
    (earlier : ∀ pair ∈ emission.words, pair.1 < emission.location) :
    ∃ listing, lines.foldlM (emitLine symbols) emission =
      .ok ⟨emission.words ++ placed emission.location rows.words, listing,
        emission.location + rows.words.length⟩ := by
  induction carries generalizing emission with
  | nil =>
      refine ⟨emission.listing, ?_⟩
      rw [show emission.words ++ placed emission.location (Rows.words []) = emission.words from
        List.append_nil _]
      rfl
  | @cons line pair lines rows same _ ih =>
      rw [Rows.words_cons, List.length_append] at room ⊢
      rcases emitLine_row (all pair List.mem_cons_self) same symbols emission (by omega) earlier
        with ⟨listing, here⟩
      have still : ∀ entry ∈ emission.words ++ placed emission.location pair.2,
          entry.1 < emission.location + pair.2.length := by
        intro entry among
        rcases List.mem_append.mp among with old | new
        · exact Nat.lt_of_lt_of_le (earlier entry old) (Nat.le_add_right _ _)
        · exact placed_bound entry new
      rcases ih (fun other among => all other (List.mem_cons_of_mem pair among))
        ⟨_, listing, emission.location + pair.2.length⟩ (by dsimp only; omega) still with
        ⟨final, later⟩
      refine ⟨final, ?_⟩
      rw [List.foldlM_cons, here, ok_bind, later, placed_append, List.append_assoc,
        Nat.add_assoc]

/-! ## The image -/

theorem mapM_ok {α β : Type} {f : α → Except Failure β} {g : α → β} {xs : List α}
    (each : ∀ x ∈ xs, f x = .ok (g x)) : xs.mapM f = .ok (xs.map g) := by
  induction xs with
  | nil => rfl
  | cons x xs ih =>
      rw [List.mapM_cons, each x List.mem_cons_self, ok_bind,
        ih fun y among => each y (List.mem_cons_of_mem x among)]
      rfl

theorem placed_range (words : List ℕ) (location : ℕ) :
    ((placed location words).map (·.1 + 1)).foldl max location = location + words.length := by
  induction words generalizing location with
  | nil => rfl
  | cons word words ih =>
      have later := ih (location + 1)
      have above : max location (location + 1) = location + 1 := max_eq_right (Nat.le_succ _)
      rw [List.length_cons, Nat.add_comm words.length, ← Nat.add_assoc, ← later]
      change List.foldl max (max location (location + 1)) _ = _
      rw [above]
      rfl

theorem placed_lookup (words : List ℕ) (location k : ℕ) :
    (placed location words).lookup (location + k) = words[k]?.map fun word => (word : ℤ) := by
  induction words generalizing location k with
  | nil => rfl
  | cons word words ih =>
      change List.lookup (location + k) ((location, (word : ℤ)) :: placed (location + 1) words) = _
      rw [List.lookup_cons]
      cases k with
      | zero => simp
      | succ k =>
          have later : (location + (k + 1) == location) = false := by
            rw [beq_eq_false_iff_ne]
            omega
          rw [later, List.getElem?_cons_succ, ← ih (location + 1) k,
            show location + (k + 1) = location + 1 + k by omega]

theorem rawBytes_placed {result : AssemblyResult} {words : List ℕ}
    (same : result.words = placed 0 words) (range : ∀ word ∈ words, word ≤ 0xFFFF)
    (byteorder : ByteOrder) :
    result.rawBytes byteorder = .ok (words.flatMap byteorder.bytes) := by
  have size : result.addressRange = words.length := by
    unfold AssemblyResult.addressRange
    rw [same, placed_range, Nat.zero_add]
  have bytes : ∀ address ∈ List.range words.length,
      toBytes byteorder ((result.words.lookup address).getD ((0 : ℕ) : ℤ)) =
        .ok (byteorder.bytes (words[address]?.getD 0)) := by
    intro address among
    have inside : address < words.length := List.mem_range.mp among
    have found := placed_lookup words 0 address
    have small := range words[address] (List.getElem_mem inside)
    rw [Nat.zero_add] at found
    rw [same, found, List.getElem?_eq_getElem inside]
    change toBytes byteorder ((words[address] : ℕ) : ℤ) = .ok (byteorder.bytes words[address])
    unfold toBytes
    rw [if_pos (by omega), Int.toNat_natCast]
  have whole : (List.range words.length).map (fun address => words[address]?.getD 0) = words := by
    apply List.ext_getElem
    · simp
    · intro address _ inside
      simp [inside]
  unfold AssemblyResult.rawBytes
  rw [if_pos (Nat.zero_le _), size, mapM_ok bytes, ok_bind, List.flatMap_def]
  conv_rhs => rw [← whole]
  rw [List.map_map]
  rfl

/-! ## The round trip -/

/-- The lines of disassembled rows carry them. -/
theorem carries_rows (sourceName : Text) (rows : Rows) (number : ℕ) :
    Carries (((rows.map (·.1.text)).zipIdx number).map fun pair =>
      ⟨sourceName, pair.2, pair.1⟩) rows := by
  induction rows generalizing number with
  | nil => exact .nil
  | cons pair rows ih => exact .cons rfl (ih (number + 1))

theorem expandText_rows [Interpreter] (expandFile : Text → Except Failure (List SourceLine))
    (sourceName : Text) (rows : Rows) :
    expandText expandFile sourceName ((rows.map (·.1.text)).map (· ++ ['\n'])).flatten =
      .ok (((rows.map (·.1.text)).zipIdx 1).map fun pair => ⟨sourceName, pair.2, pair.1⟩) := by
  have lines : Text.splitlines ((rows.map (·.1.text)).map (· ++ ['\n'])).flatten =
      rows.map (·.1.text) := by
    apply Text.splitlines_terminated
    intro text among
    rcases List.mem_map.mp among with ⟨pair, -, rfl⟩
    exact pair.1.text_isLineBreak
  unfold expandText
  rw [lines, mapM_ok (g := fun pair => [⟨sourceName, pair.2, pair.1⟩]), ok_bind]
  · change Except.ok (List.flatten _) = _
    rw [← List.flatMap_def]
    exact congrArg Except.ok (List.flatMap_pure_eq_map _ _)
  · rintro ⟨text, number⟩ among
    rcases List.mem_map.mp (List.fst_mem_of_mem_zipIdx among) with ⟨pair, -, rfl⟩
    dsimp only
    rw [pair.1.statement_text, pair.1.includeName?_text]

/-- Disassembling an image of at most 4096 words, assembling the source, writing the raw bytes
and loading them into a fresh model gives the image again, followed by zeros. -/
theorem disassemble_assemble_load [Interpreter]
    (expandFile : Text → Except Failure (List SourceLine)) (sourceName : Text) (words : List ℕ)
    (short : words.length ≤ programWords) (range : ∀ word ∈ words, word ≤ 0xFFFF)
    (byteorder : ByteOrder) :
    ∃ source result content, disassembleSource words = .ok source ∧
      assembleText expandFile sourceName source = .ok result ∧
      result.rawBytes byteorder = .ok content ∧
      (Model.loadBinary content byteorder).run {} =
        .ok () { program := words ++ List.replicate (programWords - words.length) 0 } := by
  rcases disassembleRows_cover words range with ⟨rows, printed, cover, all⟩
  have carries := carries_rows sourceName rows 1
  have total : rows.words = words := cover
  have survey := survey_rows carries all {} (by rw [total]; simpa using short)
  rcases emit_rows carries all [] {} (by rw [total]; simpa using short) (by simp) with
    ⟨listing, emission⟩
  rw [total] at survey emission
  refine ⟨((rows.map (·.1.text)).map (· ++ ['\n'])).flatten, ⟨placed 0 words, listing, []⟩,
    words.flatMap byteorder.bytes, ?_, ?_, rawBytes_placed rfl range byteorder, ?_⟩
  · rw [disassembleSource, printed, ok_bind]
    rfl
  · unfold assembleText assemble
    rw [expandText_rows, ok_bind, survey, ok_bind, emission, ok_bind]
    rfl
  · have fresh : (List.replicate Model.programWords 0).drop words.length =
        List.replicate (programWords - words.length) 0 := List.drop_replicate
    rw [Model.loadBinary_run range short List.length_replicate, ← fresh]

/-- A branch with its target, a branch without one and a word no instruction has. -/
theorem disassemble_assemble_load_mixed :
    ∃ source result content,
      disassembleSource [0xF900, 0x0123, 0xF900, 0xF000, 0x6889] = .ok source ∧
      @assembleText .plain (fun _ => .error .keyError) "a".toList source = .ok result ∧
      result.rawBytes .little = .ok content ∧
      (Model.loadBinary content .little).run {} =
        .ok () { program := [0xF900, 0x0123, 0xF900, 0xF000, 0x6889] ++
          List.replicate (programWords - 5) 0 } :=
  @disassemble_assemble_load .plain (fun _ => .error .keyError) "a".toList
    [0xF900, 0x0123, 0xF900, 0xF000, 0x6889] (by decide) (by decide) .little

end Tms32010.Tools
