import Mathlib.Data.List.Nodup
import Tms32010.Tools.Accepted

/-!
# Decoding with an accepted database

Every word has one decoding at most, and `classify_word` agrees with `decode_word`.
The word is put together again from the dictionary of its decoding if the dictionary
tells all fields. The loader does not compare the names of the fields of an entry, and
of two fields with one name the dictionary has the last.
-/

namespace Tms32010.Tools.Schema

/-! ## Reconstruction -/

/-- The word of an entry with the field values of a dictionary. -/
def Entry.encoded (entry : Entry) (fields : Fields) : ℕ :=
  entry.opcode.value ||| together Field.span
    (fun field => ((List.lookup field.name fields).getD 0 % 2 ^ field.width).toNat)
    entry.variableFields

/-- The bits of each field in a word are those of the last field of its name. -/
def Entry.NamesAgreeIn (entry : Entry) (word : ℕ) : Prop :=
  ∀ field ∈ entry.variableFields, ∀ last, entry.lastNamed field.name = some last →
    ∀ k < field.width, last.bit word k = field.bit word k

/-- Fields of one name agree in every word that the entry accepts. -/
def Entry.NamesAgree (entry : Entry) : Prop :=
  ∀ word ≤ 0xFFFF, entry.accepts word = true → entry.NamesAgreeIn word

/-- The answer for a legal word. -/
def Answer.legal (mnemonic : Text) (operands : Fields) : Answer where
  classification := .documentedLegal
  mnemonics := [mnemonic]
  operands := some operands

/-- Decoding is unambiguous and invertible. -/
structure Invertible (database : Database) : Prop where
  decodes : ∀ word ≤ 0xFFFF, ∃ decoded, decodeWord database word = .ok decoded
  classifies : ∀ word ≤ 0xFFFF, ∃ answer, classifyWord database word = .ok answer
  legal_iff : ∀ word ≤ 0xFFFF, ∀ entry ∈ database.instructions, ∀ operands,
    classifyWord database word = .ok (.legal entry.mnemonic operands) ↔
      decodeWord database word = .ok (some (entry, operands))
  legal : ∀ word ≤ 0xFFFF, ∀ answer, classifyWord database word = .ok answer →
    answer.classification = .documentedLegal → ∃ entry ∈ database.instructions, ∃ operands,
      answer = .legal entry.mnemonic operands
  reconstructs : ∀ word ≤ 0xFFFF, ∀ entry operands,
    decodeWord database word = .ok (some (entry, operands)) → word = entry.encoded operands
  injective : ∀ left ≤ 0xFFFF, ∀ right ≤ 0xFFFF, ∀ decoded,
    decodeWord database left = .ok (some decoded) →
      decodeWord database right = .ok (some decoded) → left = right

section Law

variable {sourceIds : List Text} {database : Database} {entry : Entry} {word : ℕ}
  {operands : Fields}

/-- An entry that divides the word reconstructs a word just when its names agree there. -/
theorem Entry.Divides.encoded_iff (divides : entry.Divides) (range : word ≤ 0xFFFF)
    (decoded : entry.decode word = some operands) :
    word = entry.encoded operands ↔ entry.NamesAgreeIn word := by
  have accepts := ((Entry.decode_eq_some entry word operands).mp decoded).1
  unfold Entry.accepts at accepts
  rw [Bool.and_eq_true, Bool.and_eq_true] at accepts
  rcases divides.splits accepts.1.1 range with ⟨fixed, whole⟩
  have fits : ∀ field ∈ entry.variableFields,
      ((List.lookup field.name operands).getD 0 % 2 ^ field.width).toNat < 2 ^ field.width := by
    intro field among
    have power : (0 : ℤ) < 2 ^ field.width := by positivity
    have small := Int.emod_lt_of_pos ((List.lookup field.name operands).getD 0) power
    have large := Int.emod_nonneg ((List.lookup field.name operands).getD 0) power.ne'
    zify
    rw [Int.toNat_of_nonneg large]
    exact small
  unfold Entry.encoded
  rw [eq_or_together_iff fixed fits divides.apart divides.outside whole]
  apply forall₂_congr
  intro field among
  rw [Entry.decode_lookup decoded]
  cases found : entry.lastNamed field.name with
  | none =>
      unfold Entry.lastNamed at found
      rw [List.find?_eq_none] at found
      exact absurd (decide_eq_true rfl) (found field (List.mem_reverse.mpr among))
  | some last =>
      have member := List.mem_reverse.mp (List.mem_of_find?_eq_some found)
      have wide := divides.positive last member
      change (last.raw word % 2 ^ field.width).toNat = _ ↔ _
      constructor
      · rintro same other ⟨⟩ k inside
        have bit := congrArg (Nat.testBit · k) same
        simp only [Field.testBit_raw wide inside] at bit
        rw [bit, Field.testBit_read inside]
      · intro agree
        apply Nat.eq_of_testBit_eq
        intro k
        by_cases inside : k < field.width
        · rw [Field.testBit_raw wide inside, agree last rfl k inside, Field.testBit_read inside]
        · have power := Nat.pow_le_pow_right (n := 2) (by decide) (Nat.le_of_not_lt inside)
          have small := fits field among
          rw [Entry.decode_lookup decoded, found] at small
          have high : field.span.read word < 2 ^ field.width := Span.read_lt
          rw [Nat.testBit_lt_two_pow (Nat.lt_of_lt_of_le high power)]
          exact Nat.testBit_lt_two_pow (Nat.lt_of_lt_of_le small power)

/-- The decoding of a word, if any. -/
theorem Database.Accepted.decoding (accepted : database.Accepted) (range : word ≤ 0xFFFF) :
    decodings word database.instructions = .ok [] ∨
      ∃ entry ∈ database.instructions, ∃ operands, entry.decode word = some operands ∧
        decodings word database.instructions = .ok [(entry, operands)] := by
  have single := accepted.unique word range
  rw [decodings_eq range]
  cases found : database.instructions.filterMap fun entry =>
      (entry.decode word).map (entry, ·) with
  | nil => exact Or.inl rfl
  | cons decoded rest =>
      rw [found] at single
      have last : rest = [] := by
        rw [← List.length_eq_zero_iff]
        rw [List.length_cons] at single
        omega
      have among : decoded ∈ database.instructions.filterMap fun entry =>
          (entry.decode word).map (entry, ·) := by
        rw [found]
        exact List.mem_cons_self
      rcases List.mem_filterMap.mp among with ⟨entry, member, mapped⟩
      rcases Option.map_eq_some_iff.mp mapped with ⟨operands, decodes, rfl⟩
      rw [last]
      exact Or.inr ⟨entry, member, operands, decodes, rfl⟩

/-- What both functions answer for a word. -/
theorem Database.Accepted.cases (accepted : database.Accepted) (range : word ≤ 0xFFFF) :
    (decodeWord database word = .ok none ∧ ∃ answer, classifyWord database word = .ok answer ∧
        answer.classification ≠ .documentedLegal) ∨
      ∃ entry ∈ database.instructions, ∃ operands, entry.decode word = some operands ∧
        decodeWord database word = .ok (some (entry, operands)) ∧
          classifyWord database word = .ok (.legal entry.mnemonic operands) := by
  have inside : ¬0xFFFF < word := Nat.not_lt_of_le range
  rcases accepted.decoding range with none | ⟨entry, among, operands, decodes, one⟩
  · left
    constructor
    · unfold decodeWord
      rw [none]
      rfl
    · unfold classifyWord
      rw [none, if_neg inside]
      simp only [bind, Except.bind, pure, Except.pure]
      split_ifs
      all_goals exact ⟨_, rfl, Classification.noConfusion⟩
  · right
    refine ⟨entry, among, operands, decodes, ?_, ?_⟩
    · unfold decodeWord
      rw [one]
      rfl
    · unfold classifyWord
      rw [one, if_neg inside]
      rfl

theorem Database.Accepted.decodes (accepted : database.Accepted) (range : word ≤ 0xFFFF)
    (decoded : decodeWord database word = .ok (some (entry, operands))) :
    entry ∈ database.instructions ∧ entry.decode word = some operands := by
  rcases accepted.cases range with ⟨none, -⟩ | ⟨found, among, fields, decodes, some, -⟩
  · rw [none] at decoded
    simp at decoded
  · rw [some] at decoded
    simp only [Except.ok.injEq, Option.some.injEq, Prod.mk.injEq] at decoded
    rw [← decoded.1, ← decoded.2]
    exact ⟨among, decodes⟩

theorem Database.Accepted.legal_iff (accepted : database.Accepted) (range : word ≤ 0xFFFF)
    (among : entry ∈ database.instructions) (operands : Fields) :
    classifyWord database word = .ok (.legal entry.mnemonic operands) ↔
      decodeWord database word = .ok (some (entry, operands)) := by
  rcases accepted.cases range with ⟨none, answer, classified, other⟩ |
    ⟨found, member, fields, -, decoded, classified⟩
  · rw [none, classified]
    constructor
    · intro same
      rw [Except.ok.injEq] at same
      rw [same] at other
      exact absurd rfl other
    · intro same
      simp at same
  · rw [decoded, classified]
    simp only [Except.ok.injEq, Option.some.injEq, Prod.mk.injEq, Answer.legal, Answer.mk.injEq,
      List.cons.injEq, and_true, true_and]
    constructor
    · rintro ⟨names, same⟩
      exact ⟨List.inj_on_of_nodup_map accepted.distinct member among names, same⟩
    · rintro ⟨rfl, same⟩
      exact ⟨rfl, same⟩

/-- An accepted database is invertible just when the names of its entries agree. -/
theorem Database.Accepted.invertible_iff (accepted : database.Accepted) :
    Invertible database ↔ ∀ entry ∈ database.instructions, entry.NamesAgree := by
  constructor
  · intro invertible entry among word range accepts
    have decoded := (Entry.decode_eq_some entry word _).mpr ⟨accepts, rfl⟩
    have found : decodeWord database word =
        .ok (some (entry, putFields word entry.variableFields [])) := by
      rcases accepted.decoding range with none | ⟨other, -, fields, decodes, one⟩
      · rw [decodings_eq range, Except.ok.injEq, List.filterMap_eq_nil_iff] at none
        have nothing := none entry among
        rw [decoded] at nothing
        simp at nothing
      · have here : (entry, putFields word entry.variableFields []) ∈ [(other, fields)] := by
          rw [decodings_eq range, Except.ok.injEq] at one
          rw [← one]
          exact List.mem_filterMap.mpr ⟨entry, among, by rw [decoded]; rfl⟩
        rw [List.mem_singleton] at here
        unfold decodeWord
        rw [one, here]
        rfl
    exact ((accepted.divides entry among).encoded_iff range decoded).mp
      (invertible.reconstructs word range entry _ found)
  · intro agree
    have reconstructs : ∀ word ≤ 0xFFFF, ∀ entry operands,
        decodeWord database word = .ok (some (entry, operands)) →
          word = entry.encoded operands := by
      intro word range entry operands decoded
      rcases accepted.decodes range decoded with ⟨among, decodes⟩
      rw [(accepted.divides entry among).encoded_iff range decodes]
      exact agree entry among word range ((Entry.decode_eq_some entry word operands).mp decodes).1
    refine ⟨?_, ?_, ?_, ?_, reconstructs, ?_⟩
    · intro word range
      rcases accepted.cases range with ⟨none, -⟩ | ⟨_, -, _, -, decoded, -⟩
      · exact ⟨_, none⟩
      · exact ⟨_, decoded⟩
    · intro word range
      rcases accepted.cases range with ⟨-, answer, classified, -⟩ | ⟨_, -, _, -, -, classified⟩
      · exact ⟨answer, classified⟩
      · exact ⟨_, classified⟩
    · intro word range entry among operands
      exact accepted.legal_iff range among operands
    · intro word range answer classified legal
      rcases accepted.cases range with ⟨-, other, same, apart⟩ | ⟨entry, among, operands, -, -, same⟩
      · rw [classified, Except.ok.injEq] at same
        rw [same] at legal
        exact absurd legal apart
      · rw [classified, Except.ok.injEq] at same
        exact ⟨entry, among, operands, same⟩
    · intro left first right second decoded leftDecoded rightDecoded
      rw [reconstructs left first decoded.1 decoded.2 leftDecoded]
      exact (reconstructs right second decoded.1 decoded.2 rightDecoded).symm

/-- Decoding with an accepted database is unambiguous and invertible just when, in every
word an entry accepts, fields of one name agree. -/
theorem decode_invertible_iff (accepted : validateDatabase sourceIds database = .ok ()) :
    Invertible database ↔ ∀ entry ∈ database.instructions, entry.NamesAgree :=
  (validateDatabase_accepted accepted).invertible_iff

end Law

/-! ## A database of one entry -/

/-- An entry with a variable low byte. -/
def lackEntry (fields : List Field) : Entry where
  keys := requiredInstructionFields
  mnemonic := "LACK".toList
  opcode := ⟨0xFF00, 0x7E00⟩
  variableFields := fields
  confidenceLevel := "VERIFIED_PRIMARY".toList
  documentedCycleCount := 1
  sourceCitations := []

/-- The audit of a database whose words are all expected to be legal. -/
def legalAudit : Audit where
  classificationDefinitions := some (opcodeClassifications.map fun name =>
    { name := some name, meaning := some [], sourceCitations := some [] })
  expectedCounts := some (opcodeClassifications.map fun name =>
    (name, if name = Classification.documentedLegal.name then 0x10000 else 0))

/-- The database of the entry. -/
def lackDatabase (fields : List Field) : Database where
  schemaVersion := some 1
  device := some "TMS32010".toList
  coverage := some ⟨some 1, some ["LACK".toList], some ["LACK".toList]⟩
  opcodeSpaceAudit := some legalAudit
  instructions := [lackEntry fields]

/-- One entry collides with nothing, and is counted once for every word it decodes. -/
theorem tally_single (entry : Entry) {words : List ℕ} (range : ∀ word ∈ words, word ≤ 0xFFFF)
    (count : ℕ) :
    words.foldlM (tally [entry]) [(entry.mnemonic, count)] =
      .ok [(entry.mnemonic,
        count + (words.filter fun word => (entry.decode word).isSome).length)] := by
  induction words generalizing count with
  | nil => rfl
  | cons word words ih =>
      rw [List.forall_mem_cons] at range
      rw [Checks.foldlM_cons_eq_ok]
      refine ⟨[(entry.mnemonic, count + if (entry.decode word).isSome then 1 else 0)], ?_, ?_⟩
      · rw [tally_eq_ok range.1, List.filterMap_cons]
        cases entry.decode word with
        | none => simp
        | some fields => simp
      · rw [ih range.2, List.filter_cons]
        cases (entry.decode word).isSome
        · rfl
        · rw [if_pos rfl, if_pos rfl, List.length_cons, Nat.add_assoc, Nat.add_comm 1]

theorem validateDecode_single {entry : Entry} {word : ℕ} (range : word ≤ 0xFFFF)
    (decodes : (entry.decode word).isSome = true) : validateDecode [entry] = .ok () := by
  have among : word ∈ (List.range 0x10000).filter fun word => (entry.decode word).isSome := by
    rw [List.mem_filter, List.mem_range]
    exact ⟨by omega, decodes⟩
  have positive := List.length_pos_of_mem among
  have bound : ∀ word ∈ List.range 0x10000, word ≤ 0xFFFF := by
    intro word among
    rw [List.mem_range] at among
    omega
  unfold validateDecode
  rw [Checks.bind_eq_ok]
  refine ⟨_, tally_single entry bound 0, ?_⟩
  rw [Checks.forM_eq_ok]
  intro count here
  rw [List.mem_singleton] at here
  rw [here]
  change refuse _ _ = _
  rw [refuse_eq_ok, beq_eq_false_iff_ne, Nat.zero_add]
  exact positive.ne'

/-- The loader accepts the database if the entry passes its checks. -/
theorem lackDatabase_accepted {fields : List Field}
    (checks : validateEntry [] (lackEntry fields) = .ok ())
    (decodes : ((lackEntry fields).decode 0x7E00).isSome = true) :
    validateDatabase [] (lackDatabase fields) = .ok () := by
  have coverage : validateCoverage ⟨some 1, some ["LACK".toList], some ["LACK".toList]⟩ =
      .ok ["LACK".toList] := by
    rfl
  have audit : validateAudit legalAudit = .ok (opcodeClassifications.map fun name =>
      { name := some name, meaning := some [], sourceCitations := some [] }) := by
    rfl
  unfold validateDatabase
  rw [refuse_bind_eq_ok, refuse_bind_eq_ok, Checks.bind_eq_ok]
  refine ⟨rfl, rfl, _, rfl, ?_⟩
  rw [Checks.bind_eq_ok]
  refine ⟨_, coverage, ?_⟩
  rw [Checks.bind_eq_ok]
  refine ⟨_, rfl, ?_⟩
  rw [Checks.bind_eq_ok]
  refine ⟨_, audit, ?_⟩
  rw [Checks.bind_eq_ok]
  refine ⟨(), Checks.forM_eq_ok.mpr ?_, ?_⟩
  · intro entry among
    rw [List.mem_singleton.mp among]
    exact checks
  · rw [Checks.bind_eq_ok]
    refine ⟨(), Checks.forM_eq_ok.mpr ?_, ?_⟩
    · intro definition among
      rcases List.mem_map.mp among with ⟨name, -, rfl⟩
      rfl
    · rw [refuse_bind_eq_ok, refuse_bind_eq_ok]
      exact ⟨rfl, rfl, validateDecode_single (by decide) decodes⟩

/-- With one field the database is invertible. -/
theorem decode_invertible_lack :
    Invertible (lackDatabase [⟨"constant".toList, 0, 8, false, none⟩]) ↔
      ∀ entry ∈ (lackDatabase [⟨"constant".toList, 0, 8, false, none⟩]).instructions,
        entry.NamesAgree :=
  decode_invertible_iff (lackDatabase_accepted (by decide +kernel) (by decide +kernel))

/-- Two fields of one name: the dictionary keeps the upper half of the byte. -/
theorem decode_sharedName_lossy :
    validateDatabase [] (lackDatabase
        [⟨"constant".toList, 0, 4, false, none⟩, ⟨"constant".toList, 4, 4, false, none⟩]) = .ok () ∧
      ¬Invertible (lackDatabase
        [⟨"constant".toList, 0, 4, false, none⟩, ⟨"constant".toList, 4, 4, false, none⟩]) := by
  refine ⟨lackDatabase_accepted (by decide +kernel) (by decide +kernel), ?_⟩
  intro invertible
  have same := invertible.injective 0x7E00 (by decide) 0x7E01 (by decide) _ rfl rfl
  exact absurd same (by decide)

end Tms32010.Tools.Schema
