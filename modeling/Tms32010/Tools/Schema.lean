import Tms32010.Lib.BitFields
import Tms32010.Tools.Database

/-!
# Databases

`isa_database.py` on any database: decoding, classification and validation. A
record has the keys whose presence the Python code takes for granted, with values of
their types; what `get` looks up is optional. A numeral is the natural number that
`parse_int` or `int` reads from it, a negative one being refused by validation.
-/

namespace Tms32010.Tools.Schema

/-! ## Data -/

/-- An item of `source_citations`. -/
structure Citation where
  sourceId : Option Text
  deriving DecidableEq, Repr

/-- An item of `variable_fields`. -/
structure Field where
  name : Text
  lsb : ℕ
  width : ℕ
  signed : Bool
  legalValues : Option (List ℤ) := none
  deriving DecidableEq, Repr

/-- An item of `instructions`. -/
structure Entry where
  keys : List Text
  mnemonic : Text
  opcode : Pattern
  variableFields : List Field
  constraints : List Constraint := []
  auditEnvelope : Option Pattern := none
  confidenceLevel : Text
  documentedCycleCount : ℤ
  sourceCitations : List Citation
  deriving DecidableEq, Repr

/-- `coverage`. -/
structure Coverage where
  expectedDocumentedInstructionCount : Option ℤ
  documentedMnemonics : Option (List Text)
  supportedMnemonics : Option (List Text)
  deriving DecidableEq, Repr

/-- An item of `classification_definitions`. -/
structure Definition where
  name : Option Text
  meaning : Option Text
  sourceCitations : Option (List Citation)
  deriving DecidableEq, Repr

/-- `opcode_space_audit`. -/
structure Audit where
  classificationDefinitions : Option (List Definition)
  expectedCounts : Option (List (Text × ℤ))
  deriving DecidableEq, Repr

/-- A database. -/
structure Database where
  schemaVersion : Option ℤ
  device : Option Text
  coverage : Option Coverage
  opcodeSpaceAudit : Option Audit
  instructions : List Entry
  deriving DecidableEq, Repr

/-- `REQUIRED_INSTRUCTION_FIELDS`. -/
def requiredInstructionFields : List Text :=
  ["mnemonic", "aliases", "opcode", "operands", "addressing_modes", "registers_read",
    "registers_written", "memory_accesses", "status_flags_affected", "arithmetic_width_bits",
    "sign_extension_behavior", "shift_behavior", "overflow_behavior", "result_behavior",
    "branch_behavior", "interrupt_interaction", "documented_cycle_count",
    "conditional_cycle_differences", "external_bus_cycles", "source_citations",
    "confidence_level", "unresolved_questions"].map String.toList

/-- `VALID_CONFIDENCE_LEVELS`. -/
def validConfidenceLevels : List Text :=
  ["VERIFIED_PRIMARY", "VERIFIED_HARDWARE", "CORROBORATED", "INFERRED", "PROVISIONAL",
    "UNKNOWN"].map String.toList

/-- The classifications of a word. -/
inductive Classification where
  | documentedLegal | primaryReservedIndirectField | unresolvedSimultaneousUpdate
  | documentedPatternMismatch | primaryUnlistedEncoding
  deriving DecidableEq, Repr

/-- The classification as the source has it. -/
def Classification.name : Classification → Text
  | .documentedLegal => "DOCUMENTED_LEGAL".toList
  | .primaryReservedIndirectField => "PRIMARY_RESERVED_INDIRECT_FIELD".toList
  | .unresolvedSimultaneousUpdate => "UNRESOLVED_SIMULTANEOUS_UPDATE".toList
  | .documentedPatternMismatch => "DOCUMENTED_PATTERN_MISMATCH".toList
  | .primaryUnlistedEncoding => "PRIMARY_UNLISTED_ENCODING".toList

/-- `OPCODE_CLASSIFICATIONS`. -/
def opcodeClassifications : List Text :=
  [Classification.documentedLegal, .primaryReservedIndirectField, .unresolvedSimultaneousUpdate,
    .documentedPatternMismatch, .primaryUnlistedEncoding].map Classification.name

/-- `", ".join`. -/
def joined (names : List Text) : Text := List.intercalate ", ".toList names

/-- `sorted` of a set. -/
def sortedNames (names : List Text) : List Text := names.dedup.mergeSort fun a b => decide (a ≤ b)

/-! ## Decoding -/

/-- The dictionary `decode_entry` returns, in the order of its keys. -/
abbrev Fields := List (Text × ℤ)

/-- `fields[name] = value`. -/
def Fields.put (fields : Fields) (name : Text) (value : ℤ) : Fields :=
  match fields with
  | [] => [(name, value)]
  | (key, old) :: rest =>
      if key = name then (key, value) :: rest else (key, old) :: Fields.put rest name value

/-- The place of a field. -/
def Field.span (field : Field) : Span := ⟨field.lsb, field.width⟩

/-- The value of a field, sign extended where it is signed. -/
def Field.raw (field : Field) (word : ℕ) : ℤ :=
  let raw := field.span.read word
  if field.signed && raw &&& 2 ^ (field.width - 1) != 0 then (raw : ℤ) - 2 ^ field.width else raw

/-- The `legal_values` test. -/
def Field.legal (field : Field) (word : ℕ) : Bool :=
  match field.legalValues with
  | some values => values.contains (field.raw word)
  | none => true

/-- The loop over the variable fields. -/
def decodeFields (word : ℕ) : List Field → Fields → Option Fields
  | [], fields => some fields
  | field :: rest, fields =>
      if field.legal word then decodeFields word rest (fields.put field.name (field.raw word))
      else none

/-- `word & mask == match & mask`. -/
def matchesPattern (pattern : Pattern) (word : ℕ) : Bool :=
  word &&& pattern.mask == pattern.value &&& pattern.mask

/-- `decode_entry` of a word in range. -/
def Entry.decode (entry : Entry) (word : ℕ) : Option Fields :=
  if !matchesPattern entry.opcode word then none
  else if !entry.constraints.all (·.satisfied word) then none
  else decodeFields word entry.variableFields []

/-- What both loops raise for a word out of range. -/
def outOfRange (word : ℕ) : Failure :=
  .valueError ("instruction word out of range: ".toList ++ Text.decimal word)

/-- `decode_entry`. -/
def decodeEntry (entry : Entry) (word : ℕ) : Except Failure (Option Fields) :=
  if 0xFFFF < word then .error (outOfRange word) else .ok (entry.decode word)

/-- The entries that decode a word, with its fields. -/
def decodings (word : ℕ) : List Entry → Except Failure (List (Entry × Fields))
  | [] => .ok []
  | entry :: entries => do
      let operands ← decodeEntry entry word
      let rest ← decodings word entries
      return match operands with
        | some fields => (entry, fields) :: rest
        | none => rest

/-- What an ambiguous word raises. -/
def ambiguousDecode (word : ℕ) (names : Text) : Failure :=
  .isaDatabaseError ("ambiguous decode at 0x".toList ++ Text.hexDigits 4 word ++ names)

/-- `decode_word`. -/
def decodeWord (database : Database) (word : ℕ) : Except Failure (Option (Entry × Fields)) := do
  match ← decodings word database.instructions with
  | [] => return none
  | [decoded] => return some decoded
  | _ => throw (ambiguousDecode word [])

/-! ## Classification -/

/-- What `classify_word` returns. -/
structure Answer where
  classification : Classification
  mnemonics : List Text
  operands : Option Fields := none
  unresolvedQuestion : Option Text := none
  deriving DecidableEq, Repr

/-- The last field of a name. -/
def Entry.lastNamed (entry : Entry) (name : Text) : Option Field :=
  entry.variableFields.reverse.find? fun field => field.name = name

/-- The address of an indirect word, if the entry has the two fields of an addressing byte. -/
def Entry.indirectAddress? (entry : Entry) (word : ℕ) : Option ℕ :=
  match entry.lastNamed "indirect".toList, entry.lastNamed "addressing_field".toList with
  | some indirect, some address =>
      if (word >>> indirect.lsb) &&& 1 = 0 then none else some (address.span.read word)
  | _, _ => none

/-- The word uses a reserved bit of the addressing byte. -/
def Entry.reserved (entry : Entry) (word : ℕ) : Bool :=
  match entry.indirectAddress? word with
  | some address => address &&& 0x46 != 0
  | none => false

/-- The word both increments and decrements, its fields being legal before sign extension. -/
def Entry.simultaneous (entry : Entry) (word : ℕ) : Bool :=
  match entry.indirectAddress? word with
  | some address =>
      address &&& 0x46 == 0 && address &&& 0x30 == 0x30 &&
        entry.variableFields.all fun field =>
          match field.legalValues with
          | some values => values.contains (field.span.read word : ℤ)
          | none => true
  | none => false

/-- The envelope of an entry, by default its opcode. -/
def Entry.envelope (entry : Entry) : Pattern := entry.auditEnvelope.getD entry.opcode

/-- `classify_word`. -/
def classifyWord (database : Database) (word : ℕ) : Except Failure Answer := do
  if 0xFFFF < word then throw (outOfRange word)
  let names (entries : List Entry) : List Text := entries.map (·.mnemonic)
  let baseCandidates := database.instructions.filter fun entry => matchesPattern entry.opcode word
  let patternCandidates :=
    database.instructions.filter fun entry => matchesPattern entry.envelope word
  match ← decodings word database.instructions with
  | [(entry, operands)] =>
      return { classification := .documentedLegal, mnemonics := [entry.mnemonic], operands }
  | [] =>
      let reservedCandidates := baseCandidates.filter (·.reserved word)
      let simultaneousCandidates := baseCandidates.filter (·.simultaneous word)
      if !reservedCandidates.isEmpty then
        return {
          classification := .primaryReservedIndirectField
          mnemonics := sortedNames (names reservedCandidates) }
      else if !simultaneousCandidates.isEmpty then
        return {
          classification := .unresolvedSimultaneousUpdate
          mnemonics := sortedNames (names simultaneousCandidates)
          unresolvedQuestion := some "OQ-010".toList }
      else if !patternCandidates.isEmpty then
        return {
          classification := .documentedPatternMismatch
          mnemonics := sortedNames (names patternCandidates) }
      else return { classification := .primaryUnlistedEncoding, mnemonics := [] }
  | legal => throw (ambiguousDecode word (": ".toList ++ joined (names (legal.map (·.1)))))

/-! ## Validation -/

/-- Raise the message where the condition holds. -/
def refuse (condition : Bool) (message : Text) : Except Failure Unit :=
  if condition then .error (.isaDatabaseError message) else .ok ()

/-- The value that must be there. -/
def demand {α : Type} (value : Option α) (message : Text) : Except Failure α :=
  match value with
  | some value => .ok value
  | none => .error (.isaDatabaseError message)

/-- The lists have the same elements. -/
def sameSet (left right : List Text) : Bool := left.all right.contains && right.all left.contains

/-- The coverage lists, checked; the supported mnemonics are read later. -/
def validateCoverage (coverage : Coverage) : Except Failure (List Text) := do
  let expected ← demand coverage.documentedMnemonics "coverage mnemonic lists are missing".toList
  let supported ← demand coverage.supportedMnemonics "coverage mnemonic lists are missing".toList
  refuse (coverage.expectedDocumentedInstructionCount != some (expected.length : ℤ))
    "documented mnemonic count does not match expectation".toList
  refuse (!decide expected.Nodup) "documented mnemonic list contains duplicates".toList
  refuse (!supported.all expected.contains)
    "supported mnemonics are outside documented scope".toList
  return supported

/-- The audit, checked; the definitions are read later. -/
def validateAudit (audit : Audit) : Except Failure (List Definition) := do
  let message := "opcode-space audit definitions/counts are missing".toList
  let definitions ← demand audit.classificationDefinitions message
  let expectedCounts ← demand audit.expectedCounts message
  let definitionNames := definitions.map (·.name)
  refuse
    (!(definitionNames.all fun name => name.any opcodeClassifications.contains) ||
      !opcodeClassifications.all fun name => definitionNames.contains (some name))
    "opcode-space classification definitions differ".toList
  refuse (!decide definitionNames.Nodup)
    "duplicate opcode-space classification definition".toList
  refuse (!sameSet (expectedCounts.map (·.1)) opcodeClassifications)
    "opcode-space expected-count categories differ".toList
  refuse (expectedCounts.any fun count => decide (count.2 < 0))
    "opcode-space expected counts must be nonnegative integers".toList
  refuse ((expectedCounts.map (·.2)).sum != 0x10000)
    "opcode-space expected counts do not cover 16 bits".toList
  return definitions

/-- A variable field, after the bits of the fields before it. -/
def validateField (mnemonic : Text) (mask variableMask : ℕ) (field : Field) :
    Except Failure Unit := do
  refuse (decide (field.width < 1) || decide (16 < field.lsb + field.width))
    (mnemonic ++ " has invalid variable field".toList)
  refuse (variableMask &&& field.span.mask != 0)
    (mnemonic ++ " has overlapping variable fields".toList)
  refuse (mask &&& field.span.mask != 0)
    (mnemonic ++ " variable field overlaps fixed opcode bits".toList)
  match field.legalValues with
  | some values =>
      refuse
        (values.isEmpty || !decide values.Nodup ||
          values.any fun value => decide (value < 0) || decide (2 ^ field.width ≤ value))
        (mnemonic ++ " variable field has invalid legal values".toList)
  | none => return

/-- The loop over the variable fields, with the bits of the fields so far. -/
def validateFields (mnemonic : Text) (mask : ℕ) : List Field → ℕ → Except Failure ℕ
  | [], variableMask => .ok variableMask
  | field :: fields, variableMask => do
      validateField mnemonic mask variableMask field
      validateFields mnemonic mask fields (variableMask ||| field.span.mask)

/-- A pattern of a constraint. -/
def validatePattern (mnemonic name : Text) (pattern : Pattern) : Except Failure Unit := do
  refuse (decide (0xFFFF < pattern.mask) || decide (0xFFFF < pattern.value))
    (mnemonic ++ " constraint is not 16 bits".toList)
  refuse (Nat.ldiff pattern.value pattern.mask != 0)
    (mnemonic ++ " constraint ".toList ++ name ++ " sets an unmasked bit".toList)

/-- `_validate_constraint`. -/
def validateConstraint (mnemonic : Text) (item : Constraint) : Except Failure Unit := do
  validatePattern mnemonic "when".toList item.whenever
  match item.demand with
  | .require pattern => validatePattern mnemonic "require".toList pattern
  | .forbid pattern => validatePattern mnemonic "forbid".toList pattern

/-- The checks of an envelope. -/
def validateEnvelope (mnemonic : Text) (opcode envelope : Pattern) : Except Failure Unit := do
  refuse (decide (0xFFFF < envelope.mask) || decide (0xFFFF < envelope.value))
    (mnemonic ++ " audit envelope is not 16 bits".toList)
  refuse (Nat.ldiff envelope.value envelope.mask != 0)
    (mnemonic ++ " audit envelope sets an unmasked bit".toList)
  refuse (Nat.ldiff envelope.mask opcode.mask != 0)
    (mnemonic ++ " audit envelope is narrower than legal decode".toList)
  refuse (opcode.value &&& envelope.mask != envelope.value)
    (mnemonic ++ " audit envelope excludes its legal match".toList)

/-- A citation names a source of the manifest. -/
def resolved (sourceIds : List Text) (citation : Citation) : Bool :=
  citation.sourceId.any sourceIds.contains

/-- The checks of an opcode. -/
def validateOpcode (entry : Entry) : Except Failure Unit := do
  let mnemonic := entry.mnemonic
  let opcode := entry.opcode
  refuse (decide (0xFFFF < opcode.value) || decide (0xFFFF < opcode.mask))
    (mnemonic ++ " opcode is not 16 bits".toList)
  refuse (Nat.ldiff opcode.value opcode.mask != 0)
    (mnemonic ++ " match sets an unmasked bit".toList)
  let variableMask ← validateFields mnemonic opcode.mask entry.variableFields 0
  refuse (variableMask != Nat.ldiff 0xFFFF opcode.mask)
    (mnemonic ++ " does not describe every variable opcode bit".toList)
  entry.constraints.forM (validateConstraint mnemonic)
  match entry.auditEnvelope with
  | some envelope => validateEnvelope mnemonic opcode envelope
  | none => return

/-- An iteration of the loop over the instructions. -/
def validateEntry (sourceIds : List Text) (entry : Entry) : Except Failure Unit := do
  let missing := requiredInstructionFields.filter fun key => !entry.keys.contains key
  refuse (!missing.isEmpty)
    (entry.mnemonic ++ " missing fields: ".toList ++ joined (sortedNames missing))
  refuse (!validConfidenceLevels.contains entry.confidenceLevel)
    (entry.mnemonic ++ " has invalid confidence level".toList)
  validateOpcode entry
  refuse (decide (entry.documentedCycleCount < 1))
    (entry.mnemonic ++ " has invalid cycle count".toList)
  refuse (!entry.sourceCitations.all (resolved sourceIds))
    (entry.mnemonic ++ " has unresolved source citation".toList)

/-- An iteration of the loop over the definitions. -/
def validateDefinition (sourceIds : List Text) (definition : Definition) :
    Except Failure Unit := do
  refuse definition.meaning.isNone "opcode-space classification meaning is missing".toList
  let citations ← demand definition.sourceCitations
    "opcode-space classification citations are missing".toList
  refuse (!citations.all (resolved sourceIds))
    (definition.name.getD [] ++ " has unresolved source citation".toList)

/-- A word of the loop over all words, with `match_counts`. -/
def tally (instructions : List Entry) (matchCounts : List (Text × ℕ)) (word : ℕ) :
    Except Failure (List (Text × ℕ)) := do
  let names := (← decodings word instructions).map (·.1.mnemonic)
  refuse (decide (1 < names.length))
    ("decode collision at 0x".toList ++ Text.hexDigits 4 word ++ ": ".toList ++ joined names)
  return matchCounts.map fun (mnemonic, count) => (mnemonic, count + names.count mnemonic)

/-- The decode of all words. -/
def validateDecode (instructions : List Entry) : Except Failure Unit := do
  let matchCounts ← (List.range 0x10000).foldlM (tally instructions)
    (instructions.map fun entry => (entry.mnemonic, 0))
  matchCounts.forM fun (mnemonic, count) =>
    refuse (count == 0) (mnemonic ++ " constraints reject every encoding".toList)

/-- `validate_database`; `sourceIds` is `_manifest_source_ids()`. -/
def validateDatabase (sourceIds : List Text) (database : Database) : Except Failure Unit := do
  refuse (database.schemaVersion != some 1) "unsupported ISA schema version".toList
  refuse (database.device != some "TMS32010".toList)
    "database device is not the original TMS32010".toList
  let coverage ← demand database.coverage
    "database must contain coverage and instructions".toList
  let supported ← validateCoverage coverage
  let audit ← demand database.opcodeSpaceAudit "database must contain opcode_space_audit".toList
  let definitions ← validateAudit audit
  database.instructions.forM (validateEntry sourceIds)
  definitions.forM (validateDefinition sourceIds)
  let entryNames := database.instructions.map (·.mnemonic)
  refuse (entryNames != supported)
    "entry order/content differs from supported mnemonics".toList
  refuse (!decide entryNames.Nodup) "duplicate instruction entries".toList
  validateDecode database.instructions

end Tms32010.Tools.Schema
