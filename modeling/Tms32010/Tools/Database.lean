import Tms32010.Isa.Mnemonic
import Tms32010.Lib.Text

/-!
# ISA database

The instruction entries of the committed database, as far as the assembler and the
disassembler read them, and `isa_database.py` on them. A `fields` dictionary is a list of
pairs. No word is decoded by two entries, which the loader checks word by word and which is
read off the patterns here.
-/

namespace Tms32010.Tools

/-- What the two tools raise. -/
inductive Failure where
  | assemblyError (message : Text)
  | isaDatabaseError (message : Text)
  | valueError (message : Text)
  | syntaxError (message : Text)
  | zeroDivisionError (message : Text)
  | keyError
  | indexError
  | overflowError
  | recursionError
  | memoryError
  deriving DecidableEq, Repr

/-- The mnemonic as the source text has it. -/
def mnemonicText (mnemonic : Mnemonic) : Text :=
  match mnemonic with
  | .lack => "LACK".toList
  | .nop => "NOP".toList
  | .zac => "ZAC".toList
  | .rovm => "ROVM".toList
  | .sovm => "SOVM".toList
  | .lark => "LARK".toList
  | .larp => "LARP".toList
  | .ldpk => "LDPK".toList
  | .lac => "LAC".toList
  | .sacl => "SACL".toList
  | .sach => "SACH".toList
  | .zalh => "ZALH".toList
  | .zals => "ZALS".toList
  | .adds => "ADDS".toList
  | .xor => "XOR".toList
  | .and => "AND".toList
  | .or => "OR".toList
  | .add => "ADD".toList
  | .sub => "SUB".toList
  | .subs => "SUBS".toList
  | .lar => "LAR".toList
  | .sar => "SAR".toList
  | .mar => "MAR".toList
  | .ldp => "LDP".toList
  | .lt => "LT".toList
  | .mpy => "MPY".toList
  | .mpyk => "MPYK".toList
  | .pac => "PAC".toList
  | .apac => "APAC".toList
  | .spac => "SPAC".toList
  | .lta => "LTA".toList
  | .ltd => "LTD".toList
  | .dmov => "DMOV".toList
  | .dint => "DINT".toList
  | .eint => "EINT".toList
  | .lst => "LST".toList
  | .subc => "SUBC".toList
  | .banz => "BANZ".toList
  | .b => "B".toList
  | .bgez => "BGEZ".toList
  | .bgz => "BGZ".toList
  | .blez => "BLEZ".toList
  | .blz => "BLZ".toList
  | .bnz => "BNZ".toList
  | .bz => "BZ".toList
  | .bv => "BV".toList
  | .bioz => "BIOZ".toList
  | .call => "CALL".toList
  | .in => "IN".toList
  | .out => "OUT".toList
  | .tblr => "TBLR".toList
  | .tblw => "TBLW".toList
  | .subh => "SUBH".toList
  | .abs => "ABS".toList
  | .sst => "SST".toList
  | .addh => "ADDH".toList
  | .cala => "CALA".toList
  | .ret => "RET".toList
  | .push => "PUSH".toList
  | .pop => "POP".toList

/-! ## Entries -/

/-- The names of the variable fields. -/
inductive FieldName where
  | constant | indirect | addressingField | shift | port | auxiliaryRegister
  deriving DecidableEq, Repr

/-- An item of `variable_fields`. -/
structure Field where
  name : FieldName
  lsb : ℕ
  width : ℕ
  signed : Bool := false
  legalValues : Option (List ℤ) := none
  deriving DecidableEq, Repr

/-- A `mask` and its `match`. -/
structure Pattern where
  mask : ℕ
  value : ℕ
  deriving DecidableEq, Repr

/-- `word & mask == match`. -/
def Pattern.holds (pattern : Pattern) (word : ℕ) : Bool := word &&& pattern.mask == pattern.value

/-- The action of a constraint: `require` or `forbid`. -/
inductive Demand where
  | require (pattern : Pattern)
  | forbid (pattern : Pattern)
  deriving DecidableEq, Repr

/-- An item of `constraints`. -/
structure Constraint where
  whenever : Pattern
  demand : Demand
  deriving DecidableEq, Repr

/-- An item of `operands`. -/
structure Operand where
  optional : Bool := false
  deriving DecidableEq, Repr

/-- An instruction: its `opcode`, `operands` and `word_count`. -/
structure Entry where
  mnemonic : Mnemonic
  opcode : Pattern
  variableFields : List Field := []
  constraints : List Constraint := []
  operands : List Operand := []
  wordCount : ℕ := 1
  deriving DecidableEq, Repr

/-- The two fields of an addressing byte. -/
def addressingFields : List Field :=
  [⟨.indirect, 7, 1, false, none⟩, ⟨.addressingField, 0, 7, false, none⟩]

/-- The two constraints on an addressing byte. -/
def addressingConstraints : List Constraint :=
  [⟨⟨0x80, 0x80⟩, .require ⟨0x46, 0⟩⟩, ⟨⟨0x80, 0x80⟩, .forbid ⟨0x30, 0x30⟩⟩]

/-- A data operand and an optional next auxiliary register. -/
def dataOperands : List Operand := [{}, ⟨true⟩]

/-- A data operand, an optional shift and an optional next auxiliary register. -/
def shiftedOperands : List Operand := [{}, ⟨true⟩, ⟨true⟩]

/-- A register or port beside a data operand, and an optional next auxiliary register. -/
def selectedOperands : List Operand := [{}, {}, ⟨true⟩]

/-- An entry with an addressing byte; `fields` stand above it, `constraints` come first. -/
def addressedEntry (mnemonic : Mnemonic) (opcode : Pattern) (fields : List Field)
    (operands : List Operand) (constraints : List Constraint := []) : Entry :=
  ⟨mnemonic, opcode, fields ++ addressingFields, constraints ++ addressingConstraints, operands, 1⟩

/-- An entry whose high byte is fixed and whose low byte is an addressing byte. -/
def dataEntry (mnemonic : Mnemonic) (value : ℕ) : Entry :=
  addressedEntry mnemonic ⟨0xFF00, value⟩ [] dataOperands

/-- An entry of one word without operands. -/
def fixedEntry (mnemonic : Mnemonic) (value : ℕ) : Entry :=
  { mnemonic, opcode := ⟨0xFFFF, value⟩ }

/-- An entry of two words. -/
def branchEntry (mnemonic : Mnemonic) (value : ℕ) : Entry :=
  { mnemonic, opcode := ⟨0xFFFF, value⟩, operands := [{}], wordCount := 2 }

/-- An entry with one constant. -/
def constantEntry (mnemonic : Mnemonic) (opcode : Pattern) (width : ℕ) (signed : Bool) : Entry :=
  { mnemonic, opcode, variableFields := [⟨.constant, 0, width, signed, none⟩], operands := [{}] }

/-- An entry with a shift above its addressing byte. -/
def shiftEntry (mnemonic : Mnemonic) (opcode : Pattern) (width : ℕ)
    (legalValues : Option (List ℤ)) : Entry :=
  addressedEntry mnemonic opcode [⟨.shift, 8, width, false, legalValues⟩] shiftedOperands

/-- An entry with a port above its addressing byte. -/
def portEntry (mnemonic : Mnemonic) (value : ℕ) : Entry :=
  addressedEntry mnemonic ⟨0xF800, value⟩ [⟨.port, 8, 3, false, none⟩] selectedOperands

/-- An entry with an auxiliary register above its addressing byte. -/
def registerEntry (mnemonic : Mnemonic) (value : ℕ) : Entry :=
  addressedEntry mnemonic ⟨0xFE00, value⟩ [⟨.auxiliaryRegister, 8, 1, false, none⟩] selectedOperands

/-- `MAR` leaves two of its words to `LARP`. -/
def marEntry : Entry :=
  addressedEntry .mar ⟨0xFF00, 0x6800⟩ [] dataOperands
    [⟨⟨0xFF00, 0x6800⟩, .forbid ⟨0xFFFE, 0x6880⟩⟩]

/-- Direct `SST` is confined to sixteen addresses. -/
def sstEntry : Entry :=
  addressedEntry .sst ⟨0xFF00, 0x7C00⟩ [] dataOperands [⟨⟨0x80, 0⟩, .require ⟨0x70, 0⟩⟩]

/-- `LARK` has two fields. -/
def larkEntry : Entry :=
  { mnemonic := .lark
    opcode := ⟨0xFE00, 0x7000⟩
    variableFields := [⟨.auxiliaryRegister, 8, 1, false, none⟩, ⟨.constant, 0, 8, false, none⟩]
    operands := [{}, {}] }

/-- The `instructions` of the database. -/
def instructions : List Entry :=
  [constantEntry .lack ⟨0xFF00, 0x7E00⟩ 8 false, fixedEntry .nop 0x7F80, fixedEntry .zac 0x7F89,
    fixedEntry .rovm 0x7F8A, fixedEntry .sovm 0x7F8B, fixedEntry .dint 0x7F81,
    fixedEntry .eint 0x7F82, dataEntry .lst 0x7B00, larkEntry,
    constantEntry .larp ⟨0xFFFE, 0x6880⟩ 1 false, marEntry, dataEntry .ldp 0x6F00,
    constantEntry .ldpk ⟨0xFFFE, 0x6E00⟩ 1 false, dataEntry .dmov 0x6900, dataEntry .lt 0x6A00,
    dataEntry .ltd 0x6B00, dataEntry .lta 0x6C00, dataEntry .mpy 0x6D00,
    constantEntry .mpyk ⟨0xE000, 0x8000⟩ 13 true, fixedEntry .pac 0x7F8E,
    fixedEntry .apac 0x7F8F, fixedEntry .spac 0x7F90, registerEntry .lar 0x3800,
    registerEntry .sar 0x3000, shiftEntry .lac ⟨0xF000, 0x2000⟩ 4 none,
    addressedEntry .sacl ⟨0xFF00, 0x5000⟩ [] shiftedOperands,
    shiftEntry .sach ⟨0xF800, 0x5800⟩ 3 (some [0, 1, 4]), shiftEntry .add ⟨0xF000, 0⟩ 4 none,
    shiftEntry .sub ⟨0xF000, 0x1000⟩ 4 none, dataEntry .addh 0x6000, dataEntry .adds 0x6100,
    dataEntry .subh 0x6200, dataEntry .subs 0x6300, dataEntry .subc 0x6400,
    dataEntry .xor 0x7800, dataEntry .and 0x7900, dataEntry .or 0x7A00, dataEntry .zalh 0x6500,
    dataEntry .zals 0x6600, branchEntry .banz 0xF400, branchEntry .b 0xF900,
    branchEntry .bv 0xF500, branchEntry .bioz 0xF600, branchEntry .call 0xF800,
    fixedEntry .cala 0x7F8C, fixedEntry .ret 0x7F8D, fixedEntry .pop 0x7F9D,
    fixedEntry .push 0x7F9C, portEntry .in 0x4000, portEntry .out 0x4800,
    dataEntry .tblr 0x6700, dataEntry .tblw 0x7D00, branchEntry .bgez 0xFD00,
    branchEntry .bgz 0xFC00, branchEntry .blez 0xFB00, branchEntry .blz 0xFA00,
    branchEntry .bnz 0xFE00, branchEntry .bz 0xFF00, sstEntry, fixedEntry .abs 0x7F88]

/-- `documented_mnemonics` of the coverage; the order is not read. -/
def documented : List Text :=
  ["ABS", "ADD", "ADDH", "ADDS", "AND", "LAC", "LACK", "OR", "SACH", "SACL", "SUB", "SUBC",
    "SUBH", "SUBS", "XOR", "ZAC", "ZALH", "ZALS", "LAR", "LARK", "LARP", "LDP", "LDPK", "MAR",
    "SAR", "B", "BANZ", "BGEZ", "BGZ", "BIOZ", "BLEZ", "BLZ", "BNZ", "BV", "BZ", "CALA", "CALL",
    "RET", "APAC", "LT", "LTA", "LTD", "MPY", "MPYK", "PAC", "SPAC", "DINT", "EINT", "LST",
    "NOP", "POP", "PUSH", "ROVM", "SOVM", "SST", "DMOV", "IN", "OUT", "TBLR", "TBLW"].map
    String.toList

/-! ## Decoding -/

/-- The dictionary `decode_entry` returns. -/
abbrev Fields := List (FieldName × ℤ)

/-- The value of a variable field, sign extended where it is signed. -/
def Field.raw (field : Field) (word : ℕ) : ℤ :=
  let raw := (word >>> field.lsb) &&& (2 ^ field.width - 1)
  if field.signed && raw &&& 2 ^ (field.width - 1) != 0 then (raw : ℤ) - 2 ^ field.width else raw

/-- The `legal_values` test. -/
def Field.legal (field : Field) (word : ℕ) : Bool :=
  match field.legalValues with
  | some values => values.contains (field.raw word)
  | none => true

/-- A constraint whose condition does not hold is skipped. -/
def Constraint.satisfied (constraint : Constraint) (word : ℕ) : Bool :=
  !constraint.whenever.holds word ||
    match constraint.demand with
    | .require pattern => pattern.holds word
    | .forbid pattern => !pattern.holds word

/-- `decode_entry` of a word in range. -/
def decodeEntry (entry : Entry) (word : ℕ) : Option Fields :=
  if word &&& entry.opcode.mask == entry.opcode.value &&& entry.opcode.mask &&
      entry.constraints.all (·.satisfied word) && entry.variableFields.all (·.legal word) then
    some (entry.variableFields.map fun field => (field.name, field.raw word))
  else none

/-- `decode_word`. -/
def decodeWord (word : ℕ) : Except Failure (Option (Entry × Fields)) :=
  if ¬word ≤ 0xFFFF then
    .error (.valueError ("instruction word out of range: ".toList ++ Text.decimal word))
  else
    match instructions.filterMap fun entry => (decodeEntry entry word).map (entry, ·) with
    | [] => .ok none
    | [decoded] => .ok (some decoded)
    | _ => .error (.isaDatabaseError ("ambiguous decode at 0x".toList ++ Text.hexDigits 4 word))

/-! ## Uniqueness -/

/-- The fixed bits of the patterns differ. -/
def Pattern.apart (left right : Pattern) : Bool :=
  (left.value ^^^ right.value) &&& (left.mask &&& right.mask) != 0

/-- Every word of the first pattern is one of the second. -/
def Pattern.within (left right : Pattern) : Bool :=
  left.mask &&& right.mask == right.mask && left.value &&& right.mask == right.value

/-- A constraint of the entry forbids every word of the pattern. -/
def Entry.leaves (entry : Entry) (pattern : Pattern) : Bool :=
  entry.constraints.any fun constraint =>
    match constraint.demand with
    | .require _ => false
    | .forbid forbidden => pattern.within constraint.whenever && pattern.within forbidden

/-- No word can be decoded by both entries. -/
def Entry.apart (left right : Entry) : Bool :=
  left.opcode.apart right.opcode || left.leaves right.opcode || right.leaves left.opcode

theorem Pattern.not_both {left right : Pattern} (different : left.apart right = true) {word : ℕ}
    (first : word &&& left.mask = left.value &&& left.mask)
    (second : word &&& right.mask = right.value &&& right.mask) : False := by
  unfold Pattern.apart at different
  rw [bne_iff_ne] at different
  apply different
  apply Nat.eq_of_testBit_eq
  intro k
  have atFirst := congrArg (Nat.testBit · k) first
  have atSecond := congrArg (Nat.testBit · k) second
  simp only [Nat.testBit_and] at atFirst atSecond
  simp only [Nat.testBit_and, Nat.testBit_xor, Nat.zero_testBit]
  cases leftBit : left.mask.testBit k
  · simp
  · cases rightBit : right.mask.testBit k
    · simp
    · rw [leftBit, Bool.and_true, Bool.and_true] at atFirst
      rw [rightBit, Bool.and_true, Bool.and_true] at atSecond
      rw [← atFirst, ← atSecond, Bool.xor_self, Bool.false_and]

theorem Pattern.holds_of_within {left right : Pattern} (inside : left.within right = true)
    {word : ℕ} (matched : word &&& left.mask = left.value &&& left.mask) :
    right.holds word = true := by
  unfold Pattern.within at inside
  rw [Bool.and_eq_true, beq_iff_eq, beq_iff_eq] at inside
  rcases inside with ⟨masks, values⟩
  unfold Pattern.holds
  rw [beq_iff_eq]
  calc word &&& right.mask
      = word &&& (left.mask &&& right.mask) := by rw [masks]
    _ = left.value &&& left.mask &&& right.mask := by rw [← Nat.and_assoc, matched]
    _ = right.value := by rw [Nat.and_assoc, masks, values]

theorem decodeEntry_matches {entry : Entry} {word : ℕ} {fields : Fields}
    (decoded : decodeEntry entry word = some fields) :
    word &&& entry.opcode.mask = entry.opcode.value &&& entry.opcode.mask ∧
      (∀ constraint ∈ entry.constraints, constraint.satisfied word = true) ∧
      (∀ field ∈ entry.variableFields, field.legal word = true) ∧
      fields = entry.variableFields.map fun field => (field.name, field.raw word) := by
  unfold decodeEntry at decoded
  rw [Option.ite_none_right_eq_some, Bool.and_eq_true, Bool.and_eq_true, beq_iff_eq,
    List.all_eq_true, List.all_eq_true] at decoded
  rcases decoded with ⟨⟨⟨matched, satisfied⟩, legal⟩, same⟩
  exact ⟨matched, satisfied, legal, (Option.some.inj same).symm⟩

theorem Entry.not_leaves {entry : Entry} {pattern : Pattern}
    (leaves : entry.leaves pattern = true) {word : ℕ}
    (satisfied : ∀ constraint ∈ entry.constraints, constraint.satisfied word = true)
    (matched : word &&& pattern.mask = pattern.value &&& pattern.mask) : False := by
  rcases List.any_eq_true.mp leaves with ⟨constraint, among, forbids⟩
  have kept := satisfied constraint among
  unfold Constraint.satisfied at kept
  cases demand : constraint.demand with
  | require required => simp [demand] at forbids
  | forbid forbidden =>
      rw [demand] at forbids kept
      rw [Bool.and_eq_true] at forbids
      change (!constraint.whenever.holds word || !forbidden.holds word) = true at kept
      rw [Pattern.holds_of_within forbids.1 matched, Pattern.holds_of_within forbids.2 matched]
        at kept
      exact absurd kept (by decide)

/-- Entries that are apart do not decode the same word. -/
theorem Entry.apart_decodes {left right : Entry} (different : left.apart right = true) (word : ℕ) :
    decodeEntry left word = none ∨ decodeEntry right word = none := by
  cases first : decodeEntry left word with
  | none => exact Or.inl rfl
  | some _ =>
      cases second : decodeEntry right word with
      | none => exact Or.inr rfl
      | some _ =>
          rcases decodeEntry_matches first with ⟨leftMatched, leftSatisfied, -⟩
          rcases decodeEntry_matches second with ⟨rightMatched, rightSatisfied, -⟩
          unfold Entry.apart at different
          rw [Bool.or_eq_true, Bool.or_eq_true] at different
          rcases different with (bits | leaves) | leaves
          · exact (Pattern.not_both bits leftMatched rightMatched).elim
          · exact (Entry.not_leaves leaves leftSatisfied rightMatched).elim
          · exact (Entry.not_leaves leaves rightSatisfied leftMatched).elim

/-- At most one result is left when no two elements have one. -/
theorem filterMap_of_apart {α β : Type} {f : α → Option β} {xs : List α}
    (apart : xs.Pairwise fun x y => f x = none ∨ f y = none) :
    xs.filterMap f = [] ∨ ∃ x ∈ xs, ∃ y, f x = some y ∧ xs.filterMap f = [y] := by
  induction apart with
  | nil => exact Or.inl rfl
  | @cons x xs others _ ih =>
      cases result : f x with
      | none =>
          rw [List.filterMap_cons_none result]
          rcases ih with empty | ⟨z, among, y, found, only⟩
          · exact Or.inl empty
          · exact Or.inr ⟨z, List.mem_cons_of_mem x among, y, found, only⟩
      | some y =>
          have rest : xs.filterMap f = [] := by
            rw [List.filterMap_eq_nil_iff]
            intro z among
            exact (others z among).resolve_left (by simp [result])
          exact Or.inr ⟨x, List.mem_cons_self, y, result, by
            rw [List.filterMap_cons_some result, rest]⟩

theorem instructions_apart : instructions.Pairwise fun left right => left.apart right = true := by
  decide +kernel

/-- Every word is decoded by one entry or by none. -/
theorem decodeWord_cases {word : ℕ} (range : word ≤ 0xFFFF) :
    decodeWord word = .ok none ∨
      ∃ entry ∈ instructions, ∃ fields, decodeEntry entry word = some fields ∧
        decodeWord word = .ok (some (entry, fields)) := by
  have apart : instructions.Pairwise fun left right =>
      (decodeEntry left word).map (left, ·) = none ∨
        (decodeEntry right word).map (right, ·) = none :=
    instructions_apart.imp fun different => by
      simpa only [Option.map_eq_none_iff] using Entry.apart_decodes different word
  unfold decodeWord
  rw [if_neg (not_not.mpr range)]
  rcases filterMap_of_apart apart with none | ⟨entry, among, decoded, found, only⟩
  · rw [none]
    exact Or.inl rfl
  · rw [only]
    rcases Option.map_eq_some_iff.mp found with ⟨fields, same, rfl⟩
    exact Or.inr ⟨entry, among, fields, same, rfl⟩

end Tms32010.Tools
