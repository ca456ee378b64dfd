import Tms32010.Tools.Disassembler
import Tms32010.Tools.Row

/-!
# Reassembly of a word

Each row the disassembler writes for a word is assembled to that word: the fields it prints
are what the encoder adds to the fixed bits.
-/

namespace Tms32010.Tools

open Checks

/-! ## What a row is assembled to -/

/-- Words at consecutive locations. -/
def placed (location : ℕ) (words : List ℕ) : List (ℕ × ℤ) :=
  (words.zipIdx location).map fun pair => (pair.2, (pair.1 : ℤ))

theorem emit_placed {emission : Emission} (room : emission.location < programWords)
    (earlier : ∀ pair ∈ emission.words, pair.1 < emission.location) (word : ℤ)
    (line : SourceLine) :
    emit emission word line =
      .ok ⟨emission.words ++ [(emission.location, word)],
        emission.listing ++ [⟨emission.location, word, line⟩], emission.location + 1⟩ := by
  have fresh : emission.words.lookup emission.location = none := by
    rw [List.lookup_eq_none_iff]
    intro pair among
    have below := earlier pair among
    simp only [bne_iff_ne, ne_eq]
    omega
  unfold emit
  rw [if_neg (not_not.mpr room), fresh]
  rfl

/-- Both passes turn the row into the words at the current location. -/
structure Row.Restores [Interpreter] (row : Row) (words : List ℕ) : Prop where
  survey : ∀ symbols location line, location + words.length ≤ programWords →
    nextLocation symbols location row.text line = .ok (location + words.length)
  emits : ∀ symbols emission line, emission.location + words.length ≤ programWords →
    (∀ pair ∈ emission.words, pair.1 < emission.location) →
      ∃ listing, emitStatement symbols emission row.text line =
        .ok ⟨emission.words ++ placed emission.location words, listing,
          emission.location + words.length⟩

/-! ## Mnemonics -/

theorem mnemonicText_plain (m : Mnemonic) : ∀ c ∈ mnemonicText m, isPlain c = true := by
  cases m <;> exact plain_of_all rfl

theorem mnemonicText_ne_nil (m : Mnemonic) : mnemonicText m ≠ [] := by
  cases m <;> decide

theorem upper_mnemonicText [Interpreter] (m : Mnemonic) :
    Interpreter.upper (mnemonicText m) = mnemonicText m := by
  rw [upper_of_isPlain (mnemonicText_plain m)]
  cases m <;> decide

theorem mnemonicText_directive (m : Mnemonic) :
    mnemonicText m ≠ ".ORG".toList ∧ mnemonicText m ≠ ".WORD".toList := by
  cases m <;> decide

theorem mnemonicText_sst {m : Mnemonic} (stores : mnemonicText m = "SST".toList) : m = .sst := by
  cases m <;> first | rfl | exact absurd stores (by decide)

theorem mem_twoWordOperations (m : Mnemonic) :
    mnemonicText m ∈ twoWordOperations ↔ m.twoWordControlFlow = true := by
  cases m <;> decide

/-- The mnemonics tell the entries apart. -/
theorem findEntry_mnemonicText {entry : Entry} (among : entry ∈ instructions) :
    findEntry (mnemonicText entry.mnemonic) = some entry := by
  revert entry
  decide +kernel

theorem wordCount_eq {entry : Entry} (among : entry ∈ instructions) :
    entry.wordCount = if entry.mnemonic.twoWordControlFlow then 2 else 1 := by
  revert entry
  decide +kernel

/-- The row of a mnemonic with operands. -/
def instructionRow (m : Mnemonic) (operands : List Text) (nonempty : ∀ text ∈ operands, text ≠ [])
    (plain : ∀ text ∈ operands, ∀ c ∈ text, isPlain c = true) : Row :=
  ⟨mnemonicText m, operands, mnemonicText_ne_nil m, mnemonicText_plain m, nonempty, plain⟩

section Instruction

variable {entry : Entry} {operands : List Text} {nonempty : ∀ text ∈ operands, text ≠ []}
  {plain : ∀ text ∈ operands, ∀ c ∈ text, isPlain c = true}

/-- The number of operands is one the definitions allow. -/
def accepts (definitions : List Operand) (count : ℕ) : Bool :=
  decide ((definitions.filter fun item => !item.optional).length ≤ count ∧
    count ≤ definitions.length)

theorem validate_row (among : entry ∈ instructions)
    (count : accepts entry.operands operands.length = true)
    (line : SourceLine) :
    validateInstructionShape (mnemonicText entry.mnemonic)
      (instructionRow entry.mnemonic operands nonempty plain).operandText line = .ok entry := by
  unfold validateInstructionShape
  rw [findEntry_mnemonicText among]
  dsimp only
  rw [Row.instructionOperands_operandText]
  exact if_pos (of_decide_eq_true count)

variable [Interpreter]

/-- The operation of an instruction row is its mnemonic, which is no directive. -/
theorem splitOperation_row :
    splitOperation (instructionRow entry.mnemonic operands nonempty plain).text =
      (mnemonicText entry.mnemonic,
        (instructionRow entry.mnemonic operands nonempty plain).operandText) := by
  rw [Row.splitOperation_text]
  exact congrArg (·, _) (upper_mnemonicText entry.mnemonic)

theorem survey_row (among : entry ∈ instructions)
    (count : accepts entry.operands operands.length = true)
    (symbols : List (Text × ℕ)) (location : ℕ) (line : SourceLine)
    (room : location + entry.wordCount ≤ programWords) :
    nextLocation symbols location (instructionRow entry.mnemonic operands nonempty plain).text
      line = .ok (location + entry.wordCount) := by
  have directive := mnemonicText_directive entry.mnemonic
  unfold nextLocation
  rw [splitOperation_row]
  dsimp only
  rw [if_neg directive.1, if_neg directive.2, validate_row among count]
  exact if_pos room

theorem encode_row (among : entry ∈ instructions)
    (count : accepts entry.operands operands.length = true)
    {bits : ℕ} (symbols : List (Text × ℕ)) (location : ℕ) (line : SourceLine)
    (encodes : operandBits symbols location line entry.mnemonic
      (instructionRow entry.mnemonic operands nonempty plain).operandText operands = .ok bits) :
    encode symbols location line (mnemonicText entry.mnemonic)
      (instructionRow entry.mnemonic operands nonempty plain).operandText =
        .ok (entry.opcode.value ||| bits) := by
  have listed : instructionOperands
      (instructionRow entry.mnemonic operands nonempty plain).operandText line = .ok operands :=
    Row.instructionOperands_operandText _ line
  unfold encode
  rw [validate_row among count, listed, ok_bind, ok_bind, encodes]
  rfl

/-- A row of one word is assembled to the fixed bits and the bits of its operands. -/
theorem restores_instruction (among : entry ∈ instructions)
    (one : entry.mnemonic.twoWordControlFlow = false)
    (count : accepts entry.operands operands.length = true)
    {bits word : ℕ}
    (encodes : ∀ symbols location line, operandBits symbols location line entry.mnemonic
      (instructionRow entry.mnemonic operands nonempty plain).operandText operands = .ok bits)
    (whole : entry.opcode.value ||| bits = word) :
    (instructionRow entry.mnemonic operands nonempty plain).Restores [word] where
  survey symbols location line room := by
    have length : entry.wordCount = 1 := by rw [wordCount_eq among, one]; rfl
    have surveyed : nextLocation symbols location
        (instructionRow entry.mnemonic operands nonempty plain).text line =
          .ok (location + entry.wordCount) :=
      survey_row among count symbols location line (by rw [length]; exact room)
    rw [length] at surveyed
    exact surveyed
  emits symbols emission line room earlier := by
    have directive := mnemonicText_directive entry.mnemonic
    have inside : emission.location < programWords := room
    unfold emitStatement
    rw [splitOperation_row]
    dsimp only
    rw [if_neg directive.1, if_neg directive.2,
      encode_row among count symbols emission.location line (encodes _ _ _), whole]
    rw [ok_bind, emit_placed inside earlier, ok_bind, if_neg (by simp [mem_twoWordOperations, one])]
    exact ⟨_, rfl⟩

/-- A row of two words is assembled to the opcode and the value of its operand. -/
theorem restores_branch (among : entry ∈ instructions)
    (two : entry.mnemonic.twoWordControlFlow = true)
    (count : accepts entry.operands operands.length = true)
    {target : ℕ}
    (encodes : ∀ symbols location line, operandBits symbols location line entry.mnemonic
      (instructionRow entry.mnemonic operands nonempty plain).operandText operands = .ok 0)
    (evaluates : ∀ symbols location line,
      evaluate .assemble (instructionRow entry.mnemonic operands nonempty plain).operandText symbols
        location line = .ok (target : ℤ)) :
    (instructionRow entry.mnemonic operands nonempty plain).Restores [entry.opcode.value, target]
    where
  survey symbols location line room := by
    have length : entry.wordCount = 2 := by rw [wordCount_eq among, two]; rfl
    have surveyed : nextLocation symbols location
        (instructionRow entry.mnemonic operands nonempty plain).text line =
          .ok (location + entry.wordCount) :=
      survey_row among count symbols location line (by rw [length]; exact room)
    rw [length] at surveyed
    exact surveyed
  emits symbols emission line room earlier := by
    have directive := mnemonicText_directive entry.mnemonic
    have inside : emission.location + 1 < programWords := room
    unfold emitStatement
    rw [splitOperation_row]
    dsimp only
    rw [if_neg directive.1, if_neg directive.2,
      encode_row among count symbols emission.location line (encodes _ _ _), Nat.or_zero]
    rw [ok_bind, emit_placed (by omega) earlier, ok_bind,
      if_pos ((mem_twoWordOperations _).mpr two), evaluates, ok_bind, emit_placed inside]
    · exact ⟨_, by rw [List.append_assoc]; rfl⟩
    · intro pair present
      rw [List.mem_append, List.mem_singleton] at present
      rcases present with old | rfl
      · exact Nat.lt_succ_of_lt (earlier pair old)
      · exact Nat.lt_succ_self _

end Instruction

/-! ## Numbers as operands -/

theorem decimal_plain (n : ℕ) : ∀ c ∈ Text.decimal n, isPlain c = true := fun c among =>
  isPlain_of_isAlphanum (by simp [Char.isAlphanum, Text.isDigit_of_mem_decimal among])

theorem decimal_short {n : ℕ} (small : n ≤ 0xFFFF) : (Text.decimal n).length ≤ 5 :=
  (Nat.length_toDigits_le_iff (by decide) (by decide)).mpr (by omega)

theorem signed_natCast (n : ℕ) : Text.signed (n : ℤ) = Text.decimal n := by
  rw [Text.signed, if_neg (by omega), Int.natAbs_natCast]

theorem signed_plain (z : ℤ) : ∀ c ∈ Text.signed z, isPlain c = true := by
  unfold Text.signed
  split_ifs with negative
  · intro c among
    rcases List.mem_cons.mp among with rfl | digit
    · decide
    · exact decimal_plain _ c digit
  · exact decimal_plain _

theorem signed_ne_nil (z : ℤ) : Text.signed z ≠ [] := by
  unfold Text.signed
  split_ifs with negative
  · simp
  · exact Text.decimal_ne_nil _

theorem checked_of_le [Interpreter] {value low high : ℤ} (above : low ≤ value)
    (below : value ≤ high) (line : SourceLine) (message : Text) :
    checked value low high line message = .ok value.toNat :=
  if_pos ⟨above, below⟩

section Values

variable [Interpreter] (site : CallSite) (symbols : List (Text × ℕ)) (location : ℕ)
  (line : SourceLine)

theorem evaluate_decimal {n : ℕ} (small : n ≤ 0xFFFF) :
    evaluate site (Text.decimal n) symbols location line = .ok (n : ℤ) :=
  evaluate_literal site symbols location line (isLiteral_decimal n) (decimal_plain n)
    (Nat.le_trans (decimal_short small) (by decide))

theorem evaluate_signed {z : ℤ} (small : z.natAbs ≤ 0xFFFF) :
    evaluate site (Text.signed z) symbols location line = .ok z := by
  unfold Text.signed
  split_ifs with negative
  · rw [evaluate_negated site symbols location line (isLiteral_decimal _) (decimal_plain _)
      (Nat.lt_of_le_of_lt (decimal_short small) (by decide))]
    congr 1
    omega
  · rw [evaluate_decimal site symbols location line small]
    congr 1
    omega

end Values

/-! ## Data operands -/

section DataOperand

theorem decimal_head_isDigit (n : ℕ) : ∀ c ∈ (Text.decimal n).head?, c.isDigit = true :=
  fun _ among => Text.isDigit_of_mem_decimal (List.mem_of_mem_head? among)

/-- The blanks a data operand may have are none in a plain one. -/
theorem filter_blank {text : Text} (plain : ∀ c ∈ text, isPlain c = true) :
    text.filter (· ≠ ' ') = text := by
  rw [List.filter_eq_self]
  intro c among
  rw [decide_eq_true_eq]
  exact ne_of_isPlain (plain c among) (by decide)

theorem toUpper_of_isDigit {c : Char} (digit : c.isDigit = true) : c.toUpper = c := by
  simp only [Char.isDigit, Bool.and_eq_true, decide_eq_true_eq, ge_iff_le,
    UInt32.le_iff_toNat_le] at digit
  unfold Char.toUpper
  rw [dif_neg]
  simp only [UInt32.le_iff_toNat_le, not_and]
  intro lower
  have low : 97 ≤ c.val.toNat := lower
  have high : c.val.toNat ≤ 57 := digit.2
  omega

variable [Interpreter] (symbols : List (Text × ℕ)) (location : ℕ) (line : SourceLine)

/-- A direct address is no modifier. -/
theorem indirectControl?_decimal (n : ℕ) :
    indirectControl? (Interpreter.upper (Text.decimal n)) = none := by
  rw [upper_of_isPlain (decimal_plain n)]
  have starts : ∀ c ∈ (Text.upper (Text.decimal n)).head?, c ≠ '*' := by
    intro c among
    rw [Text.upper, List.head?_map] at among
    rcases Option.map_eq_some_iff.mp among with ⟨d, first, rfl⟩
    have digit := decimal_head_isDigit n d first
    rw [toUpper_of_isDigit digit]
    rintro rfl
    exact absurd digit (by decide)
  unfold indirectControl?
  split_ifs with plain increment decrement
  · rw [plain] at starts
    exact absurd rfl (starts '*' rfl)
  · rw [increment] at starts
    exact absurd rfl (starts '*' rfl)
  · rw [decrement] at starts
    exact absurd rfl (starts '*' rfl)
  · rfl

variable {operation : Text} {operands : List Text} {next : ℕ}

theorem encodeDataAddress_direct {a : ℕ} (first : operands[0]? = some (Text.decimal a))
    (short : operands.length ≤ next) (small : a ≤ if operation = "SST".toList then 15 else 127) :
    encodeDataAddress symbols location line operation operands next = .ok a := by
  unfold encodeDataAddress operand
  rw [first]
  dsimp only
  rw [ok_bind, filter_blank (decimal_plain a), indirectControl?_decimal]
  dsimp only
  rw [if_neg (Nat.not_lt.mpr short), evaluate_decimal, ok_bind,
    checked_of_le (by omega) (by exact_mod_cast small), Int.toNat_natCast]
  split_ifs at small <;> omega

theorem encodeDataAddress_kept {text : Text} {control : ℕ} (first : operands[0]? = some text)
    (plain : ∀ c ∈ text, isPlain c = true) (upper : Interpreter.upper text = text)
    (modifier : indirectControl? text = some control) (short : operands.length ≤ next) :
    encodeDataAddress symbols location line operation operands next = .ok control := by
  unfold encodeDataAddress operand
  rw [first]
  dsimp only
  rw [ok_bind, filter_blank plain, upper, modifier, List.getElem?_eq_none short]
  rfl

theorem encodeDataAddress_next {text : Text} {control arp : ℕ} (first : operands[0]? = some text)
    (plain : ∀ c ∈ text, isPlain c = true) (upper : Interpreter.upper text = text)
    (modifier : indirectControl? text = some control)
    (last : operands[next]? = some (Text.decimal arp)) (bit : arp ≤ 1) :
    encodeDataAddress symbols location line operation operands next =
      .ok ((control &&& 0xF6) ||| arp) := by
  have value : nextArp symbols location line operation (Text.decimal arp) = .ok arp := by
    have spaces : Text.strip (Text.decimal arp) = Text.decimal arp :=
      Text.strip_of_plain fun c among => isSpace_of_isPlain (decimal_plain arp c among)
    have noRegister : ¬(Interpreter.upper (Text.decimal arp) = "AR0".toList ∨
        Interpreter.upper (Text.decimal arp) = "AR1".toList) := by
      rw [upper_of_isPlain (decimal_plain arp)]
      interval_cases arp <;> decide
    unfold nextArp
    rw [spaces, if_neg noRegister, evaluate_decimal _ _ _ _ (by omega), ok_bind]
    dsimp only
    rw [checked_of_le (by omega) (by exact_mod_cast bit), Int.toNat_natCast]
  unfold encodeDataAddress operand
  rw [first]
  dsimp only
  rw [ok_bind, filter_blank plain, upper, modifier]
  dsimp only
  rw [last]
  dsimp only
  rw [value]
  rfl

end DataOperand

/-! ## Slices of a word -/

theorem and_lowByte {word mask : ℕ} (low : 0xFF &&& mask = mask) :
    word &&& mask = word % 256 &&& mask := by
  have byte : word &&& 0xFF = word % 256 := Nat.and_two_pow_sub_one_eq_mod word 8
  calc word &&& mask
      = word &&& (0xFF &&& mask) := by rw [low]
    _ = word % 256 &&& mask := by rw [← Nat.and_assoc, byte]

theorem slice_shiftLeft (word lsb mask : ℕ) :
    ((word >>> lsb) &&& mask) <<< lsb = word &&& (mask <<< lsb) := by
  apply Nat.eq_of_testBit_eq
  intro k
  rw [Nat.testBit_shiftLeft, Nat.testBit_and, Nat.testBit_and, Nat.testBit_shiftRight,
    Nat.testBit_shiftLeft]
  by_cases above : lsb ≤ k
  · rw [Nat.add_sub_cancel' above]
    simp [above]
  · simp [above]

/-- A word is its fixed bits, a field above the low byte and the low byte. -/
theorem word_of_slices {word value mask : ℕ} (field : ℕ) (range : word ≤ 0xFFFF)
    (fixed : word &&& mask = value) (covered : mask ||| (field <<< 8 ||| 0xFF) = 0xFFFF) :
    value ||| (((word >>> 8) &&& field) <<< 8 ||| word % 256) = word := by
  have byte : word &&& 0xFF = word % 256 := Nat.and_two_pow_sub_one_eq_mod word 8
  have whole : word &&& 0xFFFF = word := by
    rw [Nat.and_two_pow_sub_one_eq_mod word 16]
    omega
  rw [slice_shiftLeft, ← byte, ← fixed, ← Nat.and_or_distrib_left, ← Nat.and_or_distrib_left,
    covered, whole]

/-! ## Addressing bytes -/

/-- The texts of the modifiers and the control bytes they stand for. -/
theorem modifier_cases [Interpreter] {update : ℕ}
    (one : update = 0x00 ∨ update = 0x20 ∨ update = 0x10) :
    ∃ text, modifierText update = .ok text ∧ text ≠ [] ∧ (∀ c ∈ text, isPlain c = true) ∧
      Interpreter.upper text = text ∧ indirectControl? text = some (0x88 + update) := by
  have modifier {text : Text} (plain : ∀ c ∈ text, isPlain c = true)
      (same : Text.upper text = text) : Interpreter.upper text = text :=
    (upper_of_isPlain plain).trans same
  rcases one with rfl | rfl | rfl
  · exact ⟨"*".toList, rfl, by decide, plain_of_all rfl, modifier (plain_of_all rfl) rfl, rfl⟩
  · exact ⟨"*+".toList, rfl, by decide, plain_of_all rfl, modifier (plain_of_all rfl) rfl, rfl⟩
  · exact ⟨"*-".toList, rfl, by decide, plain_of_all rfl, modifier (plain_of_all rfl) rfl, rfl⟩

/-- The control byte of a modifier, with a kept or a selected register, is the low byte. -/
theorem indirect_lowByte (low : Fin 256) : low.val &&& 0x80 ≠ 0 → low.val &&& 0x46 = 0 →
    low.val &&& 0x30 ≠ 0x30 →
      (low.val &&& 0x7F &&& 0x30 = 0x00 ∨ low.val &&& 0x7F &&& 0x30 = 0x20 ∨
        low.val &&& 0x7F &&& 0x30 = 0x10) ∧
      (low.val &&& 0x7F &&& 0x08 ≠ 0 → low.val &&& 0x7F &&& 1 = 0 →
        0x88 + (low.val &&& 0x7F &&& 0x30) = low) ∧
      (low.val &&& 0x7F &&& 0x08 = 0 →
        (0x88 + (low.val &&& 0x7F &&& 0x30) &&& 0xF6) ||| (low.val &&& 0x7F &&& 1) = low) := by
  revert low
  decide +kernel

theorem direct_lowByte (low : Fin 256) : low.val &&& 0x80 = 0 → low.val &&& 0x7F = low := by
  revert low
  decide +kernel

/-- What the constraints of a database entry say of its addressing byte. -/
structure AddressingByte (operation : Text) (word : ℕ) : Prop where
  reserved : word &&& 0x80 ≠ 0 → word &&& 0x46 = 0
  single : word &&& 0x80 ≠ 0 → word &&& 0x30 ≠ 0x30
  limit : word &&& 0x80 = 0 → word &&& 0x7F ≤ if operation = "SST".toList then 15 else 127

/-! ## Operand lists -/

theorem intercalate_cons (first : Text) (rest : List Text) :
    List.intercalate [','] (first :: rest) = first ++ rest.flatMap (',' :: ·) := by
  induction rest generalizing first with
  | nil => simp
  | cons second rest ih => rw [List.intercalate_cons_cons, ih]; simp

/-- The operands before the data operand are followed by a comma, those after it preceded. -/
theorem intercalate_operands (lead : List Text) (data : Text) (rest : List Text) :
    List.intercalate [','] (lead ++ data :: rest) =
      lead.flatMap (· ++ [',']) ++ (data ++ rest.flatMap (',' :: ·)) := by
  induction lead with
  | nil => exact intercalate_cons data rest
  | cons first lead ih =>
      rw [List.cons_append, List.intercalate_cons_of_ne_nil (by simp), ih]
      simp

theorem instructionRow_text {m : Mnemonic} {operands : List Text} (some : operands ≠ [])
    {nonempty : ∀ text ∈ operands, text ≠ []}
    {plain : ∀ text ∈ operands, ∀ c ∈ text, isPlain c = true} :
    (instructionRow m operands nonempty plain).text =
      mnemonicText m ++ ' ' :: List.intercalate [','] operands :=
  if_neg some

/-! ## Rows of a word -/

/-- The row is written for the word and assembled to it. -/
def RowOf [Interpreter] (text : Except Failure Text) (words : List ℕ) : Prop :=
  ∃ row : Row, text = .ok row.text ∧ row.Restores words

theorem hexText_plain (digits word : ℕ) :
    ∀ c ∈ "0x".toList ++ Text.hexDigits digits word, isPlain c = true := by
  rw [List.forall_mem_append]
  constructor
  · exact plain_of_all rfl
  · intro c digit
    exact isPlain_of_isAlphanum (Text.hexDigits_plain c digit)

theorem hexText_short {digits : ℕ} (few : digits ≤ 4) (word : ℕ) :
    ("0x".toList ++ Text.hexDigits digits word).length ≤ 100 := by
  rw [List.length_append, Text.hexDigits_length]
  exact Nat.le_trans (Nat.add_le_add_left few 2) (by decide)

/-- The row of a data directive. -/
def wordRow (word : ℕ) : Row where
  operation := ".word".toList
  operands := ["0x".toList ++ Text.hexDigits 4 word]
  operation_ne := by decide
  operation_plain := plain_of_all rfl
  operands_ne := by simp
  operands_plain text among := by
    rw [List.mem_singleton.mp among]
    exact hexText_plain 4 word

theorem splitOperation_wordRow [Interpreter] (word : ℕ) :
    splitOperation (wordRow word).text = (".WORD".toList, (wordRow word).operandText) := by
  rw [Row.splitOperation_text, upper_of_isPlain (wordRow word).operation_plain]
  rfl

theorem wordRow_restores [Interpreter] {word : ℕ} (range : word ≤ 0xFFFF) :
    (wordRow word).Restores [word] where
  survey symbols location line room := by
    unfold nextLocation
    rw [splitOperation_wordRow]
    dsimp only
    rw [if_neg (by decide), if_pos rfl,
      Row.operandList_operandText _ line (by simp [wordRow])]
    exact if_pos room
  emits symbols emission line room earlier := by
    have value : evaluate .comprehension ("0x".toList ++ Text.hexDigits 4 word) symbols
        (emission.location + 0) line = .ok (word : ℤ) :=
      evaluate_literal _ _ _ _ (isLiteral_hexDigits (by decide) (by omega)) (hexText_plain 4 word)
        (hexText_short (by decide) word)
    have values : ([("0x".toList ++ Text.hexDigits 4 word, 0)] : List (Text × ℕ)).mapM
        (fun item => evaluate .comprehension item.1 symbols (emission.location + item.2) line) =
          .ok [(word : ℤ)] := by
      rw [List.mapM_cons]
      dsimp only
      rw [value]
      rfl
    unfold emitStatement
    rw [splitOperation_wordRow]
    dsimp only
    rw [if_neg (by decide), if_pos rfl,
      Row.operandList_operandText _ line (by simp [wordRow]), ok_bind]
    change ∃ listing, (([("0x".toList ++ Text.hexDigits 4 word, 0)] : List (Text × ℕ)).mapM
        (fun item => evaluate .comprehension item.1 symbols (emission.location + item.2) line)
        >>= fun values => values.foldlM (emitValue line) emission) = _
    rw [values, ok_bind, List.foldlM_cons, emitValue,
      checked_of_le (by omega) (by omega), ok_bind, emit_placed room earlier]
    exact ⟨_, rfl⟩

theorem bit_seven_eq (word : ℕ) : ((word >>> 7 &&& 1 : ℕ) : ℤ) = 0 ↔ word &&& 0x80 = 0 := by
  have slice := slice_shiftLeft word 7 1
  rw [Nat.shiftLeft_eq] at slice
  have value : (1 : ℕ) <<< 7 = 0x80 := rfl
  rw [value] at slice
  rw [← slice]
  omega

section Addressed

variable [Interpreter] {entry : Entry} {fields : Fields} {word extra next : ℕ}
  {lead suffix filled : List Text}

/-- A row whose data operand is encoded as the low byte restores the word. -/
theorem addressed_restores (among : entry ∈ instructions)
    (one : entry.mnemonic.twoWordControlFlow = false) {data : Text} {tail : List Text}
    (nonempty : ∀ text ∈ lead ++ data :: tail, text ≠ [])
    (plain : ∀ text ∈ lead ++ data :: tail, ∀ c ∈ text, isPlain c = true)
    (count : accepts entry.operands (lead ++ data :: tail).length = true)
    (encodes : ∀ symbols location line operandText,
      operandBits symbols location line entry.mnemonic operandText (lead ++ data :: tail) =
        .ok (extra ||| word % 256))
    (whole : entry.opcode.value ||| (extra ||| word % 256) = word) :
    RowOf
      (.ok (mnemonicText entry.mnemonic ++
        ' ' :: (lead.flatMap (· ++ [',']) ++ (data ++ tail.flatMap (',' :: ·)))))
      [word] := by
  refine ⟨instructionRow entry.mnemonic (lead ++ data :: tail) nonempty plain, ?_, ?_⟩
  · rw [instructionRow_text (by simp), intercalate_operands]
  · exact restores_instruction among one count (fun symbols location line =>
      encodes symbols location line _) whole

/-- Every row of a word with an addressing byte restores it: `lead` are the operands before the
data operand, `suffix` those after it, or `filled` before a next auxiliary register. -/
theorem addressed_row (among : entry ∈ instructions) (range : word ≤ 0xFFFF)
    (one : entry.mnemonic.twoWordControlFlow = false)
    (indirect : fields.value .indirect = .ok ((word >>> 7 &&& 1 : ℕ) : ℤ))
    (field : fields.value .addressingField = .ok ((word &&& 0x7F : ℕ) : ℤ))
    (byte : AddressingByte (mnemonicText entry.mnemonic) word)
    (nonempty : ∀ text ∈ lead ++ suffix ++ filled, text ≠ [])
    (plain : ∀ text ∈ lead ++ suffix ++ filled, ∀ c ∈ text, isPlain c = true)
    (short : suffix.length < next) (position : filled.length + 1 = next)
    (plainCount : accepts entry.operands (lead.length + (suffix.length + 1)) = true)
    (filledCount : accepts entry.operands (lead.length + (filled.length + 1 + 1)) = true)
    (encodes : ∀ symbols location line operandText data tail bits,
      (tail = suffix ∨ ∃ arp, tail = filled ++ [arp]) →
        encodeDataAddress symbols location line (mnemonicText entry.mnemonic) (data :: tail)
          next = .ok bits →
        operandBits symbols location line entry.mnemonic operandText (lead ++ data :: tail) =
          .ok (extra ||| bits))
    (whole : entry.opcode.value ||| (extra ||| word % 256) = word) :
    RowOf
      (addressedText entry.mnemonic fields word (lead.flatMap (· ++ [',']))
        (suffix.flatMap (',' :: ·)) (filled.flatMap (',' :: ·)))
      [word] := by
  have lowBound : word % 256 < 256 := Nat.mod_lt _ (by decide)
  have slices : ∀ mask, 0xFF &&& mask = mask → word &&& mask = word % 256 &&& mask :=
    fun mask low => and_lowByte low
  have dataPlain : ∀ {data : Text} {tail : List Text}, data ≠ [] → (∀ c ∈ data, isPlain c = true) →
      (∀ text ∈ tail, text ≠ [] ∧ ∀ c ∈ text, isPlain c = true) →
      (∀ text ∈ lead ++ data :: tail, text ≠ []) ∧
        ∀ text ∈ lead ++ data :: tail, ∀ c ∈ text, isPlain c = true := by
    intro data tail dataNe dataChars tailGood
    constructor
    · intro text within
      rcases List.mem_append.mp within with before | within
      · exact nonempty text (by simp [before])
      · rcases List.mem_cons.mp within with rfl | after
        · exact dataNe
        · exact (tailGood text after).1
    · intro text within
      rcases List.mem_append.mp within with before | within
      · exact plain text (by simp [before])
      · rcases List.mem_cons.mp within with rfl | after
        · exact dataChars
        · exact (tailGood text after).2
  have suffixGood : ∀ text ∈ suffix, text ≠ [] ∧ ∀ c ∈ text, isPlain c = true := fun text within =>
    ⟨nonempty text (by simp [within]), plain text (by simp [within])⟩
  unfold addressedText
  rw [indirect, ok_bind, field, ok_bind, Int.toNat_natCast]
  simp only [bit_seven_eq]
  by_cases direct : word &&& 0x80 = 0
  · rw [if_pos direct]
    have low : word &&& 0x7F = word % 256 := by
      rw [slices 0x7F rfl]
      exact direct_lowByte ⟨word % 256, lowBound⟩ (by rw [← slices 0x80 rfl]; exact direct)
    have good := dataPlain (Text.decimal_ne_nil _) (decimal_plain (word &&& 0x7F)) suffixGood
    have row := addressed_restores among one good.1 good.2 (by simpa using plainCount)
      (fun symbols location line operandText =>
        encodes symbols location line operandText _ suffix _ (Or.inl rfl) (by
          rw [← low]
          exact encodeDataAddress_direct symbols location line rfl short (byte.limit direct)))
      whole
    rw [← List.append_assoc] at row
    exact row
  · rw [if_neg direct]
    have lowDirect : word % 256 &&& 0x80 ≠ 0 := by rw [← slices 0x80 rfl]; exact direct
    rcases indirect_lowByte ⟨word % 256, lowBound⟩ lowDirect
      (by rw [← slices 0x46 rfl]; exact byte.reserved direct)
      (by rw [← slices 0x30 rfl]; exact byte.single direct) with ⟨modifiers, kept, selected⟩
    dsimp only at modifiers kept selected
    rw [← slices 0x7F rfl] at modifiers kept selected
    rcases modifier_cases modifiers with ⟨text, printed, textNe, textPlain, textUpper, control⟩
    rw [printed, ok_bind]
    by_cases keeps : word &&& 0x7F &&& 0x08 = 0
    · rw [if_neg (not_not.mpr keeps)]
      have arpBit : word &&& 0x7F &&& 1 ≤ 1 := Nat.and_le_right
      have tailGood : ∀ other ∈ filled ++ [Text.decimal (word &&& 0x7F &&& 1)],
          other ≠ [] ∧ ∀ c ∈ other, isPlain c = true := by
        intro other within
        rcases List.mem_append.mp within with before | last
        · exact ⟨nonempty other (by simp [before]), plain other (by simp [before])⟩
        · rw [List.mem_singleton.mp last]
          exact ⟨Text.decimal_ne_nil _, decimal_plain _⟩
      have good := dataPlain textNe textPlain tailGood
      have row := addressed_restores among one good.1 good.2
        (by simpa [Nat.add_assoc] using filledCount)
        (fun symbols location line operandText =>
          encodes symbols location line operandText _ _ _ (Or.inr ⟨_, rfl⟩) (by
            rw [← selected keeps]
            exact encodeDataAddress_next symbols location line rfl textPlain textUpper control
              (by simp [← position]) arpBit))
        whole
      rw [List.flatMap_append, List.flatMap_singleton, ← List.append_assoc,
        ← List.append_assoc] at row
      exact row
    · rw [if_pos keeps]
      by_cases both : word &&& 0x7F &&& 1 = 0
      · rw [if_neg (not_not.mpr both)]
        have good := dataPlain textNe textPlain suffixGood
        have row := addressed_restores among one good.1 good.2 (by simpa using plainCount)
          (fun symbols location line operandText =>
            encodes symbols location line operandText _ suffix _ (Or.inl rfl) (by
              rw [← kept keeps both]
              exact encodeDataAddress_kept symbols location line rfl textPlain textUpper control
                short))
          whole
        rw [← List.append_assoc] at row
        exact row
      · rw [if_pos both]
        exact ⟨wordRow word, rfl, wordRow_restores range⟩

end Addressed

end Tms32010.Tools
