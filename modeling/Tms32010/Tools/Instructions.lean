import Tms32010.Tools.Reassembly

/-!
# Reassembly of every instruction

One lemma for each family of database entries, and from them the rows of every word and of
every two-word instruction.
-/

namespace Tms32010.Tools

open Checks

/-! ## Decoded fields -/

/-- The addressing byte of a decoded word. -/
theorem value_addressing {above : List Field} (word : ℕ)
    (other : ∀ field ∈ above, field.name ≠ .indirect ∧ field.name ≠ .addressingField) :
    let fields : Fields := (above ++ addressingFields).map fun field => (field.name, field.raw word)
    fields.value .indirect = .ok ((word >>> 7 &&& 1 : ℕ) : ℤ) ∧
      fields.value .addressingField = .ok ((word &&& 0x7F : ℕ) : ℤ) := by
  induction above with
  | nil => exact ⟨rfl, rfl⟩
  | cons first above ih =>
      have rest := ih fun field among => other field (List.mem_cons_of_mem first among)
      have here := other first List.mem_cons_self
      unfold Fields.value at rest ⊢
      simp only [List.cons_append, List.map_cons, List.lookup_cons]
      rw [beq_eq_false_iff_ne.mpr here.1.symm, beq_eq_false_iff_ne.mpr here.2.symm]
      exact rest

theorem Constraint.satisfied_require {whenever pattern : Pattern} {word : ℕ}
    (satisfied : Constraint.satisfied ⟨whenever, .require pattern⟩ word = true)
    (holds : word &&& whenever.mask = whenever.value) : word &&& pattern.mask = pattern.value := by
  unfold Constraint.satisfied at satisfied
  rw [Bool.or_eq_true, Bool.not_eq_true'] at satisfied
  rcases satisfied with skipped | kept
  · exact absurd holds (by simpa [Pattern.holds] using skipped)
  · exact beq_iff_eq.mp kept

theorem Constraint.satisfied_forbid {whenever pattern : Pattern} {word : ℕ}
    (satisfied : Constraint.satisfied ⟨whenever, .forbid pattern⟩ word = true)
    (holds : word &&& whenever.mask = whenever.value) : word &&& pattern.mask ≠ pattern.value := by
  unfold Constraint.satisfied at satisfied
  rw [Bool.or_eq_true, Bool.not_eq_true'] at satisfied
  rcases satisfied with skipped | kept
  · exact absurd holds (by simpa [Pattern.holds] using skipped)
  · simpa [Pattern.holds] using kept

theorem bit_seven_set {word : ℕ} (indirect : word &&& 0x80 ≠ 0) : word &&& 0x80 = 0x80 := by
  have slice := slice_shiftLeft word 7 1
  have bound : word >>> 7 &&& 1 ≤ 1 := Nat.and_le_right
  rw [Nat.shiftLeft_eq] at slice
  have value : (1 : ℕ) <<< 7 = 0x80 := rfl
  rw [value] at slice
  omega

section Families

variable {m : Mnemonic} {opcode : Pattern} {above : List Field} {definitions : List Operand}
  {constraints : List Constraint} {fields : Fields} {word : ℕ}

theorem fixed_bits {entry : Entry} (among : entry ∈ instructions)
    (decoded : decodeEntry entry word = some fields) :
    word &&& entry.opcode.mask = entry.opcode.value := by
  have values : ∀ entry ∈ instructions,
      entry.opcode.value &&& entry.opcode.mask = entry.opcode.value := by decide +kernel
  rw [(decodeEntry_matches decoded).1, values entry among]

theorem registerText_plain (register : ℕ) :
    ∀ c ∈ "AR".toList ++ Text.decimal register, isPlain c = true := by
  rw [List.forall_mem_append]
  constructor
  · exact plain_of_all rfl
  · exact decimal_plain register

theorem word_of_low {value mask field : ℕ} (range : word ≤ 0xFFFF) (fixed : word &&& mask = value)
    (covered : mask ||| field = 0xFFFF) : value ||| (word &&& field) = word := by
  have whole : word &&& 0xFFFF = word := by
    rw [Nat.and_two_pow_sub_one_eq_mod word 16]
    omega
  rw [← fixed, ← Nat.and_or_distrib_left, covered, whole]

variable [Interpreter]

/-- A word decoded by an entry with an addressing byte, whatever else the entry has. -/
theorem addressedEntry_row (lead suffix filled : List Text) (next extra : ℕ)
    (among : addressedEntry m opcode above definitions constraints ∈ instructions)
    (range : word ≤ 0xFFFF)
    (decoded : decodeEntry (addressedEntry m opcode above definitions constraints) word =
      some fields)
    (other : ∀ field ∈ above, field.name ≠ .indirect ∧ field.name ≠ .addressingField)
    (one : m.twoWordControlFlow = false)
    (status : m = .sst → word &&& 0x80 = 0 → word &&& 0x7F ≤ 15)
    (nonempty : ∀ text ∈ lead ++ suffix ++ filled, text ≠ [])
    (plain : ∀ text ∈ lead ++ suffix ++ filled, ∀ c ∈ text, isPlain c = true)
    (short : suffix.length < next) (position : filled.length + 1 = next)
    (plainCount : accepts definitions (lead.length + (suffix.length + 1)) = true)
    (filledCount : accepts definitions (lead.length + (filled.length + 1 + 1)) = true)
    (encodes : ∀ symbols location line operandText data tail bits,
      (tail = suffix ∨ ∃ arp, tail = filled ++ [arp]) →
        encodeDataAddress symbols location line (mnemonicText m) (data :: tail) next = .ok bits →
        operandBits symbols location line m operandText (lead ++ data :: tail) =
          .ok (extra ||| bits))
    (whole : opcode.value ||| (extra ||| word % 256) = word) :
    RowOf
      (addressedText m fields word (lead.flatMap (· ++ [','])) (suffix.flatMap (',' :: ·))
        (filled.flatMap (',' :: ·)))
      [word] := by
  rcases decodeEntry_matches decoded with ⟨-, satisfied, -, rfl⟩
  have values := value_addressing word other
  have reserved : word &&& 0x80 ≠ 0 → word &&& 0x46 = 0 := fun indirect =>
    Constraint.satisfied_require
      (satisfied ⟨⟨0x80, 0x80⟩, .require ⟨0x46, 0⟩⟩
        (by simp [addressedEntry, addressingConstraints]))
      (bit_seven_set indirect)
  have single : word &&& 0x80 ≠ 0 → word &&& 0x30 ≠ 0x30 := fun indirect =>
    Constraint.satisfied_forbid
      (satisfied ⟨⟨0x80, 0x80⟩, .forbid ⟨0x30, 0x30⟩⟩
        (by simp [addressedEntry, addressingConstraints]))
      (bit_seven_set indirect)
  have limit : word &&& 0x80 = 0 →
      word &&& 0x7F ≤ if mnemonicText m = "SST".toList then 15 else 127 := by
    intro direct
    split_ifs with stores
    · exact status (mnemonicText_sst stores) direct
    · exact Nat.and_le_right
  exact addressed_row among range one values.1 values.2 ⟨reserved, single, limit⟩ nonempty plain
    short position plainCount filledCount encodes whole

/-- The families whose data operand stands alone. -/
theorem data_row {value : ℕ}
    (among : addressedEntry m ⟨0xFF00, value⟩ [] dataOperands constraints ∈ instructions)
    (range : word ≤ 0xFFFF)
    (decoded : decodeEntry (addressedEntry m ⟨0xFF00, value⟩ [] dataOperands constraints) word =
      some fields)
    (one : m.twoWordControlFlow = false)
    (status : m = .sst → word &&& 0x80 = 0 → word &&& 0x7F ≤ 15)
    (encodes : ∀ symbols location line operandText operands,
      operandBits symbols location line m operandText operands =
        encodeDataAddress symbols location line (mnemonicText m) operands 1)
    (printed : decodedText m fields word = addressedText m fields word [] [] []) :
    RowOf (decodedText m fields word) [word] := by
  have fixed : word &&& 0xFF00 = value := fixed_bits among decoded
  have whole : value ||| (0 ||| word % 256) = word := by
    have slices := word_of_slices 0 range fixed rfl
    rwa [Nat.and_zero, Nat.zero_shiftLeft] at slices
  rw [printed]
  exact addressedEntry_row [] [] [] 1 0 among range
    decoded (by simp) one status (by simp) (by simp) (by decide) rfl rfl rfl
    (fun symbols location line operandText data tail bits _ address => by
      rw [encodes, Nat.zero_or]
      exact address)
    whole

/-- The families with a shift between the fixed bits and the addressing byte. -/
theorem shift_row {value mask width : ℕ} {legalValues : Option (List ℤ)}
    (among : shiftEntry m ⟨mask, value⟩ width legalValues ∈ instructions)
    (range : word ≤ 0xFFFF)
    (decoded : decodeEntry (shiftEntry m ⟨mask, value⟩ width legalValues) word = some fields)
    (one : m.twoWordControlFlow = false) (status : m ≠ .sst)
    (covered : mask ||| ((2 ^ width - 1) <<< 8 ||| 0xFF) = 0xFFFF)
    (encodes : ∀ symbols location line operandText operands bits,
      optionalShift symbols location line operands =
          .ok ((word >>> 8 &&& (2 ^ width - 1) : ℕ) : ℤ) →
        encodeDataAddress symbols location line (mnemonicText m) operands 2 = .ok bits →
        operandBits symbols location line m operandText operands =
          .ok ((word >>> 8 &&& (2 ^ width - 1)) <<< 8 ||| bits))
    (printed : decodedText m fields word = shiftedText m fields word) :
    RowOf (decodedText m fields word) [word] := by
  have fixed : word &&& mask = value := fixed_bits among decoded
  have whole := word_of_slices _ range fixed covered
  have shifted : fields.value .shift = .ok ((word >>> 8 &&& (2 ^ width - 1) : ℕ) : ℤ) := by
    rw [(decodeEntry_matches decoded).2.2.2]
    rfl
  rw [printed, shiftedText, shifted, ok_bind]
  have small : word >>> 8 &&& (2 ^ width - 1) ≤ 0xFFFF :=
    Nat.le_trans Nat.and_le_left (Nat.le_trans (Nat.shiftRight_le word 8) range)
  generalize word >>> 8 &&& (2 ^ width - 1) = shift at encodes whole shifted small
  have row := addressedEntry_row [] (if shift = 0 then [] else [Text.decimal shift])
    [Text.decimal shift] 2 (shift <<< 8) among range decoded
    (by simp) one (fun same => absurd same status)
    (by split_ifs <;> simp [Text.decimal_ne_nil])
    (by split_ifs <;> simpa using decimal_plain shift)
    (by split_ifs <;> simp) rfl (by split_ifs <;> rfl) rfl
    (fun symbols location line operandText data tail bits tails address => by
      refine encodes symbols location line operandText _ bits ?_ address
      rcases tails with rfl | ⟨arp, rfl⟩
      · split_ifs with zero
        · rw [zero]
          rfl
        · exact evaluate_decimal _ symbols location line small
      · exact evaluate_decimal _ symbols location line small)
    whole
  have suffixText : (if (shift : ℤ) = 0 then [] else ',' :: Text.signed shift) =
      (if shift = 0 then [] else [Text.decimal shift]).flatMap (',' :: ·) := by
    rw [signed_natCast]
    by_cases zero : shift = 0
    · simp [zero]
    · simp [zero]
  have filledText : ',' :: Text.signed shift = [Text.decimal shift].flatMap (',' :: ·) := by
    rw [signed_natCast]
    simp
  rw [suffixText, filledText]
  exact row

/-- `SACL` prints a zero in the place of a shift. -/
theorem placeholder_row {value : ℕ}
    (among : addressedEntry .sacl ⟨0xFF00, value⟩ [] shiftedOperands constraints ∈ instructions)
    (range : word ≤ 0xFFFF)
    (decoded : decodeEntry (addressedEntry .sacl ⟨0xFF00, value⟩ [] shiftedOperands constraints)
      word = some fields) :
    RowOf (decodedText .sacl fields word) [word] := by
  have fixed : word &&& 0xFF00 = value := fixed_bits among decoded
  have whole : value ||| (0 ||| word % 256) = word := by
    have slices := word_of_slices 0 range fixed rfl
    rwa [Nat.and_zero, Nat.zero_shiftLeft] at slices
  exact addressedEntry_row [] [] ["0".toList] 2 0 among
    range decoded (by simp) rfl (fun same => by cases same) (by decide)
    (List.forall_mem_singleton.mpr (plain_of_all rfl)) (by decide) rfl rfl rfl
    (fun symbols location line operandText data tail bits tails address => by
      have zero : optionalShift symbols location line (data :: tail) = .ok 0 := by
        rcases tails with rfl | ⟨arp, rfl⟩
        · rfl
        · exact evaluate_decimal _ symbols location line (Nat.zero_le _)
      dsimp only [operandBits]
      rw [List.nil_append, zero, ok_bind, Nat.zero_or]
      exact address)
    whole

theorem ioPort_decimal {port : ℕ} (small : port ≤ 7) (line : SourceLine) :
    ioPort (Text.decimal port) line = .ok port := by
  have spaces : Text.strip (Text.decimal port) = Text.decimal port :=
    Text.strip_of_plain fun c among => isSpace_of_isPlain (decimal_plain port c among)
  have bare : (Text.upper (Text.decimal port)).take 2 ≠ "PA".toList := by
    interval_cases port <;> decide
  have number : portNumber? (Text.decimal port) = Text.int? (Text.upper (Text.decimal port)) := by
    unfold portNumber?
    rw [spaces, upper_of_isPlain (decimal_plain port)]
    dsimp only
    rw [if_neg bare]
    apply Interpreter.int_plain
    interval_cases port <;> exact plainText_of_isPlain (plain_of_all rfl) (by decide)
  unfold ioPort
  rw [number]
  interval_cases port <;> rfl

/-- `IN` and `OUT`. -/
theorem port_row {value : ℕ} (among : portEntry m value ∈ instructions) (range : word ≤ 0xFFFF)
    (decoded : decodeEntry (portEntry m value) word = some fields)
    (one : m.twoWordControlFlow = false) (status : m ≠ .sst)
    (encodes : ∀ symbols location line operandText data port rest bits,
      ioPort port line = .ok (word >>> 8 &&& 7) →
        encodeDataAddress symbols location line (mnemonicText m) (data :: port :: rest) 2 =
          .ok bits →
        operandBits symbols location line m operandText (data :: port :: rest) =
          .ok ((word >>> 8 &&& 7) <<< 8 ||| bits))
    (printed : ∀ port, fields.value .port = .ok port → decodedText m fields word =
      addressedText m fields word [] (',' :: Text.signed port) (',' :: Text.signed port)) :
    RowOf (decodedText m fields word) [word] := by
  have fixed : word &&& 0xF800 = value := fixed_bits among decoded
  have whole := word_of_slices 7 range fixed rfl
  have small : word >>> 8 &&& 7 ≤ 7 := Nat.and_le_right
  have selected : fields.value .port = .ok ((word >>> 8 &&& 7 : ℕ) : ℤ) := by
    rw [(decodeEntry_matches decoded).2.2.2]
    rfl
  rw [printed _ selected, signed_natCast]
  generalize word >>> 8 &&& 7 = port at encodes whole small
  have row := addressedEntry_row [] [Text.decimal port] [Text.decimal port] 2 (port <<< 8) among
    range decoded (by simp)
    one (fun same => absurd same status) (by simp [Text.decimal_ne_nil])
    (by simpa using decimal_plain port) (by simp) rfl rfl rfl
    (fun symbols location line operandText data tail bits tails address => by
      have shown := ioPort_decimal small line
      rcases tails with rfl | ⟨arp, rfl⟩
      · exact encodes symbols location line operandText data _ _ bits shown address
      · exact encodes symbols location line operandText data _ _ bits shown address)
    whole
  rw [List.flatMap_singleton] at row
  exact row

theorem auxiliaryRegister_decimal {register : ℕ} (small : register ≤ 1) (line : SourceLine) :
    auxiliaryRegister ("AR".toList ++ Text.decimal register) line = .ok register := by
  have plain := registerText_plain register
  unfold auxiliaryRegister
  rw [Text.strip_of_plain fun c among => isSpace_of_isPlain (plain c among),
    upper_of_isPlain plain]
  interval_cases register <;> rfl

/-- `LAR` and `SAR`. -/
theorem register_row {value : ℕ} (among : registerEntry m value ∈ instructions)
    (range : word ≤ 0xFFFF) (decoded : decodeEntry (registerEntry m value) word = some fields)
    (one : m.twoWordControlFlow = false) (status : m ≠ .sst)
    (encodes : ∀ symbols location line operandText register rest bits,
      auxiliaryRegister register line = .ok (word >>> 8 &&& 1) →
        encodeDataAddress symbols location line (mnemonicText m) rest 1 = .ok bits →
        operandBits symbols location line m operandText (register :: rest) =
          .ok ((word >>> 8 &&& 1) <<< 8 ||| bits))
    (printed : ∀ register, fields.value .auxiliaryRegister = .ok register →
      decodedText m fields word =
        addressedText m fields word ("AR".toList ++ Text.signed register ++ [',']) [] []) :
    RowOf (decodedText m fields word) [word] := by
  have fixed : word &&& 0xFE00 = value := fixed_bits among decoded
  have whole := word_of_slices 1 range fixed rfl
  have small : word >>> 8 &&& 1 ≤ 1 := Nat.and_le_right
  have selected : fields.value .auxiliaryRegister = .ok ((word >>> 8 &&& 1 : ℕ) : ℤ) := by
    rw [(decodeEntry_matches decoded).2.2.2]
    rfl
  rw [printed _ selected, signed_natCast]
  generalize word >>> 8 &&& 1 = register at encodes whole small
  have row := addressedEntry_row ["AR".toList ++ Text.decimal register] [] [] 1 (register <<< 8)
    among range decoded (by simp)
    one (fun same => absurd same status) (by simp) (by simpa using registerText_plain register)
    (by decide) rfl rfl rfl
    (fun symbols location line operandText data tail bits _ address =>
      encodes symbols location line operandText _ _ bits (auxiliaryRegister_decimal small line)
        address)
    whole
  rw [List.flatMap_singleton] at row
  exact row

/-- A row without an addressing byte. -/
theorem operands_row {entry : Entry} (operands : List Text) (among : entry ∈ instructions)
    (one : entry.mnemonic.twoWordControlFlow = false) (some : operands ≠ [])
    (nonempty : ∀ text ∈ operands, text ≠ [])
    (plain : ∀ text ∈ operands, ∀ c ∈ text, isPlain c = true)
    (count : accepts entry.operands operands.length = true) {bits : ℕ}
    (encodes : ∀ symbols location line,
      operandBits symbols location line entry.mnemonic (List.intercalate [','] operands) operands =
        .ok bits)
    (whole : entry.opcode.value ||| bits = word) :
    RowOf (.ok (mnemonicText entry.mnemonic ++ ' ' :: List.intercalate [','] operands)) [word] :=
  ⟨instructionRow entry.mnemonic operands nonempty plain, by rw [instructionRow_text some],
    restores_instruction among one count encodes whole⟩

/-- The families with one constant. -/
theorem constant_row {value mask width : ℕ} {signed : Bool}
    (among : constantEntry m ⟨mask, value⟩ width signed ∈ instructions)
    (range : word ≤ 0xFFFF)
    (decoded : decodeEntry (constantEntry m ⟨mask, value⟩ width signed) word = some fields)
    (one : m.twoWordControlFlow = false) (covered : mask ||| (2 ^ width - 1) = 0xFFFF)
    (encodes : ∀ symbols location line text,
      text = Text.signed (Field.raw ⟨.constant, 0, width, signed, none⟩ word) →
        operandBits symbols location line m text [text] = .ok (word &&& (2 ^ width - 1)))
    (printed : ∀ constant, fields.value .constant = .ok constant →
      decodedText m fields word = .ok (mnemonicText m ++ ' ' :: Text.signed constant)) :
    RowOf (decodedText m fields word) [word] := by
  have fixed : word &&& mask = value := fixed_bits among decoded
  have selected : fields.value .constant =
      .ok (Field.raw ⟨.constant, 0, width, signed, none⟩ word) := by
    rw [(decodeEntry_matches decoded).2.2.2]
    rfl
  rw [printed _ selected]
  generalize Field.raw ⟨.constant, 0, width, signed, none⟩ word = constant at encodes
  have row := operands_row [Text.signed constant] among one (by simp)
    (by simpa using signed_ne_nil constant) (by simpa using signed_plain constant) rfl
    (fun symbols location line => by
      rw [List.intercalate_singleton]
      exact encodes symbols location line _ rfl)
    (word_of_low range fixed covered)
  rw [List.intercalate_singleton] at row
  exact row

/-- `LARK` has a register and a constant. -/
theorem lark_row (among : larkEntry ∈ instructions) (range : word ≤ 0xFFFF)
    (decoded : decodeEntry larkEntry word = some fields) :
    RowOf (decodedText .lark fields word) [word] := by
  have fixed : word &&& 0xFE00 = 0x7000 := fixed_bits among decoded
  have byte : word &&& 0xFF = word % 256 := Nat.and_two_pow_sub_one_eq_mod word 8
  have whole := word_of_slices 1 range fixed rfl
  have small : word >>> 8 &&& 1 ≤ 1 := Nat.and_le_right
  have low : word % 256 ≤ 255 := by omega
  have values : fields.value .auxiliaryRegister = .ok ((word >>> 8 &&& 1 : ℕ) : ℤ) ∧
      fields.value .constant = .ok ((word % 256 : ℕ) : ℤ) := by
    rw [(decodeEntry_matches decoded).2.2.2, ← byte]
    exact ⟨rfl, rfl⟩
  dsimp only [decodedText]
  rw [values.1, ok_bind, values.2, ok_bind, signed_natCast, signed_natCast]
  generalize word >>> 8 &&& 1 = register at whole small
  generalize word % 256 = constant at whole low
  have row := operands_row
    ["AR".toList ++ Text.decimal register, Text.decimal constant] among rfl (by simp)
    (by simp [Text.decimal_ne_nil])
    (by
      intro text within
      rcases List.mem_cons.mp within with rfl | last
      · exact registerText_plain register
      · rw [List.mem_singleton.mp last]
        exact decimal_plain constant)
    rfl
    (fun symbols location line => by
      change (do
        let r ← auxiliaryRegister ("AR".toList ++ Text.decimal register) line
        let value ← checked (← evaluate .encode (Text.decimal constant) symbols location line) 0
          0xFF line "LARK constant out of range 0..255".toList
        return r <<< 8 ||| value) = Except.ok (register <<< 8 ||| constant)
      rw [auxiliaryRegister_decimal small, ok_bind, evaluate_decimal _ _ _ _ (by omega), ok_bind,
        checked_of_le (by omega) (by omega), ok_bind, Int.toNat_natCast]
      rfl)
    whole
  rw [List.intercalate_cons_cons, List.intercalate_singleton, List.append_assoc] at row
  exact row

/-- The words without operands. -/
theorem fixed_row {value : ℕ} (among : fixedEntry m value ∈ instructions)
    (range : word ≤ 0xFFFF) (decoded : decodeEntry (fixedEntry m value) word = some fields)
    (one : m.twoWordControlFlow = false)
    (encodes : ∀ symbols location line, operandBits symbols location line m [] [] = .ok 0)
    (printed : decodedText m fields word = .ok (mnemonicText m)) :
    RowOf (decodedText m fields word) [word] := by
  have fixed : word &&& 0xFFFF = value := fixed_bits among decoded
  have whole : value ||| 0 = word := by
    rw [Nat.or_zero, ← fixed, Nat.and_two_pow_sub_one_eq_mod word 16]
    omega
  rw [printed]
  exact ⟨instructionRow m [] (by simp) (by simp), rfl,
    restores_instruction among one rfl encodes whole⟩

end Families

/-! ## Every entry -/

/-- The mnemonics of the words without operands. -/
def fixedMnemonics : List Mnemonic :=
  [.nop, .zac, .rovm, .sovm, .dint, .eint, .pac, .apac, .spac, .cala, .ret, .pop, .push, .abs]

/-- The mnemonics with a data operand and nothing else. -/
def dataMnemonics : List Mnemonic :=
  [.addh, .adds, .and, .dmov, .ldp, .lst, .lt, .lta, .ltd, .mar, .mpy, .or, .sst, .subc, .subh,
    .subs, .tblr, .tblw, .xor, .zalh, .zals]

/-- Every entry belongs to one of the families. -/
theorem instructions_family : ∀ entry ∈ instructions,
    (entry.mnemonic ∈ fixedMnemonics ∧ entry = fixedEntry entry.mnemonic entry.opcode.value) ∨
    (entry.mnemonic.twoWordControlFlow = true ∧
      entry = branchEntry entry.mnemonic entry.opcode.value) ∨
    (entry.mnemonic ∈ dataMnemonics ∧ entry.mnemonic ≠ .sst ∧
      entry = addressedEntry entry.mnemonic ⟨0xFF00, entry.opcode.value⟩ [] dataOperands
        (entry.constraints.take (entry.constraints.length - 2))) ∨
    entry = sstEntry ∨
    (entry.mnemonic ∈ [Mnemonic.add, .lac, .sub] ∧
      entry = shiftEntry entry.mnemonic ⟨0xF000, entry.opcode.value⟩ 4 none) ∨
    entry = shiftEntry .sach ⟨0xF800, 0x5800⟩ 3 (some [0, 1, 4]) ∨
    entry = addressedEntry .sacl ⟨0xFF00, 0x5000⟩ [] shiftedOperands ∨
    (entry.mnemonic ∈ [Mnemonic.in, .out] ∧ entry = portEntry entry.mnemonic entry.opcode.value) ∨
    (entry.mnemonic ∈ [Mnemonic.lar, .sar] ∧
      entry = registerEntry entry.mnemonic entry.opcode.value) ∨
    entry = constantEntry .lack ⟨0xFF00, 0x7E00⟩ 8 false ∨
    (entry.mnemonic ∈ [Mnemonic.larp, .ldpk] ∧
      entry = constantEntry entry.mnemonic ⟨0xFFFE, entry.opcode.value⟩ 1 false) ∨
    entry = constantEntry .mpyk ⟨0xE000, 0x8000⟩ 13 true ∨
    entry = larkEntry := by
  decide +kernel

/-- The constraint of direct `SST`. -/
theorem status_lowByte (low : Fin 256) : low.val &&& 0x70 = 0 → low.val &&& 0x7F ≤ 15 := by
  revert low
  decide +kernel

section Entries

variable [Interpreter] {m : Mnemonic} {fields : Fields} {word : ℕ}

theorem shift_bits (accepted : m = .add ∨ m = .lac ∨ m = .sub) {shift bits : ℕ}
    (small : shift ≤ 15) {symbols : List (Text × ℕ)} {location : ℕ} {line : SourceLine}
    {operandText : Text} {operands : List Text}
    (shown : optionalShift symbols location line operands = .ok (shift : ℤ))
    (address : encodeDataAddress symbols location line (mnemonicText m) operands 2 = .ok bits) :
    operandBits symbols location line m operandText operands = .ok (shift <<< 8 ||| bits) := by
  have family : operandBits symbols location line m operandText operands = (do
      let shift ← checked (← optionalShift symbols location line operands) 0 15 line
        (mnemonicText m ++ " shift out of range 0..15".toList)
      return shift <<< 8 |||
        (← encodeDataAddress symbols location line (mnemonicText m) operands 2)) := by
    rcases accepted with rfl | rfl | rfl <;> rfl
  rw [family, shown, ok_bind, checked_of_le (by omega) (by omega), ok_bind, address, ok_bind,
    Int.toNat_natCast]
  rfl

theorem sach_bits {shift bits : ℕ} (legal : shift = 0 ∨ shift = 1 ∨ shift = 4)
    {symbols : List (Text × ℕ)} {location : ℕ} {line : SourceLine} {operandText : Text}
    {operands : List Text}
    (shown : optionalShift symbols location line operands = .ok (shift : ℤ))
    (address : encodeDataAddress symbols location line (mnemonicText .sach) operands 2 =
      .ok bits) :
    operandBits symbols location line .sach operandText operands = .ok (shift <<< 8 ||| bits) := by
  have kept : sachShift line (shift : ℤ) = .ok shift := by
    rw [sachShift, if_pos (by omega), Int.toNat_natCast]
  dsimp only [operandBits]
  rw [shown, ok_bind, kept, ok_bind, address]
  rfl

theorem lack_bits {constant : ℕ} (small : constant ≤ 0xFF) (symbols : List (Text × ℕ))
    (location : ℕ) (line : SourceLine) (operands : List Text) :
    operandBits symbols location line .lack (Text.signed constant) operands = .ok constant := by
  dsimp only [operandBits]
  rw [evaluate_signed _ _ _ _ (by omega), ok_bind, checked_of_le (by omega) (by omega),
    Int.toNat_natCast]

theorem bit_bits (accepted : m = .larp ∨ m = .ldpk) {constant : ℕ} (small : constant ≤ 1)
    (symbols : List (Text × ℕ)) (location : ℕ) (line : SourceLine) (operands : List Text) :
    operandBits symbols location line m (Text.signed constant) operands = .ok constant := by
  have plain := signed_plain constant
  have register : ¬(Interpreter.upper (Text.strip (Text.signed constant)) = "AR0".toList ∨
      Interpreter.upper (Text.strip (Text.signed constant)) = "AR1".toList) := by
    rw [Text.strip_of_plain fun c among => isSpace_of_isPlain (plain c among),
      upper_of_isPlain plain]
    interval_cases constant <;> decide
  rcases accepted with rfl | rfl
  · dsimp only [operandBits]
    rw [if_neg register, evaluate_signed _ _ _ _ (by omega), ok_bind,
      checked_of_le (by omega) (by omega), Int.toNat_natCast]
  · dsimp only [operandBits]
    rw [evaluate_signed _ _ _ _ (by omega), ok_bind, checked_of_le (by omega) (by omega),
      Int.toNat_natCast]

/-- The signed constant has the bits of the field. -/
theorem mpyk_bits (symbols : List (Text × ℕ)) (location : ℕ) (line : SourceLine)
    (operands : List Text) :
    operandBits symbols location line .mpyk
        (Text.signed (Field.raw ⟨.constant, 0, 13, true, none⟩ word)) operands =
      .ok (word &&& 0x1FFF) := by
  have bound : word &&& 0x1FFF ≤ 0x1FFF := Nat.and_le_right
  have sign := slice_shiftLeft (word &&& 0x1FFF) 12 1
  rw [Nat.shiftLeft_eq, Nat.shiftRight_eq_div_pow, Nat.and_one_is_mod] at sign
  have raw : Field.raw ⟨.constant, 0, 13, true, none⟩ word =
      if word &&& 0x1FFF &&& 0x1000 ≠ 0 then ((word &&& 0x1FFF : ℕ) : ℤ) - 0x2000
      else ((word &&& 0x1FFF : ℕ) : ℤ) := by
    simp [Field.raw]
  have value : (1 : ℕ) <<< 12 = 0x1000 := rfl
  rw [value] at sign
  dsimp only [operandBits]
  rw [raw, evaluate_signed _ _ _ _ (by split_ifs <;> omega), ok_bind]
  generalize word &&& 0x1FFF = constant at bound sign
  split_ifs with negative
  · rw [checked_of_le (by omega) (by omega), ok_bind]
    congr 1
    omega
  · rw [checked_of_le (by omega) (by omega), ok_bind]
    congr 1
    omega

/-- A word that one entry decodes, and that needs no second word, has its row. -/
theorem decoded_row {entry : Entry} (among : entry ∈ instructions) (range : word ≤ 0xFFFF)
    (decoded : decodeEntry entry word = some fields)
    (one : entry.mnemonic.twoWordControlFlow = false) :
    RowOf (decodedText entry.mnemonic fields word) [word] := by
  have family := instructions_family entry among
  generalize named : entry.mnemonic = m at family one ⊢
  generalize entry.opcode.value = value at family
  generalize entry.constraints.take (entry.constraints.length - 2) = constraints at family
  rcases family with ⟨kind, rfl⟩ | ⟨two, -⟩ | ⟨kind, status, rfl⟩ | rfl | ⟨kind, rfl⟩ | rfl | rfl |
    ⟨kind, rfl⟩ | ⟨kind, rfl⟩ | rfl | ⟨kind, rfl⟩ | rfl | rfl
  · have family : decodedText m fields word = .ok (mnemonicText m) ∧
        ∀ symbols location line, operandBits symbols location line m [] [] = .ok 0 := by
      cases m <;> first | exact ⟨rfl, fun _ _ _ => rfl⟩ | exact absurd kind (by decide)
    exact fixed_row among range decoded one family.2 family.1
  · rw [one] at two
    cases two
  · have family : decodedText m fields word = addressedText m fields word [] [] [] ∧
        ∀ symbols location line operandText operands,
          operandBits symbols location line m operandText operands =
            encodeDataAddress symbols location line (mnemonicText m) operands 1 := by
      cases m <;> first | exact ⟨rfl, fun _ _ _ _ _ => rfl⟩ | exact absurd kind (by decide)
    exact data_row among range decoded one (fun same => absurd same status) family.2 family.1
  · subst named
    refine data_row among range decoded rfl (fun _ direct => ?_) (fun _ _ _ _ _ => rfl) rfl
    have page := Constraint.satisfied_require
      ((decodeEntry_matches decoded).2.1 ⟨⟨0x80, 0⟩, .require ⟨0x70, 0⟩⟩ (by decide)) direct
    rw [and_lowByte rfl] at page ⊢
    exact status_lowByte ⟨word % 256, Nat.mod_lt _ (by decide)⟩ page
  · have family : decodedText m fields word = shiftedText m fields word ∧
        (m = .add ∨ m = .lac ∨ m = .sub) ∧ m ≠ .sst := by
      cases m <;> first | exact ⟨rfl, by decide, by decide⟩ | exact absurd kind (by decide)
    exact shift_row among range decoded one family.2.2 rfl
      (fun _ _ _ _ _ _ shown address => shift_bits family.2.1 Nat.and_le_right shown address)
      family.1
  · subst named
    have legal := (decodeEntry_matches decoded).2.2.1
      ⟨.shift, 8, 3, false, some [0, 1, 4]⟩ (by decide)
    have shifts : word >>> 8 &&& 7 = 0 ∨ word >>> 8 &&& 7 = 1 ∨ word >>> 8 &&& 7 = 4 := by
      have listed : ((word >>> 8 &&& 7 : ℕ) : ℤ) ∈ ([0, 1, 4] : List ℤ) :=
        List.contains_iff_mem.mp legal
      simp only [List.mem_cons, List.not_mem_nil, or_false] at listed
      omega
    exact shift_row among range decoded rfl (by decide) rfl
      (fun _ _ _ _ _ _ shown address => sach_bits shifts shown address) rfl
  · subst named
    exact placeholder_row among range decoded
  · have family : (∀ port, fields.value .port = .ok port → decodedText m fields word =
          addressedText m fields word [] (',' :: Text.signed port) (',' :: Text.signed port)) ∧
        m ≠ .sst ∧ (m = .in ∨ m = .out) := by
      cases m <;>
        first
        | exact ⟨fun _ shown => by dsimp only [decodedText]; rw [shown, ok_bind], by decide,
            by decide⟩
        | exact absurd kind (by decide)
    refine port_row among range decoded one family.2.1 ?_ family.1
    intro symbols location line operandText data port rest bits shown address
    rcases family.2.2 with rfl | rfl
    · dsimp only [operandBits, operand, List.getElem?_cons_succ, List.getElem?_cons_zero]
      rw [ok_bind, shown, ok_bind, address]
      rfl
    · dsimp only [operandBits, operand, List.getElem?_cons_succ, List.getElem?_cons_zero]
      rw [ok_bind, shown, ok_bind, address]
      rfl
  · have family : (∀ register, fields.value .auxiliaryRegister = .ok register →
          decodedText m fields word =
            addressedText m fields word ("AR".toList ++ Text.signed register ++ [',']) [] []) ∧
        m ≠ .sst ∧ (m = .lar ∨ m = .sar) := by
      cases m <;>
        first
        | exact ⟨fun _ shown => by dsimp only [decodedText]; rw [shown, ok_bind], by decide,
            by decide⟩
        | exact absurd kind (by decide)
    refine register_row among range decoded one family.2.1 ?_ family.1
    intro symbols location line operandText register rest bits shown address
    rcases family.2.2 with rfl | rfl
    · dsimp only [operandBits, operand, List.getElem?_cons_zero]
      rw [ok_bind, shown, ok_bind, List.drop_one, List.tail_cons, address]
      rfl
    · dsimp only [operandBits, operand, List.getElem?_cons_zero]
      rw [ok_bind, shown, ok_bind, List.drop_one, List.tail_cons, address]
      rfl
  · subst named
    refine constant_row among range decoded rfl rfl ?_ fun _ shown => ?_
    · rintro symbols location line _ rfl
      exact lack_bits Nat.and_le_right symbols location line _
    · dsimp only [decodedText]
      rw [shown, ok_bind]
      rfl
  · have family : (∀ constant, fields.value .constant = .ok constant →
          decodedText m fields word = .ok (mnemonicText m ++ ' ' :: Text.signed constant)) ∧
        (m = .larp ∨ m = .ldpk) := by
      cases m <;>
        first
        | exact ⟨fun _ shown => by dsimp only [decodedText]; rw [shown, ok_bind]; rfl, by decide⟩
        | exact absurd kind (by decide)
    refine constant_row among range decoded one rfl ?_ family.1
    rintro symbols location line _ rfl
    exact bit_bits family.2 Nat.and_le_right symbols location line _
  · subst named
    refine constant_row among range decoded rfl rfl ?_ fun _ shown => ?_
    · rintro symbols location line _ rfl
      exact mpyk_bits symbols location line _
    · dsimp only [decodedText]
      rw [shown, ok_bind]
      rfl
  · subst named
    exact lark_row among range decoded

end Entries

/-! ## Every word -/

/-- Every word alone has its row. -/
theorem word_row [Interpreter] {word : ℕ} (range : word ≤ 0xFFFF) :
    RowOf (disassembleWord word) [word] := by
  have directive : RowOf (.ok (wordText word)) [word] :=
    ⟨wordRow word, rfl, wordRow_restores range⟩
  unfold disassembleWord
  rcases decodeWord_cases range with none | ⟨entry, among, fields, decoded, found⟩
  · rw [none]
    exact directive
  · rw [found, ok_bind]
    by_cases two : entry.mnemonic.twoWordControlFlow = true
    · have alone : decodedText entry.mnemonic fields word = .ok (wordText word) := by
        cases m : entry.mnemonic <;>
          first | rfl | (rw [m] at two; exact absurd two (by decide))
      dsimp only
      rw [alone]
      exact directive
    · exact decoded_row among range decoded (Bool.eq_false_iff.mpr two)

/-- The opcode of a two-word instruction is one word, and it has one operand. -/
theorem branch_shape : ∀ entry ∈ instructions, entry.mnemonic.twoWordControlFlow = true →
    entry.opcode.mask = 0xFFFF ∧ accepts entry.operands 1 = true := by
  decide +kernel

/-- A two-word opcode with a target in range has one row for both words. -/
theorem pair_row [Interpreter] {word target : ℕ} (range : word ≤ 0xFFFF)
    (targetRange : target ≤ 0xFFFF) :
    pairText? word target = .ok none ∨
      ∃ row : Row, pairText? word target = .ok (some row.text) ∧ row.Restores [word, target] := by
  unfold pairText?
  rcases decodeWord_cases range with none | ⟨entry, among, fields, decoded, found⟩
  · rw [none]
    exact Or.inl rfl
  · rw [found, ok_bind]
    dsimp only
    split_ifs with pair
    · have small : target ≤ 0xFFF := by
        have upper : target &&& 0xF000 = 0 := pair.2
        have whole := word_of_low targetRange upper (by decide : 0xF000 ||| 0xFFF = 0xFFFF)
        have low : target &&& 0xFFF ≤ 0xFFF := Nat.and_le_right
        rw [Nat.zero_or] at whole
        omega
      have shape := branch_shape entry among pair.1
      have value : entry.opcode.value = word := by
        rw [← fixed_bits among decoded, shape.1, Nat.and_two_pow_sub_one_eq_mod word 16]
        omega
      have text (site : CallSite) : ∀ symbols location line,
          evaluate site ("0x".toList ++ Text.hexDigits 3 target) symbols location line =
            .ok (target : ℤ) := fun symbols location line =>
        evaluate_literal site symbols location line (isLiteral_hexDigits (by decide) (by omega))
          (hexText_plain 3 target) (hexText_short (by decide) target)
      have bits : ∀ symbols location line,
          operandBits symbols location line entry.mnemonic
            ("0x".toList ++ Text.hexDigits 3 target) ["0x".toList ++ Text.hexDigits 3 target] =
              .ok 0 := by
        intro symbols location line
        rw [operandBits_branch ((mem_twoWordOperations _).mpr pair.1), text, ok_bind,
          checked_of_le (by omega) (by simp; omega), ok_bind]
        rfl
      have nonempty : ∀ operand ∈ ["0x".toList ++ Text.hexDigits 3 target], operand ≠ [] := by simp
      have plain : ∀ operand ∈ ["0x".toList ++ Text.hexDigits 3 target],
          ∀ c ∈ operand, isPlain c = true := by
        simpa using hexText_plain 3 target
      have count : accepts entry.operands ["0x".toList ++ Text.hexDigits 3 target].length = true :=
        shape.2
      have restored : (instructionRow entry.mnemonic ["0x".toList ++ Text.hexDigits 3 target]
          nonempty plain).Restores [entry.opcode.value, target] :=
        restores_branch among pair.1 count bits (text .assemble)
      refine Or.inr ⟨_, ?_, by rwa [value] at restored⟩
      rw [instructionRow_text (by simp), List.intercalate_singleton]
      rfl
    · exact Or.inl rfl

end Tms32010.Tools
