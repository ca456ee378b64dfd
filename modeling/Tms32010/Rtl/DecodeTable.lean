import Tms32010.Isa.Mnemonic
import Tms32010.Lib.Halves
import Tms32010.Rtl.Decode

/-!
# The RTL decoder as a table

`decode` tests slices of the word in source order. Each test depends on the high
byte, or on the high byte and an exact low byte, so the decoder is a function of
the row its high byte selects, and the rows are those of the encoding table. The
two stack instructions are the only ones the RTL leaves out.
-/

namespace Tms32010

/-- The operation code of a mnemonic; `PUSH` and `POP` have none and decode as invalid. -/
def Mnemonic.operation : Mnemonic → Rtl.Operation
  | .lack => .lack | .nop => .nop | .zac => .zac | .rovm => .rovm | .sovm => .sovm
  | .lark => .lark | .larp => .larp | .ldpk => .ldpk | .lac => .lac | .sacl => .sacl
  | .sach => .sach | .zalh => .zalh | .zals => .zals | .adds => .adds | .xor => .xor
  | .and => .and | .or => .or | .add => .add | .sub => .sub | .subs => .subs | .lar => .lar
  | .sar => .sar | .mar => .mar | .ldp => .ldp | .lt => .lt | .mpy => .mpy | .mpyk => .mpyk
  | .pac => .pac | .apac => .apac | .spac => .spac | .lta => .lta | .ltd => .ltd
  | .dmov => .dmov | .dint => .dint | .eint => .eint | .lst => .lst | .subc => .subc
  | .banz => .banz | .b => .b | .bgez => .bgez | .bgz => .bgz | .blez => .blez | .blz => .blz
  | .bnz => .bnz | .bz => .bz | .bv => .bv | .bioz => .bioz | .call => .call | .in => .in
  | .out => .out | .tblr => .tblr | .tblw => .tblw | .subh => .subh | .abs => .abs
  | .sst => .sst | .addh => .addh | .cala => .cala | .ret => .ret
  | .push | .pop => .nop

namespace Rtl

/-! ## Rows -/

/-- The rows of `decodeFixed` and the branch opcodes. -/
def fixedRow (high : BitVec 8) : Encoding :=
  if high == 0x6e then .page
  else if high.extractLsb' 1 7 == 0b0111_000 then .constant .lark
  else if high == 0x7e then .constant .lack
  else if high == 0x7f then .fixed
  else if high == 0xf4 then .branch .banz
  else if high == 0xf5 then .branch .bv
  else if high == 0xf6 then .branch .bioz
  else if high == 0xf8 then .branch .call
  else if high == 0xf9 then .branch .b
  else if high == 0xfa then .branch .blz
  else if high == 0xfb then .branch .blez
  else if high == 0xfc then .branch .bgz
  else if high == 0xfd then .branch .bgez
  else if high == 0xfe then .branch .bnz
  else if high == 0xff then .branch .bz
  else .unassigned

/-- The rows `decode` tests for, in its order. -/
def row (high : BitVec 8) : Encoding :=
  if high.extractLsb' 4 4 == 0x0 || high.extractLsb' 4 4 == 0x1 then
    .addressed (if high.extractLsb' 4 4 == 0x0 then .add else .sub)
  else if high.extractLsb' 4 4 == 0x2 then .addressed .lac
  else if high.extractLsb' 3 5 == 0b01000 || high.extractLsb' 3 5 == 0b01001 then
    .addressed (if high.extractLsb' 3 5 == 0b01000 then .in else .out)
  else if high.extractLsb' 1 7 == 0b0011000 then .addressed .sar
  else if high.extractLsb' 1 7 == 0b0011100 then .addressed .lar
  else if high == 0x50 then .addressed .sacl
  else if high.extractLsb' 3 5 == 0b01011 &&
      (high.extractLsb' 0 3 == 0 || high.extractLsb' 0 3 == 1 || high.extractLsb' 0 3 == 4) then
    .addressed .sach
  else if high == 0x60 || high == 0x61 || high == 0x62 || high == 0x63 || high == 0x64 then
    .addressed
      (if high == 0x60 then .addh
       else if high == 0x61 then .adds
       else if high == 0x62 then .subh
       else if high == 0x63 then .subs
       else .subc)
  else if high == 0x65 || high == 0x66 || high == 0x67 || high == 0x7d then
    .addressed
      (if high == 0x65 then .zalh
       else if high == 0x66 then .zals
       else if high == 0x67 then .tblr
       else .tblw)
  else if high == 0x78 || high == 0x79 || high == 0x7a then
    .addressed (if high == 0x78 then .xor else if high == 0x79 then .and else .or)
  else if high == 0x7b then .addressed .lst
  else if high == 0x7c then .statusStore
  else if high == 0x68 then .auxiliary
  else if high == 0x6f then .addressed .ldp
  else if high == 0x69 then .addressed .dmov
  else if high == 0x6a then .addressed .lt
  else if high == 0x6b then .addressed .ltd
  else if high == 0x6c then .addressed .lta
  else if high == 0x6d then .addressed .mpy
  else if high.extractLsb' 5 3 == 0b100 then .constant .mpyk
  else fixedRow high

theorem row_eq_encoding (high : BitVec 8) : row high = encoding high := by
  revert high
  decide +kernel

/-- What the decoder does in a row. -/
def decodeRow (row : Encoding) (word : BitVec 16) : Decoded :=
  match row with
  | .addressed m =>
      { decodeDataAddressed word m.operation with
        shift := if m = .sach then 0#1 ++ Instruction.storeShift word else Instruction.shift word }
  | .statusStore => decodeStatusStore word
  | .auxiliary => decodeAuxiliary word
  | .constant m => decodeValid word m.operation
  | .page =>
      if (Instruction.lowByte word).extractLsb' 1 7 == 0 then decodeValid word .ldpk
      else decodeInvalid word
  | .branch m =>
      if Instruction.lowByte word == 0 then decodeValid word m.operation else decodeInvalid word
  | .fixed =>
      match fixedMnemonic (Instruction.lowByte word) with
      | some m => if m.stackAccess then decodeInvalid word else decodeValid word m.operation
      | none => decodeInvalid word
  | .unassigned => decodeInvalid word

section Split

variable (word : BitVec 16)

/-- A test of a whole word is a test of both bytes. -/
theorem word_beq (value : BitVec 16) :
    (word == value) =
      (Instruction.opcode word == Instruction.opcode value &&
        Instruction.lowByte word == Instruction.lowByte value) := by
  rw [Bool.eq_iff_iff]
  simp only [Bool.and_eq_true, beq_iff_eq]
  constructor
  · rintro rfl
    exact ⟨rfl, rfl⟩
  · rintro ⟨high, low⟩
    apply BitVec.eq_of_getLsbD_eq
    intro j bound
    by_cases lower : j < 8
    · have bit := congrArg (fun byte => byte.getLsbD j) low
      simpa [lower] using bit
    · have bit := congrArg (fun byte => byte.getLsbD (j - 8)) high
      have inside : j - 8 < 8 := by omega
      have sum : 8 + (j - 8) = j := by omega
      simpa [inside, sum] using bit

end Split

/-! ## Rows of the decoder -/

section Decode

variable (word : BitVec 16)

theorem opcode_append_lowByte : Instruction.opcode word ++ Instruction.lowByte word = word := by
  rw [BitVec.extractLsb'_append_extractLsb'_eq_extractLsb' (by rfl)]
  simp

/-- What the decoder tests in the low byte: the rows in which it selects among
several words, and the slices that are alike in many rows. -/
theorem low_byte_tests (low : BitVec 8) :
    decodeFixed (0x7f#8 ++ low) = decodeRow .fixed (0x7f#8 ++ low) ∧
      decodeFixed (0x6e#8 ++ low) = decodeRow .page (0x6e#8 ++ low) ∧
      ((0x68#8 ++ low) &&& 0xfffe#16 == 0x6880#16) = (low == 0x80 || low == 0x81) ∧
      (low.extractLsb' 1 7 == 0) = (low == 0 || low == 1) ∧
      (if !low.getLsbD 7 then true
        else !low.getLsbD 6 && low.extractLsb' 1 2 == 0b00 && low.extractLsb' 4 2 != 0b11) =
        addressingByteValid low := by
  revert low
  decide +kernel

theorem decodeRow_ite (test : Bool) (yes no : Encoding) :
    decodeRow (if test then yes else no) word =
      if test then decodeRow yes word else decodeRow no word :=
  apply_ite (decodeRow · word) _ _ _

theorem decodeFixed_eq_row :
    decodeFixed word = decodeRow (fixedRow (Instruction.opcode word)) word := by
  rcases low_byte_tests (Instruction.lowByte word) with ⟨fixed, page, -⟩
  have whole := opcode_append_lowByte word
  by_cases fixedCase : Instruction.opcode word = 0x7f
  · rw [fixedCase] at whole ⊢
    rw [← whole]
    exact fixed
  by_cases pageCase : Instruction.opcode word = 0x6e
  · rw [pageCase] at whole ⊢
    rw [← whole]
    exact page
  have pageTest : (word.extractLsb' 1 15 == 0b0110_1110_0000_000) = false := by
    rw [beq_eq_false_iff_ne]
    intro equal
    have slice : Instruction.opcode word = (word.extractLsb' 1 15).extractLsb' 7 8 :=
      (Halves.extract_extract (n := 15) (k := 7) (l := 8) word (by omega)).symm
    rw [equal] at slice
    exact pageCase slice
  have lark : (Instruction.opcode word).extractLsb' 1 7 = word.extractLsb' 9 7 :=
    Halves.extract_extract word (by omega)
  have notFixed : (word.extractLsb' 8 8 == 127#8) = false := beq_eq_false_iff_ne.mpr fixedCase
  have notPage : (word.extractLsb' 8 8 == 110#8) = false := beq_eq_false_iff_ne.mpr pageCase
  unfold decodeFixed fixedRow
  simp only [pageTest, lark, word_beq word]
  simp only [Instruction.opcode, Instruction.lowByte, BitVec.reduceExtractLsb',
    BitVec.ofNat_eq_ofNat, notFixed, notPage, Bool.false_and, Bool.false_eq_true, if_false]
  rcases Bool.eq_false_or_eq_true (word.extractLsb' 0 8 == 0#8) with zero | zero
  · have both (b : Bool) : (b && word.extractLsb' 0 8 == 0#8) = b := by rw [zero, Bool.and_true]
    have branch (m : Mnemonic) : decodeRow (.branch m) word = decodeValid word m.operation :=
      if_pos zero
    simp only [both, decodeRow_ite, branch]
    rfl
  · have both (b : Bool) : (b && word.extractLsb' 0 8 == 0#8) = false := by
      rw [zero, Bool.and_false]
    have branch (m : Mnemonic) : decodeRow (.branch m) word = decodeInvalid word := by
      refine if_neg ?_
      rw [show (Instruction.lowByte word == 0) = false from zero]
      decide
    have unassigned : decodeRow .unassigned word = decodeInvalid word := rfl
    simp only [both, decodeRow_ite, branch, unassigned, Bool.false_eq_true, if_false, ite_self]
    rfl

/-- The tests of `decode` factor through the row of the high byte. -/
theorem decode_eq_row :
    decode word = decodeRow (encoding (Instruction.opcode word)) word := by
  rw [← row_eq_encoding]
  have slice (k n : Nat) (inside : k + n ≤ 8) :
      (Instruction.opcode word).extractLsb' k n = word.extractLsb' (8 + k) n :=
    Halves.extract_extract word inside
  have addressed (test : Bool) (yes no : Mnemonic) :
      Encoding.addressed (if test then yes else no) =
        if test then .addressed yes else .addressed no := apply_ite _ _ _ _
  have operation (test : Bool) (yes no : Operation) :
      decodeDataAddressed word (if test then yes else no) =
        if test then decodeDataAddressed word yes else decodeDataAddressed word no :=
    apply_ite _ _ _ _
  unfold decode row
  simp only [addressed, operation, decodeRow_ite, ← decodeFixed_eq_row, slice 4 4 (by decide),
    slice 3 5 (by decide), slice 1 7 (by decide), slice 0 3 (by decide), slice 5 3 (by decide)]
  rfl

/-! ## Agreement with the table -/

/-- The outputs for a word that encodes `m`. -/
def encoded (m : Mnemonic) : Decoded where
  valid := true
  operation := m.operation
  immediate := Instruction.lowByte word
  immediate13 := Instruction.constant13 word
  auxiliaryRegister := Instruction.auxiliaryRegister word
  shift := if m = .sach then 0#1 ++ Instruction.storeShift word else Instruction.shift word
  port := Instruction.port word
  indirect := Instruction.indirect word
  addressingField := Instruction.addressingField word
  dataAddressed := m.dataAddressed

/-- A bit of a field is a bit of the word. -/
theorem lowByte_bit (k : Nat) (inside : k < 8) :
    (Instruction.lowByte word).getLsbD k = word.getLsbD k := by
  simp [inside]

theorem addressingField_bit (k : Nat) (inside : k < 7) :
    (Instruction.addressingField word).getLsbD k = word.getLsbD k := by
  simp [inside]

theorem lowByte_slice (k n : Nat) (inside : k + n ≤ 8) :
    (Instruction.lowByte word).extractLsb' k n = word.extractLsb' k n := by
  rw [Halves.extract_extract word inside, Nat.zero_add]

theorem addressingValid_eq :
    addressingValid word = addressingByteValid (Instruction.lowByte word) := by
  rcases low_byte_tests (Instruction.lowByte word) with ⟨-, -, -, -, addressing⟩
  rw [← addressing]
  simp only [lowByte_bit, lowByte_slice, Nat.reduceAdd, Nat.reduceLT, Nat.reduceLeDiff]
  rfl

/-- The decoder accepts exactly the words with a mnemonic other than `PUSH` and `POP`. -/
theorem decode_spec :
    match mnemonic? word with
    | some m => if m.stackAccess then (decode word).valid = false else decode word = encoded word m
    | none => (decode word).valid = false := by
  rcases encoding_rows (Instruction.opcode word) with ⟨consistent, -, auxiliary, -⟩
  rw [decode_eq_row]
  unfold mnemonic?
  cases row : encoding (Instruction.opcode word) with
  | addressed m =>
      rw [row] at consistent
      simp only [Encoding.consistent, Bool.and_eq_true] at consistent
      have implemented : m.stackAccess = false := by
        cases m <;> first | rfl | exact absurd consistent.1 (by decide)
      simp only [Encoding.mnemonic?, ← addressingValid_eq]
      cases valid : addressingValid word
      · exact valid
      · simp only [if_true, implemented, Bool.false_eq_true, if_false]
        simp only [decodeRow, encoded, decodeDataAddressed, valid, decodeDefaults, consistent.1]
  | statusStore =>
      simp only [Encoding.mnemonic?, ← addressingValid_eq, lowByte_bit word 7 (by decide),
        lowByte_slice word 4 3 (by decide), decodeRow]
      have direct : (decodeStatusStore word).valid =
          (addressingValid word && (word.getLsbD 7 || word.extractLsb' 4 3 == 0)) := by
        unfold decodeStatusStore addressingValid
        cases word.getLsbD 7
        · rfl
        · exact (Bool.and_true _).symm
      have whole : decodeStatusStore word =
          { encoded word .sst with valid := (decodeStatusStore word).valid } := rfl
      rw [← direct]
      rcases Bool.eq_false_or_eq_true (decodeStatusStore word).valid with valid | valid
      · rw [valid] at whole
        rw [if_pos valid]
        exact whole
      · rw [if_neg (by rw [valid]; decide)]
        exact valid
  | auxiliary =>
      rcases low_byte_tests (Instruction.lowByte word) with ⟨-, -, larp, -, -⟩
      have high : Instruction.opcode word = 0x68#8 := auxiliary row
      rw [← high, opcode_append_lowByte] at larp
      have selects : (word &&& 0xfffe == 0x6880) =
          (Instruction.lowByte word == 0x80 || Instruction.lowByte word == 0x81) := larp
      simp only [Encoding.mnemonic?, decodeRow, decodeAuxiliary, selects, ← addressingValid_eq]
      rcases Bool.eq_false_or_eq_true
        (Instruction.lowByte word == 0x80 || Instruction.lowByte word == 0x81) with test | test
      · simp only [test, if_true]
        rfl
      · simp only [test, Bool.false_eq_true, if_false]
        cases addressingValid word
        · rfl
        · rfl
  | constant m =>
      rw [row] at consistent
      simp only [Encoding.consistent, Bool.and_eq_true, Bool.not_eq_true'] at consistent
      have plain : m.dataAddressed = false ∧ m ≠ .sach := by
        cases m <;> first | exact ⟨rfl, by decide⟩ | exact absurd consistent.1 (by decide)
      simp only [Encoding.mnemonic?, consistent.2, Bool.false_eq_true, if_false]
      simp only [decodeRow, encoded, decodeValid, decodeDefaults, plain, if_false]
  | page =>
      rcases low_byte_tests (Instruction.lowByte word) with ⟨-, -, -, page, -⟩
      simp only [Encoding.mnemonic?, decodeRow, page]
      rcases Bool.eq_false_or_eq_true
        (Instruction.lowByte word == 0 || Instruction.lowByte word == 1) with test | test
      · simp only [test, if_true]
        rfl
      · simp only [test, Bool.false_eq_true, if_false]
        rfl
  | branch m =>
      rw [row] at consistent
      have plain : m.dataAddressed = false ∧ m ≠ .sach ∧ m.stackAccess = false := by
        cases m <;> first | exact ⟨rfl, by decide, rfl⟩ | exact absurd consistent (by decide)
      simp only [Encoding.mnemonic?, decodeRow]
      rcases Bool.eq_false_or_eq_true (Instruction.lowByte word == 0) with test | test
      · simp only [test, if_true, plain, Bool.false_eq_true, if_false]
        simp only [encoded, decodeValid, decodeDefaults, plain, if_false]
      · simp only [test, Bool.false_eq_true, if_false]
        rfl
  | fixed =>
      simp only [Encoding.mnemonic?, decodeRow]
      cases found : fixedMnemonic (Instruction.lowByte word) with
      | none => rfl
      | some m =>
          have plain := fixedMnemonic_plain found
          have plain' : m.dataAddressed = false ∧ m ≠ .sach := by
            cases m <;> first | exact ⟨rfl, by decide⟩ | exact absurd plain.1 (by decide)
          simp only
          split
          · rfl
          · simp only [encoded, decodeValid, decodeDefaults, plain', if_false]
  | unassigned => rfl

variable {word}

theorem decode_of_mnemonic {m : Mnemonic} (found : mnemonic? word = some m)
    (implemented : m.stackAccess = false) : decode word = encoded word m := by
  have spec := decode_spec word
  rw [found] at spec
  simpa only [implemented, Bool.false_eq_true, if_false] using spec

theorem decode_invalid (unsupported : ∀ m, mnemonic? word = some m → m.stackAccess = true) :
    (decode word).valid = false := by
  have spec := decode_spec word
  cases found : mnemonic? word with
  | none => rwa [found] at spec
  | some m =>
      rw [found] at spec
      simpa only [unsupported m found, if_true] using spec

/-- A word is rejected, or decodes to the operation of an implemented mnemonic. -/
theorem decode_cases (word : BitVec 16) :
    (decode word).valid = false ∨
      ∃ m, mnemonic? word = some m ∧ m.stackAccess = false ∧ decode word = encoded word m := by
  by_cases supported : ∃ m, mnemonic? word = some m ∧ m.stackAccess = false
  · rcases supported with ⟨m, found, implemented⟩
    exact Or.inr ⟨m, found, implemented, decode_of_mnemonic found implemented⟩
  · refine Or.inl (decode_invalid ?_)
    intro m found
    by_contra access
    exact supported ⟨m, found, by simpa using access⟩

/-- The stored shift of `SACH` is one of the three documented ones. -/
theorem storeShift_of_sach (found : mnemonic? word = some .sach) :
    Instruction.storeShift word = 0 ∨ Instruction.storeShift word = 1 ∨
      Instruction.storeShift word = 4 := by
  have slice : (Instruction.opcode word).extractLsb' 0 3 = Instruction.storeShift word :=
    Halves.extract_extract word (by decide)
  rcases encoding_rows (Instruction.opcode word) with ⟨consistent, -, -, shifts⟩
  rw [slice] at shifts
  apply shifts
  unfold mnemonic? at found
  cases row : encoding (Instruction.opcode word) <;> rw [row] at found consistent <;>
    simp only [Encoding.mnemonic?] at found
  case addressed =>
    rw [Option.ite_none_right_eq_some] at found
    cases found.2
    rfl
  case fixed => exact absurd (fixedMnemonic_plain found).1 (by decide)
  case constant => cases found; exact absurd consistent (by decide)
  case branch =>
    rw [Option.ite_none_right_eq_some] at found
    cases found.2
    exact absurd consistent (by decide)
  case statusStore | page => rw [Option.ite_none_right_eq_some] at found; cases found.2
  case auxiliary => split at found <;> simp at found
  case unassigned => cases found

end Decode

end Rtl

end Tms32010
