import Tms32010.Model.Report
import Tms32010.Tools.Layout

/-!
# What a statement says

The instruction and the dictionary entries that the text of an operation and its operands
stand for, read off without the word it is assembled to. The word then decodes to them.
-/

namespace Tms32010.Tools

open Checks (bind_eq_ok pure_eq_ok)
open Model (Operands decodedOperands)

/-! ## Readings -/

/-- How an indirect operand counts: `*`, `*+` and `*-`. -/
inductive Count where
  | none
  | up
  | down
  deriving DecidableEq, Repr

/-- A data operand: an address on the current page, or the selected auxiliary register with
its count and the pointer afterwards. -/
inductive DataOperand where
  | direct (address : ℕ)
  | indirect (count : Count) (next : Option ℕ)
  deriving DecidableEq, Repr

namespace DataOperand

/-- The count bits of an addressing field. -/
def countBits : Count → ℕ
  | .none => 0x00
  | .up => 0x20
  | .down => 0x10

/-- The seven bits below the bit for indirect addressing. -/
def field : DataOperand → ℕ
  | .direct address => address
  | .indirect count none => countBits count + 0x08
  | .indirect count (some register) => countBits count + register

/-- The addressing byte. -/
def byte : DataOperand → ℕ
  | .direct address => address
  | .indirect count next => 0x80 + (DataOperand.indirect count next).field

/-- The dictionary entries of an addressing byte. -/
def entries (data : DataOperand) (others : Operands) : Operands :=
  { others with
    indirect := some (if 0x80 ≤ data.byte then 1 else 0)
    addressingField := some data.field }

/-- The operands that the source text can say. -/
def Legal (data : DataOperand) (limit : ℕ) : Prop :=
  match data with
  | .direct address => address ≤ limit
  | .indirect _ none => True
  | .indirect _ (some register) => register ≤ 1

end DataOperand

/-- The count that a text asks for. -/
def count? (addressing : Text) : Option Count :=
  if addressing = "*".toList then some .none
  else if addressing = "*+".toList then some .up
  else if addressing = "*-".toList then some .down
  else none

section Reading

variable [Interpreter] (symbols : List (Text × ℕ)) (location : ℕ) (line : SourceLine)

/-- The data operand of an operation. -/
def readData (operation : Text) (operands : List Text) (nextArpIndex : ℕ) :
    Except Failure DataOperand := do
  let first ← operand operands 0
  match count? (Interpreter.upper (first.filter (· ≠ ' '))) with
  | some count =>
      match operands[nextArpIndex]? with
      | some text => return .indirect count (some (← nextArp symbols location line operation text))
      | none => return .indirect count none
  | none => return .direct (← evaluate .encodeDataAddress first symbols location line).toNat

/-- A register by its name, or a value. -/
def readPointer (text : Text) : Except Failure ℤ :=
  let upper := Interpreter.upper (Text.strip text)
  if upper = "AR0".toList ∨ upper = "AR1".toList then
    (fun register : ℕ => (register : ℤ)) <$> auxiliaryRegister text line
  else evaluate .encode text symbols location line

/-- The instruction that an operation and its operands say. `MAR` that only loads the
pointer is `LARP`. -/
def reading (m : Mnemonic) (operandText : Text) (operands : List Text) :
    Except Failure (Mnemonic × Operands) := do
  match m with
  | .lack | .ldpk | .mpyk =>
      return (m, { constant := some (← evaluate .encode operandText symbols location line) })
  | .larp => return (m, { constant := some (← readPointer symbols location line operandText) })
  | .b | .banz | .bgez | .bgz | .bioz | .blez | .blz | .bnz | .bv | .bz | .call =>
      let value ← evaluate .encode operandText symbols location line
      return (m, { programAddress := some value.toNat })
  | .add | .lac | .sub | .sach =>
      let shift ← optionalShift symbols location line operands
      let data ← readData symbols location line (mnemonicText m) operands 2
      return (m, data.entries { shift := some shift.toNat })
  | .sacl => return (m, (← readData symbols location line (mnemonicText m) operands 2).entries {})
  | .in | .out =>
      let port ← ioPort (← operand operands 1) line
      let data ← readData symbols location line (mnemonicText m) operands 2
      return (m, data.entries { port := some port })
  | .lar | .sar =>
      let register ← auxiliaryRegister (← operand operands 0) line
      let data ← readData symbols location line (mnemonicText m) (operands.drop 1) 1
      return (m, data.entries { auxiliaryRegister := some register })
  | .lark =>
      let register ← auxiliaryRegister (← operand operands 0) line
      let value ← evaluate .encode (← operand operands 1) symbols location line
      return (m, { auxiliaryRegister := some register, constant := some value })
  | .mar =>
      match ← readData symbols location line (mnemonicText m) operands 1 with
      | .indirect .none (some register) => return (.larp, { constant := some register })
      | data => return (.mar, data.entries {})
  | .addh | .adds | .and | .dmov | .ldp | .lst | .lt | .lta | .ltd | .mpy | .or | .sst | .subc
  | .subh | .subs | .tblr | .tblw | .xor | .zalh | .zals =>
      return (m, (← readData symbols location line (mnemonicText m) operands 1).entries {})
  | _ => return (m, {})

end Reading

/-! ## Addressing bytes -/

section Addressing

theorem indirectControl?_eq (text : Text) :
    indirectControl? text = (count? text).map fun count => (DataOperand.indirect count none).byte := by
  unfold indirectControl? count?
  split_ifs <;> rfl

variable [Interpreter] {symbols : List (Text × ℕ)} {location : ℕ} {line : SourceLine}
  {operation : Text} {operands : List Text} {nextArpIndex bits : ℕ}

theorem nextArp_le {text : Text} {register : ℕ}
    (named : nextArp symbols location line operation text = .ok register) : register ≤ 1 :=
  (nextArp_yields operation text).ok named

/-- The addressing byte of the source text is that of its reading. -/
theorem readData_of_encode
    (encoded : encodeDataAddress symbols location line operation operands nextArpIndex =
      .ok bits) :
    ∃ data, readData symbols location line operation operands nextArpIndex = .ok data ∧
      bits = data.byte ∧ data.Legal (if operation = "SST".toList then 15 else 127) := by
  unfold encodeDataAddress at encoded
  rw [bind_eq_ok] at encoded
  rcases encoded with ⟨first, found, encoded⟩
  rw [indirectControl?_eq] at encoded
  unfold readData
  rw [found]
  dsimp only [bind, Except.bind]
  cases form : count? (Interpreter.upper (first.filter (· ≠ ' '))) with
  | some count =>
      rw [form] at encoded
      cases following : operands[nextArpIndex]? with
      | none =>
          rw [following] at encoded
          cases encoded
          exact ⟨.indirect count none, rfl, rfl, trivial⟩
      | some text =>
          rw [following] at encoded
          simp only [Option.map_some, bind_eq_ok, pure_eq_ok] at encoded
          rcases encoded with ⟨register, named, rfl⟩
          have small := nextArp_le named
          refine ⟨.indirect count (some register), ?_, ?_, small⟩
          · dsimp only
            rw [named]
            rfl
          · have either : register = 0 ∨ register = 1 := by omega
            rcases either with rfl | rfl <;> cases count <;> rfl
  | none =>
      rw [form] at encoded
      simp only [Option.map_none] at encoded
      split at encoded
      · cases encoded
      · rw [bind_eq_ok] at encoded
        rcases encoded with ⟨value, evaluated, bounded⟩
        rcases (checked_yields value 0 _ line _).ok bounded with ⟨rfl, low, high⟩
        refine ⟨.direct value.toNat, ?_, rfl, ?_⟩
        · dsimp only
          rw [evaluated]
          rfl
        · unfold DataOperand.Legal
          dsimp only
          split_ifs at high ⊢ <;> omega

end Addressing

/-! ## Words -/

/-- The word of two bytes. -/
def bytesWord (high low : ℕ) : BitVec 16 := BitVec.ofNat 16 (256 * high + low)

/-- A word decodes to what a statement says; a branch takes its address from the next word. -/
def Decodes (word : BitVec 16) (said : Mnemonic × Operands) : Prop :=
  mnemonic? word = some said.1 ∧
    (said.1.twoWordControlFlow = false → decodedOperands said.1 word = said.2)

section Words

variable {high low limit : ℕ} {m : Mnemonic} {data : DataOperand}

theorem bytesWord_fields (lowBound : low < 256) :
    Instruction.opcode (bytesWord high low) = BitVec.ofNat 8 high ∧
      Instruction.lowByte (bytesWord high low) = BitVec.ofNat 8 low ∧
      (Instruction.shift (bytesWord high low)).toNat = high % 16 ∧
      (Instruction.port (bytesWord high low)).toNat = high % 8 ∧
      (Instruction.addressingField (bytesWord high low)).toNat = low % 128 := by
  unfold bytesWord
  refine ⟨?_, ?_, ?_, ?_, ?_⟩
  · apply BitVec.eq_of_toNat_eq
    simp [Instruction.opcode, BitVec.extractLsb'_toNat, Nat.shiftRight_eq_div_pow]
    omega
  · apply BitVec.eq_of_toNat_eq
    simp [Instruction.lowByte, BitVec.extractLsb'_toNat]
  · simp [Instruction.shift, BitVec.extractLsb'_toNat, Nat.shiftRight_eq_div_pow]
    omega
  · simp [Instruction.port, BitVec.extractLsb'_toNat, Nat.shiftRight_eq_div_pow]
    omega
  · simp [Instruction.addressingField, BitVec.extractLsb'_toNat]
    omega

theorem bytesWord_bits (lowBound : low < 256) :
    (Instruction.indirect (bytesWord high low)).toNat = (if 0x80 ≤ low then 1 else 0) ∧
      (Instruction.auxiliaryRegister (bytesWord high low)).toNat = high % 2 ∧
      ((bytesWord high low).getLsbD 0).toNat = low % 2 := by
  have bit (k : ℕ) (small : k < 16) : ((bytesWord high low).getLsbD k).toNat =
      (256 * high + low) / 2 ^ k % 2 := by
    unfold bytesWord
    rw [BitVec.getLsbD_ofNat, decide_eq_true small, Bool.true_and, Nat.toNat_testBit]
  refine ⟨?_, ?_, ?_⟩
  · rw [bit 7 (by decide)]
    split_ifs <;> omega
  · rw [bit 8 (by decide)]
    omega
  · rw [bit 0 (by decide)]
    omega

theorem mnemonic?_bytesWord (lowBound : low < 256) :
    mnemonic? (bytesWord high low) =
      (encoding (BitVec.ofNat 8 high)).mnemonic? (BitVec.ofNat 8 low) := by
  rcases bytesWord_fields lowBound with ⟨opcode, lowByte, -⟩
  unfold mnemonic?
  rw [opcode, lowByte]

/-- Fixed bits, and the operands above an addressing byte. -/
theorem or_bytes {base select : ℕ} (apart : base ||| select = base + select)
    (lowBound : low < 256) :
    256 * base ||| (select <<< 8 ||| low) = 256 * (base + select) + low := by
  have shifted : 256 * base = base <<< 8 := by
    rw [Nat.shiftLeft_eq]
    omega
  rw [shifted, ← Nat.or_assoc, ← Nat.shiftLeft_or_distrib, apart,
    ← Nat.shiftLeft_add_eq_or_of_lt lowBound, Nat.shiftLeft_eq]
  omega

theorem or_byte (base : ℕ) (lowBound : low < 256) : 256 * base ||| low = 256 * base + low := by
  have same := @or_bytes low base 0 (Nat.or_zero base) lowBound
  rwa [Nat.zero_shiftLeft, Nat.zero_or, Nat.add_zero] at same

theorem direct_valid (address : Fin 128) :
    addressingByteValid (BitVec.ofNat 8 address.val) = true := by
  revert address
  decide +kernel

theorem DataOperand.Legal.byte (legal : data.Legal limit) (small : limit ≤ 127) :
    data.byte < 256 ∧ data.byte % 128 = data.field ∧
      addressingByteValid (BitVec.ofNat 8 data.byte) = true := by
  cases data with
  | direct address =>
      have bound : address ≤ limit := legal
      refine ⟨?_, ?_, direct_valid ⟨address, by omega⟩⟩
      · change address < 256
        omega
      · change address % 128 = address
        omega
  | indirect count next =>
      cases next with
      | none => cases count <;> decide
      | some register =>
          have bound : register ≤ 1 := legal
          have either : register = 0 ∨ register = 1 := by omega
          rcases either with rfl | rfl <;> cases count <;> decide

/-- The dictionary of a word with an addressing byte. -/
theorem decodedOperands_data (legal : data.Legal limit)
    (small : limit ≤ 127) (modifies : m.modifiesAuxiliary = true) :
    decodedOperands m (bytesWord high data.byte) =
      data.entries (Model.fieldEntries m (bytesWord high data.byte)) := by
  rcases legal.byte small with ⟨lowBound, field, -⟩
  rcases bytesWord_fields lowBound with ⟨-, -, -, -, addressing⟩
  unfold decodedOperands DataOperand.entries
  rw [if_pos modifies, addressing, field, (bytesWord_bits lowBound).1]

end Words

/-! ## Families -/

/-- The fixed bits of an instruction. -/
def opcodeValue (m : Mnemonic) : ℕ :=
  ((findEntry (mnemonicText m)).map (·.opcode.value)).getD 0

/-- Every mnemonic has its entry. -/
theorem findEntry_eq (m : Mnemonic) :
    (findEntry (mnemonicText m)).map (fun entry => (entry.mnemonic, entry.opcode.value)) =
      some (m, opcodeValue m) := by
  cases m <;> decide +kernel

section Families

variable {m : Mnemonic}

theorem mnemonicText_limit (other : m ≠ .sst) :
    (if mnemonicText m = "SST".toList then 15 else 127) = 127 := by
  cases m <;> first | rfl | exact absurd rfl other

theorem constant_word (value : ℤ) (low : 0 ≤ value) (high : value ≤ 0xFF) (base : ℕ) :
    256 * base ||| value.toNat = 256 * base + value.toNat ∧
      ((Instruction.lowByte (bytesWord base value.toNat)).toNat : ℤ) = value := by
  have lowBound : value.toNat < 256 := by omega
  refine ⟨or_byte base lowBound, ?_⟩
  rw [(bytesWord_fields lowBound).2.1, BitVec.toNat_ofNat]
  omega

/-- The multiplier constant keeps its sign. -/
theorem decodes_mpyk {value : ℤ} (low : -4096 ≤ value) (high : value ≤ 4095) :
    Decodes (BitVec.ofNat 16 (0x8000 ||| (value % 0x2000).toNat))
      (.mpyk, { constant := some value }) := by
  have small : (value % 0x2000).toNat < 2 ^ 13 := by omega
  have added : 0x8000 ||| (value % 0x2000).toNat = 0x8000 + (value % 0x2000).toNat := by
    have shifted := Nat.shiftLeft_add_eq_or_of_lt small 4
    rw [← show 4 <<< 13 = 0x8000 from rfl]
    exact shifted.symm
  have bytes : 0x8000 + (value % 0x2000).toNat =
      256 * (0x80 + (value % 0x2000).toNat / 256) + (value % 0x2000).toNat % 256 := by omega
  have rows : ∀ k < 32, encoding (BitVec.ofNat 8 (0x80 + k)) = .constant .mpyk := by decide +kernel
  rw [added]
  constructor
  · rw [bytes]
    refine (mnemonic?_bytesWord (Nat.mod_lt _ (by decide))).trans ?_
    rw [rows _ (by omega)]
    rfl
  · intro _
    have constant : (Instruction.constant13
        (BitVec.ofNat 16 (0x8000 + (value % 0x2000).toNat))).toInt = value := by
      rw [BitVec.toInt_eq_toNat_cond, BitVec.extractLsb'_toNat, BitVec.toNat_ofNat,
        Nat.shiftRight_zero]
      split_ifs <;> omega
    change ({ constant := some _ } : Operands) = _
    rw [constant]

/-- `LDPK` and `LARP` have two words each. -/
theorem decodes_bit (value : ℤ) (low : 0 ≤ value) (high : value ≤ 1) :
    Decodes (BitVec.ofNat 16 (0x6E00 ||| value.toNat)) (.ldpk, { constant := some value }) ∧
      Decodes (BitVec.ofNat 16 (0x6880 ||| value.toNat)) (.larp, { constant := some value }) := by
  have either : value = 0 ∨ value = 1 := by omega
  rcases either with rfl | rfl <;>
    exact ⟨⟨by decide, by decide⟩, ⟨by decide, by decide⟩⟩

variable [Interpreter] {symbols : List (Text × ℕ)} {location : ℕ} {line : SourceLine}
  {operandText : Text} {operands : List Text} {bits base : ℕ}

/-- An addressing byte below fixed bits and a selector. -/
theorem decodes_selected {select index : ℕ} {fields : Operands} (other : m ≠ .sst)
    (apart : base ||| select = base + select)
    (row : encoding (BitVec.ofNat 8 (base + select)) = .addressed m)
    (modifies : m.modifiesAuxiliary = true)
    (selects : ∀ low < 256, Model.fieldEntries m (bytesWord (base + select) low) = fields)
    (encoded : encodeDataAddress symbols location line (mnemonicText m) operands index =
      .ok bits) :
    ∃ data, readData symbols location line (mnemonicText m) operands index = .ok data ∧
      Decodes (BitVec.ofNat 16 (256 * base ||| (select <<< 8 ||| bits)))
        (m, data.entries fields) := by
  rcases readData_of_encode encoded with ⟨data, read, rfl, legal⟩
  rw [mnemonicText_limit other] at legal
  rcases legal.byte (Nat.le_refl 127) with ⟨lowBound, -, valid⟩
  refine ⟨data, read, ?_⟩
  rw [or_bytes apart lowBound]
  constructor
  · refine (mnemonic?_bytesWord lowBound).trans ?_
    rw [row, Encoding.mnemonic?, if_pos valid]
  · intro _
    refine (decodedOperands_data legal (Nat.le_refl 127) modifies).trans ?_
    rw [selects _ lowBound]

/-- An addressing byte below fixed bits. -/
theorem decodes_data {index : ℕ} (other : m ≠ .sst)
    (row : encoding (BitVec.ofNat 8 base) = .addressed m) (modifies : m.modifiesAuxiliary = true)
    (selects : ∀ word, Model.fieldEntries m word = {})
    (encoded : encodeDataAddress symbols location line (mnemonicText m) operands index =
      .ok bits) :
    ∃ data, readData symbols location line (mnemonicText m) operands index = .ok data ∧
      Decodes (BitVec.ofNat 16 (256 * base ||| bits)) (m, data.entries {}) := by
  have base_eq : encoding (BitVec.ofNat 8 (base + 0)) = .addressed m := row
  rcases decodes_selected other (Nat.or_zero base) base_eq modifies (fun low _ => selects _)
    encoded with ⟨data, read, decodes⟩
  rw [Nat.zero_shiftLeft, Nat.zero_or] at decodes
  exact ⟨data, read, decodes⟩

/-- `SST` with its own limit. -/
theorem decodes_sst (encoded : encodeDataAddress symbols location line (mnemonicText .sst)
    operands 1 = .ok bits) :
    ∃ data, readData symbols location line (mnemonicText .sst) operands 1 = .ok data ∧
      Decodes (BitVec.ofNat 16 (256 * 0x7C ||| bits)) (.sst, data.entries {}) := by
  rcases readData_of_encode encoded with ⟨data, read, rfl, legal⟩
  have limit : (if mnemonicText .sst = "SST".toList then 15 else 127) = 15 := by decide
  rw [limit] at legal
  rcases legal.byte (by decide) with ⟨lowBound, -, valid⟩
  have page : ((BitVec.ofNat 8 data.byte).getLsbD 7 ||
      (BitVec.ofNat 8 data.byte).extractLsb' 4 3 == 0) = true := by
    cases data with
    | direct address =>
        have bound : address ≤ 15 := legal
        change ((BitVec.ofNat 8 address).getLsbD 7 ||
          (BitVec.ofNat 8 address).extractLsb' 4 3 == 0) = true
        interval_cases address <;> decide
    | indirect count next =>
        cases next with
        | none => cases count <;> decide
        | some register =>
            have bound : register ≤ 1 := legal
            have either : register = 0 ∨ register = 1 := by omega
            rcases either with rfl | rfl <;> cases count <;> decide
  refine ⟨data, read, ?_⟩
  rw [or_byte 0x7C lowBound]
  constructor
  · refine (mnemonic?_bytesWord lowBound).trans ?_
    have row : encoding (BitVec.ofNat 8 0x7C) = .statusStore := by decide
    rw [row, Encoding.mnemonic?, valid, page]
    rfl
  · exact fun _ => decodedOperands_data legal (by decide) rfl

/-- `MAR`, which is `LARP` where it only loads the pointer. -/
theorem decodes_mar (encoded : encodeDataAddress symbols location line (mnemonicText .mar)
    operands 1 = .ok bits) :
    ∃ said, reading symbols location line .mar operandText operands = .ok said ∧
      Decodes (BitVec.ofNat 16 (256 * 0x68 ||| bits)) said := by
  rcases readData_of_encode encoded with ⟨data, read, rfl, legal⟩
  rw [mnemonicText_limit (by decide)] at legal
  rcases legal.byte (Nat.le_refl 127) with ⟨lowBound, -, valid⟩
  have row : encoding (BitVec.ofNat 8 0x68) = .auxiliary := by decide
  unfold reading
  dsimp only
  rw [read, or_byte 0x68 lowBound]
  have plain (other : (BitVec.ofNat 8 data.byte == 0x80 || BitVec.ofNat 8 data.byte == 0x81) =
      false) : Decodes (BitVec.ofNat 16 (256 * 0x68 + data.byte)) (.mar, data.entries {}) := by
    constructor
    · refine (mnemonic?_bytesWord lowBound).trans ?_
      rw [row, Encoding.mnemonic?, other, if_neg Bool.false_ne_true, if_pos valid]
    · exact fun _ => decodedOperands_data legal (Nat.le_refl 127) rfl
  cases data with
  | direct address =>
      refine ⟨_, rfl, plain ?_⟩
      have bound : address ≤ 127 := legal
      change (BitVec.ofNat 8 address == 0x80 || BitVec.ofNat 8 address == 0x81) = false
      interval_cases address <;> decide
  | indirect count next =>
      cases next with
      | none => cases count <;> exact ⟨_, rfl, plain (by decide)⟩
      | some register =>
          have bound : register ≤ 1 := legal
          have either : register = 0 ∨ register = 1 := by omega
          cases count with
          | none =>
              refine ⟨_, rfl, ?_⟩
              rcases either with rfl | rfl <;> exact ⟨by decide, by decide⟩
          | up | down =>
              refine ⟨_, rfl, plain ?_⟩
              rcases either with rfl | rfl <;> decide

/-- What a statement says is found in the word it is assembled to. -/
def Found (symbols : List (Text × ℕ)) (location : ℕ) (line : SourceLine) (m : Mnemonic)
    (operandText : Text) (operands : List Text) (bits : ℕ) : Prop :=
  ∃ said, reading symbols location line m operandText operands = .ok said ∧
    Decodes (BitVec.ofNat 16 (opcodeValue m ||| bits)) said

theorem found_lack
    (encoded : operandBits symbols location line .lack operandText operands = .ok bits) :
    Found symbols location line .lack operandText operands bits := by
  simp only [operandBits, bind_eq_ok] at encoded
  rcases encoded with ⟨value, evaluated, bounded⟩
  rcases (checked_yields value 0 _ line _).ok bounded with ⟨rfl, low, high⟩
  rcases constant_word value low high 0x7E with ⟨word, constant⟩
  refine ⟨(.lack, { constant := some value }), ?_, ?_⟩
  · dsimp only [reading]
    rw [evaluated]
    rfl
  · change Decodes (BitVec.ofNat 16 (256 * 0x7E ||| value.toNat)) _
    rw [word]
    constructor
    · exact mnemonic?_bytesWord (by omega)
    · exact fun _ => congrArg (fun entry : ℤ => ({ constant := some entry } : Operands)) constant

theorem found_ldpk
    (encoded : operandBits symbols location line .ldpk operandText operands = .ok bits) :
    Found symbols location line .ldpk operandText operands bits := by
  simp only [operandBits, bind_eq_ok] at encoded
  rcases encoded with ⟨value, evaluated, bounded⟩
  rcases (checked_yields value 0 _ line _).ok bounded with ⟨rfl, low, high⟩
  refine ⟨(.ldpk, { constant := some value }), ?_, (decodes_bit value low high).1⟩
  dsimp only [reading]
  rw [evaluated]
  rfl

theorem found_larp
    (encoded : operandBits symbols location line .larp operandText operands = .ok bits) :
    Found symbols location line .larp operandText operands bits := by
  have checks {pointer : Except Failure ℤ} (same : readPointer symbols location line operandText =
      pointer) (bounded : (pointer >>= fun value => checked value 0 1 line
        ("LARP".toList ++ " constant out of range 0..1".toList)) = .ok bits) :
      Found symbols location line .larp operandText operands bits := by
    rw [bind_eq_ok] at bounded
    rcases bounded with ⟨value, read, bounded⟩
    rcases (checked_yields value 0 _ line _).ok bounded with ⟨rfl, low, high⟩
    refine ⟨(.larp, { constant := some value }), ?_, (decodes_bit value low high).2⟩
    dsimp only [reading]
    rw [same, read]
    rfl
  unfold readPointer at checks
  dsimp only [operandBits] at encoded checks
  split_ifs at encoded checks
  · exact checks rfl encoded
  · exact checks rfl encoded

theorem found_mpyk
    (encoded : operandBits symbols location line .mpyk operandText operands = .ok bits) :
    Found symbols location line .mpyk operandText operands bits := by
  simp only [operandBits, bind_eq_ok] at encoded
  rcases encoded with ⟨value, evaluated, n, bounded, same⟩
  rcases (checked_yields value _ _ line _).ok bounded with ⟨-, low, high⟩
  cases same
  refine ⟨(.mpyk, { constant := some value }), ?_, decodes_mpyk low high⟩
  dsimp only [reading]
  rw [evaluated]
  rfl

theorem found_branch (control : m.twoWordControlFlow = true)
    (encoded : operandBits symbols location line m operandText operands = .ok bits) :
    Found symbols location line m operandText operands bits := by
  have meaning : reading symbols location line m operandText operands = (do
      let value ← evaluate .encode operandText symbols location line
      return (m, { programAddress := some value.toNat })) := by
    cases m <;> first | rfl | exact absurd control (by decide)
  have double : mnemonicText m ∈ twoWordOperations := by
    cases m <;> first | decide | exact absurd control (by decide)
  rw [operandBits_branch double] at encoded
  simp only [bind_eq_ok] at encoded
  rcases encoded with ⟨value, evaluated, n, bounded, same⟩
  cases same
  refine ⟨(m, { programAddress := some value.toNat }), ?_, ?_⟩
  · rw [meaning, evaluated]
    rfl
  · refine ⟨?_, fun plain => absurd (plain.symm.trans control) Bool.false_ne_true⟩
    change mnemonic? _ = some m
    cases m <;> decide +kernel

theorem found_shift (accepted : m = .add ∨ m = .lac ∨ m = .sub)
    (encoded : operandBits symbols location line m operandText operands = .ok bits) :
    Found symbols location line m operandText operands bits := by
  have family : operandBits symbols location line m operandText operands = (do
      let shift ← checked (← optionalShift symbols location line operands) 0 15 line
        (mnemonicText m ++ " shift out of range 0..15".toList)
      return shift <<< 8 |||
        (← encodeDataAddress symbols location line (mnemonicText m) operands 2)) := by
    rcases accepted with rfl | rfl | rfl <;> rfl
  have meaning : reading symbols location line m operandText operands = (do
      let shift ← optionalShift symbols location line operands
      let data ← readData symbols location line (mnemonicText m) operands 2
      return (m, data.entries { shift := some shift.toNat })) := by
    rcases accepted with rfl | rfl | rfl <;> rfl
  rw [family] at encoded
  simp only [bind_eq_ok] at encoded
  rcases encoded with ⟨value, shown, shift, bounded, byte, address, same⟩
  rcases (checked_yields value 0 15 line _).ok bounded with ⟨rfl, low, high⟩
  cases same
  have small : value.toNat < 16 := by omega
  have base : ∃ base, opcodeValue m = 256 * base ∧ ∀ k < 16, base ||| k = base + k ∧
      encoding (BitVec.ofNat 8 (base + k)) = .addressed m ∧ (base + k) % 16 = k := by
    rcases accepted with rfl | rfl | rfl
    · exact ⟨0x00, by decide, by decide⟩
    · exact ⟨0x20, by decide, by decide⟩
    · exact ⟨0x10, by decide, by decide⟩
  rcases base with ⟨base, fixed, rows⟩
  rcases rows _ small with ⟨apart, row, remainder⟩
  have selects : ∀ low < 256, Model.fieldEntries m (bytesWord (base + value.toNat) low) =
      { shift := some value.toNat } := by
    intro low lowBound
    have field := (@bytesWord_fields (base + value.toNat) low lowBound).2.2.1
    rw [remainder] at field
    rcases accepted with rfl | rfl | rfl <;>
      exact congrArg (fun entry => ({ shift := some entry } : Operands)) field
  rcases decodes_selected (by rcases accepted with rfl | rfl | rfl <;> decide) apart row
    (by rcases accepted with rfl | rfl | rfl <;> rfl) selects address with
    ⟨data, read, decodes⟩
  refine ⟨(m, data.entries { shift := some value.toNat }), ?_, ?_⟩
  · rw [meaning, shown]
    dsimp only [bind, Except.bind]
    rw [read]
    rfl
  · rw [fixed]
    exact decodes

theorem found_sach
    (encoded : operandBits symbols location line .sach operandText operands = .ok bits) :
    Found symbols location line .sach operandText operands bits := by
  simp only [operandBits, bind_eq_ok] at encoded
  rcases encoded with ⟨value, shown, shift, legal, byte, address, same⟩
  cases same
  have three : (value = 0 ∨ value = 1 ∨ value = 4) ∧ shift = value.toNat := by
    unfold sachShift at legal
    split_ifs at legal with among
    cases legal
    exact ⟨among, rfl⟩
  rcases three with ⟨among, rfl⟩
  have rows : 0x58 ||| value.toNat = 0x58 + value.toNat ∧
      encoding (BitVec.ofNat 8 (0x58 + value.toNat)) = .addressed .sach ∧
      (0x58 + value.toNat) % 8 = value.toNat := by
    rcases among with rfl | rfl | rfl <;> decide
  rcases rows with ⟨apart, row, remainder⟩
  have selects : ∀ low < 256, Model.fieldEntries .sach (bytesWord (0x58 + value.toNat) low) =
      { shift := some value.toNat } := by
    intro low lowBound
    have field := (@bytesWord_fields (0x58 + value.toNat) low lowBound).2.2.2.1
    rw [remainder] at field
    exact congrArg (fun entry => ({ shift := some entry } : Operands)) field
  rcases decodes_selected (by decide) apart row rfl selects address with
    ⟨data, read, decodes⟩
  refine ⟨(.sach, data.entries { shift := some value.toNat }), ?_, decodes⟩
  dsimp only [reading]
  rw [shown]
  dsimp only [bind, Except.bind]
  rw [read]
  rfl

theorem found_port (accepted : m = .in ∨ m = .out)
    (encoded : operandBits symbols location line m operandText operands = .ok bits) :
    Found symbols location line m operandText operands bits := by
  have family : operandBits symbols location line m operandText operands = (do
      let port ← ioPort (← operand operands 1) line
      return port <<< 8 |||
        (← encodeDataAddress symbols location line (mnemonicText m) operands 2)) := by
    rcases accepted with rfl | rfl <;> rfl
  have meaning : reading symbols location line m operandText operands = (do
      let port ← ioPort (← operand operands 1) line
      let data ← readData symbols location line (mnemonicText m) operands 2
      return (m, data.entries { port := some port })) := by
    rcases accepted with rfl | rfl <;> rfl
  rw [family] at encoded
  simp only [bind_eq_ok] at encoded
  rcases encoded with ⟨text, second, port, named, byte, address, same⟩
  cases same
  have small : port < 8 := by
    have bound := (ioPort_yields text line).ok named
    omega
  have base : ∃ base, opcodeValue m = 256 * base ∧ ∀ k < 8, base ||| k = base + k ∧
      encoding (BitVec.ofNat 8 (base + k)) = .addressed m ∧ (base + k) % 8 = k := by
    rcases accepted with rfl | rfl
    · exact ⟨0x40, by decide, by decide⟩
    · exact ⟨0x48, by decide, by decide⟩
  rcases base with ⟨base, fixed, rows⟩
  rcases rows _ small with ⟨apart, row, remainder⟩
  have selects : ∀ low < 256, Model.fieldEntries m (bytesWord (base + port) low) =
      { port := some port } := by
    intro low lowBound
    have field := (@bytesWord_fields (base + port) low lowBound).2.2.2.1
    rw [remainder] at field
    rcases accepted with rfl | rfl <;>
      exact congrArg (fun entry => ({ port := some entry } : Operands)) field
  rcases decodes_selected (by rcases accepted with rfl | rfl <;> decide) apart row
    (by rcases accepted with rfl | rfl <;> rfl) selects address with ⟨data, read, decodes⟩
  refine ⟨(m, data.entries { port := some port }), ?_, ?_⟩
  · rw [meaning, second]
    dsimp only [bind, Except.bind]
    rw [named]
    dsimp only
    rw [read]
    rfl
  · rw [fixed]
    exact decodes

theorem found_register (accepted : m = .lar ∨ m = .sar)
    (encoded : operandBits symbols location line m operandText operands = .ok bits) :
    Found symbols location line m operandText operands bits := by
  have family : operandBits symbols location line m operandText operands = (do
      let register ← auxiliaryRegister (← operand operands 0) line
      return register <<< 8 |||
        (← encodeDataAddress symbols location line (mnemonicText m) (operands.drop 1) 1)) := by
    rcases accepted with rfl | rfl <;> rfl
  have meaning : reading symbols location line m operandText operands = (do
      let register ← auxiliaryRegister (← operand operands 0) line
      let data ← readData symbols location line (mnemonicText m) (operands.drop 1) 1
      return (m, data.entries { auxiliaryRegister := some register })) := by
    rcases accepted with rfl | rfl <;> rfl
  rw [family] at encoded
  simp only [bind_eq_ok] at encoded
  rcases encoded with ⟨text, first, register, named, byte, address, same⟩
  cases same
  have small : register < 2 := by
    have bound := (auxiliaryRegister_yields text line).ok named
    omega
  have base : ∃ base, opcodeValue m = 256 * base ∧ ∀ k < 2, base ||| k = base + k ∧
      encoding (BitVec.ofNat 8 (base + k)) = .addressed m ∧ (base + k) % 2 = k := by
    rcases accepted with rfl | rfl
    · exact ⟨0x38, by decide, by decide⟩
    · exact ⟨0x30, by decide, by decide⟩
  rcases base with ⟨base, fixed, rows⟩
  rcases rows _ small with ⟨apart, row, remainder⟩
  have selects : ∀ low < 256, Model.fieldEntries m (bytesWord (base + register) low) =
      { auxiliaryRegister := some register } := by
    intro low lowBound
    have field := (@bytesWord_bits (base + register) low lowBound).2.1
    rw [remainder] at field
    rcases accepted with rfl | rfl <;>
      exact congrArg (fun entry => ({ auxiliaryRegister := some entry } : Operands)) field
  rcases decodes_selected (by rcases accepted with rfl | rfl <;> decide) apart row
    (by rcases accepted with rfl | rfl <;> rfl) selects address with ⟨data, read, decodes⟩
  refine ⟨(m, data.entries { auxiliaryRegister := some register }), ?_, ?_⟩
  · rw [meaning, first]
    dsimp only [bind, Except.bind]
    rw [named]
    dsimp only
    rw [read]
    rfl
  · rw [fixed]
    exact decodes

theorem found_lark
    (encoded : operandBits symbols location line .lark operandText operands = .ok bits) :
    Found symbols location line .lark operandText operands bits := by
  simp only [operandBits, bind_eq_ok] at encoded
  rcases encoded with ⟨text, first, register, named, second, found, value, evaluated, constant,
    bounded, same⟩
  cases same
  rcases (checked_yields value 0 _ line _).ok bounded with ⟨rfl, low, high⟩
  have lowBound : value.toNat < 256 := by omega
  have small : register < 2 := by
    have bound := (auxiliaryRegister_yields text line).ok named
    omega
  have rows : ∀ k < 2, 0x70 ||| k = 0x70 + k ∧
      encoding (BitVec.ofNat 8 (0x70 + k)) = .constant .lark ∧ (0x70 + k) % 2 = k := by
    decide
  rcases rows _ small with ⟨apart, row, remainder⟩
  refine ⟨(.lark, { auxiliaryRegister := some register, constant := some value }), ?_, ?_⟩
  · dsimp only [reading]
    rw [first]
    dsimp only [bind, Except.bind]
    rw [named, found]
    dsimp only
    rw [evaluated]
    rfl
  · change Decodes (BitVec.ofNat 16 (256 * 0x70 ||| (register <<< 8 ||| value.toNat))) _
    rw [or_bytes apart lowBound]
    constructor
    · refine (mnemonic?_bytesWord lowBound).trans ?_
      rw [row]
      rfl
    · intro _
      have selected := (@bytesWord_bits (0x70 + register) value.toNat lowBound).2.1
      have held : ((Instruction.lowByte (bytesWord (0x70 + register) value.toNat)).toNat : ℤ) =
          value := by
        rw [(bytesWord_fields lowBound).2.1, BitVec.toNat_ofNat]
        omega
      rw [remainder] at selected
      exact congrArg₂ (fun (register : ℕ) (entry : ℤ) =>
        ({ auxiliaryRegister := some register, constant := some entry } : Operands)) selected held

/-- The instructions with an addressing byte and nothing else. -/
theorem found_data {index : ℕ} (other : m ≠ .sst)
    (fixed : opcodeValue m = 256 * (opcodeValue m / 256))
    (row : encoding (BitVec.ofNat 8 (opcodeValue m / 256)) = .addressed m)
    (modifies : m.modifiesAuxiliary = true) (selects : ∀ word, Model.fieldEntries m word = {})
    (meaning : reading symbols location line m operandText operands =
      (readData symbols location line (mnemonicText m) operands index >>= fun data =>
        pure (m, data.entries {})))
    (encoded : encodeDataAddress symbols location line (mnemonicText m) operands index =
      .ok bits) :
    Found symbols location line m operandText operands bits := by
  rcases decodes_data other row modifies selects encoded with ⟨data, read, decodes⟩
  refine ⟨(m, data.entries {}), ?_, ?_⟩
  · rw [meaning, read]
    rfl
  · rw [fixed]
    exact decodes

/-- The word of a statement decodes to what the statement says. -/
theorem found_of_bits
    (encoded : operandBits symbols location line m operandText operands = .ok bits) :
    Found symbols location line m operandText operands bits := by
  cases m with
  | nop | zac | rovm | sovm | dint | eint | pac | apac | spac | cala | ret | pop | push | abs =>
      cases encoded
      exact ⟨_, rfl, by decide +kernel, by decide +kernel⟩
  | lack => exact found_lack encoded
  | ldpk => exact found_ldpk encoded
  | larp => exact found_larp encoded
  | mpyk => exact found_mpyk encoded
  | b | banz | bgez | bgz | bioz | blez | blz | bnz | bv | bz | call =>
      exact found_branch rfl encoded
  | add | lac | sub => exact found_shift (by decide) encoded
  | sach => exact found_sach encoded
  | «in» | out => exact found_port (by decide) encoded
  | lar | sar => exact found_register (by decide) encoded
  | lark => exact found_lark encoded
  | mar => exact decodes_mar encoded
  | sst =>
      rcases decodes_sst encoded with ⟨data, read, decodes⟩
      refine ⟨(.sst, data.entries {}), ?_, decodes⟩
      dsimp only [reading]
      rw [read]
      rfl
  | sacl =>
      simp only [operandBits, bind_eq_ok] at encoded
      rcases encoded with ⟨value, shown, plain, legal, address⟩
      exact found_data (by decide) (by decide) (by decide +kernel) rfl (fun _ => rfl) rfl address
  | addh | adds | and | dmov | ldp | lst | lt | lta | ltd | mpy | or | subc | subh | subs | tblr
  | tblw | xor | zalh | zals =>
      exact found_data (by decide) (by decide) (by decide +kernel) rfl (fun _ => rfl) rfl encoded

theorem encode_mnemonic {operation : Text} {word : ℕ}
    (encoded : encode symbols location line operation operandText = .ok word) :
    ∃ m, operation = mnemonicText m := by
  simp only [encode, bind_eq_ok] at encoded
  rcases encoded with ⟨entry, shape, -⟩
  have found := ((validateInstructionShape_yields operation operandText line).ok shape).1
  exact ⟨entry.mnemonic, (findEntry_mem found).2.symm⟩

/-- The word of an encoded statement decodes to what the statement says. -/
theorem encode_reading {word : ℕ}
    (encoded : encode symbols location line (mnemonicText m) operandText = .ok word) :
    ∃ operands said, instructionOperands operandText line = .ok operands ∧
      reading symbols location line m operandText operands = .ok said ∧
      Decodes (BitVec.ofNat 16 word) said := by
  simp only [encode, bind_eq_ok] at encoded
  rcases encoded with ⟨entry, shape, operands, listed, bits, encoded, same⟩
  cases same
  have found := ((validateInstructionShape_yields (mnemonicText m) operandText line).ok shape).1
  have known := findEntry_eq m
  rw [found, Option.map_some, Option.some.injEq, Prod.mk.injEq] at known
  rcases known with ⟨rfl, value⟩
  rcases found_of_bits encoded with ⟨said, read, decodes⟩
  rw [value]
  exact ⟨operands, said, listed, read, decodes⟩

end Families

example :
    @reading .plain [] 0 ⟨[], 1, []⟩ .add "*+,3,AR1".toList ["*+".toList, "3".toList, "AR1".toList] =
      .ok (.add, { shift := some 3, indirect := some 1, addressingField := some 0x21 }) := by
  decide +kernel

end Tms32010.Tools
