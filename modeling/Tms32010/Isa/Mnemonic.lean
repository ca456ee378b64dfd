import Mathlib.Data.BitVec

/-!
# The instruction set

The sixty mnemonics and the encoding table. The high byte of a word selects a
row; the row says what the low byte must be and which mnemonic results. The
operand fields are fixed slices of the word. Both hand-written decoders of the
repository are compared with this table.
-/

namespace Tms32010

/-- The documented mnemonics of the original part. -/
inductive Mnemonic where
  | lack | nop | zac | rovm | sovm | lark | larp | ldpk | lac | sacl | sach | zalh | zals
  | adds | xor | and | or | add | sub | subs | lar | sar | mar | ldp | lt | mpy | mpyk | pac
  | apac | spac | lta | ltd | dmov | dint | eint | lst | subc | banz | b | bgez | bgz | blez
  | blz | bnz | bz | bv | bioz | call | in | out | tblr | tblw | subh | abs | sst | addh
  | cala | ret | push | pop
  deriving DecidableEq, Repr

namespace Mnemonic

/-- Two-word branches and `CALL`. -/
def twoWordControlFlow : Mnemonic → Bool
  | .b | .banz | .bv | .bioz | .call | .bgez | .bgz | .blez | .blz | .bnz | .bz => true
  | _ => false

/-- The two instructions whose target comes from a register. -/
def computedControlFlow : Mnemonic → Bool
  | .cala | .ret => true
  | _ => false

/-- The two explicit stack instructions, which the RTL does not implement. -/
def stackAccess : Mnemonic → Bool
  | .push | .pop => true
  | _ => false

/-- Instructions that read a data word in their own cycle. -/
def readsData : Mnemonic → Bool
  | .lac | .zalh | .zals | .addh | .adds | .xor | .and | .or | .add | .sub | .subh | .subs
  | .subc | .lar | .ldp | .dmov | .lt | .ltd | .lta | .mpy | .lst => true
  | _ => false

/-- Instructions that copy the addressed word to the next address. -/
def movesData : Mnemonic → Bool
  | .dmov | .ltd => true
  | _ => false

/-- Instructions that store a register value at the addressed word. -/
def storesRegister : Mnemonic → Bool
  | .sacl | .sach | .sar | .sst => true
  | _ => false

/-- `TBLR` and `TBLW`. -/
def tableTransfer : Mnemonic → Bool
  | .tblr | .tblw => true
  | _ => false

/-- `IN` and `OUT`. -/
def ioTransfer : Mnemonic → Bool
  | .in | .out => true
  | _ => false

/-- Instructions whose low byte selects a data word. -/
def dataAddressed (m : Mnemonic) : Bool :=
  m.readsData || m.storesRegister || m.tableTransfer || m.ioTransfer

theorem dataAddressed_of_readsData {m : Mnemonic} (reads : m.readsData = true) :
    m.dataAddressed = true := by
  simp [dataAddressed, reads]

/-- Instructions whose low byte is an addressing byte: `MAR` modifies but addresses nothing. -/
def modifiesAuxiliary (m : Mnemonic) : Bool := m.dataAddressed || m == .mar

/-- The multiplications, which protect the instruction that follows them. -/
def multiplies : Mnemonic → Bool
  | .mpy | .mpyk => true
  | _ => false

section Families

variable {m : Mnemonic}

/-- The instructions longer than a cycle belong to one family each. -/
theorem twoWordControlFlow_apart (family : m.twoWordControlFlow = true) :
    m.computedControlFlow = false ∧ m.tableTransfer = false ∧ m.ioTransfer = false := by
  cases m <;> first | exact ⟨rfl, rfl, rfl⟩ | exact absurd family (by decide)

theorem computedControlFlow_apart (family : m.computedControlFlow = true) :
    m.twoWordControlFlow = false ∧ m.tableTransfer = false ∧ m.ioTransfer = false := by
  cases m <;> first | exact ⟨rfl, rfl, rfl⟩ | exact absurd family (by decide)

theorem tableTransfer_apart (family : m.tableTransfer = true) :
    m.twoWordControlFlow = false ∧ m.computedControlFlow = false ∧ m.ioTransfer = false := by
  cases m <;> first | exact ⟨rfl, rfl, rfl⟩ | exact absurd family (by decide)

theorem ioTransfer_apart (family : m.ioTransfer = true) :
    m.twoWordControlFlow = false ∧ m.computedControlFlow = false ∧ m.tableTransfer = false := by
  cases m <;> first | exact ⟨rfl, rfl, rfl⟩ | exact absurd family (by decide)

theorem dataAddressed_of_ioTransfer (family : m.ioTransfer = true) : m.dataAddressed = true := by
  simp [dataAddressed, family]

theorem tableTransfer_iff : m.tableTransfer = true ↔ m = .tblr ∨ m = .tblw := by
  cases m <;> decide

theorem ioTransfer_iff : m.ioTransfer = true ↔ m = .in ∨ m = .out := by
  cases m <;> decide

end Families

end Mnemonic

/-! ## Operand fields -/

namespace Instruction

variable (word : BitVec 16)

abbrev opcode : BitVec 8 := word.extractLsb' 8 8
abbrev lowByte : BitVec 8 := word.extractLsb' 0 8
abbrev constant13 : BitVec 13 := word.extractLsb' 0 13
abbrev indirect : Bool := word.getLsbD 7
abbrev addressingField : BitVec 7 := word.extractLsb' 0 7
abbrev increment : Bool := word.getLsbD 5
abbrev decrement : Bool := word.getLsbD 4
abbrev preserveArp : Bool := word.getLsbD 3
abbrev nextArp : Bool := word.getLsbD 0
abbrev auxiliaryRegister : Bool := word.getLsbD 8
abbrev shift : BitVec 4 := word.extractLsb' 8 4
abbrev storeShift : BitVec 3 := word.extractLsb' 8 3
abbrev port : BitVec 3 := word.extractLsb' 8 3

end Instruction

/-! ## Encoding table -/

/-- What one value of the high byte encodes. -/
inductive Encoding where
  /-- The low byte is an addressing byte. -/
  | addressed (mnemonic : Mnemonic)
  /-- Direct `SST` is confined to page one. -/
  | statusStore
  /-- `LARP`, and `MAR` with its addressing byte. -/
  | auxiliary
  /-- Every low byte is a constant. -/
  | constant (mnemonic : Mnemonic)
  /-- A one-bit constant. -/
  | page
  /-- The low byte is zero. -/
  | branch (mnemonic : Mnemonic)
  /-- The low byte selects among the fixed words. -/
  | fixed
  | unassigned
  deriving DecidableEq, Repr

/-- The row a high byte selects. -/
def encoding (opcode : BitVec 8) : Encoding :=
  match opcode.toNat with
  | 0x00 | 0x01 | 0x02 | 0x03 | 0x04 | 0x05 | 0x06 | 0x07
  | 0x08 | 0x09 | 0x0a | 0x0b | 0x0c | 0x0d | 0x0e | 0x0f => .addressed .add
  | 0x10 | 0x11 | 0x12 | 0x13 | 0x14 | 0x15 | 0x16 | 0x17
  | 0x18 | 0x19 | 0x1a | 0x1b | 0x1c | 0x1d | 0x1e | 0x1f => .addressed .sub
  | 0x20 | 0x21 | 0x22 | 0x23 | 0x24 | 0x25 | 0x26 | 0x27
  | 0x28 | 0x29 | 0x2a | 0x2b | 0x2c | 0x2d | 0x2e | 0x2f => .addressed .lac
  | 0x30 | 0x31 => .addressed .sar
  | 0x38 | 0x39 => .addressed .lar
  | 0x40 | 0x41 | 0x42 | 0x43 | 0x44 | 0x45 | 0x46 | 0x47 => .addressed .in
  | 0x48 | 0x49 | 0x4a | 0x4b | 0x4c | 0x4d | 0x4e | 0x4f => .addressed .out
  | 0x50 => .addressed .sacl
  | 0x58 | 0x59 | 0x5c => .addressed .sach
  | 0x60 => .addressed .addh
  | 0x61 => .addressed .adds
  | 0x62 => .addressed .subh
  | 0x63 => .addressed .subs
  | 0x64 => .addressed .subc
  | 0x65 => .addressed .zalh
  | 0x66 => .addressed .zals
  | 0x67 => .addressed .tblr
  | 0x68 => .auxiliary
  | 0x69 => .addressed .dmov
  | 0x6a => .addressed .lt
  | 0x6b => .addressed .ltd
  | 0x6c => .addressed .lta
  | 0x6d => .addressed .mpy
  | 0x6e => .page
  | 0x6f => .addressed .ldp
  | 0x70 | 0x71 => .constant .lark
  | 0x78 => .addressed .xor
  | 0x79 => .addressed .and
  | 0x7a => .addressed .or
  | 0x7b => .addressed .lst
  | 0x7c => .statusStore
  | 0x7d => .addressed .tblw
  | 0x7e => .constant .lack
  | 0x7f => .fixed
  | 0xf4 => .branch .banz
  | 0xf5 => .branch .bv
  | 0xf6 => .branch .bioz
  | 0xf8 => .branch .call
  | 0xf9 => .branch .b
  | 0xfa => .branch .blz
  | 0xfb => .branch .blez
  | 0xfc => .branch .bgz
  | 0xfd => .branch .bgez
  | 0xfe => .branch .bnz
  | 0xff => .branch .bz
  | high => if 0x80 ≤ high ∧ high < 0xa0 then .constant .mpyk else .unassigned

/-- The mnemonics under the high byte `0x7f`. -/
def fixedMnemonic (low : BitVec 8) : Option Mnemonic :=
  match low.toNat with
  | 0x80 => some .nop
  | 0x81 => some .dint
  | 0x82 => some .eint
  | 0x88 => some .abs
  | 0x89 => some .zac
  | 0x8a => some .rovm
  | 0x8b => some .sovm
  | 0x8c => some .cala
  | 0x8d => some .ret
  | 0x8e => some .pac
  | 0x8f => some .apac
  | 0x90 => some .spac
  | 0x9c => some .push
  | 0x9d => some .pop
  | _ => none

/-- An addressing byte: any direct address, or an indirect one without reserved
bits that does not ask for an increment and a decrement at once. -/
def addressingByteValid (low : BitVec 8) : Bool :=
  !low.getLsbD 7 ||
    (!low.getLsbD 6 && !low.getLsbD 2 && !low.getLsbD 1 && !(low.getLsbD 5 && low.getLsbD 4))

/-- The mnemonic a row and a low byte encode. -/
def Encoding.mnemonic? (row : Encoding) (low : BitVec 8) : Option Mnemonic :=
  match row with
  | .addressed m => if addressingByteValid low then some m else none
  | .statusStore =>
      if addressingByteValid low && (low.getLsbD 7 || low.extractLsb' 4 3 == 0) then some .sst
      else none
  | .auxiliary =>
      if low == 0x80 || low == 0x81 then some .larp
      else if addressingByteValid low then some .mar
      else none
  | .constant m => some m
  | .page => if low == 0 || low == 1 then some .ldpk else none
  | .branch m => if low == 0 then some m else none
  | .fixed => fixedMnemonic low
  | .unassigned => none

/-- The mnemonic a word encodes, if any. -/
def mnemonic? (word : BitVec 16) : Option Mnemonic :=
  (encoding (Instruction.opcode word)).mnemonic? (Instruction.lowByte word)

/-! ## Shape of the table -/

/-- A row carries a mnemonic of the family the row is for. -/
def Encoding.consistent (row : Encoding) : Bool :=
  match row with
  | .addressed m => m.dataAddressed && m != .sst
  | .constant m => !m.modifiesAuxiliary && !m.stackAccess
  | .branch m => m.twoWordControlFlow
  | _ => true

/-- What the 256 rows have in common. -/
theorem encoding_rows (high : BitVec 8) :
    (encoding high).consistent = true ∧ (encoding high = .fixed → high = 0x7f) ∧
      (encoding high = .auxiliary → high = 0x68) ∧
      (encoding high = .addressed .sach →
        high.extractLsb' 0 3 = 0 ∨ high.extractLsb' 0 3 = 1 ∨ high.extractLsb' 0 3 = 4) := by
  revert high
  decide +kernel

theorem fixedMnemonic_plain {low : BitVec 8} {m : Mnemonic}
    (found : fixedMnemonic low = some m) :
    m.modifiesAuxiliary = false ∧ m.twoWordControlFlow = false := by
  unfold fixedMnemonic at found
  split at found <;> cases found <;> exact ⟨rfl, rfl⟩

/-- A word whose low byte is an addressing byte has a valid one. -/
theorem addressingByteValid_of_modifies {word : BitVec 16} {m : Mnemonic}
    (found : mnemonic? word = some m) (modifies : m.modifiesAuxiliary = true) :
    addressingByteValid (Instruction.lowByte word) = true := by
  rcases encoding_rows (Instruction.opcode word) with ⟨consistent, -⟩
  unfold mnemonic? at found
  cases row : encoding (Instruction.opcode word) <;> rw [row] at found consistent <;>
    simp only [Encoding.mnemonic?] at found
  case addressed =>
    rw [Option.ite_none_right_eq_some] at found
    exact found.1
  case statusStore =>
    rw [Option.ite_none_right_eq_some, Bool.and_eq_true] at found
    exact found.1.1
  case auxiliary =>
    split at found
    · cases found
      exact absurd modifies (by decide)
    · rw [Option.ite_none_right_eq_some] at found
      exact found.1
  case constant =>
    cases found
    simp [Encoding.consistent, modifies] at consistent
  case page =>
    rw [Option.ite_none_right_eq_some] at found
    cases found.2
    exact absurd modifies (by decide)
  case branch =>
    rw [Option.ite_none_right_eq_some] at found
    cases found.2
    cases m <;> first | exact absurd consistent (by decide) | exact absurd modifies (by decide)
  case fixed =>
    rw [(fixedMnemonic_plain found).1] at modifies
    exact absurd modifies (by decide)
  case unassigned => cases found

end Tms32010
