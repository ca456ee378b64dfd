import Tms32010.Model.State

/-!
# Reference model: `_decode`

The tests stand in the order of the source, on the opcode as a natural number.
-/

namespace Tms32010.Model

/-- The result of `_decode`. -/
abbrev DecodeResult := Except Error (Mnemonic × Operands)

/-- The check repeated in every family with an addressing byte. -/
def addressingRejected (opcode : Nat) : Bool :=
  let indirect := (opcode >>> 7) &&& 1
  let control := opcode &&& 0x7F
  indirect != 0 && ((control &&& 0x46) != 0 || (control &&& 0x30) == 0x30)

/-- A family with an addressing byte; `operands` are its entries besides the
addressing mode and field. -/
def decodeAddressed (pc opcode : Nat) (mnemonic : Mnemonic) (operands : Operands := {}) :
    DecodeResult :=
  if addressingRejected opcode then .error (.unsupportedOpcode pc opcode)
  else
    .ok (mnemonic,
      { operands with
        indirect := some ((opcode >>> 7) &&& 1)
        addressingField := some (opcode &&& 0x7F) })

/-- `SACH` also rejects the shifts that are not implemented. -/
def decodeSach (pc opcode : Nat) : DecodeResult :=
  let shift := (opcode >>> 8) &&& 0x7
  if !(shift == 0 || shift == 1 || shift == 4) || addressingRejected opcode then
    .error (.unsupportedOpcode pc opcode)
  else
    .ok (.sach,
      { shift := some shift
        indirect := some ((opcode >>> 7) &&& 1)
        addressingField := some (opcode &&& 0x7F) })

/-- Direct `SST` rejects the offsets above the sixteen words of page one. -/
def decodeSst (pc opcode : Nat) : DecodeResult :=
  let indirect := (opcode >>> 7) &&& 1
  let control := opcode &&& 0x7F
  if (indirect == 0 && (control &&& 0x70) != 0) || addressingRejected opcode then
    .error (.unsupportedOpcode pc opcode)
  else .ok (.sst, { indirect := some indirect, addressingField := some control })

/-- The signed thirteen-bit constant of `MPYK`. -/
def mpykConstant (opcode : Nat) : Int :=
  let constant := opcode &&& 0x1FFF
  if (constant &&& 0x1000) != 0 then (constant : Int) - 0x2000 else constant

/-- The `fixed` table. -/
def fixed (opcode : Nat) : Option Mnemonic :=
  if opcode = 0x7F80 then some .nop
  else if opcode = 0x7F81 then some .dint
  else if opcode = 0x7F82 then some .eint
  else if opcode = 0x7F88 then some .abs
  else if opcode = 0x7F89 then some .zac
  else if opcode = 0x7F8A then some .rovm
  else if opcode = 0x7F8B then some .sovm
  else if opcode = 0x7F8C then some .cala
  else if opcode = 0x7F8D then some .ret
  else if opcode = 0x7F8E then some .pac
  else if opcode = 0x7F8F then some .apac
  else if opcode = 0x7F90 then some .spac
  else if opcode = 0x7F9C then some .push
  else if opcode = 0x7F9D then some .pop
  else none

/-- The lookup in `fixed` that ends `_decode`. -/
def decodeFixed (opcode pc : Nat) : DecodeResult :=
  match fixed opcode with
  | some mnemonic => .ok (mnemonic, {})
  | none => .error (.unsupportedOpcode pc opcode)

/-- The families that are recognised by their opcode and need no operand. -/
def decodeBranch (opcode : Nat) : Option Mnemonic :=
  if opcode = 0xFA00 then some .blz
  else if opcode = 0xFB00 then some .blez
  else if opcode = 0xFC00 then some .bgz
  else if opcode = 0xFD00 then some .bgez
  else if opcode = 0xFE00 then some .bnz
  else if opcode = 0xFF00 then some .bz
  else if opcode = 0xF900 then some .b
  else if opcode = 0xF400 then some .banz
  else if opcode = 0xF500 then some .bv
  else if opcode = 0xF600 then some .bioz
  else if opcode = 0xF800 then some .call
  else none

/-- `_decode` from `LARK` on. -/
def decodeLast (opcode pc : Nat) : DecodeResult :=
  if opcode &&& 0xFE00 = 0x7000 then
    .ok (.lark,
      { auxiliaryRegister := some ((opcode >>> 8) &&& 1)
        constant := some (opcode &&& 0xFF : Nat) })
  else if opcode &&& 0xFFFE = 0x6880 then
    .ok (.larp, { constant := some (opcode &&& 1 : Nat) })
  else if opcode &&& 0xFF00 = 0x6800 then decodeAddressed pc opcode .mar
  else if opcode &&& 0xFF00 = 0x6F00 then decodeAddressed pc opcode .ldp
  else if opcode &&& 0xFF00 = 0x6A00 then decodeAddressed pc opcode .lt
  else if opcode &&& 0xFF00 = 0x6900 then decodeAddressed pc opcode .dmov
  else if opcode &&& 0xFF00 = 0x6C00 then decodeAddressed pc opcode .lta
  else if opcode &&& 0xFF00 = 0x6B00 then decodeAddressed pc opcode .ltd
  else if opcode &&& 0xFF00 = 0x6D00 then decodeAddressed pc opcode .mpy
  else if opcode &&& 0xE000 = 0x8000 then
    .ok (.mpyk, { constant := some (mpykConstant opcode) })
  else if opcode &&& 0xFFFE = 0x6E00 then
    .ok (.ldpk, { constant := some (opcode &&& 1 : Nat) })
  else decodeFixed opcode pc

/-- `_decode` from `ZALH` to `SST`. -/
def decodeArithmetic (opcode pc : Nat) : DecodeResult :=
  if opcode &&& 0xFF00 = 0x6500 ∨ opcode &&& 0xFF00 = 0x6600 then
    decodeAddressed pc opcode (if opcode &&& 0xFF00 = 0x6500 then .zalh else .zals)
  else if opcode &&& 0xFF00 = 0x6100 then decodeAddressed pc opcode .adds
  else if opcode &&& 0xFF00 = 0x6000 then decodeAddressed pc opcode .addh
  else if opcode &&& 0xFF00 = 0x6200 ∨ opcode &&& 0xFF00 = 0x6300 then
    decodeAddressed pc opcode (if opcode &&& 0xFF00 = 0x6200 then .subh else .subs)
  else if opcode &&& 0xFF00 = 0x6400 then decodeAddressed pc opcode .subc
  else if opcode &&& 0xFF00 = 0x7800 ∨ opcode &&& 0xFF00 = 0x7900 ∨
      opcode &&& 0xFF00 = 0x7A00 ∨ opcode &&& 0xFF00 = 0x7B00 then
    decodeAddressed pc opcode
      (if opcode &&& 0xFF00 = 0x7800 then .xor
       else if opcode &&& 0xFF00 = 0x7900 then .and
       else if opcode &&& 0xFF00 = 0x7A00 then .or
       else .lst)
  else if opcode &&& 0xFF00 = 0x7C00 then decodeSst pc opcode
  else decodeLast opcode pc

/-- `_decode` after the branch opcodes. -/
def decodeRest (opcode pc : Nat) : DecodeResult :=
  if opcode &&& 0xF800 = 0x4000 ∨ opcode &&& 0xF800 = 0x4800 then
    decodeAddressed pc opcode (if opcode &&& 0xF800 = 0x4000 then .in else .out)
      { port := some ((opcode >>> 8) &&& 0x7) }
  else if opcode &&& 0xFF00 = 0x6700 ∨ opcode &&& 0xFF00 = 0x7D00 then
    decodeAddressed pc opcode (if opcode &&& 0xFF00 = 0x6700 then .tblr else .tblw)
  else if opcode &&& 0xF000 = 0x0000 then
    decodeAddressed pc opcode .add { shift := some ((opcode >>> 8) &&& 0xF) }
  else if opcode &&& 0xF000 = 0x1000 then
    decodeAddressed pc opcode .sub { shift := some ((opcode >>> 8) &&& 0xF) }
  else if opcode &&& 0xF000 = 0x2000 then
    decodeAddressed pc opcode .lac { shift := some ((opcode >>> 8) &&& 0xF) }
  else if opcode &&& 0xFE00 = 0x3000 then
    decodeAddressed pc opcode .sar { auxiliaryRegister := some ((opcode >>> 8) &&& 1) }
  else if opcode &&& 0xFE00 = 0x3800 then
    decodeAddressed pc opcode .lar { auxiliaryRegister := some ((opcode >>> 8) &&& 1) }
  else if opcode &&& 0xFF00 = 0x7E00 then
    .ok (.lack, { constant := some (opcode &&& 0xFF : Nat) })
  else if opcode &&& 0xFF00 = 0x5000 then decodeAddressed pc opcode .sacl
  else if opcode &&& 0xF800 = 0x5800 then decodeSach pc opcode
  else decodeArithmetic opcode pc

/-- `_decode`. -/
def decode (opcode pc : Nat) : DecodeResult :=
  match decodeBranch opcode with
  | some mnemonic => .ok (mnemonic, {})
  | none => decodeRest opcode pc

end Tms32010.Model
