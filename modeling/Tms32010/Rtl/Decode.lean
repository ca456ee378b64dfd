import Mathlib.Data.BitVec

/-!
# Instruction decoder

`tms32010_decode` and the operation codes of `tms32010_pkg`. The decoder is
combinational: it returns a validity bit, an operation and the raw fields of the
word. Fields are meaningful only where the word is valid for the family that
uses them, exactly as in the source.
-/

namespace Tms32010.Rtl

/-- The `OP_*` codes of `tms32010_pkg`, in the order of their encodings. -/
inductive Operation where
  | lack | nop | zac | rovm | sovm | lark | larp | ldpk | lac | sacl | sach | zalh | zals
  | adds | xor | and | or | add | sub | subs | lar | sar | mar | ldp | lt | mpy | mpyk | pac
  | apac | spac | lta | ltd | dmov | dint | eint | lst | subc | banz | b | bgez | bgz | blez
  | blz | bnz | bz | bv | bioz | call | in | out | tblr | tblw | subh | abs | sst | addh
  | cala | ret
  deriving DecidableEq, Repr

namespace Operation

/-- The six-bit encoding carried on `operation_o`. -/
def code : Operation → BitVec 6
  | .lack => 0 | .nop => 1 | .zac => 2 | .rovm => 3 | .sovm => 4 | .lark => 5 | .larp => 6
  | .ldpk => 7 | .lac => 8 | .sacl => 9 | .sach => 10 | .zalh => 11 | .zals => 12 | .adds => 13
  | .xor => 14 | .and => 15 | .or => 16 | .add => 17 | .sub => 18 | .subs => 19 | .lar => 20
  | .sar => 21 | .mar => 22 | .ldp => 23 | .lt => 24 | .mpy => 25 | .mpyk => 26 | .pac => 27
  | .apac => 28 | .spac => 29 | .lta => 30 | .ltd => 31 | .dmov => 32 | .dint => 33 | .eint => 34
  | .lst => 35 | .subc => 36 | .banz => 37 | .b => 38 | .bgez => 39 | .bgz => 40 | .blez => 41
  | .blz => 42 | .bnz => 43 | .bz => 44 | .bv => 45 | .bioz => 46 | .call => 47 | .in => 48
  | .out => 49 | .tblr => 50 | .tblw => 51 | .subh => 52 | .abs => 53 | .sst => 54 | .addh => 55
  | .cala => 56 | .ret => 57

end Operation

/-- The outputs of `tms32010_decode`. -/
structure Decoded where
  valid : Bool
  operation : Operation
  immediate : BitVec 8
  immediate13 : BitVec 13
  auxiliaryRegister : Bool
  shift : BitVec 4
  port : BitVec 3
  indirect : Bool
  addressingField : BitVec 7
  dataAddressed : Bool
  deriving DecidableEq, Repr

/-- The low-byte check shared by every data-addressed family: a direct address,
or an indirect one with no reserved bit and not both counter controls. -/
def addressingValid (instruction : BitVec 16) : Bool :=
  if !instruction.getLsbD 7 then true
  else !instruction.getLsbD 6 && instruction.extractLsb' 1 2 == 0b00 &&
    instruction.extractLsb' 4 2 != 0b11

/-- The values every output has before the family selection. -/
def decodeDefaults (instruction : BitVec 16) : Decoded where
  valid := false
  operation := .nop
  immediate := instruction.extractLsb' 0 8
  immediate13 := instruction.extractLsb' 0 13
  auxiliaryRegister := instruction.getLsbD 8
  shift := instruction.extractLsb' 8 4
  port := instruction.extractLsb' 8 3
  indirect := instruction.getLsbD 7
  addressingField := instruction.extractLsb' 0 7
  dataAddressed := false

/-- A data-addressed family whose only low-byte condition is `addressingValid`. -/
def decodeDataAddressed (instruction : BitVec 16) (operation : Operation) : Decoded :=
  { decodeDefaults instruction with
    dataAddressed := true
    operation := operation
    valid := addressingValid instruction }

/-- A word no further bit of which is checked. -/
def decodeValid (instruction : BitVec 16) (operation : Operation) : Decoded :=
  { decodeDefaults instruction with valid := true, operation := operation }

/-- The `default` of the final `casez`, which clears the fields. -/
def decodeInvalid (instruction : BitVec 16) : Decoded :=
  { decodeDefaults instruction with
    immediate := 0
    auxiliaryRegister := false
    shift := 0
    port := 0
    indirect := false
    addressingField := 0 }

/-- The two families under `8'h68`: `LARP`, and `MAR`, which addresses no data. -/
def decodeAuxiliary (instruction : BitVec 16) : Decoded :=
  if instruction &&& 0xfffe == 0x6880 then
    decodeValid instruction .larp
  else
    { decodeDefaults instruction with
      operation := .mar
      valid := addressingValid instruction }

/-- Direct `SST` always selects page one, so offsets above `0x0f` are not encodings. -/
def decodeStatusStore (instruction : BitVec 16) : Decoded :=
  { decodeDefaults instruction with
    dataAddressed := true
    operation := .sst
    valid :=
      if !instruction.getLsbD 7 then instruction.extractLsb' 4 3 == 0b000
      else addressingValid instruction }

/-- The final `casez`: immediates, fixed words and branch opcodes. -/
def decodeFixed (instruction : BitVec 16) : Decoded :=
  if instruction.extractLsb' 1 15 == 0b0110_1110_0000_000 then decodeValid instruction .ldpk
  else if instruction.extractLsb' 9 7 == 0b0111_000 then decodeValid instruction .lark
  else if instruction.extractLsb' 8 8 == 0b0111_1110 then decodeValid instruction .lack
  else if instruction == 0x7f80 then decodeValid instruction .nop
  else if instruction == 0x7f81 then decodeValid instruction .dint
  else if instruction == 0x7f82 then decodeValid instruction .eint
  else if instruction == 0x7f88 then decodeValid instruction .abs
  else if instruction == 0x7f89 then decodeValid instruction .zac
  else if instruction == 0x7f8a then decodeValid instruction .rovm
  else if instruction == 0x7f8b then decodeValid instruction .sovm
  else if instruction == 0x7f8c then decodeValid instruction .cala
  else if instruction == 0x7f8d then decodeValid instruction .ret
  else if instruction == 0x7f8e then decodeValid instruction .pac
  else if instruction == 0x7f8f then decodeValid instruction .apac
  else if instruction == 0x7f90 then decodeValid instruction .spac
  else if instruction == 0xf400 then decodeValid instruction .banz
  else if instruction == 0xf500 then decodeValid instruction .bv
  else if instruction == 0xf600 then decodeValid instruction .bioz
  else if instruction == 0xf800 then decodeValid instruction .call
  else if instruction == 0xf900 then decodeValid instruction .b
  else if instruction == 0xfa00 then decodeValid instruction .blz
  else if instruction == 0xfb00 then decodeValid instruction .blez
  else if instruction == 0xfc00 then decodeValid instruction .bgz
  else if instruction == 0xfd00 then decodeValid instruction .bgez
  else if instruction == 0xfe00 then decodeValid instruction .bnz
  else if instruction == 0xff00 then decodeValid instruction .bz
  else decodeInvalid instruction

/-- `tms32010_decode`. -/
def decode (instruction : BitVec 16) : Decoded :=
  if instruction.extractLsb' 12 4 == 0x0 || instruction.extractLsb' 12 4 == 0x1 then
    decodeDataAddressed instruction
      (if instruction.extractLsb' 12 4 == 0x0 then .add else .sub)
  else if instruction.extractLsb' 12 4 == 0x2 then
    decodeDataAddressed instruction .lac
  else if instruction.extractLsb' 11 5 == 0b01000 || instruction.extractLsb' 11 5 == 0b01001 then
    decodeDataAddressed instruction
      (if instruction.extractLsb' 11 5 == 0b01000 then .in else .out)
  else if instruction.extractLsb' 9 7 == 0b0011000 then
    decodeDataAddressed instruction .sar
  else if instruction.extractLsb' 9 7 == 0b0011100 then
    decodeDataAddressed instruction .lar
  else if instruction.extractLsb' 8 8 == 0x50 then
    decodeDataAddressed instruction .sacl
  else if instruction.extractLsb' 11 5 == 0b01011 &&
      (instruction.extractLsb' 8 3 == 0 || instruction.extractLsb' 8 3 == 1 ||
        instruction.extractLsb' 8 3 == 4) then
    { decodeDataAddressed instruction .sach with
      shift := 0#1 ++ instruction.extractLsb' 8 3 }
  else if instruction.extractLsb' 8 8 == 0x60 || instruction.extractLsb' 8 8 == 0x61 ||
      instruction.extractLsb' 8 8 == 0x62 || instruction.extractLsb' 8 8 == 0x63 ||
      instruction.extractLsb' 8 8 == 0x64 then
    decodeDataAddressed instruction
      (if instruction.extractLsb' 8 8 == 0x60 then .addh
       else if instruction.extractLsb' 8 8 == 0x61 then .adds
       else if instruction.extractLsb' 8 8 == 0x62 then .subh
       else if instruction.extractLsb' 8 8 == 0x63 then .subs
       else .subc)
  else if instruction.extractLsb' 8 8 == 0x65 || instruction.extractLsb' 8 8 == 0x66 ||
      instruction.extractLsb' 8 8 == 0x67 || instruction.extractLsb' 8 8 == 0x7d then
    decodeDataAddressed instruction
      (if instruction.extractLsb' 8 8 == 0x65 then .zalh
       else if instruction.extractLsb' 8 8 == 0x66 then .zals
       else if instruction.extractLsb' 8 8 == 0x67 then .tblr
       else .tblw)
  else if instruction.extractLsb' 8 8 == 0x78 || instruction.extractLsb' 8 8 == 0x79 ||
      instruction.extractLsb' 8 8 == 0x7a then
    decodeDataAddressed instruction
      (if instruction.extractLsb' 8 8 == 0x78 then .xor
       else if instruction.extractLsb' 8 8 == 0x79 then .and
       else .or)
  else if instruction.extractLsb' 8 8 == 0x7b then
    decodeDataAddressed instruction .lst
  else if instruction.extractLsb' 8 8 == 0x7c then
    decodeStatusStore instruction
  else if instruction.extractLsb' 8 8 == 0x68 then
    decodeAuxiliary instruction
  else if instruction.extractLsb' 8 8 == 0x6f then
    decodeDataAddressed instruction .ldp
  else if instruction.extractLsb' 8 8 == 0x69 then
    decodeDataAddressed instruction .dmov
  else if instruction.extractLsb' 8 8 == 0x6a then
    decodeDataAddressed instruction .lt
  else if instruction.extractLsb' 8 8 == 0x6b then
    decodeDataAddressed instruction .ltd
  else if instruction.extractLsb' 8 8 == 0x6c then
    decodeDataAddressed instruction .lta
  else if instruction.extractLsb' 8 8 == 0x6d then
    decodeDataAddressed instruction .mpy
  else if instruction.extractLsb' 13 3 == 0b100 then
    decodeValid instruction .mpyk
  else decodeFixed instruction

end Tms32010.Rtl
