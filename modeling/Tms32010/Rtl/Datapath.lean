import Tms32010.Registers

/-!
# Combinational datapath blocks

The storage-free units the core instantiates: the shared accumulator unit, the
multiplier, the two shifters, the stack transition, the auxiliary counter and
the status word. Each is one function of its inputs returning the record of its
outputs.
-/

namespace Tms32010.Rtl

/-- The outputs of `tms32010_accumulator`. -/
structure AccumulatorResult where
  wrappedResult : BitVec 32
  overflow : Bool
  result : BitVec 32
  deriving DecidableEq, Repr

/-- `tms32010_accumulator`. -/
def accumulatorUnit (accumulator operand : BitVec 32) (subtract overflowMode : Bool) :
    AccumulatorResult :=
  let wrapped := if subtract then accumulator - operand else accumulator + operand
  let overflow :=
    if subtract then
      (accumulator.msb ^^ operand.msb) && (accumulator.msb ^^ wrapped.msb)
    else
      !(accumulator.msb ^^ operand.msb) && (accumulator.msb ^^ wrapped.msb)
  { wrappedResult := wrapped
    overflow := overflow
    result :=
      if overflow && overflowMode then
        (if accumulator.msb then 0x8000_0000 else 0x7fff_ffff)
      else wrapped }

/-- `tms32010_multiplier`, with the documented exceptional product. -/
def multiplierUnit (multiplicand multiplier : BitVec 16) : BitVec 32 :=
  if multiplicand == 0x8000 && multiplier == 0x8000 then 0xc000_0000
  else multiplicand.signExtend 32 * multiplier.signExtend 32

/-- `tms32010_input_shifter`. -/
def inputShifter (data : BitVec 16) (shift : BitVec 4) : BitVec 32 :=
  data.signExtend 32 <<< shift

/-- `tms32010_output_shifter`: the stored word, and whether the shift is supported.
`high` is `ACC[31:12]`. -/
def outputShifter (high : BitVec 20) (shift : BitVec 3) : Bool × BitVec 16 :=
  if shift == 0 then (true, high.extractLsb' 4 16)
  else if shift == 1 then (true, high.extractLsb' 3 16)
  else if shift == 4 then (true, high.extractLsb' 0 16)
  else (false, 0)

/-- `control_valid_o` of `tms32010_stack`. -/
def stackControlValid (push pop table : Bool) : Bool :=
  !((push && pop) || (push && table) || (pop && table))

/-- `tms32010_stack`: simultaneous controls hold the stack. -/
def stackTransition (stack : Stack) (pushData : BitVec 12) (push pop table : Bool) : Stack :=
  if stackControlValid push pop table then
    if push then ⟨pushData, stack.top, stack.level1, stack.level2⟩
    else if pop then ⟨stack.level1, stack.level2, stack.bottom, stack.bottom⟩
    else if table then { stack with bottom := stack.level2 }
    else stack
  else stack

/-- `control_valid_o` of `tms32010_auxiliary_counter`. -/
def auxiliaryCounterControlValid (increment decrement : Bool) : Bool :=
  !(increment && decrement)

/-- `tms32010_auxiliary_counter`: only the low nine bits count. -/
def auxiliaryCounter (value : BitVec 16) (increment decrement : Bool) : BitVec 16 :=
  if auxiliaryCounterControlValid increment decrement then
    if increment then value.extractLsb' 9 7 ++ (value.extractLsb' 0 9 + 1)
    else if decrement then value.extractLsb' 9 7 ++ (value.extractLsb' 0 9 - 1)
    else value
  else value

/-- `store_word_o` of `tms32010_status_word`. -/
def statusStoreWord (overflow overflowMode interruptMask auxiliaryRegisterPointer
    dataPagePointer : Bool) : BitVec 16 :=
  BitVec.ofBool overflow ++ BitVec.ofBool overflowMode ++ BitVec.ofBool interruptMask ++
    0xf#4 ++ BitVec.ofBool auxiliaryRegisterPointer ++ 0x7f#7 ++
    BitVec.ofBool dataPagePointer

end Tms32010.Rtl
