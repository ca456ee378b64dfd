import Tms32010.Registers
import Tms32010.Isa.Mnemonic

/-!
# The instruction-level machine

What the processor is for: one transition per instruction or interrupt entry
over typed registers and memories. The Python reference model and the RTL core
are both compared with this machine. A transition either completes, with its
machine cycles and the bus cycles it performs, or reports one of three faults.
-/

namespace Tms32010.Isa

/-- The machine state: registers, memories, output latches and the interrupt deferral. -/
structure State extends Registers where
  interruptDelayOne : Bool
  interruptEntryPending : Bool
  data : DataRam
  program : ProgramMemory
  ioOutput : BitVec 3 → BitVec 16
  cycleCount : Nat

/-- The pins one transition observes; `int` and `bio` are levels. -/
structure Input where
  int : Bool
  bio : Bool
  ioInput : BitVec 3 → BitVec 16

/-- One external cycle, as a peripheral sees it. -/
inductive BusCycle where
  | programRead (address : BitVec 12) (data : BitVec 16)
  | programWrite (address : BitVec 12) (data : BitVec 16)
  | ioRead (port : BitVec 3) (data : BitVec 16)
  | ioWrite (port : BitVec 3) (data : BitVec 16)
  deriving DecidableEq, Repr

/-- Why an instruction cannot execute. -/
inductive Fault where
  | opcode (pc : BitVec 12) (word : BitVec 16)
  | dataAddress (pc : BitVec 12) (word : BitVec 16) (address : BitVec 8)
  | programOperand (pc : BitVec 12) (word : BitVec 16) (address : BitVec 12)
      (operand : BitVec 16)
  deriving DecidableEq, Repr

/-- A completed transition; `executed` is `none` for an interrupt entry. -/
structure Outcome where
  state : State
  executed : Option Mnemonic
  cycles : Nat
  bus : List BusCycle

end Tms32010.Isa

namespace Tms32010

/-- The interrupt mask after an instruction. -/
def Mnemonic.maskAfter (m : Mnemonic) (mask : Bool) : Bool :=
  match m with
  | .dint => true
  | .eint => false
  | _ => mask

/-! ## Register transfers -/

namespace Registers

variable (r : Registers)

/-- Signed addition with the sticky flag and saturation in overflow mode. -/
def addAccumulator (addend : BitVec 32) : Registers :=
  if r.accumulator.saddOverflow addend then
    { r with
      overflowFlag := true
      accumulator :=
        if r.overflowMode then
          (if r.accumulator.msb then BitVec.intMin 32 else BitVec.intMax 32)
        else r.accumulator + addend }
  else { r with accumulator := r.accumulator + addend }

/-- Signed subtraction with the sticky flag and saturation in overflow mode. -/
def subtractAccumulator (subtrahend : BitVec 32) : Registers :=
  if r.accumulator.ssubOverflow subtrahend then
    { r with
      overflowFlag := true
      accumulator :=
        if r.overflowMode then
          (if r.accumulator.msb then BitVec.intMin 32 else BitVec.intMax 32)
        else r.accumulator - subtrahend }
  else { r with accumulator := r.accumulator - subtrahend }

/-- One division step. -/
def conditionalSubtract (word : BitVec 16) : Registers :=
  let operand := word.setWidth 32 <<< 15
  let difference := r.accumulator - operand
  { r with
    overflowFlag := r.overflowFlag || r.accumulator.ssubOverflow operand
    accumulator :=
      if difference.msb then r.accumulator <<< 1 else difference <<< 1 ||| 1 }

/-- The magnitude; the most negative value stays or saturates. -/
def absolute : Registers :=
  if r.accumulator.msb then
    { r with
      accumulator :=
        if r.overflowMode && r.accumulator == BitVec.intMin 32 then BitVec.intMax 32
        else -r.accumulator }
  else r

/-- The status word `SST` stores. -/
def statusWord : BitVec 16 :=
  BitVec.ofBool r.overflowFlag ++ BitVec.ofBool r.overflowMode ++
    BitVec.ofBool r.interruptMask ++ 0xf#4 ++ BitVec.ofBool r.auxiliaryRegisterPointer ++
    0x7f#7 ++ BitVec.ofBool r.dataPagePointer

/-- The status bits `LST` loads; the interrupt mask is not among them. -/
def loadStatus (word : BitVec 16) : Registers :=
  { r with
    overflowFlag := word.getLsbD 15
    overflowMode := word.getLsbD 14
    auxiliaryRegisterPointer := word.getLsbD 8
    dataPagePointer := word.getLsbD 0 }

/-- The signed product, with the documented exceptional case. -/
def product (multiplicand multiplier : BitVec 16) : BitVec 32 :=
  if multiplicand = 0x8000 ∧ multiplier = 0x8000 then 0xc0000000
  else multiplicand.signExtend 32 * multiplier.signExtend 32

/-- Only the low nine bits of an auxiliary register count. -/
def count (value : BitVec 16) (delta : BitVec 9) : BitVec 16 :=
  value.extractLsb' 9 7 ++ (value.extractLsb' 0 9 + delta)

/-- The counter update an addressing byte asks for. -/
def counted (word value : BitVec 16) : BitVec 16 :=
  if Instruction.increment word then count value 1
  else if Instruction.decrement word then count value (-1)
  else value

/-- Whether the pending condition of a branch holds. -/
def branchTaken (m : Mnemonic) (bio : Bool) : Bool :=
  match m with
  | .b | .call => true
  | .banz =>
      (r.auxiliaryRegister r.auxiliaryRegisterPointer).extractLsb' 0 9 != 0
  | .bv => r.overflowFlag
  | .bioz => !bio
  | .bgez => !r.accumulator.msb
  | .bgz => !r.accumulator.msb && r.accumulator != 0
  | .blez => r.accumulator.msb || r.accumulator == 0
  | .blz => r.accumulator.msb
  | .bnz => r.accumulator != 0
  | .bz => r.accumulator == 0
  | _ => false

/-- The registers after a two-word branch at `pc` whose operand is `target`. -/
def branch (m : Mnemonic) (bio : Bool) (target : BitVec 12) : Registers :=
  let next := { r with pc := if r.branchTaken m bio then target else r.pc + 2 }
  match m with
  | .banz =>
      next.setAuxiliaryRegister r.auxiliaryRegisterPointer
        (count (r.auxiliaryRegister r.auxiliaryRegisterPointer) (-1))
  | .bv => { next with overflowFlag := false }
  | .call => { next with stack := r.stack.push (r.pc + 2) }
  | _ => next

/-- The registers after an instruction without control transfer, given its
operand word; the program counter and the addressing byte are treated apart. -/
def execute (m : Mnemonic) (word operand : BitVec 16) : Registers :=
  match m with
  | .lack => { r with accumulator := (Instruction.lowByte word).setWidth 32 }
  | .lac =>
      { r with accumulator := operand.signExtend 32 <<< (Instruction.shift word).toNat }
  | .lar => r.setAuxiliaryRegister (Instruction.auxiliaryRegister word) operand
  | .ldp => { r with dataPagePointer := operand.getLsbD 0 }
  | .lst => r.loadStatus operand
  | .lt => { r with tRegister := operand }
  | .lta | .ltd => { r.addAccumulator r.productRegister with tRegister := operand }
  | .mpy => { r with productRegister := product r.tRegister operand }
  | .mpyk =>
      { r with
        productRegister :=
          r.tRegister.signExtend 32 * (Instruction.constant13 word).signExtend 32 }
  | .pac => { r with accumulator := r.productRegister }
  | .apac => r.addAccumulator r.productRegister
  | .spac => r.subtractAccumulator r.productRegister
  | .zalh => { r with accumulator := operand ++ 0#16 }
  | .zals => { r with accumulator := operand.setWidth 32 }
  | .adds => r.addAccumulator (operand.setWidth 32)
  | .addh =>
      { r with
        accumulator := (r.accumulator.extractLsb' 16 16 + operand) ++
          r.accumulator.extractLsb' 0 16 }
  | .add =>
      r.addAccumulator (operand.signExtend 32 <<< (Instruction.shift word).toNat)
  | .sub =>
      r.subtractAccumulator (operand.signExtend 32 <<< (Instruction.shift word).toNat)
  | .subh => r.subtractAccumulator (operand ++ 0#16)
  | .subs => r.subtractAccumulator (operand.setWidth 32)
  | .subc => r.conditionalSubtract operand
  | .xor => { r with accumulator := r.accumulator ^^^ operand.setWidth 32 }
  | .and => { r with accumulator := r.accumulator &&& operand.setWidth 32 }
  | .or => { r with accumulator := r.accumulator ||| operand.setWidth 32 }
  | .lark =>
      r.setAuxiliaryRegister (Instruction.auxiliaryRegister word)
        ((Instruction.lowByte word).setWidth 16)
  | .larp => { r with auxiliaryRegisterPointer := word.getLsbD 0 }
  | .ldpk => { r with dataPagePointer := word.getLsbD 0 }
  | .abs => r.absolute
  | .zac => { r with accumulator := 0 }
  | .rovm => { r with overflowMode := false }
  | .sovm => { r with overflowMode := true }
  | .dint => { r with interruptMask := true }
  | .eint => { r with interruptMask := false }
  | .tblr | .tblw => { r with stack := r.stack.pushPop }
  | _ => r

/-- The auxiliary update an addressing byte asks for after execution.
`selected` is the register the pointer named before the instruction. -/
def postModify (m : Mnemonic) (word : BitVec 16) (selected : Bool) : Registers :=
  if m.modifiesAuxiliary && Instruction.indirect word then
    let counting : Registers :=
      if m == .lar && Instruction.auxiliaryRegister word == selected then r
      else r.setAuxiliaryRegister selected (counted word (r.auxiliaryRegister selected))
    if !Instruction.preserveArp word && m != .lst then
      { counting with auxiliaryRegisterPointer := Instruction.nextArp word }
    else counting
  else r

/-- The data address an addressing byte selects. -/
def dataAddress (m : Mnemonic) (word : BitVec 16) : BitVec 8 :=
  if Instruction.indirect word then
    (r.auxiliaryRegister r.auxiliaryRegisterPointer).extractLsb' 0 8
  else if m == .sst then 0x8#4 ++ word.extractLsb' 0 4
  else BitVec.ofBool r.dataPagePointer ++ Instruction.addressingField word

/-- The word a storing instruction writes, captured before its addressing update. -/
def storeWord (m : Mnemonic) (word : BitVec 16) : BitVec 16 :=
  match m with
  | .sach => (r.accumulator <<< (Instruction.storeShift word).toNat).extractLsb' 16 16
  | .sar =>
      if Instruction.indirect word &&
          Instruction.auxiliaryRegister word == r.auxiliaryRegisterPointer then
        counted word (r.auxiliaryRegister (Instruction.auxiliaryRegister word))
      else r.auxiliaryRegister (Instruction.auxiliaryRegister word)
  | .sst => r.statusWord
  | _ => r.accumulator.extractLsb' 0 16

end Registers

namespace Isa

/-! ## Interrupt deferral -/

/-- The deferral at the end of an instruction: one protected instruction after a
request is seen, extended by each multiplication, cancelled by a raised mask. -/
def advanceInterrupt (m : Mnemonic) (s : State) : State :=
  if s.interruptDelayOne then
    if s.interruptMask then { s with interruptDelayOne := false }
    else if m.multiplies then s
    else { s with interruptDelayOne := false, interruptEntryPending := true }
  else if s.interruptPending && !s.interruptMask then { s with interruptDelayOne := true }
  else s

/-- The dummy cycle that acknowledges an interrupt. -/
def enterInterrupt (s : State) : Outcome where
  state :=
    { s with
      stack := s.stack.push s.pc
      pc := 0x002
      interruptMask := true
      interruptPending := false
      interruptDelayOne := false
      interruptEntryPending := false
      cycleCount := s.cycleCount + 1 }
  executed := none
  cycles := 1
  bus := [.programRead s.pc (s.program s.pc)]

/-- The request latch, sampled at the start of an instruction. -/
def latchRequest (i : Input) (s : State) : State :=
  { s with interruptPending := s.interruptPending || !i.int }

/-- End an instruction of `cycles` machine cycles. -/
def retire (m : Mnemonic) (cycles : Nat) (bus : List BusCycle) (s : State) : Outcome where
  state := advanceInterrupt m { s with cycleCount := s.cycleCount + cycles }
  executed := some m
  cycles := cycles
  bus := bus

/-! ## Instruction families -/

section Families

variable (m : Mnemonic) (word : BitVec 16) (i : Input) (s : State)

/-- `CALA`, `RET`, `PUSH` and `POP`, which take a second cycle of their own. -/
def stepStack : Outcome :=
  let registers : Registers :=
    match m with
    | .cala =>
        { s.toRegisters with
          stack := s.stack.push (s.pc + 1), pc := s.accumulator.extractLsb' 0 12 }
    | .ret => { s.toRegisters with stack := s.stack.pop, pc := s.stack.top }
    | .push =>
        { s.toRegisters with
          stack := s.stack.push (s.accumulator.extractLsb' 0 12), pc := s.pc + 1 }
    | _ =>
        { s.toRegisters with
          stack := s.stack.pop, accumulator := s.stack.top.setWidth 32, pc := s.pc + 1 }
  retire m 2 [.programRead s.pc word] { s with toRegisters := registers }

/-- The two-word branches; the operand's upper nibble must be zero. -/
def stepControl : Except Fault Outcome :=
  let operand := s.program (s.pc + 1)
  if operand.extractLsb' 12 4 = 0 then
    .ok (retire m 2 [.programRead s.pc word, .programRead (s.pc + 1) operand]
      { s with toRegisters := s.branch m i.bio (operand.extractLsb' 0 12) })
  else .error (.programOperand s.pc word (s.pc + 1) operand)

/-- The data address whose absence makes the instruction unsupported, if any. -/
def dataFault? : Option (BitVec 8) :=
  if m.dataAddressed then
    if !DataRam.addressValid (s.dataAddress m word) then some (s.dataAddress m word)
    else if m.movesData && !DataRam.addressValid (s.dataAddress m word + 1) then
      some (s.dataAddress m word + 1)
    else none
  else none

/-- The addressed data word. -/
def operand : BitVec 16 := s.data.read (s.dataAddress m word)

/-- The registers after the fetch of a one-word instruction. -/
def fetched : Registers := { s.toRegisters with pc := s.pc + 1 }

/-- The registers after a straight-line instruction. -/
def straightRegisters : Registers :=
  ((fetched s).execute m word (operand m word s)).postModify m word s.auxiliaryRegisterPointer

/-- The data RAM after a straight-line instruction. -/
def straightData : DataRam :=
  let address := s.dataAddress m word
  if m.movesData then s.data.write (address + 1) (operand m word s)
  else if m.storesRegister then s.data.write address (s.storeWord m word)
  else if m = .tblr then s.data.write address (s.program (s.accumulator.extractLsb' 0 12))
  else if m = .in then s.data.write address (i.ioInput (Instruction.port word))
  else s.data

/-- Program memory after a straight-line instruction. -/
def straightProgram : ProgramMemory :=
  if m = .tblw then
    Function.update s.program (s.accumulator.extractLsb' 0 12) (operand m word s)
  else s.program

/-- The output latches after a straight-line instruction. -/
def straightOutput : BitVec 3 → BitVec 16 :=
  if m = .out then Function.update s.ioOutput (Instruction.port word) (operand m word s)
  else s.ioOutput

/-- The bus cycles of a straight-line instruction. -/
def straightBus : List BusCycle :=
  let address := s.accumulator.extractLsb' 0 12
  match m with
  | .in =>
      [.programRead s.pc word,
        .ioRead (Instruction.port word) (i.ioInput (Instruction.port word))]
  | .out =>
      [.programRead s.pc word, .ioWrite (Instruction.port word) (operand m word s)]
  | .tblr =>
      [.programRead s.pc word, .programRead (s.pc + 1) (s.program (s.pc + 1)),
        .programRead address (s.program address)]
  | .tblw =>
      [.programRead s.pc word, .programRead (s.pc + 1) (s.program (s.pc + 1)),
        .programWrite address (operand m word s)]
  | _ => [.programRead s.pc word]

/-- The instructions without control transfer. -/
def stepStraight : Except Fault Outcome :=
  match dataFault? m word s with
  | some address => .error (.dataAddress s.pc word address)
  | none =>
      .ok (retire m (straightBus m word i s).length (straightBus m word i s)
        { s with
          toRegisters := straightRegisters m word s
          data := straightData m word i s
          program := straightProgram m word s
          ioOutput := straightOutput m word s })

/-- One decoded instruction. -/
def stepInstruction : Except Fault Outcome :=
  if m.computedControlFlow || m.stackAccess then .ok (stepStack m word s)
  else if m.twoWordControlFlow then stepControl m word i s
  else stepStraight m word i s

end Families

/-- One instruction or one interrupt entry. -/
def step (i : Input) (s : State) : Except Fault Outcome :=
  if s.interruptEntryPending then .ok (enterInterrupt s)
  else
    match mnemonic? (s.program s.pc) with
    | none => .error (.opcode s.pc (s.program s.pc))
    | some m => stepInstruction m (s.program s.pc) i (latchRequest i s)

end Isa

end Tms32010
