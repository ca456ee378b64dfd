import Tms32010.Model.Decode

/-!
# Reference model: `step`

`Tms32010Model.step` and its helpers, one definition for each family of the
source, mutating the model in the order of the source. Set membership tests of
the source on mnemonics are the Boolean predicates below.
-/

namespace Tms32010.Model

/-! ## Helpers -/

/-- `~x`, which the source only uses below a 32-bit mask. -/
def complement (x : Nat) : Nat := accMask ^^^ x

/-- `_modify_counter`. -/
def modifyCounter (value : Nat) (delta : Int) : Nat :=
  (value &&& 0xFE00) ||| lowBits 9 (value + delta)

/-- `_add_accumulator`. -/
def addAccumulator (addend : Nat) : Exec Unit := do
  let self ← get
  let oldAcc := self.state.acc &&& accMask
  let addend := addend &&& accMask
  let wrapped := (oldAcc + addend) &&& accMask
  let overflow := (complement (oldAcc ^^^ addend) &&& (oldAcc ^^^ wrapped) &&& 0x80000000) != 0
  if overflow then
    modifyStatus fun status => { status with ov := true }
    if self.state.status.ovm then
      modifyState fun state =>
        { state with acc := if (oldAcc &&& 0x80000000) != 0 then 0x80000000 else 0x7FFFFFFF }
    else modifyState fun state => { state with acc := wrapped }
  else modifyState fun state => { state with acc := wrapped }

/-- `_subtract_accumulator`. -/
def subtractAccumulator (subtrahend : Nat) : Exec Unit := do
  let self ← get
  let oldAcc := self.state.acc &&& accMask
  let subtrahend := subtrahend &&& accMask
  let wrapped := lowBits 32 ((oldAcc : Int) - subtrahend)
  let overflow := ((oldAcc ^^^ subtrahend) &&& (oldAcc ^^^ wrapped) &&& 0x80000000) != 0
  if overflow then
    modifyStatus fun status => { status with ov := true }
    if self.state.status.ovm then
      modifyState fun state =>
        { state with acc := if (oldAcc &&& 0x80000000) != 0 then 0x80000000 else 0x7FFFFFFF }
    else modifyState fun state => { state with acc := wrapped }
  else modifyState fun state => { state with acc := wrapped }

/-- `_conditional_subtract`. -/
def conditionalSubtract (dataWord : Nat) : Exec Unit := do
  let self ← get
  let oldAcc := self.state.acc &&& accMask
  let operand := ((dataWord &&& wordMask) <<< 15) &&& accMask
  let intermediate := lowBits 32 ((oldAcc : Int) - operand)
  let overflow := ((oldAcc ^^^ operand) &&& (oldAcc ^^^ intermediate) &&& 0x80000000) != 0
  if overflow then modifyStatus fun status => { status with ov := true }
  if (intermediate &&& 0x80000000) != 0 then
    modifyState fun state => { state with acc := (oldAcc <<< 1) &&& accMask }
  else
    modifyState fun state => { state with acc := ((intermediate <<< 1) ||| 1) &&& accMask }

/-- `_accumulator_branch_taken`. -/
def accumulatorBranchTaken (mnemonic : Mnemonic) (accumulator : Nat) : Exec Bool :=
  let value := accumulator &&& accMask
  let negative := (value &&& 0x80000000) != 0
  let zero := value == 0
  match mnemonic with
  | .bgez => pure !negative
  | .bgz => pure (!negative && !zero)
  | .blez => pure (negative || zero)
  | .blz => pure negative
  | .bnz => pure !zero
  | .bz => pure zero
  | _ => throw .valueError

/-- `_advance_interrupt_pipeline`. -/
def advanceInterruptPipeline (retiredMnemonic : Mnemonic) : Exec Unit := do
  let self ← get
  if self.interruptDelayOne then
    if self.state.status.intm then
      modify fun self => { self with interruptDelayOne := false }
    else if retiredMnemonic = .mpy ∨ retiredMnemonic = .mpyk then
      modify fun self => { self with interruptDelayOne := true }
    else
      modify fun self => { self with interruptDelayOne := false, interruptEntryPending := true }
  else if self.state.interruptPending && !self.state.status.intm then
    modify fun self => { self with interruptDelayOne := true }
  else pure ()

/-- A data word read as a signed 16-bit integer. -/
def signedWord (word : Nat) : Int := if word < 0x8000 then word else (word : Int) - 0x10000

/-- The common end of every family: the cycle count, the interrupt deferral and
the trace. -/
def finish (pc opcode : Nat) (mnemonic : Mnemonic) (operands : Operands) (cycles : Nat)
    (transactions : List Transaction) : Exec StepTrace := do
  modify fun self => { self with cycleCount := self.cycleCount + cycles }
  advanceInterruptPipeline mnemonic
  let stateAfter ← architecturalState
  return { pc, opcode, mnemonic := .instruction mnemonic, operands, cycles, transactions,
           stateAfter }

/-! ## Interrupt entry and control families -/

/-- The dummy cycle of an interrupt entry. -/
def interruptEntry (pc opcode : Nat) : Exec StepTrace := do
  let self ← get
  let transactions : List Transaction :=
    [{ cycle := self.cycleCount, space := .program, operation := .interruptDummyFetch,
       address := pc, data := opcode }]
  let level0 ← index self.state.stack 0
  let level1 ← index self.state.stack 1
  let level2 ← index self.state.stack 2
  modifyState fun state => { state with stack := [pc, level0, level1, level2] }
  modifyState fun state => { state with pc := 0x002 }
  modifyStatus fun status => { status with intm := true }
  modifyState fun state => { state with interruptPending := false }
  modify fun self => { self with interruptDelayOne := false }
  modify fun self => { self with interruptEntryPending := false }
  modify fun self => { self with cycleCount := self.cycleCount + 1 }
  let stateAfter ← architecturalState
  return { pc, opcode, mnemonic := .interrupt,
           operands := { returnAddress := some pc, vector := some 0x002 },
           cycles := 1, transactions, stateAfter }

/-- Push an address onto the stack list; the other levels are masked. -/
def pushStack (address : Nat) : Exec Unit := do
  let self ← get
  let level0 ← index self.state.stack 0
  let level1 ← index self.state.stack 1
  let level2 ← index self.state.stack 2
  modifyState fun state =>
    { state with stack := [address, level0 &&& pcMask, level1 &&& pcMask, level2 &&& pcMask] }

/-- The `CALA` branch. -/
def stepCala (pc opcode : Nat) (operands : Operands) (transactions : List Transaction) :
    Exec StepTrace := do
  let returnAddress := (pc + 1) &&& pcMask
  pushStack returnAddress
  modifyState fun state => { state with pc := state.acc &&& pcMask }
  finish pc opcode .cala operands 2 transactions

/-- The `POP`, `PUSH` and `RET` branch. -/
def stepStack (pc opcode : Nat) (mnemonic : Mnemonic) (operands : Operands)
    (transactions : List Transaction) : Exec StepTrace := do
  if mnemonic = .pop ∨ mnemonic = .ret then
    let self ← get
    let oldTop ← index self.state.stack 0
    let oldBottom ← index self.state.stack 3
    let level1 ← index self.state.stack 1
    let level2 ← index self.state.stack 2
    modifyState fun state =>
      { state with
        stack := [level1 &&& pcMask, level2 &&& pcMask, oldBottom &&& pcMask,
          oldBottom &&& pcMask] }
    if mnemonic = .pop then
      modifyState fun state => { state with acc := oldTop &&& pcMask }
      modifyState fun state => { state with pc := (pc + 1) &&& pcMask }
    else modifyState fun state => { state with pc := oldTop &&& pcMask }
  else
    let self ← get
    pushStack (self.state.acc &&& pcMask)
    modifyState fun state => { state with pc := (pc + 1) &&& pcMask }
  finish pc opcode mnemonic operands 2 transactions

/-- Whether a two-word branch other than `BANZ`, `BV` and `CALL` is taken. -/
def controlTaken (mnemonic : Mnemonic) : Exec Bool := do
  let self ← get
  if mnemonic = .bioz then pure !self.bioInputHigh
  else accumulatorBranchTaken mnemonic self.state.acc

/-- The handlers of the two-word branches, after the operand check. -/
def executeControl (pc : Nat) (mnemonic : Mnemonic) (target : Nat) (operands : Operands) :
    Exec Operands := do
  let self ← get
  if mnemonic = .banz then
    let selectedArp := self.state.status.arp
    let value ← index self.state.ar selectedArp
    let branchTaken := (value &&& 0x01FF) != 0
    let ar ← setIndex self.state.ar selectedArp (modifyCounter value (-1))
    modifyState fun state => { state with ar := ar }
    modifyState fun state =>
      { state with pc := if branchTaken then target else (pc + 2) &&& pcMask }
    return { operands with
      auxiliaryRegister := some selectedArp, branchTaken := some branchTaken.toNat }
  else if mnemonic = .b then
    modifyState fun state => { state with pc := target }
    return operands
  else if mnemonic = .bv then
    let branchTaken := self.state.status.ov
    modifyState fun state =>
      { state with pc := if branchTaken then target else (pc + 2) &&& pcMask }
    if branchTaken then modifyStatus fun status => { status with ov := false }
    return { operands with branchTaken := some branchTaken.toNat }
  else if mnemonic = .call then
    let returnAddress := (pc + 2) &&& pcMask
    let level0 ← index self.state.stack 0
    let level1 ← index self.state.stack 1
    let level2 ← index self.state.stack 2
    modifyState fun state => { state with stack := [returnAddress, level0, level1, level2] }
    modifyState fun state => { state with pc := target }
    return operands
  else
    let branchTaken ← controlTaken mnemonic
    modifyState fun state =>
      { state with pc := if branchTaken then target else (pc + 2) &&& pcMask }
    return { operands with branchTaken := some branchTaken.toNat }

/-- The `TWO_WORD_CONTROL_FLOW` branch. -/
def stepControl (pc opcode : Nat) (mnemonic : Mnemonic) (operands : Operands)
    (transactions : List Transaction) : Exec StepTrace := do
  let self ← get
  let operandAddress := (pc + 1) &&& pcMask
  let operandWord := (← index self.program operandAddress) &&& wordMask
  if (operandWord &&& 0xF000) != 0 then
    throw (.unsupportedProgramOperand pc opcode operandAddress operandWord)
  else
    let target := operandWord &&& pcMask
    let fetch : Transaction :=
      { cycle := self.cycleCount + 1, space := .program, operation := .followingWordFetch,
        address := operandAddress, data := operandWord }
    let operands ←
      executeControl pc mnemonic target { operands with programAddress := some target }
    finish pc opcode mnemonic operands 2 (transactions ++ [fetch])

/-! ## Data access -/

/-- The address and the transfer the data block of `step` prepares. -/
structure Access where
  operands : Operands
  selectedArp : Option Nat
  transactionData : Option Nat
  transactions : List Transaction

/-- The effective data address. -/
def effectiveAddress (mnemonic : Mnemonic) (operands : Operands) : Exec Nat := do
  let self ← get
  if (← key operands.indirect) != 0 then
    return (← index self.state.ar self.state.status.arp) &&& 0xFF
  else if mnemonic = .sst then return 0x80 ||| (← key operands.addressingField)
  else return (self.state.status.dp <<< 7) ||| (← key operands.addressingField)

/-- The two address checks. -/
def checkAddress (pc opcode : Nat) (mnemonic : Mnemonic) (address : Nat) : Exec Unit :=
  if dataWords ≤ address then throw (.unsupportedDataAddress pc opcode address)
  else if (mnemonic = .dmov ∨ mnemonic = .ltd) ∧ dataWords ≤ address + 1 then
    throw (.unsupportedDataAddress pc opcode (address + 1))
  else pure ()

/-- The word `SAR` stores. -/
def sarWord (operands : Operands) (selectedArp : Option Nat) : Exec Nat := do
  let self ← get
  let register ← key operands.auxiliaryRegister
  let value ← index self.state.ar register
  if (← key operands.indirect) != 0 && some register == selectedArp then
    let control ← key operands.addressingField
    if (control &&& 0x20) != 0 then return modifyCounter value 1
    else if (control &&& 0x10) != 0 then return modifyCounter value (-1)
    else return value
  else return value

/-- The word `SST` stores. -/
def sstWord (status : Status) : Nat :=
  (status.ov.toNat <<< 15) ||| (status.ovm.toNat <<< 14) ||| (status.intm.toNat <<< 13) |||
    0x1EFE ||| ((status.arp &&& 1) <<< 8) ||| (status.dp &&& 1)

/-- The word `SACH` stores. -/
def sachWord (operands : Operands) : Exec Nat := do
  let self ← get
  let shift ← key operands.shift
  return ((self.state.acc <<< shift) &&& accMask) >>> 16

/-- The instructions whose transaction carries the addressed word. -/
def readsTransactionData (mnemonic : Mnemonic) : Bool :=
  mnemonic.readsData || mnemonic == .out || mnemonic == .tblw

/-- `transaction_data`. -/
def transactionData (mnemonic : Mnemonic) (operands : Operands) (selectedArp : Option Nat)
    (address : Nat) : Exec Nat := do
  let self ← get
  if mnemonic = .in then return (← index self.ioInput (← key operands.port)) &&& wordMask
  else if mnemonic = .tblr then index self.program (← key operands.programAddress)
  else if readsTransactionData mnemonic then index self.data address
  else if mnemonic = .sacl then return self.state.acc &&& wordMask
  else if mnemonic = .sar then sarWord operands selectedArp
  else if mnemonic = .sst then return sstWord self.state.status
  else sachWord operands

/-- The transactions of the data block. -/
def dataTransactions (pc : Nat) (mnemonic : Mnemonic) (operands : Operands)
    (address data : Nat) : Exec (List Transaction) := do
  let self ← get
  let first ←
    if mnemonic = .in then
      let port ← key operands.port
      pure [
        { cycle := self.cycleCount + 1, space := .io, operation := .read,
          address := port, data := data },
        { cycle := self.cycleCount + 1, space := .data, operation := .write,
          address := address, data := data }]
    else if mnemonic = .out then
      let port ← key operands.port
      pure [
        { cycle := self.cycleCount + 1, space := .data, operation := .read,
          address := address, data := data },
        { cycle := self.cycleCount + 1, space := .io, operation := .write,
          address := port, data := data }]
    else if mnemonic = .tblr ∨ mnemonic = .tblw then
      let followingAddress := (pc + 1) &&& pcMask
      let following ← index self.program followingAddress
      let prefetch : Transaction :=
        { cycle := self.cycleCount + 1, space := .program, operation := .discardedPrefetch,
          address := followingAddress, data := following &&& wordMask }
      let programAddress ← key operands.programAddress
      if mnemonic = .tblr then
        pure [prefetch,
          { cycle := self.cycleCount + 2, space := .program, operation := .tableRead,
            address := programAddress, data := data },
          { cycle := self.cycleCount + 2, space := .data, operation := .write,
            address := address, data := data }]
      else
        pure [prefetch,
          { cycle := self.cycleCount + 2, space := .data, operation := .read,
            address := address, data := data },
          { cycle := self.cycleCount + 2, space := .program, operation := .tableWrite,
            address := programAddress, data := data }]
    else
      pure [
        { cycle := self.cycleCount, space := .data,
          operation := if mnemonic.readsData then .read else .write,
          address := address, data := data }]
  if mnemonic = .dmov ∨ mnemonic = .ltd then
    return first ++ [
      { cycle := self.cycleCount, space := .data, operation := .write,
        address := address + 1, data := data }]
  else return first

/-- The data block of `step`, for the mnemonics that address a data word. -/
def accessData (pc opcode : Nat) (mnemonic : Mnemonic) (operands : Operands)
    (transactions : List Transaction) : Exec Access := do
  let self ← get
  let indirect ← key operands.indirect
  let selectedArp := if indirect != 0 then some self.state.status.arp else none
  let address ← effectiveAddress mnemonic operands
  checkAddress pc opcode mnemonic address
  let operands :=
    { operands with
      effectiveAddress := some address
      moveAddress :=
        if mnemonic = .dmov ∨ mnemonic = .ltd then some (address + 1) else operands.moveAddress
      programAddress :=
        if mnemonic = .tblr ∨ mnemonic = .tblw then some (self.state.acc &&& pcMask)
        else operands.programAddress }
  let data ← transactionData mnemonic operands selectedArp address
  let block ← dataTransactions pc mnemonic operands address data
  return { operands, selectedArp, transactionData := some data,
           transactions := transactions ++ block }

/-- The block before the handlers: `MAR` only selects its auxiliary register. -/
def prepare (pc opcode : Nat) (mnemonic : Mnemonic) (operands : Operands)
    (transactions : List Transaction) : Exec Access := do
  if mnemonic.dataAddressed then accessData pc opcode mnemonic operands transactions
  else if mnemonic = .mar then
    let self ← get
    let indirect ← key operands.indirect
    return { operands
             selectedArp := if indirect != 0 then some self.state.status.arp else none
             transactionData := none
             transactions }
  else return { operands, selectedArp := none, transactionData := none, transactions }

/-! ## Instruction handlers -/

/-- `self.data[operands["effective_address"]]`. -/
def dataWord (operands : Operands) : Exec Nat := do
  let self ← get
  index self.data (← key operands.effectiveAddress)

/-- `self.data[address] = word`. -/
def setData (address word : Nat) : Exec Unit := do
  let self ← get
  let data ← setIndex self.data address word
  modify fun self => { self with data := data }

/-- `self.state.stack[3] = self.state.stack[2]`. -/
def duplicateBottom : Exec Unit := do
  let self ← get
  let level2 ← index self.state.stack 2
  let stack ← setIndex self.state.stack 3 level2
  modifyState fun state => { state with stack := stack }

/-- `self.state.ar[register] = value`. -/
def setAuxiliary (register value : Nat) : Exec Unit := do
  let self ← get
  let ar ← setIndex self.state.ar register value
  modifyState fun state => { state with ar := ar }

/-- The local `transaction_data`, which only the data block assigns. -/
def assigned (entry : Option Nat) : Exec Nat :=
  match entry with
  | some x => pure x
  | none => throw .unboundLocalError

/-- The product of `MPY`, with the documented exceptional case. -/
def product (t word : Nat) : Nat :=
  if t = 0x8000 ∧ word = 0x8000 then 0xC0000000
  else lowBits 32 (signedWord t * signedWord word)

/-- The `ABS` handler. -/
def absolute : Exec Unit := do
  let self ← get
  if (self.state.acc &&& 0x80000000) != 0 then
    if self.state.acc == 0x80000000 && self.state.status.ovm then
      modifyState fun state => { state with acc := 0x7FFFFFFF }
    else modifyState fun state => { state with acc := lowBits 32 (-(state.acc : Int)) }
  else pure ()

/-- `operands["constant"]`. -/
def constant (operands : Operands) : Exec Int := key operands.constant

/-- The `elif` chain of instruction handlers. -/
def execute (mnemonic : Mnemonic) (access : Access) : Exec Unit := do
  let operands := access.operands
  match mnemonic with
  | .lack => do
      let value := lowBits 8 (← constant operands)
      modifyState fun state => { state with acc := value }
  | .lac => do
      let word ← dataWord operands
      let shift ← key operands.shift
      modifyState fun state => { state with acc := lowBits 32 (signedWord word * 2 ^ shift) }
  | .lar => do
      let register ← key operands.auxiliaryRegister
      setAuxiliary register (← dataWord operands)
  | .ldp => do
      let word ← dataWord operands
      modifyStatus fun status => { status with dp := word &&& 1 }
  | .lst => do
      let word ← dataWord operands
      modifyStatus fun status =>
        { status with
          ov := (word &&& 0x8000) != 0
          ovm := (word &&& 0x4000) != 0
          arp := (word >>> 8) &&& 1
          dp := word &&& 1 }
  | .lt => do
      let word ← dataWord operands
      modifyState fun state => { state with t := word }
  | .lta => do
      let word ← dataWord operands
      modifyState fun state => { state with t := word }
      addAccumulator (← get).state.p
  | .ltd => do
      let word ← dataWord operands
      modifyState fun state => { state with t := word }
      setData (← key operands.moveAddress) word
      addAccumulator (← get).state.p
  | .dmov => do
      let word ← dataWord operands
      setData (← key operands.moveAddress) word
  | .in => do
      let self ← get
      let word ← index self.ioInput (← key operands.port)
      setData (← key operands.effectiveAddress) (word &&& wordMask)
  | .out => do
      let self ← get
      let word ← dataWord operands
      let ioOutput ← setIndex self.ioOutput (← key operands.port) (word &&& wordMask)
      modify fun self => { self with ioOutput := ioOutput }
  | .tblr => do
      let self ← get
      let word ← index self.program (← key operands.programAddress)
      setData (← key operands.effectiveAddress) (word &&& wordMask)
      duplicateBottom
  | .tblw => do
      let self ← get
      let word ← dataWord operands
      let program ← setIndex self.program (← key operands.programAddress) (word &&& wordMask)
      modify fun self => { self with program := program }
      duplicateBottom
  | .mpy => do
      let word ← dataWord operands
      modifyState fun state => { state with p := product state.t word }
  | .mpyk => do
      let value ← constant operands
      modifyState fun state => { state with p := lowBits 32 (signedWord state.t * value) }
  | .pac => modifyState fun state => { state with acc := state.p }
  | .apac => do addAccumulator (← get).state.p
  | .spac => do subtractAccumulator (← get).state.p
  | .sacl => do
      let self ← get
      setData (← key operands.effectiveAddress) (self.state.acc &&& wordMask)
  | .sar => do
      let word ← sarWord operands access.selectedArp
      setData (← key operands.effectiveAddress) word
  | .sst => do
      let word ← assigned access.transactionData
      setData (← key operands.effectiveAddress) word
  | .sach => do
      let word ← sachWord operands
      setData (← key operands.effectiveAddress) word
  | .zalh => do
      let word ← dataWord operands
      modifyState fun state => { state with acc := word <<< 16 }
  | .zals => do
      let word ← dataWord operands
      modifyState fun state => { state with acc := word }
  | .adds => do addAccumulator (← dataWord operands)
  | .addh => do
      let word ← dataWord operands
      modifyState fun state =>
        { state with
          acc := ((((state.acc >>> 16) + word) &&& wordMask) <<< 16) |||
            (state.acc &&& wordMask) }
  | .add => do
      let word ← dataWord operands
      let shift ← key operands.shift
      addAccumulator (lowBits 32 (signedWord word * 2 ^ shift))
  | .sub => do
      let word ← dataWord operands
      let shift ← key operands.shift
      subtractAccumulator (lowBits 32 (signedWord word * 2 ^ shift))
  | .subh => do
      let word ← dataWord operands
      subtractAccumulator (word <<< 16)
  | .subs => do subtractAccumulator (← dataWord operands)
  | .subc => do conditionalSubtract (← dataWord operands)
  | .xor => do
      let word ← dataWord operands
      modifyState fun state =>
        { state with
          acc := (state.acc &&& 0xFFFF0000) ||| ((state.acc &&& wordMask) ^^^ word) }
  | .and => do
      let word ← dataWord operands
      modifyState fun state => { state with acc := (state.acc &&& wordMask) &&& word }
  | .or => do
      let word ← dataWord operands
      modifyState fun state => { state with acc := state.acc ||| word }
  | .lark => do
      let register ← key operands.auxiliaryRegister
      setAuxiliary register (lowBits 8 (← constant operands))
  | .larp => do
      let value ← constant operands
      modifyStatus fun status => { status with arp := value.toNat }
  | .mar => pure ()
  | .ldpk => do
      let value ← constant operands
      modifyStatus fun status => { status with dp := value.toNat }
  | .abs => absolute
  | .zac => modifyState fun state => { state with acc := 0 }
  | .rovm => modifyStatus fun status => { status with ovm := false }
  | .sovm => modifyStatus fun status => { status with ovm := true }
  | .dint => modifyStatus fun status => { status with intm := true }
  | .eint => modifyStatus fun status => { status with intm := false }
  | .nop => pure ()
  | _ => throw .assertionError

/-- The counter update an addressing field asks for. -/
def updateCounter (control selectedArp : Nat) : Exec Unit := do
  let self ← get
  if (control &&& 0x20) != 0 then
    setAuxiliary selectedArp (modifyCounter (← index self.state.ar selectedArp) 1)
  else if (control &&& 0x10) != 0 then
    setAuxiliary selectedArp (modifyCounter (← index self.state.ar selectedArp) (-1))
  else pure ()

/-- `suppress_counter_update`: `LAR` into the selected register is not counted. -/
def suppressCounterUpdate (mnemonic : Mnemonic) (operands : Operands) (selectedArp : Nat) :
    Exec Bool :=
  if mnemonic = .lar then do
    let register ← key operands.auxiliaryRegister
    pure (register == selectedArp)
  else pure false

/-- The auxiliary update of an indirect word. -/
def modifySelected (mnemonic : Mnemonic) (operands : Operands) (selectedArp : Nat) :
    Exec Unit := do
  let control ← key operands.addressingField
  let suppress ← suppressCounterUpdate mnemonic operands selectedArp
  (if suppress then pure () else updateCounter control selectedArp)
  (if (control &&& 0x08) = 0 ∧ mnemonic ≠ .lst then
    modifyStatus fun status => { status with arp := control &&& 1 }
  else pure ())

/-- The auxiliary update after the handlers. -/
def postModify (mnemonic : Mnemonic) (access : Access) : Exec Unit :=
  if mnemonic.modifiesAuxiliary then do
    let indirect ← key access.operands.indirect
    if indirect != 0 then
      match access.selectedArp with
      | none => throw .assertionError
      | some selectedArp => modifySelected mnemonic access.operands selectedArp
    else pure ()
  else pure ()

/-- The instructions without control transfer. -/
def stepStraight (pc opcode : Nat) (mnemonic : Mnemonic) (operands : Operands)
    (transactions : List Transaction) : Exec StepTrace := do
  let access ← prepare pc opcode mnemonic operands transactions
  modifyState fun state => { state with pc := (pc + 1) &&& pcMask }
  execute mnemonic access
  postModify mnemonic access
  let cycles :=
    if mnemonic = .tblr ∨ mnemonic = .tblw then 3
    else if mnemonic = .in ∨ mnemonic = .out then 2
    else 1
  finish pc opcode mnemonic access.operands cycles access.transactions

/-- The dispatch of a decoded instruction. -/
def stepInstruction (pc opcode : Nat) (mnemonic : Mnemonic) (operands : Operands)
    (transactions : List Transaction) : Exec StepTrace :=
  if mnemonic = .cala then stepCala pc opcode operands transactions
  else if mnemonic = .pop ∨ mnemonic = .push ∨ mnemonic = .ret then
    stepStack pc opcode mnemonic operands transactions
  else if mnemonic.twoWordControlFlow then
    stepControl pc opcode mnemonic operands transactions
  else stepStraight pc opcode mnemonic operands transactions

/-- The interrupt request latch at the start of an instruction. -/
def latchInterruptInput : Exec Unit := do
  let self ← get
  if self.interruptInputHigh then pure ()
  else modifyState fun state => { state with interruptPending := true }

/-- Decode and execute the fetched word. -/
def stepFetched (pc opcode : Nat) (transactions : List Transaction) : Exec StepTrace :=
  match decode opcode pc with
  | .error error => throw error
  | .ok (mnemonic, operands) => stepInstruction pc opcode mnemonic operands transactions

/-- `step`. -/
def step : Exec StepTrace := do
  let self ← get
  let pc := self.state.pc &&& pcMask
  let word ← index self.program pc
  let opcode := word &&& wordMask
  if self.interruptEntryPending then interruptEntry pc opcode
  else do
    latchInterruptInput
    let fetch : Transaction :=
      { cycle := self.cycleCount, space := .program, operation := .instructionFetch,
        address := pc, data := opcode }
    stepFetched pc opcode [fetch]

/-- `reset_at_instruction_boundary`. -/
def resetAtInstructionBoundary (self : Tms32010Model) : Tms32010Model :=
  { self with
    state :=
      { self.state with
        pc := 0
        status := { self.state.status with intm := true }
        interruptPending := false }
    interruptDelayOne := false
    interruptEntryPending := false }

end Tms32010.Model
