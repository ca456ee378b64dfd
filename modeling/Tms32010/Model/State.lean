import Tms32010.Isa.Mnemonic

/-!
# Reference model: state and traces

The dataclasses of `tms32010_model.py`. Python integers that are never negative
are natural numbers, the two lists of a state and the four memories are lists,
and a raise keeps the mutations made before it, so the methods live in
`EStateM`. Besides the three declared exceptions the error type has the ones a
defect would show as.
-/

namespace Tms32010.Model

/-- `WORD_MASK`. -/
abbrev wordMask : Nat := 0xFFFF

/-- `ACC_MASK`. -/
abbrev accMask : Nat := 0xFFFFFFFF

/-- `PC_MASK`. -/
abbrev pcMask : Nat := 0x0FFF

/-- `PROGRAM_WORDS`. -/
abbrev programWords : Nat := 4096

/-- `DATA_WORDS`. -/
abbrev dataWords : Nat := 144

/-- `IO_PORTS`. -/
abbrev ioPorts : Nat := 8

/-- What `step` can raise. -/
inductive Error where
  | unsupportedOpcode (pc opcode : Nat)
  | unsupportedDataAddress (pc opcode address : Nat)
  | unsupportedProgramOperand (pc opcode address word : Nat)
  | assertionError
  | keyError
  | indexError
  | valueError
  | unboundLocalError
  deriving DecidableEq, Repr

/-- `Status`. -/
structure Status where
  ov : Bool := false
  ovm : Bool := false
  intm : Bool := false
  arp : Nat := 0
  dp : Nat := 0
  deriving DecidableEq, Repr

/-- `State`. -/
structure State where
  pc : Nat := 0
  acc : Nat := 0
  p : Nat := 0
  t : Nat := 0
  ar : List Nat := [0, 0]
  stack : List Nat := [0, 0, 0, 0]
  status : Status := {}
  interruptPending : Bool := false
  deriving DecidableEq, Repr

/-- The `space` of a transaction. -/
inductive Space where
  | program | data | io
  deriving DecidableEq, Repr

/-- The `operation` of a transaction. -/
inductive Action where
  | interruptDummyFetch | instructionFetch | followingWordFetch | discardedPrefetch
  | tableRead | tableWrite | read | write
  deriving DecidableEq, Repr

/-- `Transaction`. -/
structure Transaction where
  cycle : Nat
  space : Space
  operation : Action
  address : Nat
  data : Nat
  deriving DecidableEq, Repr

/-- The `operands` dictionary: a missing key is `none`. -/
structure Operands where
  constant : Option Int := none
  indirect : Option Nat := none
  addressingField : Option Nat := none
  shift : Option Nat := none
  port : Option Nat := none
  auxiliaryRegister : Option Nat := none
  programAddress : Option Nat := none
  branchTaken : Option Nat := none
  effectiveAddress : Option Nat := none
  moveAddress : Option Nat := none
  returnAddress : Option Nat := none
  vector : Option Nat := none
  deriving DecidableEq, Repr

/-- `architectural_state`, the snapshot a trace carries. -/
structure Snapshot where
  state : State
  interruptDelayOne : Bool
  interruptEntryPending : Bool
  cycleCount : Nat
  deriving DecidableEq, Repr

/-- The `mnemonic` of a trace: an instruction or the interrupt entry. -/
inductive Label where
  | instruction (mnemonic : Mnemonic)
  | interrupt
  deriving DecidableEq, Repr

/-- `StepTrace`. -/
structure StepTrace where
  pc : Nat
  opcode : Nat
  mnemonic : Label
  operands : Operands
  cycles : Nat
  transactions : List Transaction
  stateAfter : Snapshot
  deriving DecidableEq, Repr

/-- `Tms32010Model`. -/
structure Tms32010Model where
  state : State := {}
  program : List Nat := List.replicate programWords 0
  data : List Nat := List.replicate dataWords 0
  ioInput : List Nat := List.replicate ioPorts 0
  ioOutput : List Nat := List.replicate ioPorts 0
  bioInputHigh : Bool := true
  interruptInputHigh : Bool := true
  interruptDelayOne : Bool := false
  interruptEntryPending : Bool := false
  cycleCount : Nat := 0
  deriving DecidableEq, Repr

/-- A method: it may raise, and a raise keeps the mutations made so far. -/
abbrev Exec := EStateM Error Tms32010Model

/-- `xs[i]`, for the indices that occur, which are never negative. -/
def index (xs : List Nat) (i : Nat) : Exec Nat :=
  match xs[i]? with
  | some x => pure x
  | none => throw .indexError

/-- `xs[i] = x`, the new list. -/
def setIndex (xs : List Nat) (i x : Nat) : Exec (List Nat) :=
  if i < xs.length then pure (xs.set i x) else throw .indexError

/-- `operands[key]`. -/
def key {α : Type} (entry : Option α) : Exec α :=
  match entry with
  | some x => pure x
  | none => throw .keyError

/-- An assignment to the fields of `self.state`. -/
def modifyState (f : State → State) : Exec Unit :=
  modify fun self => { self with state := f self.state }

/-- An assignment to the fields of `self.state.status`. -/
def modifyStatus (f : Status → Status) : Exec Unit :=
  modifyState fun state => { state with status := f state.status }

/-- Python's `x & (2 ** bits - 1)`, for a negative `x` too. -/
def lowBits (bits : Nat) (x : Int) : Nat := (x % 2 ^ bits).toNat

/-- `architectural_state`. -/
def architecturalState : Exec Snapshot := do
  let self ← get
  return { state := self.state
           interruptDelayOne := self.interruptDelayOne
           interruptEntryPending := self.interruptEntryPending
           cycleCount := self.cycleCount }

end Tms32010.Model
