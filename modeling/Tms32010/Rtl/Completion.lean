import Tms32010.Rtl.Retire

/-!
# Instructions that span cycles

What the issue cycle captures of a two-word branch, a computed transfer, an
input or output and a table access, and what the cycle that completes each of
them makes of it. Between the two the registers only move past the word and the
data memory does not change.
-/

namespace Tms32010.Rtl.Core

/-! ## Captured operations -/

/-- The word of `m` was issued from `a`; `low` tells whether an interrupt was
requested since. -/
structure Underway (m : Mnemonic) (a : Isa.State) (low : Bool) (s : State) : Prop where
  registers : s.toRegisters =
    { a.toRegisters with
      pc := a.pc + 1, interruptPending := a.interruptPending || low }
  delay : s.interruptDelayOne = a.interruptDelayOne
  entry : s.interruptEntryPending = false
  noEntry : a.interruptEntryPending = false
  data : s.dataRam.memory = a.data
  spans : spansCycles m = true

/-- A two-word branch waits for its operand. -/
structure ControlPending (m : Mnemonic) (s : State) : Prop where
  pending : s.controlOperandPending = true
  operation : s.pendingControlOperation = m.operation
  computed : s.computedControlPending = false
  io : s.ioPending = false
  table : s.tablePending = false

/-- `CALA` or `RET` waits for its second cycle. -/
structure ComputedPending (m : Mnemonic) (a : Isa.State) (s : State) : Prop where
  pending : s.computedControlPending = true
  operation : s.pendingComputedOperation = m.operation
  target : s.pendingComputedTarget =
    if m = .cala then a.accumulator.extractLsb' 0 12 else a.stack.top
  returnAddress : s.pendingComputedReturnAddress = a.pc + 1
  control : s.controlOperandPending = false
  io : s.ioPending = false
  table : s.tablePending = false

/-- `IN` or `OUT` waits for its transfer. -/
structure IoPending (m : Mnemonic) (word : BitVec 16) (a : Isa.State) (s : State) : Prop where
  pending : s.ioPending = true
  operation : s.pendingIoOperation = m.operation
  port : s.pendingIoPort = Instruction.port word
  address : s.pendingIoDataAddress = a.toRegisters.dataAddress m word
  indirect : s.pendingIoIndirect = Instruction.indirect word
  selected : s.pendingIoSelectedArp = a.auxiliaryRegisterPointer
  increment : s.pendingIoIncrement = Instruction.increment word
  decrement : s.pendingIoDecrement = Instruction.decrement word
  preserve : s.pendingIoPreserveArp = Instruction.preserveArp word
  next : s.pendingIoNextArp = Instruction.nextArp word
  control : s.controlOperandPending = false
  computed : s.computedControlPending = false
  table : s.tablePending = false

/-- `TBLR` or `TBLW` waits for its prefetch, or in the second phase for its transfer. -/
structure TablePending (m : Mnemonic) (word : BitVec 16) (a : Isa.State) (phase : Bool)
    (s : State) : Prop where
  pending : s.tablePending = true
  phase : s.tableTransferPhase = phase
  operation : s.pendingTableOperation = m.operation
  programAddress : s.pendingTableProgramAddress = a.accumulator.extractLsb' 0 12
  address : s.pendingTableDataAddress = a.toRegisters.dataAddress m word
  indirect : s.pendingTableIndirect = Instruction.indirect word
  selected : s.pendingTableSelectedArp = a.auxiliaryRegisterPointer
  increment : s.pendingTableIncrement = Instruction.increment word
  decrement : s.pendingTableDecrement = Instruction.decrement word
  preserve : s.pendingTablePreserveArp = Instruction.preserveArp word
  next : s.pendingTableNextArp = Instruction.nextArp word
  control : s.controlOperandPending = false
  computed : s.computedControlPending = false
  io : s.ioPending = false

section Capture

variable {p : Params} {s : State} {i : Inputs} {m : Mnemonic}
  (found : mnemonic? i.programData = some m) (implemented : m.stackAccess = false)
  (idle : Idle s) (entry : s.interruptEntryPending = false) (running : Running i)

include found implemented

/-- The issue cycle of an operation that spans cycles only moves past the word. -/
theorem issueCycle_spans (spans : spansCycles m = true) :
    issueCycle p s i =
      { issueCapture s i with
        toRegisters := { s.toRegisters with pc := s.pc + 1 }
        illegal := false
        cycleCount := s.cycleCount + 1 } := by
  have keeps : modifiesAuxiliary m.operation = false := by
    cases m <;> first | rfl | exact absurd spans (by decide)
  have unmodified (registers : Registers) : issueModify s i registers = registers := by
    unfold issueModify
    rw [decoded_eq found implemented]
    simp only [encoded, keeps, Bool.false_and, Bool.false_eq_true, if_false]
  unfold issueCycle
  rw [executeOperation_spans found implemented spans, unmodified]

include idle entry running

/-- The clock that issues an operation that spans cycles. -/
theorem step_spans (program : ProgramMemory) (ioOutput : BitVec 3 → BitVec 16)
    (cycleCount : Nat) (spans : spansCycles m = true)
    (enabled : (p.enableInferredComputedControl || !m.computedControlFlow) = true)
    (noFault : Isa.dataFault? m i.programData (machine s program ioOutput cycleCount) = none) :
    step p s i =
        { issueCapture s i with
          toRegisters :=
            { s.toRegisters with
              pc := s.pc + 1, interruptPending := s.interruptPending || !i.int }
          illegal := false
          cycleCount := s.cycleCount + 1
          dataRam := (step p s i).dataRam } ∧
      (step p s i).dataRam.memory = s.dataRam.memory := by
  rcases enabledCycle_issue (p := p) found implemented idle entry running program ioOutput
    cycleCount enabled noFault with ⟨valid, cycle⟩
  have issued := issueCycle_spans (p := p) (s := s) found implemented spans
  have boundary : retirementBoundary p s i = false := by
    have later : retiresOnIssue m.operation = false := by
      cases m <;> first | rfl | exact absurd spans (by decide)
    unfold retirementBoundary
    rw [entry, idle.control, idle.computed, idle.io, idle.table, valid,
      decoded_eq found implemented]
    exact later
  have quiet : (m.storesRegister || m.movesData) = false := by
    cases m <;> first | rfl | exact absurd spans (by decide)
  constructor
  · have tracked := interruptTracker_within (p := p) (s := s) (i := i)
      (issueCycle p s i) entry boundary (by rw [issued])
    have whole : nextRegisters p s i =
        { issueCycle p s i with interruptPending := s.interruptPending || !i.int } := by
      rw [nextRegisters_running running, cycle, tracked]
    calc step p s i
        = { nextRegisters p s i with dataRam := (step p s i).dataRam } := rfl
      _ = _ := by rw [whole, issued]
  · rw [memory_step running, dataWrite_issue found implemented idle entry running, quiet]
    rfl

/-- What an issued operation leaves underway. -/
theorem issue_underway (program : ProgramMemory) (ioOutput : BitVec 3 → BitVec 16)
    (cycleCount : Nat) (spans : spansCycles m = true)
    (enabled : (p.enableInferredComputedControl || !m.computedControlFlow) = true)
    (noFault : Isa.dataFault? m i.programData (machine s program ioOutput cycleCount) = none) :
    Underway m (machine s program ioOutput cycleCount) (!i.int) (step p s i) := by
  rcases step_spans (p := p) found implemented idle entry running program ioOutput cycleCount
    spans enabled noFault with ⟨stepped, memory⟩
  have flags : (issueCapture s i).interruptDelayOne = s.interruptDelayOne ∧
      (issueCapture s i).interruptEntryPending = s.interruptEntryPending := by
    unfold issueCapture
    dsimp only
    split_ifs <;> exact ⟨rfl, rfl⟩
  refine ⟨?_, ?_, ?_, entry, memory, spans⟩
  · rw [stepped]
    rfl
  · rw [stepped]
    exact flags.1
  · rw [stepped]
    exact flags.2.trans entry

/-- A two-word branch is captured with its operation. -/
theorem issue_control (program : ProgramMemory) (ioOutput : BitVec 3 → BitVec 16)
    (cycleCount : Nat) (control : m.twoWordControlFlow = true) :
    Underway m (machine s program ioOutput cycleCount) (!i.int) (step p s i) ∧
      ControlPending m (step p s i) := by
  have spans : spansCycles m = true := by
    simp [spansCycles, control]
  have plain : m.computedControlFlow = false ∧ m.dataAddressed = false := by
    cases m <;> first | exact ⟨rfl, rfl⟩ | exact absurd control (by decide)
  have enabled : (p.enableInferredComputedControl || !m.computedControlFlow) = true := by
    rw [plain.1]
    simp
  have noFault : Isa.dataFault? m i.programData (machine s program ioOutput cycleCount) =
      none := by
    unfold Isa.dataFault?
    rw [plain.2]
    rfl
  refine ⟨issue_underway found implemented idle entry running program ioOutput cycleCount spans
    enabled noFault, ?_⟩
  have capture : issueCapture s i =
      { s with
        retired := false
        controlOperandPending := true
        pendingControlOperation := m.operation } := by
    unfold issueCapture
    rw [decoded_eq found implemented]
    simp only [encoded, isComputedControlFlow_operation, isTwoWordControlFlow_operation, plain,
      control, Bool.false_eq_true, if_false, if_true]
  rw [(step_spans (p := p) found implemented idle entry running program ioOutput cycleCount spans
    enabled noFault).1, capture]
  exact ⟨rfl, rfl, idle.computed, idle.io, idle.table⟩

/-- `CALA` and `RET` are captured with their target. -/
theorem issue_computed (program : ProgramMemory) (ioOutput : BitVec 3 → BitVec 16)
    (cycleCount : Nat) (computed : m.computedControlFlow = true)
    (enabled : p.enableInferredComputedControl = true) :
    Underway m (machine s program ioOutput cycleCount) (!i.int) (step p s i) ∧
      ComputedPending m (machine s program ioOutput cycleCount) (step p s i) := by
  have spans : spansCycles m = true := by
    simp [spansCycles, computed]
  have plain : m.dataAddressed = false := by
    cases m <;> first | rfl | exact absurd computed (by decide)
  have accepted : (p.enableInferredComputedControl || !m.computedControlFlow) = true := by
    rw [enabled]
    simp
  have noFault : Isa.dataFault? m i.programData (machine s program ioOutput cycleCount) =
      none := by
    unfold Isa.dataFault?
    rw [plain]
    rfl
  refine ⟨issue_underway found implemented idle entry running program ioOutput cycleCount spans
    accepted noFault, ?_⟩
  have capture : issueCapture s i =
      { s with
        retired := false
        computedControlPending := true
        pendingComputedOperation := m.operation
        pendingComputedTarget :=
          if m.operation == .cala then s.accumulator.extractLsb' 0 12 else s.stack.top
        pendingComputedReturnAddress := s.pc + 1 } := by
    unfold issueCapture
    rw [decoded_eq found implemented]
    simp only [encoded, isComputedControlFlow_operation, computed, if_true]
    rfl
  rw [(step_spans (p := p) found implemented idle entry running program ioOutput cycleCount spans
    accepted noFault).1, capture]
  refine ⟨rfl, rfl, ?_, rfl, idle.control, idle.io, idle.table⟩
  cases m <;> rfl

/-- `IN` and `OUT` are captured with their port, address and addressing update. -/
theorem issue_io (program : ProgramMemory) (ioOutput : BitVec 3 → BitVec 16)
    (cycleCount : Nat) (io : m.ioTransfer = true)
    (noFault : Isa.dataFault? m i.programData (machine s program ioOutput cycleCount) = none) :
    Underway m (machine s program ioOutput cycleCount) (!i.int) (step p s i) ∧
      IoPending m i.programData (machine s program ioOutput cycleCount) (step p s i) := by
  have spans : spansCycles m = true := by
    simp [spansCycles, io]
  have plain : m.computedControlFlow = false ∧ m.twoWordControlFlow = false ∧
      m.dataAddressed = true ∧ (m.operation == .in || m.operation == .out) = true := by
    cases m <;> first | exact ⟨rfl, rfl, rfl, rfl⟩ | exact absurd io (by decide)
  have enabled : (p.enableInferredComputedControl || !m.computedControlFlow) = true := by
    rw [plain.1]
    simp
  refine ⟨issue_underway found implemented idle entry running program ioOutput cycleCount spans
    enabled noFault, ?_⟩
  have capture : issueCapture s i =
      { s with
        retired := false
        ioPending := true
        pendingIoOperation := m.operation
        pendingIoPort := Instruction.port i.programData
        pendingIoDataAddress := s.toRegisters.dataAddress m i.programData
        pendingIoIndirect := Instruction.indirect i.programData
        pendingIoSelectedArp := s.auxiliaryRegisterPointer
        pendingIoIncrement := Instruction.increment i.programData
        pendingIoDecrement := Instruction.decrement i.programData
        pendingIoPreserveArp := Instruction.preserveArp i.programData
        pendingIoNextArp := Instruction.nextArp i.programData } := by
    unfold issueCapture
    rw [dataAddress_issue found implemented idle entry plain.2.2.1, decoded_eq found implemented]
    simp only [encoded, isComputedControlFlow_operation, isTwoWordControlFlow_operation, plain,
      Bool.false_eq_true, if_false, if_true, addressingField_bit, Nat.reduceLT]
  rw [(step_spans (p := p) found implemented idle entry running program ioOutput cycleCount spans
    enabled noFault).1, capture]
  exact ⟨rfl, rfl, rfl, rfl, rfl, rfl, rfl, rfl, rfl, rfl, idle.control, idle.computed,
    idle.table⟩

/-- `TBLR` and `TBLW` are captured with their addresses and addressing update. -/
theorem issue_table (program : ProgramMemory) (ioOutput : BitVec 3 → BitVec 16)
    (cycleCount : Nat) (table : m.tableTransfer = true)
    (noFault : Isa.dataFault? m i.programData (machine s program ioOutput cycleCount) = none) :
    Underway m (machine s program ioOutput cycleCount) (!i.int) (step p s i) ∧
      TablePending m i.programData (machine s program ioOutput cycleCount) false
        (step p s i) := by
  have spans : spansCycles m = true := by
    simp [spansCycles, table]
  have plain : m.computedControlFlow = false ∧ m.twoWordControlFlow = false ∧
      m.dataAddressed = true ∧ (m.operation == .in || m.operation == .out) = false ∧
      (m.operation == .tblr || m.operation == .tblw) = true := by
    cases m <;> first | exact ⟨rfl, rfl, rfl, rfl, rfl⟩ | exact absurd table (by decide)
  have enabled : (p.enableInferredComputedControl || !m.computedControlFlow) = true := by
    rw [plain.1]
    simp
  refine ⟨issue_underway found implemented idle entry running program ioOutput cycleCount spans
    enabled noFault, ?_⟩
  have capture : issueCapture s i =
      { s with
        retired := false
        tablePending := true
        tableTransferPhase := false
        pendingTableOperation := m.operation
        pendingTableProgramAddress := s.accumulator.extractLsb' 0 12
        pendingTableDataAddress := s.toRegisters.dataAddress m i.programData
        pendingTableIndirect := Instruction.indirect i.programData
        pendingTableSelectedArp := s.auxiliaryRegisterPointer
        pendingTableIncrement := Instruction.increment i.programData
        pendingTableDecrement := Instruction.decrement i.programData
        pendingTablePreserveArp := Instruction.preserveArp i.programData
        pendingTableNextArp := Instruction.nextArp i.programData } := by
    unfold issueCapture
    rw [dataAddress_issue found implemented idle entry plain.2.2.1, decoded_eq found implemented]
    simp only [encoded, isComputedControlFlow_operation, isTwoWordControlFlow_operation, plain,
      Bool.false_eq_true, if_false, if_true, addressingField_bit, Nat.reduceLT]
  rw [(step_spans (p := p) found implemented idle entry running program ioOutput cycleCount spans
    enabled noFault).1, capture]
  exact ⟨rfl, rfl, rfl, rfl, rfl, rfl, rfl, rfl, rfl, rfl, rfl, idle.control, idle.computed,
    idle.io⟩

end Capture

/-! ## Retirement -/

/-- The clock in which an operation underway retires ends it as the machine does.
`after` is what the operation makes of the registers it was issued from. -/
theorem underway_retires {p : Params} {s : State} {i : Inputs} {m : Mnemonic} {a : Isa.State}
    {low : Bool} {next : State} {after : Registers} {pins : Isa.Input}
    (underway : Underway m a low s) (running : Running i)
    (valid : retirementBoundary p s i = true) (operation : retiringOperation s i = m.operation)
    (cycle : enabledCycle p s i = next)
    (registers : next.toRegisters =
      { after with interruptPending := a.interruptPending || low })
    (mask : after.interruptMask = a.interruptMask)
    (flags : next.interruptDelayOne = s.interruptDelayOne ∧ next.interruptEntryPending = false)
    (level : pins.int = (!low && i.int)) (program : ProgramMemory)
    (ioOutput : BitVec 3 → BitVec 16) (cycleCount : Nat) :
    machine (step p s i) program ioOutput cycleCount =
      Isa.advanceInterrupt m
        { a with
          toRegisters := { after with interruptPending := a.interruptPending || !pins.int }
          data := (step p s i).dataRam.memory
          program := program
          ioOutput := ioOutput
          cycleCount := cycleCount } := by
  have unmasked : m.maskAfter s.interruptMask = s.interruptMask := by
    cases m with
    | dint | eint => exact absurd underway.spans (by decide)
    | _ => rfl
  have request : (a.interruptPending || !pins.int) = (s.interruptPending || !i.int) := by
    rw [level, underway.registers, Bool.not_and, Bool.not_not, Bool.or_assoc]
  have retired := machine_retire (m := m) running cycle program ioOutput cycleCount
    underway.entry valid operation
    (by rw [unmasked, registers, underway.registers]; exact mask)
    (by rw [registers, underway.registers]) flags.1 flags.2
  rw [retired, registers, request, ← underway.noEntry, underway.delay]

/-! ## Two-word branches -/

section Control

variable {p : Params} {s : State} {i : Inputs} {m : Mnemonic} {a : Isa.State} {low : Bool}
  (underway : Underway m a low s) (pending : ControlPending m s)
  (control : m.twoWordControlFlow = true) (running : Running i)

/-- The branch decision of the operand cycle. -/
theorem controlTarget_pending (underway : Underway m a low s) (pending : ControlPending m s)
    (control : m.twoWordControlFlow = true) :
    controlTarget s i =
      if a.branchTaken m i.bio then i.programData.extractLsb' 0 12 else a.pc + 2 := by
  have taken : controlTaken s i = a.branchTaken m i.bio := by
    unfold controlTaken Registers.branchTaken
    rw [pending.operation, underway.registers]
    cases m with
    | banz =>
        simp only [Mnemonic.operation, Registers.auxiliaryRegister]
        split <;> rfl
    | b | bv | bioz | call | bgez | bgz | blez | blz | bnz | bz => rfl
    | _ => exact absurd control (by decide)
  have skipped : a.pc + 1 + 1 = a.pc + 2 := BitVec.add_assoc _ _ _
  unfold controlTarget
  rw [taken, underway.registers, skipped]

/-- The registers of the operand cycle. -/
theorem controlOperandCycle_registers (underway : Underway m a low s)
    (pending : ControlPending m s) (control : m.twoWordControlFlow = true) :
    (controlOperandCycle s i).toRegisters =
      { a.branch m i.bio (i.programData.extractLsb' 0 12) with
        interruptPending := a.interruptPending || low } := by
  have target := controlTarget_pending (i := i) underway pending control
  have skipped : a.pc + 1 + 1 = a.pc + 2 := BitVec.add_assoc _ _ _
  unfold controlOperandCycle Registers.branch
  simp only [pending.operation, target, underway.registers]
  cases m with
  | banz =>
      have counter : auxiliaryCounterResult s i =
          Registers.count (a.auxiliaryRegister a.auxiliaryRegisterPointer) (-1) := by
        unfold auxiliaryCounterResult auxiliaryCounterControl
        rw [pending.pending, pending.operation, underway.registers]
        exact auxiliaryCounter_decrement _
      simp only [Mnemonic.operation, counter, Registers.setAuxiliaryRegister]
      split <;> rfl
  | bv =>
      simp only [Mnemonic.operation]
      cases a.overflowFlag <;> rfl
  | call =>
      have pushed : stackNext s = a.stack.push (a.pc + 2) := by
        unfold stackNext stackPush stackPop stackPushData
        rw [pending.pending, pending.operation, pending.computed, pending.table, underway.entry,
          underway.registers, ← skipped]
        rfl
      simp only [Mnemonic.operation, pushed]
  | b | bioz | bgez | bgz | blez | blz | bnz | bz => rfl
  | _ => exact absurd control (by decide)

/-- The operand cycle retires the branch. -/
theorem retires_control (underway : Underway m a low s) (pending : ControlPending m s)
    (valid : instructionValid p s i = true) :
    retirementBoundary p s i = true ∧ retiringOperation s i = m.operation := by
  constructor
  · unfold retirementBoundary
    rw [underway.entry, pending.computed, pending.pending, valid]
    rfl
  · unfold retiringOperation
    rw [underway.entry, pending.computed, pending.pending, pending.operation]
    rfl

theorem dataWrite_control (pending : ControlPending m s) : dataWrite s i = false := by
  unfold dataWrite
  rw [pending.pending, pending.io, pending.table]
  simp

include underway pending running

theorem instructionValid_control (control : m.twoWordControlFlow = true) :
    instructionValid p s i = (i.programData.extractLsb' 12 4 == 0) := by
  unfold instructionValid
  rw [running.noInitialize, running.noReset, underway.entry, pending.computed, pending.pending,
    pending.operation, isTwoWordControlFlow_operation, control]
  simp

include control

/-- The operand cycle completes the branch. -/
theorem control_retires (program : ProgramMemory) (ioOutput : BitVec 3 → BitVec 16)
    (cycleCount : Nat) (pins : Isa.Input)
    (operand : a.program (a.pc + 1) = i.programData)
    (supported : i.programData.extractLsb' 12 4 = 0)
    (int : pins.int = (!low && i.int)) (bio : pins.bio = i.bio)
    (outside : a.program = program ∧ a.ioOutput = ioOutput ∧ a.cycleCount + 2 = cycleCount) :
    Isa.stepControl m (a.program a.pc) pins (Isa.latchRequest pins a) =
        .ok { state := machine (step p s i) program ioOutput cycleCount
              executed := some m
              cycles := 2
              bus := [.programRead a.pc (a.program a.pc),
                .programRead (a.pc + 1) i.programData] } ∧
      Idle (step p s i) := by
  have valid : instructionValid p s i = true := by
    rw [instructionValid_control underway pending running control, supported]
    rfl
  have cycle : enabledCycle p s i = controlOperandCycle s i := by
    unfold enabledCycle
    rw [underway.entry, pending.computed, pending.pending, valid]
    rfl
  have registers := controlOperandCycle_registers (i := i) underway pending control
  rcases retires_control underway pending valid with ⟨boundary, operation⟩
  have memory : (step p s i).dataRam.memory = a.data := by
    rw [memory_step running, dataWrite_control pending, ← underway.data]
    rfl
  have mask : (a.branch m i.bio (i.programData.extractLsb' 0 12)).interruptMask =
      a.interruptMask := Registers.branch_interruptMask ..
  have ended := underway_retires underway running boundary operation cycle registers mask
    ⟨rfl, underway.entry⟩ int program ioOutput cycleCount
  constructor
  · have operand' : (Isa.latchRequest pins a).program ((Isa.latchRequest pins a).pc + 1) =
        i.programData := operand
    unfold Isa.stepControl
    simp only [operand', supported, if_true, ended, memory, bio]
    unfold Isa.retire Isa.latchRequest
    simp only [Registers.branch_pending, ← outside.1, ← outside.2.1, ← outside.2.2]
  · apply idle_step running
    rw [cycle]
    exact ⟨rfl, pending.computed, pending.io, pending.table⟩

end Control

/-! ## Computed transfers -/

/-- The data memory after the second cycle of `CALA` or `RET`, with `word` on the
program bus. The core does not mask that word's store: it is made at address zero,
or from there to the next word for a data move. -/
def strayData (word : BitVec 16) (a : Isa.State) : DataRam :=
  match mnemonic? word with
  | some m =>
      if m.movesData then a.data.write 1 (a.data.read 0)
      else if m.storesRegister then a.data.write 0 (a.storeWord m word)
      else a.data
  | none => a.data

/-- The registers after `CALA` or `RET`. -/
def computedRegisters (m : Mnemonic) (r : Registers) : Registers :=
  if m = .cala then
    { r with stack := r.stack.push (r.pc + 1), pc := r.accumulator.extractLsb' 0 12 }
  else { r with stack := r.stack.pop, pc := r.stack.top }

section Computed

variable {p : Params} {s : State} {i : Inputs} {m : Mnemonic} {a : Isa.State} {low : Bool}

theorem instructionValid_computed (underway : Underway m a low s) (pending : ComputedPending m a s)
    (computed : m.computedControlFlow = true) (running : Running i)
    (enabled : p.enableInferredComputedControl = true) : instructionValid p s i = true := by
  unfold instructionValid
  rw [running.noInitialize, running.noReset, underway.entry, pending.pending,
    pending.operation, isComputedControlFlow_operation, computed, enabled]
  rfl

/-- The second cycle retires `CALA` and `RET`. -/
theorem retires_computed (underway : Underway m a low s) (pending : ComputedPending m a s)
    (valid : instructionValid p s i = true) :
    retirementBoundary p s i = true ∧ retiringOperation s i = m.operation := by
  constructor
  · unfold retirementBoundary
    rw [underway.entry, pending.pending, valid]
    rfl
  · unfold retiringOperation
    rw [underway.entry, pending.pending, pending.operation]
    rfl

theorem dataWrite_computed (underway : Underway m a low s) (pending : ComputedPending m a s)
    (running : Running i) :
    dataWrite s i = ((decoded i).valid && writesData (decoded i).operation) := by
  unfold dataWrite
  rw [running.noInitialize, running.noReset, underway.entry, pending.io, pending.table,
    pending.control]
  simp

theorem dataAddress_computed (underway : Underway m a low s) (pending : ComputedPending m a s) :
    dataAddress s i = 0 := by
  unfold dataAddress
  rw [underway.entry, pending.io, pending.table, pending.control, pending.pending]
  simp

/-- A store reads nothing of the captured transfer. -/
theorem dataWriteData_computed (underway : Underway m a low s) (pending : ComputedPending m a s)
    {stray : Mnemonic} (found : mnemonic? i.programData = some stray)
    (stores : stray.storesRegister = true) :
    dataWriteData p s i = a.storeWord stray i.programData := by
  have implemented : stray.stackAccess = false := by
    cases stray <;> first | rfl | exact absurd stores (by decide)
  have still : stray.movesData = false := by
    cases stray <;> first | rfl | exact absurd stores (by decide)
  have same : dataWriteData p s i =
      dataWriteData p { s with computedControlPending := false } i := by
    unfold dataWriteData
    rw [decoded_eq found implemented]
    simp only [encoded, moves_operation, still, Bool.false_eq_true, if_false]
    rfl
  have free : Idle { s with computedControlPending := false } :=
    ⟨pending.control, rfl, pending.io, pending.table⟩
  refine same.trans ((dataWriteData_store found implemented free stores).trans ?_)
  change s.toRegisters.storeWord stray i.programData = _
  rw [underway.registers]
  cases stray <;> rfl

/-- The store that `CALA` and `RET` do not mask. -/
theorem memory_computed (underway : Underway m a low s) (pending : ComputedPending m a s)
    (running : Running i) (valid : instructionValid p s i = true)
    (fresh : ramReadData p s i = s.dataRam.memory.read 0) :
    (step p s i).dataRam.memory = strayData i.programData a := by
  rw [memory_step running, dataWrite_computed underway pending running, valid, Bool.and_true]
  unfold strayData
  rw [← underway.data]
  cases word : mnemonic? i.programData with
  | none =>
      have rejected : (decoded i).valid = false := decode_invalid (by simp [word])
      rw [rejected]
      rfl
  | some stray =>
      cases implemented : stray.stackAccess
      · have address : dataWriteAddress s i = if stray.movesData then 1 else 0 := by
          unfold dataWriteAddress
          rw [decoded_eq word implemented, pending.io, pending.table,
            dataAddress_computed underway pending]
          simp only [encoded, Bool.not_false, Bool.true_and, moves_operation]
          rfl
        rw [address, decoded_eq word implemented]
        simp only [encoded, writesData_operation, Bool.true_and]
        cases moves : stray.movesData
        · cases stores : stray.storesRegister
          · rfl
          · simp only [dataWriteData_computed underway pending word stores, Bool.or_false,
              if_true, Bool.false_eq_true, if_false]
        · have moved : dataWriteData p s i = ramReadData p s i := by
            unfold dataWriteData
            rw [decoded_eq word implemented, pending.io, pending.table]
            simp only [encoded, moves_operation, moves, Bool.false_and, Bool.false_eq_true,
              if_false, if_true]
          simp only [moved, fresh, Bool.or_true, if_true]
      · have rejected : (decoded i).valid = false := by
          apply decode_invalid
          intro other same
          rw [word, Option.some.injEq] at same
          rw [← same, implemented]
        have still : stray.movesData = false ∧ stray.storesRegister = false := by
          cases stray <;> first | exact ⟨rfl, rfl⟩ | exact absurd implemented (by decide)
        rw [rejected]
        simp only [still, Bool.false_and, Bool.false_eq_true, if_false]

/-- The second cycle of `CALA` and `RET` completes them, the store apart. -/
theorem computed_retires (underway : Underway m a low s) (pending : ComputedPending m a s)
    (computed : m.computedControlFlow = true) (running : Running i)
    (enabled : p.enableInferredComputedControl = true)
    (fresh : ramReadData p s i = s.dataRam.memory.read 0) (word : BitVec 16)
    (program : ProgramMemory) (ioOutput : BitVec 3 → BitVec 16) (cycleCount : Nat)
    (pins : Isa.Input) (int : pins.int = (!low && i.int))
    (outside : a.program = program ∧ a.ioOutput = ioOutput ∧ a.cycleCount + 2 = cycleCount) :
    Isa.stepStack m word (Isa.latchRequest pins a) =
        { state :=
            { machine (step p s i) program ioOutput cycleCount with data := a.data }
          executed := some m
          cycles := 2
          bus := [.programRead a.pc word] } ∧
      (step p s i).dataRam.memory = strayData i.programData a ∧ Idle (step p s i) := by
  have valid := instructionValid_computed (p := p) underway pending computed running enabled
  have cycle : enabledCycle p s i = computedControlCycle s := by
    unfold enabledCycle
    rw [underway.entry, pending.pending, valid]
    rfl
  rcases retires_computed underway pending valid with ⟨boundary, operation⟩
  have registers : (computedControlCycle s).toRegisters =
      { computedRegisters m a.toRegisters with
        interruptPending := a.interruptPending || low } := by
    unfold computedControlCycle stackNext stackPush stackPop stackPushData
    rw [pending.pending, pending.operation, pending.target, pending.control, pending.table,
      pending.returnAddress, underway.entry, underway.registers]
    cases m with
    | cala | ret => rfl
    | _ => exact absurd computed (by decide)
  have memory := memory_computed underway pending running valid fresh
  have mask : (computedRegisters m a.toRegisters).interruptMask = a.interruptMask := by
    unfold computedRegisters
    split <;> rfl
  refine ⟨?_, memory, ?_⟩
  · rw [underway_retires underway running boundary operation cycle registers mask
      ⟨rfl, underway.entry⟩ int program ioOutput cycleCount, Isa.advanceInterrupt_data]
    unfold Isa.stepStack Isa.retire Isa.latchRequest
    simp only [← outside.1, ← outside.2.1, ← outside.2.2]
    cases m with
    | cala | ret => rfl
    | _ => exact absurd computed (by decide)
  · apply idle_step running
    rw [cycle]
    exact ⟨pending.control, rfl, pending.io, pending.table⟩

end Computed

/-! ## Transfers -/

section Transfer

variable {p : Params} {s : State} {i : Inputs} {m : Mnemonic} {a : Isa.State} {low : Bool}
  {word : BitVec 16}

/-- The auxiliary update that ends a transfer is the machine's. -/
theorem transferModify_eq (transfers : (m.tableTransfer || m.ioTransfer) = true)
    (selected : Bool)
    (counter : Instruction.indirect word = true → auxiliaryCounterResult s i =
      Registers.counted word (s.auxiliaryRegister selected)) :
    transferModify s i (Instruction.indirect word) selected (Instruction.increment word)
        (Instruction.decrement word) (Instruction.preserveArp word) (Instruction.nextArp word) =
      s.toRegisters.postModify m word selected := by
  have plain : m.modifiesAuxiliary = true ∧ (m == .lar) = false ∧ (m != .lst) = true := by
    cases m <;> first | exact ⟨rfl, rfl, rfl⟩ | exact absurd transfers (by decide)
  unfold transferModify Registers.postModify
  simp only [plain, Bool.true_and, Bool.false_and, Bool.and_true, Bool.false_eq_true, if_false]
  cases indirect : Instruction.indirect word
  · rfl
  · have unchanged : s.toRegisters.setAuxiliaryRegister selected
        (s.auxiliaryRegister selected) = s.toRegisters := by
      cases selected <;> rfl
    simp only [counter indirect, if_true]
    cases counts : Instruction.increment word || Instruction.decrement word
    · rw [Bool.or_eq_false_iff] at counts
      simp only [Registers.counted, counts, Bool.false_eq_true, if_false, unchanged]
    · rfl

/-- The counter of an indirect transfer counts the register selected on issue. -/
theorem auxiliaryCounterResult_transfer (found : mnemonic? word = some m)
    (transfers : (m.tableTransfer || m.ioTransfer) = true)
    (indirect : Instruction.indirect word = true) (selected : Bool)
    (control : auxiliaryCounterControl s i =
      (selected, Instruction.indirect word && Instruction.increment word,
        Instruction.indirect word && Instruction.decrement word)) :
    auxiliaryCounterResult s i = Registers.counted word (s.auxiliaryRegister selected) := by
  have modifies : m.modifiesAuxiliary = true := by
    cases m <;> first | rfl | exact absurd transfers (by decide)
  rw [indirect, Bool.true_and, Bool.true_and] at control
  unfold auxiliaryCounterResult
  rw [control]
  exact auxiliaryCounter_eq word _ (single_counter_control found modifies indirect)

theorem addressValid_of_noFault (data : m.dataAddressed = true)
    (noFault : Isa.dataFault? m word a = none) :
    DataRam.addressValid (a.toRegisters.dataAddress m word) = true := by
  unfold Isa.dataFault? at noFault
  rw [data] at noFault
  cases valid : DataRam.addressValid (a.toRegisters.dataAddress m word)
  · rw [valid] at noFault
    exact absurd noFault (by simp)
  · rfl

end Transfer

/-! ## Input and output -/

section Io

variable {p : Params} {s : State} {i : Inputs} {m : Mnemonic} {a : Isa.State} {low : Bool}
  {word : BitVec 16} (underway : Underway m a low s) (pending : IoPending m word a s)
  (io : m.ioTransfer = true) (running : Running i)

include underway pending

theorem dataAddress_io : dataAddress s i = a.toRegisters.dataAddress m word := by
  unfold dataAddress
  rw [underway.entry, pending.table, pending.pending, pending.address]
  rfl

include running

/-- The data memory after the transfer. -/
theorem memory_io (io : m.ioTransfer = true) (valid : instructionValid p s i = true)
    (pins : Isa.Input) (input : pins.ioInput (Instruction.port word) = i.ioReadData) :
    (step p s i).dataRam.memory = Isa.straightData m word pins a := by
  have write : dataWrite s i = (m == .in) := by
    have inOnly : (m.operation == .in) = (m == .in) := by cases m <;> rfl
    unfold dataWrite
    rw [running.noInitialize, running.noReset, underway.entry, pending.pending, pending.table,
      pending.operation, inOnly]
    simp
  have address : dataWriteAddress s i = a.toRegisters.dataAddress m word := by
    unfold dataWriteAddress
    rw [pending.pending, dataAddress_io underway pending]
    rfl
  have word : dataWriteData p s i = i.ioReadData := by
    unfold dataWriteData
    rw [pending.pending, pending.table]
    rfl
  rw [memory_step running, write, address, word, valid, underway.data]
  unfold Isa.straightData
  rw [input]
  cases m with
  | «in» | out => rfl
  | _ => exact absurd io (by decide)

theorem instructionValid_io (io : m.ioTransfer = true)
    (noFault : Isa.dataFault? m word a = none) : instructionValid p s i = true := by
  have data : m.dataAddressed = true := by
    cases m <;> first | rfl | exact absurd io (by decide)
  have operation : (m.operation == .in || m.operation == .out) = true := by
    cases m <;> first | rfl | exact absurd io (by decide)
  unfold instructionValid ramAddressValid
  rw [running.noInitialize, running.noReset, underway.entry, pending.computed,
    pending.control, pending.table, pending.pending, dataAddress_io underway pending,
    addressValid_of_noFault data noFault, pending.operation, operation]
  rfl

omit running in
/-- The transfer cycle retires the input or output. -/
theorem retires_io (valid : instructionValid p s i = true) :
    retirementBoundary p s i = true ∧ retiringOperation s i = m.operation := by
  constructor
  · unfold retirementBoundary
    rw [underway.entry, pending.computed, pending.control, pending.table, pending.pending, valid]
    rfl
  · unfold retiringOperation
    rw [underway.entry, pending.computed, pending.control, pending.table, pending.pending,
      pending.operation]
    rfl

/-- The transfer cycle completes the input or output. -/
theorem io_retires (io : m.ioTransfer = true) (found : mnemonic? word = some m)
    (noFault : Isa.dataFault? m word a = none)
    (program : ProgramMemory) (ioOutput : BitVec 3 → BitVec 16) (cycleCount : Nat)
    (pins : Isa.Input) (int : pins.int = (!low && i.int))
    (input : pins.ioInput (Instruction.port word) = i.ioReadData)
    (outside : a.program = program ∧ Isa.straightOutput m word a = ioOutput ∧
      a.cycleCount + 2 = cycleCount) :
    Isa.stepStraight m word pins (Isa.latchRequest pins a) =
        .ok { state := machine (step p s i) program ioOutput cycleCount
              executed := some m
              cycles := 2
              bus := Isa.straightBus m word pins a } ∧
      Idle (step p s i) := by
  have transfers : (m.tableTransfer || m.ioTransfer) = true := by
    rw [io, Bool.or_true]
  have data : m.dataAddressed = true := by
    cases m <;> first | rfl | exact absurd io (by decide)
  have valid := instructionValid_io (p := p) underway pending running io noFault
  have cycle : enabledCycle p s i = ioCycle s i := by
    unfold enabledCycle
    rw [underway.entry, pending.computed, pending.control, pending.table, pending.pending, valid]
    rfl
  rcases retires_io underway pending valid with ⟨boundary, operation⟩
  have control : auxiliaryCounterControl s i =
      (a.auxiliaryRegisterPointer, Instruction.indirect word && Instruction.increment word,
        Instruction.indirect word && Instruction.decrement word) := by
    unfold auxiliaryCounterControl
    rw [pending.control, pending.table, pending.pending, pending.selected, pending.indirect,
      pending.increment, pending.decrement]
    rfl
  have registers : (ioCycle s i).toRegisters =
      { Isa.straightRegisters m word a with
        interruptPending := a.interruptPending || low } := by
    have modified := transferModify_eq (s := s) (i := i) transfers a.auxiliaryRegisterPointer
      (fun indirect =>
        auxiliaryCounterResult_transfer found transfers indirect _ control)
    have executed : Registers.execute (Isa.fetched a) m word (Isa.operand m word a) =
        Isa.fetched a := by
      cases m <;> first | rfl | exact absurd io (by decide)
    unfold ioCycle Isa.straightRegisters
    rw [pending.indirect, pending.selected, pending.increment, pending.decrement,
      pending.preserve, pending.next]
    rw [modified, executed, underway.registers, ← Registers.postModify_pending]
    rfl
  have mask : (Isa.straightRegisters m word a).interruptMask = a.interruptMask := by
    unfold Isa.straightRegisters
    rw [Registers.postModify_interruptMask, Registers.execute_interruptMask]
    cases m <;> first | rfl | exact absurd io (by decide)
  have ended := underway_retires underway running boundary operation cycle registers mask
    ⟨rfl, underway.entry⟩ int program ioOutput cycleCount
  have noFault' : Isa.dataFault? m word (Isa.latchRequest pins a) = none := noFault
  have bus : (Isa.straightBus m word pins a).length = 2 := by
    cases m <;> first | rfl | exact absurd io (by decide)
  have unwritten : m ≠ .tblw := by
    rintro rfl
    exact absurd io (by decide)
  have sameBus : Isa.straightBus m word pins (Isa.latchRequest pins a) =
      Isa.straightBus m word pins a := rfl
  constructor
  · unfold Isa.stepStraight
    rw [ended, memory_io underway pending running io valid pins input]
    simp only [noFault', Isa.straightRegisters_latch, sameBus, Isa.retire, bus]
    rw [← outside.1, ← outside.2.1, ← outside.2.2]
    simp only [Isa.straightProgram, unwritten, if_false]
    rfl
  · apply idle_step running
    rw [cycle]
    exact ⟨pending.control, pending.computed, rfl, pending.table⟩

end Io

/-! ## Table transfers -/

section Table

variable {p : Params} {s : State} {i : Inputs} {m : Mnemonic} {a : Isa.State} {low : Bool}
  {word : BitVec 16} (underway : Underway m a low s)

theorem instructionValid_prefetch (underway : Underway m a low s)
    (pending : TablePending m word a false s) (running : Running i) :
    instructionValid p s i = true := by
  unfold instructionValid
  rw [running.noInitialize, running.noReset, underway.entry, pending.computed,
    pending.control, pending.pending, pending.phase]
  rfl

/-- The discarded prefetch of a table access only starts the transfer phase. -/
theorem table_prefetches (underway : Underway m a low s)
    (pending : TablePending m word a false s) (running : Running i) :
    Underway m a (low || !i.int) (step p s i) ∧ TablePending m word a true (step p s i) := by
  have valid := instructionValid_prefetch (p := p) underway pending running
  have cycle : enabledCycle p s i = tablePrefetchCycle s := by
    unfold enabledCycle
    rw [underway.entry, pending.computed, pending.control, pending.pending, pending.phase, valid]
    rfl
  have boundary : retirementBoundary p s i = false := by
    unfold retirementBoundary
    rw [underway.entry, pending.computed, pending.control, pending.pending, pending.phase]
    rfl
  have stepped : step p s i =
      { tablePrefetchCycle s with
        interruptPending := s.interruptPending || !i.int
        dataRam := (step p s i).dataRam } := by
    have tracked := interruptTracker_within (p := p) (s := s) (i := i)
      (tablePrefetchCycle s) underway.entry boundary rfl
    have whole : nextRegisters p s i =
        { tablePrefetchCycle s with interruptPending := s.interruptPending || !i.int } := by
      rw [nextRegisters_running running, cycle, tracked]
    calc step p s i
        = { nextRegisters p s i with dataRam := (step p s i).dataRam } := rfl
      _ = _ := by rw [whole]
  have memory : (step p s i).dataRam.memory = a.data := by
    have quiet : dataWrite s i = false := by
      unfold dataWrite
      rw [pending.pending, pending.phase, pending.io]
      simp
    rw [memory_step running, quiet, ← underway.data]
    rfl
  constructor
  · refine ⟨?_, ?_, ?_, underway.noEntry, memory, underway.spans⟩
    · have held : (tablePrefetchCycle s).toRegisters = s.toRegisters := rfl
      rw [stepped]
      change { s.toRegisters with interruptPending := s.interruptPending || !i.int } = _
      rw [underway.registers, ← Bool.or_assoc]
    · rw [stepped]
      exact underway.delay
    · rw [stepped]
      exact underway.entry
  · rw [stepped]
    exact ⟨pending.pending, rfl, pending.operation, pending.programAddress, pending.address,
      pending.indirect, pending.selected, pending.increment, pending.decrement,
      pending.preserve, pending.next, pending.control, pending.computed, pending.io⟩

variable (pending : TablePending m word a true s) (running : Running i)

theorem dataAddress_table (underway : Underway m a low s)
    (pending : TablePending m word a true s) :
    dataAddress s i = a.toRegisters.dataAddress m word := by
  unfold dataAddress
  rw [underway.entry, pending.pending, pending.address]
  rfl

include underway pending running

/-- The data memory after the transfer. -/
theorem memory_table (table : m.tableTransfer = true) (valid : instructionValid p s i = true)
    (pins : Isa.Input)
    (read : m = .tblr → a.program (a.accumulator.extractLsb' 0 12) = i.programData) :
    (step p s i).dataRam.memory = Isa.straightData m word pins a := by
  have write : dataWrite s i = (m == .tblr) := by
    have readOnly : (m.operation == .tblr) = (m == .tblr) := by cases m <;> rfl
    unfold dataWrite
    rw [running.noInitialize, running.noReset, underway.entry, pending.pending, pending.phase,
      pending.io, pending.operation, readOnly]
    simp
  have address : dataWriteAddress s i = a.toRegisters.dataAddress m word := by
    unfold dataWriteAddress
    rw [pending.pending, pending.io, dataAddress_table underway pending]
    rfl
  rw [memory_step running, write, address, valid, underway.data]
  unfold Isa.straightData
  cases m with
  | tblr =>
      have word : dataWriteData p s i = i.programData := by
        unfold dataWriteData
        rw [pending.pending, pending.phase, pending.operation]
        rfl
      rw [word, read rfl]
      rfl
  | tblw => rfl
  | _ => exact absurd table (by decide)

theorem instructionValid_table (table : m.tableTransfer = true)
    (noFault : Isa.dataFault? m word a = none) : instructionValid p s i = true := by
  have data : m.dataAddressed = true := by
    cases m <;> first | rfl | exact absurd table (by decide)
  have operation : (m.operation == .tblr || m.operation == .tblw) = true := by
    cases m <;> first | rfl | exact absurd table (by decide)
  unfold instructionValid ramAddressValid
  rw [running.noInitialize, running.noReset, underway.entry, pending.computed,
    pending.control, pending.pending, pending.phase, dataAddress_table underway pending,
    addressValid_of_noFault data noFault, pending.operation, operation]
  rfl

omit running in
/-- The transfer cycle retires the table access. -/
theorem retires_table (valid : instructionValid p s i = true) :
    retirementBoundary p s i = true ∧ retiringOperation s i = m.operation := by
  constructor
  · unfold retirementBoundary
    rw [underway.entry, pending.computed, pending.control, pending.pending, pending.phase, valid]
    rfl
  · unfold retiringOperation
    rw [underway.entry, pending.computed, pending.control, pending.pending, pending.operation]
    rfl

/-- The transfer cycle completes the table access. -/
theorem table_retires (table : m.tableTransfer = true) (found : mnemonic? word = some m)
    (noFault : Isa.dataFault? m word a = none)
    (program : ProgramMemory) (ioOutput : BitVec 3 → BitVec 16) (cycleCount : Nat)
    (pins : Isa.Input) (int : pins.int = (!low && i.int))
    (read : m = .tblr → a.program (a.accumulator.extractLsb' 0 12) = i.programData)
    (outside : Isa.straightProgram m word a = program ∧ a.ioOutput = ioOutput ∧
      a.cycleCount + 3 = cycleCount) :
    Isa.stepStraight m word pins (Isa.latchRequest pins a) =
        .ok { state := machine (step p s i) program ioOutput cycleCount
              executed := some m
              cycles := 3
              bus := Isa.straightBus m word pins a } ∧
      Idle (step p s i) := by
  have transfers : (m.tableTransfer || m.ioTransfer) = true := by
    rw [table, Bool.true_or]
  have data : m.dataAddressed = true := by
    cases m <;> first | rfl | exact absurd table (by decide)
  have valid := instructionValid_table (p := p) underway pending running table noFault
  have cycle : enabledCycle p s i = tableTransferCycle s i := by
    unfold enabledCycle
    rw [underway.entry, pending.computed, pending.control, pending.pending, pending.phase, valid]
    rfl
  rcases retires_table underway pending valid with ⟨boundary, operation⟩
  have control : auxiliaryCounterControl s i =
      (a.auxiliaryRegisterPointer, Instruction.indirect word && Instruction.increment word,
        Instruction.indirect word && Instruction.decrement word) := by
    unfold auxiliaryCounterControl
    rw [pending.control, pending.pending, pending.selected, pending.indirect, pending.increment,
      pending.decrement]
    rfl
  have registers : (tableTransferCycle s i).toRegisters =
      { Isa.straightRegisters m word a with
        interruptPending := a.interruptPending || low } := by
    have modified := transferModify_eq (s := s) (i := i) transfers a.auxiliaryRegisterPointer
      (fun indirect =>
        auxiliaryCounterResult_transfer found transfers indirect _ control)
    have executed : Registers.execute (Isa.fetched a) m word (Isa.operand m word a) =
        { Isa.fetched a with stack := a.stack.pushPop } := by
      cases m <;> first | rfl | exact absurd table (by decide)
    have moved : stackNext s = a.stack.pushPop := by
      unfold stackNext stackPush stackPop
      rw [pending.pending, pending.computed, pending.control, underway.entry,
        underway.registers]
      rfl
    unfold tableTransferCycle Isa.straightRegisters
    rw [pending.indirect, pending.selected, pending.increment, pending.decrement,
      pending.preserve, pending.next]
    rw [modified, executed, moved, underway.registers, ← Registers.postModify_pending,
      ← Registers.postModify_stack]
    rfl
  have mask : (Isa.straightRegisters m word a).interruptMask = a.interruptMask := by
    unfold Isa.straightRegisters
    rw [Registers.postModify_interruptMask, Registers.execute_interruptMask]
    cases m <;> first | rfl | exact absurd table (by decide)
  have ended := underway_retires underway running boundary operation cycle registers mask
    ⟨rfl, underway.entry⟩ int program ioOutput cycleCount
  have noFault' : Isa.dataFault? m word (Isa.latchRequest pins a) = none := noFault
  have bus : (Isa.straightBus m word pins a).length = 3 := by
    cases m <;> first | rfl | exact absurd table (by decide)
  have quiet : m ≠ .out := by
    rintro rfl
    exact absurd table (by decide)
  have sameBus : Isa.straightBus m word pins (Isa.latchRequest pins a) =
      Isa.straightBus m word pins a := rfl
  constructor
  · unfold Isa.stepStraight
    rw [ended, memory_table underway pending running table valid pins read]
    simp only [noFault', Isa.straightRegisters_latch, sameBus, Isa.retire, bus]
    rw [← outside.1, ← outside.2.1, ← outside.2.2]
    simp only [Isa.straightOutput, quiet, if_false]
    rfl
  · apply idle_step running
    rw [cycle]
    exact ⟨pending.control, pending.computed, pending.io, rfl⟩

end Table

/-! ## Interrupt entry and idle clocks -/

section Other

variable {p : Params} {s : State} {i : Inputs}

/-- The entry cycle is the machine's. -/
theorem entry_retires (idle : Idle s) (entry : s.interruptEntryPending = true)
    (running : Running i) (program : ProgramMemory) (ioOutput : BitVec 3 → BitVec 16)
    (cycleCount : Nat) :
    (Isa.enterInterrupt (machine s program ioOutput cycleCount)).state =
        machine (step p s i) program ioOutput (cycleCount + 1) ∧
      Idle (step p s i) := by
  have cycle : enabledCycle p s i = interruptEntryCycle s := by
    unfold enabledCycle
    rw [entry]
    rfl
  have tracked : interruptTracker p s i (interruptEntryCycle s) = interruptEntryCycle s := by
    unfold interruptTracker
    rw [entry]
    rfl
  have quiet : dataWrite s i = false := by
    unfold dataWrite
    rw [entry]
    simp
  have memory : (step p s i).dataRam.memory = s.dataRam.memory := by
    rw [memory_step running, quiet]
    rfl
  have pushed : stackNext s = s.stack.push s.pc := by
    unfold stackNext stackPush stackPop stackPushData
    rw [entry, idle.computed, idle.table]
    rfl
  constructor
  · rw [machine_step running, cycle, tracked, memory]
    unfold interruptEntryCycle
    rw [pushed]
    rfl
  · apply idle_step running
    rw [cycle]
    exact ⟨idle.control, idle.computed, idle.io, idle.table⟩

/-- A clock whose word, operand or address is unsupported latches the request and
reports it; nothing else changes. -/
theorem step_parked (entry : s.interruptEntryPending = false)
    (invalid : instructionValid p s i = false) (running : Running i) :
    step p s i =
        { s with
          retired := false
          illegal := true
          interruptPending := s.interruptPending || !i.int
          dataRam := (step p s i).dataRam } ∧
      (step p s i).dataRam.memory = s.dataRam.memory := by
  have cycle : enabledCycle p s i = illegalCycle s := by
    unfold enabledCycle
    rw [entry, invalid]
    simp
  have boundary : retirementBoundary p s i = false := by
    unfold retirementBoundary
    rw [entry, invalid]
    simp
  have tracked := interruptTracker_within (p := p) (s := s) (i := i)
    (illegalCycle s) entry boundary rfl
  constructor
  · have whole : nextRegisters p s i =
        { illegalCycle s with interruptPending := s.interruptPending || !i.int } := by
      rw [nextRegisters_running running, cycle, tracked]
    calc step p s i
        = { nextRegisters p s i with dataRam := (step p s i).dataRam } := rfl
      _ = _ := by rw [whole]; rfl
  · rw [memory_step running, invalid, Bool.and_false]
    rfl

/-- A clock without enable clears the retirement flag and changes nothing else. -/
theorem step_disabled (noInitialize : i.initializeRequest = false)
    (noReset : i.resetRequest = false) (disabled : i.clockEnable = false)
    (noDebug : i.debugDataWrite = false) :
    step p s i = { s with retired := false, dataRam := (step p s i).dataRam } ∧
      (step p s i).dataRam.memory = s.dataRam.memory := by
  constructor
  · have whole : nextRegisters p s i = { s with retired := false } := by
      unfold nextRegisters
      rw [noInitialize, noReset, disabled]
      rfl
    calc step p s i
        = { nextRegisters p s i with dataRam := (step p s i).dataRam } := rfl
      _ = _ := by rw [whole]
  · unfold step
    simp only [InternalRam.step_memory, InternalRam.nextMemory, ramInputs, noDebug, disabled,
      Bool.false_and, Bool.and_false, Bool.false_eq_true, if_false]

end Other

end Tms32010.Rtl.Core
