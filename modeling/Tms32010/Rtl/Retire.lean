import Tms32010.Rtl.Issue

/-!
# Retirement

The clock in which an instruction retires, for each family: the core then shows
the state the instruction-level machine reaches. A one-cycle instruction retires
in its issue cycle; the others are captured there and retire in a later one.
-/

namespace Tms32010

/-! ## The latched request does not take part in execution -/

namespace Registers

variable (r : Registers) (m : Mnemonic) (word operand : BitVec 16) (pending : Bool)

theorem execute_pending :
    Registers.execute { r with interruptPending := pending } m word operand =
      { r.execute m word operand with interruptPending := pending } := by
  cases m with
  | add | apac | lta | ltd | adds =>
      simp only [Registers.execute, Rtl.addAccumulator_eq]
  | sub | spac | subh | subs =>
      simp only [Registers.execute, Rtl.subtractAccumulator_eq]
  | lar | lark =>
      simp only [Registers.execute, setAuxiliaryRegister]
      split <;> rfl
  | abs =>
      simp only [Registers.execute, Registers.absolute]
      split <;> rfl
  | _ => rfl

theorem postModify_pending (selected : Bool) :
    Registers.postModify { r with interruptPending := pending } m word selected =
      { r.postModify m word selected with interruptPending := pending } := by
  unfold Registers.postModify setAuxiliaryRegister
  cases m.modifiesAuxiliary && Instruction.indirect word
  · rfl
  · cases m == .lar && Instruction.auxiliaryRegister word == selected <;>
      cases !Instruction.preserveArp word && m != .lst <;> cases selected <;> rfl

/-- An instruction that reads no data word does not depend on one. -/
theorem execute_operand (reads : m.readsData = false) (other : BitVec 16) :
    r.execute m word operand = r.execute m word other := by
  cases m with
  | lac | zalh | zals | addh | adds | xor | and | or | add | sub | subh | subs | subc | lar | ldp
  | dmov | lt | ltd | lta | mpy | lst => exact absurd reads (by decide)
  | _ => rfl

/-- Execution leaves the selected auxiliary register alone, unless `LAR` loads it. -/
theorem execute_auxiliaryRegister (modifies : m.modifiesAuxiliary = true) (selected : Bool)
    (keeps : (m == .lar && Instruction.auxiliaryRegister word == selected) = false) :
    (r.execute m word operand).auxiliaryRegister selected = r.auxiliaryRegister selected := by
  cases m with
  | add | lta | ltd | adds => simp only [Registers.execute, Rtl.addAccumulator_eq]; rfl
  | sub | subh | subs => simp only [Registers.execute, Rtl.subtractAccumulator_eq]; rfl
  | lar =>
      simp only [Registers.execute, setAuxiliaryRegister, auxiliaryRegister]
      simp only [beq_self_eq_true, Bool.true_and, beq_eq_false_iff_ne] at keeps
      cases load : Instruction.auxiliaryRegister word <;> cases selected <;> simp_all
  | lark | apac | spac | abs => exact absurd modifies (by decide)
  | _ => rfl

/-- Only `DINT` and `EINT` assign the interrupt mask. -/
theorem execute_interruptMask :
    (r.execute m word operand).interruptMask = m.maskAfter r.interruptMask := by
  cases m with
  | add | apac | lta | ltd | adds =>
      simp only [Registers.execute, Rtl.addAccumulator_eq, Mnemonic.maskAfter]
  | sub | spac | subh | subs =>
      simp only [Registers.execute, Rtl.subtractAccumulator_eq, Mnemonic.maskAfter]
  | lar | lark =>
      simp only [Registers.execute, setAuxiliaryRegister, Mnemonic.maskAfter]
      split <;> rfl
  | abs =>
      simp only [Registers.execute, Registers.absolute, Mnemonic.maskAfter]
      split <;> rfl
  | _ => rfl

theorem postModify_interruptMask (selected : Bool) :
    (r.postModify m word selected).interruptMask = r.interruptMask := by
  unfold Registers.postModify setAuxiliaryRegister
  cases m.modifiesAuxiliary && Instruction.indirect word
  · rfl
  · cases m == .lar && Instruction.auxiliaryRegister word == selected <;>
      cases !Instruction.preserveArp word && m != .lst <;> cases selected <;> rfl

theorem postModify_stack (selected : Bool) (stack : Stack) :
    Registers.postModify { r with stack := stack } m word selected =
      { r.postModify m word selected with stack := stack } := by
  unfold Registers.postModify setAuxiliaryRegister
  cases m.modifiesAuxiliary && Instruction.indirect word
  · rfl
  · cases m == .lar && Instruction.auxiliaryRegister word == selected <;>
      cases !Instruction.preserveArp word && m != .lst <;> cases selected <;> rfl

theorem postModify_interruptPending (selected : Bool) :
    (r.postModify m word selected).interruptPending = r.interruptPending := by
  have whole := congrArg interruptPending
    (r.postModify_pending m word r.interruptPending selected)
  exact whole

theorem execute_interruptPending :
    (r.execute m word operand).interruptPending = r.interruptPending := by
  have whole := congrArg interruptPending
    (r.execute_pending m word operand r.interruptPending)
  exact whole

theorem branch_pending (bio : Bool) (target : BitVec 12) :
    Registers.branch { r with interruptPending := pending } m bio target =
      { r.branch m bio target with interruptPending := pending } := by
  cases m with
  | banz =>
      unfold Registers.branch setAuxiliaryRegister
      dsimp only
      split <;> rfl
  | _ => rfl

theorem branch_interruptMask (bio : Bool) (target : BitVec 12) :
    (r.branch m bio target).interruptMask = r.interruptMask := by
  cases m with
  | banz =>
      unfold Registers.branch setAuxiliaryRegister
      dsimp only
      split <;> rfl
  | _ => rfl

end Registers

namespace Isa

/-- The registers of a straight-line instruction, with the request latched. -/
theorem straightRegisters_latch (m : Mnemonic) (word : BitVec 16) (pins : Input) (a : State) :
    straightRegisters m word (latchRequest pins a) =
      { straightRegisters m word a with
        interruptPending := a.interruptPending || !pins.int } := by
  unfold straightRegisters
  rw [← Registers.postModify_pending, ← Registers.execute_pending]
  rfl

/-- The deferral neither reads nor writes the data memory. -/
theorem advanceInterrupt_data (m : Mnemonic) (a : State) (data : DataRam) :
    { advanceInterrupt m a with data := data } = advanceInterrupt m { a with data := data } := by
  unfold advanceInterrupt
  split_ifs <;> rfl

end Isa

namespace Rtl.Core

section Retire

variable {p : Params} {s : State} {i : Inputs} {m : Mnemonic}

/-! ## Interrupt tracker -/

/-- The tracker assigns the three interrupt flags and nothing else. -/
theorem interruptTracker_fields (next : State) :
    ∃ pending delay entry, interruptTracker p s i next =
      { next with
        interruptPending := pending
        interruptDelayOne := delay
        interruptEntryPending := entry } := by
  unfold interruptTracker
  split_ifs <;> exact ⟨_, _, _, rfl⟩

theorem latch_eq {next : State} (pending : next.interruptPending = s.interruptPending) :
    (if !i.int then { next with interruptPending := true } else next) =
      { next with interruptPending := s.interruptPending || !i.int } := by
  rw [← pending]
  cases i.int
  · simp only [Bool.not_false, if_true, Bool.or_true]
  · simp only [Bool.not_true, Bool.false_eq_true, if_false, Bool.or_false]

/-- At a retirement the tracker is the machine's deferral. -/
theorem interruptTracker_retire {next : State} (program : ProgramMemory)
    (ioOutput : BitVec 3 → BitVec 16) (cycleCount : Nat)
    (entry : s.interruptEntryPending = false) (boundary : retirementBoundary p s i = true)
    (mask : retiringInterruptMask p s i = next.interruptMask)
    (multiplies : extendsInterruptDeferral (retiringOperation s i) = m.multiplies)
    (pending : next.interruptPending = s.interruptPending)
    (delay : next.interruptDelayOne = s.interruptDelayOne)
    (noEntry : next.interruptEntryPending = false) :
    machine (interruptTracker p s i next) program ioOutput cycleCount =
      Isa.advanceInterrupt m
        { machine next program ioOutput cycleCount with
          interruptPending := s.interruptPending || !i.int } := by
  unfold interruptTracker Isa.advanceInterrupt
  simp only [entry, boundary, mask, multiplies, latch_eq pending, ← delay, Bool.false_eq_true,
    if_false, if_true]
  generalize (s.interruptPending || !i.int) = request
  cases held : next.interruptDelayOne <;> cases masked : next.interruptMask <;>
    cases m.multiplies <;> cases request <;> simp [machine, held, masked, noEntry]

/-- A clock within an instruction only latches the request. -/
theorem interruptTracker_within (next : State)
    (entry : s.interruptEntryPending = false) (boundary : retirementBoundary p s i = false)
    (pending : next.interruptPending = s.interruptPending) :
    interruptTracker p s i next =
      { next with interruptPending := s.interruptPending || !i.int } := by
  unfold interruptTracker
  simp only [entry, boundary, Bool.false_eq_true, if_false]
  exact latch_eq pending

/-- The mask the tracker sees is the mask after the retiring instruction. -/
theorem retiringInterruptMask_eq (boundary : retirementBoundary p s i = true)
    (operation : retiringOperation s i = m.operation) :
    retiringInterruptMask p s i = m.maskAfter s.interruptMask := by
  unfold retiringInterruptMask
  rw [boundary, operation]
  cases m <;> rfl

theorem nextRegisters_running (running : Running i) :
    nextRegisters p s i = interruptTracker p s i (enabledCycle p s i) := by
  unfold nextRegisters
  rw [running.noInitialize, running.noReset, running.enabled]
  rfl

/-- Outside the three interrupt flags and the RAM a step is its cycle. -/
theorem step_running (running : Running i) :
    ∃ pending delay entry ram, step p s i =
      { enabledCycle p s i with
        interruptPending := pending
        interruptDelayOne := delay
        interruptEntryPending := entry
        dataRam := ram } := by
  rcases interruptTracker_fields (p := p) (s := s) (i := i) (enabledCycle p s i) with
    ⟨pending, delay, entry, tracked⟩
  refine ⟨pending, delay, entry, (step p s i).dataRam, ?_⟩
  unfold step
  rw [nextRegisters_running running, tracked]

theorem idle_step (running : Running i) (idle : Idle (enabledCycle p s i)) :
    Idle (step p s i) := by
  rcases step_running (p := p) (s := s) running with ⟨pending, delay, entry, ram, stepped⟩
  rw [stepped]
  exact ⟨idle.control, idle.computed, idle.io, idle.table⟩

/-- A step is the tracked registers with the data memory after the clock. -/
theorem machine_step (running : Running i) (program : ProgramMemory)
    (ioOutput : BitVec 3 → BitVec 16) (cycleCount : Nat) :
    machine (step p s i) program ioOutput cycleCount =
      { machine (interruptTracker p s i (enabledCycle p s i)) program ioOutput cycleCount with
        data := (step p s i).dataRam.memory } := by
  rw [← nextRegisters_running running]
  rfl

/-- What a core shows after the clock in which `m` retires. -/
theorem machine_retire {next : State} (running : Running i) (cycle : enabledCycle p s i = next)
    (program : ProgramMemory) (ioOutput : BitVec 3 → BitVec 16) (cycleCount : Nat)
    (entry : s.interruptEntryPending = false) (boundary : retirementBoundary p s i = true)
    (operation : retiringOperation s i = m.operation)
    (mask : next.interruptMask = m.maskAfter s.interruptMask)
    (pending : next.interruptPending = s.interruptPending)
    (delay : next.interruptDelayOne = s.interruptDelayOne)
    (noEntry : next.interruptEntryPending = false) :
    machine (step p s i) program ioOutput cycleCount =
      Isa.advanceInterrupt m
        { toRegisters := { next.toRegisters with interruptPending := s.interruptPending || !i.int }
          interruptDelayOne := s.interruptDelayOne
          interruptEntryPending := false
          data := (step p s i).dataRam.memory
          program := program
          ioOutput := ioOutput
          cycleCount := cycleCount } := by
  have tracked := interruptTracker_retire (m := m) program ioOutput cycleCount entry boundary
    ((retiringInterruptMask_eq boundary operation).trans mask.symm)
    (by rw [operation, extendsInterruptDeferral_operation]) pending delay noEntry
  rw [machine_step running, cycle, tracked, Isa.advanceInterrupt_data, ← delay, ← noEntry]
  rfl

/-! ## One-cycle instructions -/

/-- A one-cycle instruction captures nothing. -/
theorem issueCapture_single (found : mnemonic? i.programData = some m)
    (implemented : m.stackAccess = false) (single : spansCycles m = false) :
    issueCapture s i = { s with retired := true } := by
  have operation : (decoded i).operation = m.operation := by
    rw [decoded_eq found implemented]
    rfl
  have tests : isComputedControlFlow m.operation = false ∧
      isTwoWordControlFlow m.operation = false ∧
      (m.operation == .in || m.operation == .out) = false ∧
      (m.operation == .tblr || m.operation == .tblw) = false := by
    cases m <;> first | exact ⟨rfl, rfl, rfl, rfl⟩ | exact absurd single (by decide)
  unfold issueCapture
  simp only [operation, tests, Bool.false_eq_true, if_false]

section Single

variable (found : mnemonic? i.programData = some m) (implemented : m.stackAccess = false)
  (idle : Idle s) (entry : s.interruptEntryPending = false) (running : Running i)
  (program : ProgramMemory) (ioOutput : BitVec 3 → BitVec 16) (cycleCount : Nat)

include found implemented idle

/-- The registers of the issue cycle, with an operand word that is the addressed one. -/
theorem issue_registers (single : spansCycles m = false)
    (fresh : m.readsData = true → ramReadData p s i =
      s.dataRam.memory.read (s.toRegisters.dataAddress m i.programData)) :
    (issueCycle p s i).toRegisters =
      Isa.straightRegisters m i.programData (machine s program ioOutput cycleCount) := by
  have table : m.tableTransfer = false := by
    simp only [spansCycles, Bool.or_eq_false_iff] at single
    exact single.1.2
  have executed : Registers.execute { s.toRegisters with pc := s.pc + 1 } m i.programData
      (ramReadData p s i) =
      Registers.execute { s.toRegisters with pc := s.pc + 1 } m i.programData
        (Isa.operand m i.programData (machine s program ioOutput cycleCount)) := by
    cases reads : m.readsData
    · exact Registers.execute_operand _ _ _ _ reads _
    · rw [fresh reads]
      rfl
  unfold issueCycle Isa.straightRegisters
  simp only [executeOperation_eq found implemented table]
  rw [issueModify_eq found implemented idle single, executed]
  · rfl
  · intro modifies keeps
    exact Registers.execute_auxiliaryRegister _ _ _ _ modifies _ keeps

include entry running

/-- A supported word is issued. -/
theorem enabledCycle_issue
    (enabled : (p.enableInferredComputedControl || !m.computedControlFlow) = true)
    (noFault : Isa.dataFault? m i.programData (machine s program ioOutput cycleCount) = none) :
    instructionValid p s i = true ∧ enabledCycle p s i = issueCycle p s i := by
  have valid := instructionValid_issue (p := p) found implemented idle entry running program
    ioOutput cycleCount
  rw [enabled, noFault] at valid
  refine ⟨valid, ?_⟩
  unfold enabledCycle
  rw [entry, idle.control, idle.computed, idle.io, idle.table, valid]
  rfl

/-- The data memory after the issue cycle. -/
theorem issue_memory (single : spansCycles m = false) (valid : instructionValid p s i = true)
    (fresh : m.readsData = true → ramReadData p s i =
      s.dataRam.memory.read (s.toRegisters.dataAddress m i.programData))
    (pins : Isa.Input) :
    (step p s i).dataRam.memory =
      Isa.straightData m i.programData pins (machine s program ioOutput cycleCount) := by
  simp only [spansCycles, Bool.or_eq_false_iff] at single
  rw [memory_step running, valid, dataWrite_issue found implemented idle entry running,
    dataWriteAddress_issue found implemented idle]
  unfold Isa.straightData
  cases moves : m.movesData
  · cases stores : m.storesRegister
    · have plain : m ≠ .tblr ∧ m ≠ .in := by
        cases m <;> simp_all [Mnemonic.tableTransfer, Mnemonic.ioTransfer]
      simp only [plain, Bool.or_self, Bool.false_and, Bool.false_eq_true, if_false]
      rfl
    · have data : m.dataAddressed = true := by
        simp [Mnemonic.dataAddressed, stores]
      simp only [Bool.or_false, Bool.and_self, if_true, Bool.false_eq_true, if_false,
        dataAddress_issue found implemented idle entry data,
        dataWriteData_store found implemented idle stores]
      rfl
  · have reads : m.readsData = true := by
      cases m <;> first | rfl | exact absurd moves (by decide)
    have data := Mnemonic.dataAddressed_of_readsData reads
    simp only [Bool.or_true, Bool.and_self, if_true,
      dataAddress_issue found implemented idle entry data,
      dataWriteData_move found implemented idle moves, fresh reads]
    rfl

/-- A one-cycle instruction retires in its issue cycle. -/
theorem issue_retires (single : spansCycles m = false)
    (noFault : Isa.dataFault? m i.programData (machine s program ioOutput cycleCount) = none)
    (fresh : m.readsData = true → ramReadData p s i =
      s.dataRam.memory.read (s.toRegisters.dataAddress m i.programData))
    (pins : Isa.Input) (level : pins.int = i.int) :
    Isa.stepInstruction m i.programData pins
        (Isa.latchRequest pins (machine s program ioOutput cycleCount)) =
      .ok { state := machine (step p s i) program ioOutput (cycleCount + 1)
            executed := some m
            cycles := 1
            bus := [.programRead s.pc i.programData] } := by
  have families := single
  simp only [spansCycles, Bool.or_eq_false_iff] at families
  rcases families with ⟨⟨⟨control, computed⟩, table⟩, io⟩
  rcases enabledCycle_issue (p := p) found implemented idle entry running program ioOutput
    cycleCount (by rw [computed]; simp) noFault with ⟨valid, cycle⟩
  have registers := issue_registers (p := p) found implemented idle program ioOutput cycleCount
    single fresh
  have operation : retiringOperation s i = m.operation := by
    unfold retiringOperation
    rw [entry, idle.control, idle.computed, idle.io, idle.table,
      decoded_eq found implemented]
    rfl
  have boundary : retirementBoundary p s i = true := by
    have onIssue : retiresOnIssue m.operation = true := by
      cases m <;> first | rfl | exact absurd single (by decide)
    unfold retirementBoundary
    rw [entry, idle.control, idle.computed, idle.io, idle.table, valid,
      decoded_eq found implemented]
    exact onIssue
  have capture := issueCapture_single (s := s) found implemented single
  have mask : (issueCycle p s i).interruptMask = m.maskAfter s.interruptMask := by
    rw [registers]
    unfold Isa.straightRegisters
    rw [Registers.postModify_interruptMask, Registers.execute_interruptMask]
    rfl
  have pending : (issueCycle p s i).interruptPending = s.interruptPending := by
    rw [registers]
    unfold Isa.straightRegisters
    rw [Registers.postModify_interruptPending, Registers.execute_interruptPending]
    rfl
  have delay : (issueCycle p s i).interruptDelayOne = s.interruptDelayOne := by
    unfold issueCycle
    rw [capture]
  have noEntry : (issueCycle p s i).interruptEntryPending = false := by
    unfold issueCycle
    rw [capture]
    exact entry
  have shown := machine_retire running cycle program ioOutput (cycleCount + 1) entry boundary
    operation mask pending delay noEntry
  have bus : Isa.straightBus m i.programData pins
      (Isa.latchRequest pins (machine s program ioOutput cycleCount)) =
      [.programRead s.pc i.programData] := by
    cases m <;> first | rfl | exact absurd single (by decide)
  have noFault' : Isa.dataFault? m i.programData
      (Isa.latchRequest pins (machine s program ioOutput cycleCount)) = none := noFault
  have outside : m ≠ .tblw ∧ m ≠ .out := by
    cases m <;> simp_all [Mnemonic.tableTransfer, Mnemonic.ioTransfer]
  unfold Isa.stepInstruction Isa.stepStraight Isa.straightProgram Isa.straightOutput
  simp only [computed, implemented, control, Bool.or_self, Bool.false_eq_true, if_false, noFault',
    bus, outside, Isa.straightRegisters_latch, ← registers]
  rw [shown, issue_memory found implemented idle entry running program ioOutput cycleCount single
    valid fresh pins]
  simp only [Isa.retire, List.length_singleton, Isa.latchRequest, machine, entry, level]
  rfl

/-- A one-cycle instruction leaves the core idle. -/
theorem issue_idle (single : spansCycles m = false)
    (noFault : Isa.dataFault? m i.programData (machine s program ioOutput cycleCount) = none) :
    Idle (step p s i) := by
  have computed : m.computedControlFlow = false := by
    simp only [spansCycles, Bool.or_eq_false_iff] at single
    exact single.1.1.2
  have cycle := (enabledCycle_issue (p := p) found implemented idle entry running program ioOutput
    cycleCount (by rw [computed]; simp) noFault).2
  apply idle_step running
  rw [cycle]
  unfold issueCycle
  rw [issueCapture_single found implemented single]
  exact ⟨idle.control, idle.computed, idle.io, idle.table⟩

end Single

end Retire

end Rtl.Core

end Tms32010
