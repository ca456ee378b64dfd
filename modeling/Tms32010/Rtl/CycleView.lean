import Tms32010.Rtl.Callback

/-!
# Machine cycles as functions

What the end of a machine cycle makes of the slice is a function of the state the cycle
holds, of the pins, and of the word that answers its request. It sees the captured
operand and not the registers that give it, and no data input that is not asked for.
-/

namespace Tms32010.Rtl

/-! ## The core and its captured operand -/

/-- The captured operand in place of the registers that give it. -/
def InternalRam.settled (ram : InternalRam) : InternalRam :=
  ⟨ram.memory, true, ram.readData true 0, false, 0⟩

/-- The words alone. -/
def InternalRam.bare (memory : DataRam) : InternalRam := ⟨memory, false, 0, false, 0⟩

namespace Core

/-- A state that differs in its retirement flag and its data RAM. -/
def State.joined (s : State) (retired : Bool) (ram : InternalRam) : State :=
  { s with retired := retired, dataRam := ram }

/-- The state with its captured operand alone. -/
def State.settled (s : State) : State := s.joined false s.dataRam.settled

/-- A state with another data RAM. -/
def State.unsettled (s : State) (ram : InternalRam) : State := s.joined s.retired ram

section Operand

variable (s : State) (i : Inputs)

theorem executeOperation_settled (registers : Registers) :
    executeOperation Slice.params s i registers =
      executeOperation Slice.params s.settled i registers := by
  have any (retired valid forward : Bool) (memory : DataRam) (word forwarded : BitVec 16) :
      executeOperation Slice.params
          (s.joined retired ⟨memory, valid, word, forward, forwarded⟩) i registers =
        executeOperation Slice.params
          (s.joined retired ⟨memory, valid, word, forward, forwarded⟩).settled i registers := by
    cases valid <;> cases forward <;> rfl
  exact any s.retired s.dataRam.capturedReadValid s.dataRam.capturedForwardValid s.dataRam.memory
    s.dataRam.capturedReadData s.dataRam.capturedForwardData

theorem dataWriteData_settled :
    dataWriteData Slice.params s i = dataWriteData Slice.params s.settled i := by
  have any (retired valid forward : Bool) (memory : DataRam) (word forwarded : BitVec 16) :
      dataWriteData Slice.params (s.joined retired ⟨memory, valid, word, forward, forwarded⟩) i =
        dataWriteData Slice.params
          (s.joined retired ⟨memory, valid, word, forward, forwarded⟩).settled i := by
    cases valid <;> cases forward <;> rfl
  exact any s.retired s.dataRam.capturedReadValid s.dataRam.capturedForwardValid s.dataRam.memory
    s.dataRam.capturedReadData s.dataRam.capturedForwardData

theorem issueCapture_settled :
    issueCapture s i = (issueCapture s.settled i).unsettled s.dataRam := by
  unfold issueCapture
  dsimp only
  split_ifs <;> rfl

theorem issueCycle_settled :
    issueCycle Slice.params s i = (issueCycle Slice.params s.settled i).unsettled s.dataRam := by
  have registers : issueModify s i
      (executeOperation Slice.params s i { s.toRegisters with pc := s.pc + 1 }) =
      issueModify s.settled i (executeOperation Slice.params s.settled i
        { s.settled.toRegisters with pc := s.settled.pc + 1 }) := by
    rw [executeOperation_settled]
    rfl
  unfold issueCycle
  rw [issueCapture_settled, registers]
  rfl

theorem instructionValid_settled :
    instructionValid Slice.params s i = instructionValid Slice.params s.settled i :=
  rfl

theorem enabledCycle_settled :
    enabledCycle Slice.params s i = (enabledCycle Slice.params s.settled i).unsettled s.dataRam := by
  unfold enabledCycle
  rw [issueCycle_settled, instructionValid_settled]
  have entry : s.settled.interruptEntryPending = s.interruptEntryPending := rfl
  have computed : s.settled.computedControlPending = s.computedControlPending := rfl
  have control : s.settled.controlOperandPending = s.controlOperandPending := rfl
  have table : s.settled.tablePending = s.tablePending := rfl
  have transfer : s.settled.tableTransferPhase = s.tableTransferPhase := rfl
  have io : s.settled.ioPending = s.ioPending := rfl
  rw [entry, computed, control, table, transfer, io]
  split_ifs <;> rfl

theorem interruptTracker_unsettled (next : State) (ram : InternalRam) :
    interruptTracker Slice.params s i (next.unsettled ram) =
      (interruptTracker Slice.params s.settled i next).unsettled ram := by
  unfold interruptTracker
  have entry : s.settled.interruptEntryPending = s.interruptEntryPending := rfl
  have delay : s.settled.interruptDelayOne = s.interruptDelayOne := rfl
  have pending : s.settled.interruptPending = s.interruptPending := rfl
  have boundary : retirementBoundary Slice.params s.settled i =
      retirementBoundary Slice.params s i := rfl
  have mask : retiringInterruptMask Slice.params s.settled i =
      retiringInterruptMask Slice.params s i := rfl
  have operation : retiringOperation s.settled i = retiringOperation s i := rfl
  rw [entry, delay, pending, boundary, mask, operation]
  dsimp only
  split_ifs <;> rfl

theorem nextRegisters_settled :
    nextRegisters Slice.params s i =
      (nextRegisters Slice.params s.settled i).unsettled s.dataRam := by
  unfold nextRegisters
  rw [enabledCycle_settled, interruptTracker_unsettled]
  split_ifs <;> rfl

theorem ramInputs_settled :
    ramInputs Slice.params s i = ramInputs Slice.params s.settled i := by
  unfold ramInputs
  rw [dataWriteData_settled]
  rfl

/-- A clock does not see the registers that give the captured operand. -/
theorem step_settled :
    step Slice.params s i =
        (step Slice.params s.settled i).unsettled (step Slice.params s i).dataRam ∧
      (step Slice.params s i).dataRam.memory =
        (step Slice.params s.settled i).dataRam.memory := by
  constructor
  · unfold step
    rw [nextRegisters_settled]
    rfl
  · unfold step
    rw [InternalRam.step_memory, InternalRam.step_memory, ramInputs_settled]
    rfl

end Operand

/-- Inputs that differ at the debug port. -/
def Inputs.debugging (i : Inputs) (write : Bool) (address : BitVec 8) (data : BitVec 16) :
    Inputs :=
  { i with debugDataWrite := write, debugDataAddress := address, debugData := data }

section Debug

variable (s : State) (i : Inputs) (write : Bool) (address : BitVec 8) (data : BitVec 16)

theorem issueCycle_debugging :
    issueCycle Slice.params s (i.debugging write address data) = issueCycle Slice.params s i := by
  have capture : issueCapture s (i.debugging write address data) = issueCapture s i := rfl
  have operation (registers : Registers) :
      executeOperation Slice.params s (i.debugging write address data) registers =
        executeOperation Slice.params s i registers :=
    rfl
  unfold issueCycle
  rw [capture, operation]
  rfl

theorem enabledCycle_debugging :
    enabledCycle Slice.params s (i.debugging write address data) =
      enabledCycle Slice.params s i := by
  have valid : instructionValid Slice.params s (i.debugging write address data) =
      instructionValid Slice.params s i := rfl
  unfold enabledCycle
  rw [issueCycle_debugging, valid]
  split_ifs <;> rfl

/-- The registers do not see the debug port. -/
theorem nextRegisters_debugging :
    nextRegisters Slice.params s (i.debugging write address data) =
      nextRegisters Slice.params s i := by
  have tracker (next : State) :
      interruptTracker Slice.params s (i.debugging write address data) next =
        interruptTracker Slice.params s i next := rfl
  unfold nextRegisters
  rw [enabledCycle_debugging, tracker]
  rfl

end Debug

end Core

namespace Slice

/-! ## What a machine cycle holds -/

/-- The state with its captured operand alone. -/
def State.settled (s : State) : State := s.held s.bus.phase s.core.dataRam.settled

/-- What a machine cycle holds. -/
def State.view (s : State) : State := s.held 0 (.bare s.core.dataRam.memory)

/-- The last phase of a machine cycle that holds a state. -/
def State.loaded (s : State) : State :=
  s.held 3 ⟨s.core.dataRam.memory, true, s.core.dataRam.memory.read (operandAddress s), false, 0⟩

/-- The states hold the same and retire together. -/
structure Alike (s other : State) : Prop where
  view : s.view = other.view
  retired : s.core.retired = other.core.retired

section View

variable (s : State) (i : Inputs)

theorem Alike.of_core {x y : State} {core : Core.State} {ram : InternalRam}
    (rest : { x with core := core } = { y with core := core })
    (same : x.core = y.core.unsettled ram)
    (memory : x.core.dataRam.memory = y.core.dataRam.memory) : Alike x y := by
  rcases x with ⟨bus, slot, xCore⟩
  rcases y with ⟨bus', slot', yCore⟩
  cases rest
  change _ = yCore.unsettled ram at same
  subst same
  refine ⟨?_, rfl⟩
  unfold State.view State.held
  dsimp only at memory ⊢
  rw [memory]
  rfl

/-- The end of a machine cycle does not see the registers that give the captured operand. -/
theorem step_settled : Alike (step s i) (step s.settled i) := by
  have same : (step s.settled i).core =
      Core.step params s.core.settled (coreInputs s i (coreExecuteBoundary s i)) :=
    step_core s.settled i
  rcases Core.step_settled s.core (coreInputs s i (coreExecuteBoundary s i)) with ⟨core, memory⟩
  rw [← step_core, ← same] at core
  rw [← step_core, ← same] at memory
  have rest : { step s i with core := s.core } = { step s.settled i with core := s.core } := by
    have boundary : pipelineBoundary s.settled i = pipelineBoundary s i := rfl
    unfold step
    rw [boundary]
    split_ifs <;> rfl
  exact Alike.of_core rest core memory
end View

/-! ## Data inputs -/

/-- Other words at the data inputs, and no debug write. -/
def Inputs.offered (i : Inputs) (word sample : BitVec 16) : Inputs :=
  { i with
    programData := word
    ioReadData := sample
    debugDataWrite := false
    debugDataAddress := 0
    debugData := 0 }

/-- The end of a machine cycle does not take the word of program memory. -/
structure Unread (s : State) (i : Inputs) : Prop where
  fetched : fetchedInstruction s i = false
  operand : (s.bus.active && controlOperandStep s) = false
  table : (s.bus.active && tableTransferStep s && executeIs s .tblr) = false

section Data

variable {s : State} {i : Inputs} {word sample : BitVec 16}

theorem active_of_advance (advances : coreExecuteBoundary s i = true) : s.bus.active = true := by
  unfold coreExecuteBoundary at advances
  rw [Bool.and_eq_true] at advances
  exact (fetchBoundary_pipeline advances.1).2.1

/-- An unread word of program memory may be any other. -/
theorem next_unread (unread : Unread s i) :
    nextFetchAddress s (i.offered word sample) = nextFetchAddress s i ∧
      nextProgramData s (i.offered word sample) = nextProgramData s i ∧
      nextPipelineState s (i.offered word sample) = nextPipelineState s i ∧
      nextBiozTaken s (i.offered word sample) = nextBiozTaken s i := by
  have fetched : fetchedInstruction s (i.offered word sample) = fetchedInstruction s i := rfl
  have advance : coreExecuteBoundary s (i.offered word sample) = coreExecuteBoundary s i := rfl
  have dummy : interruptDummyFetchStep s (i.offered word sample) = interruptDummyFetchStep s i :=
    rfl
  have io : ioTransferActive s (i.offered word sample) = ioTransferActive s i := rfl
  have reset : (i.offered word sample).rs = i.rs := rfl
  rcases unread with ⟨unfetched, operand, table⟩
  rcases Bool.eq_false_or_eq_true s.bus.active with active | inactive
  · rw [active, Bool.true_and] at operand table
    unfold nextFetchAddress nextProgramData nextPipelineState nextBiozTaken
    rw [fetched, advance, dummy, io, reset, unfetched, operand, table]
    simp
  · have paused : coreExecuteBoundary s i = false := by
      by_contra advances
      rw [Bool.not_eq_false] at advances
      exact absurd (inactive.symm.trans (active_of_advance advances)) Bool.false_ne_true
    unfold nextFetchAddress nextProgramData nextPipelineState nextBiozTaken
    rw [fetched, advance, reset, unfetched, paused, inactive]
    simp

theorem slot_unread (unfetched : fetchedInstruction s i = false) :
    FetchExecute.step s.fetchExecute (slotInputs s (i.offered word sample)) =
      FetchExecute.step s.fetchExecute (slotInputs s i) := by
  have fetched : fetchedInstruction s (i.offered word sample) = false := unfetched
  have boundary : pipelineBoundary s (i.offered word sample) = pipelineBoundary s i := rfl
  have complete : executeComplete s (i.offered word sample) = executeComplete s i := rfl
  unfold FetchExecute.step slotInputs
  dsimp only
  rw [fetched, unfetched, boundary, complete]
  rfl

/-- The registers of the slice itself take the data inputs they read. -/
theorem rest_offered (program : i.programData = word ∨ Unread s i)
    (input : i.ioReadData = sample ∨
      (coreExecuteBoundary s i && ioTransferStep s && executeIs s .in) = false) :
    { step s (i.offered word sample) with core := s.core } = { step s i with core := s.core } := by
  have names : nextFetchAddress s (i.offered word sample) = nextFetchAddress s i ∧
      nextProgramData s (i.offered word sample) = nextProgramData s i ∧
      nextPipelineState s (i.offered word sample) = nextPipelineState s i ∧
      nextBiozTaken s (i.offered word sample) = nextBiozTaken s i := by
    rcases program with rfl | unread
    · exact ⟨rfl, rfl, rfl, rfl⟩
    · exact next_unread unread
  have slot : FetchExecute.step s.fetchExecute (slotInputs s (i.offered word sample)) =
      FetchExecute.step s.fetchExecute (slotInputs s i) := by
    rcases program with rfl | unread
    · rfl
    · exact slot_unread unread.fetched
  have taken : nextIoReadSample s (i.offered word sample) = nextIoReadSample s i := by
    have advance : coreExecuteBoundary s (i.offered word sample) = coreExecuteBoundary s i := rfl
    have dummy : interruptDummyFetchStep s (i.offered word sample) =
        interruptDummyFetchStep s i := rfl
    rcases input with rfl | absent
    · rfl
    · unfold nextIoReadSample
      rw [advance, dummy]
      have reset : (i.offered word sample).rs = i.rs := rfl
      have unmoved : (coreExecuteBoundary s i && !interruptDummyFetchStep s i &&
          ioTransferStep s && executeIs s .in) = false := by
        revert absent
        cases coreExecuteBoundary s i <;> cases interruptDummyFetchStep s i <;>
          cases ioTransferStep s <;> cases executeIs s .in <;> simp
      rw [unmoved, reset]
      rfl
  rcases names with ⟨address, data, state, bioz⟩
  have boundary : pipelineBoundary s (i.offered word sample) = pipelineBoundary s i := rfl
  have init : (i.offered word sample).initializeI = i.initializeI := rfl
  have bus : busInputs s (i.offered word sample) = busInputs s i := by
    unfold busInputs
    rw [address]
    rfl
  have target : nextComputedTargetAddress s (i.offered word sample) =
      nextComputedTargetAddress s i := rfl
  have deferral : nextInterruptProtected s (i.offered word sample) =
      nextInterruptProtected s i := rfl
  unfold step nextModules
  rw [boundary, init, bus, slot, data, state, bioz, taken, target, deferral]
  split_ifs <;> rfl

/-- The end of a machine cycle takes the data inputs it reads. -/
theorem step_offered (noDebug : i.debugDataWrite = false)
    (program : i.programData = word ∨ Unread s i)
    (input : i.ioReadData = sample ∨
      (coreExecuteBoundary s i && ioTransferStep s && executeIs s .in) = false) :
    Alike (step s (i.offered word sample)) (step s i) := by
  have registers := Core.nextRegisters_debugging s.core
    (coreInputs s i (coreExecuteBoundary s i)) false 0 0
  have memory : (step s (i.offered word sample)).core.dataRam.memory =
      (step s i).core.dataRam.memory := by
    rw [step_core, step_core]
    unfold Core.step
    rw [InternalRam.step_memory, InternalRam.step_memory]
    unfold InternalRam.nextMemory
    have quiet : (Core.ramInputs params s.core
        (coreInputs s i (coreExecuteBoundary s i))).debugWrite = false := noDebug
    rw [quiet]
    rfl
  have core : (step s (i.offered word sample)).core =
      (step s i).core.unsettled (step s (i.offered word sample)).core.dataRam := by
    rw [step_core, step_core]
    unfold Core.step
    have same : coreInputs s (i.offered word sample)
        (coreExecuteBoundary s (i.offered word sample)) =
          (coreInputs s i (coreExecuteBoundary s i)).debugging false 0 0 := rfl
    rw [same, registers]
    rfl
  exact Alike.of_core (rest_offered program input) core memory

/-- An instruction that moves a word over the bus is no other. -/
theorem executeIs_unique {operation other : Operation} (is : executeIs s operation = true)
    (differs : operation ≠ other) : executeIs s other = false := by
  unfold executeIs at is ⊢
  rw [Bool.and_eq_true, beq_iff_eq] at is
  rw [is.2, beq_eq_false_iff_ne.mpr differs, Bool.and_false]

theorem fetched_transfer {operation : Operation} (is : executeIs s operation = true)
    (moves : operation = .in ∨ operation = .out ∨ operation = .tblw)
    (state : s.pipelineState = .sequential ∨ s.pipelineState = .tableTransfer) :
    fetchedInstruction s i = false := by
  unfold executeIs at is
  rw [Bool.and_eq_true, Bool.and_eq_true, beq_iff_eq] at is
  have longer : executeOneCycleSupported s = false := by
    unfold executeOneCycleSupported
    rw [is.2]
    rcases moves with rfl | rfl | rfl <;> exact Bool.and_false _
  unfold fetchedInstruction interruptVectorStep controlTargetStep computedTargetStep
    ioPrefetchStep tablePrefetchStep
  rw [is.1.1, longer]
  rcases state with state | state <;> rw [state] <;> simp

theorem unread_io (io : transfersIo s = true) : Unread s i := by
  unfold transfersIo ioTransferStep executeIoSupported at io
  simp only [Bool.and_eq_true, Bool.or_eq_true, beq_iff_eq] at io
  rcases io with ⟨⟨which, state⟩, -⟩
  have table : tableTransferStep s = false := by
    unfold tableTransferStep
    rw [state]
    exact Bool.and_false _
  have one : ∃ operation, executeIs s operation = true ∧ (operation = .in ∨ operation = .out) := by
    rcases which with input | output
    · exact ⟨.in, input, Or.inl rfl⟩
    · exact ⟨.out, output, Or.inr rfl⟩
  rcases one with ⟨operation, is, which⟩
  have operand : controlOperandStep s = false := by
    unfold controlOperandStep executeControlSupported
    have accumulator : executeIsAccumulatorBranch s = false := by
      unfold executeIs at is
      rw [Bool.and_eq_true, beq_iff_eq] at is
      unfold executeIsAccumulatorBranch
      rw [is.2]
      rcases which with rfl | rfl <;> exact Bool.and_false _
    rw [accumulator]
    rcases which with rfl | rfl <;>
      simp [executeIs_unique is (show _ ≠ Operation.banz by decide),
        executeIs_unique is (show _ ≠ Operation.b by decide),
        executeIs_unique is (show _ ≠ Operation.bv by decide),
        executeIs_unique is (show _ ≠ Operation.bioz by decide),
        executeIs_unique is (show _ ≠ Operation.call by decide)]
  refine ⟨fetched_transfer is ?_ (Or.inl state), ?_, ?_⟩
  · rcases which with rfl | rfl
    · exact Or.inl rfl
    · exact Or.inr (Or.inl rfl)
  · rw [operand, Bool.and_false]
  · rw [table, Bool.and_false, Bool.false_and]

theorem unread_table (step : transfersTable s = true) (write : executeIs s .tblw = true) :
    Unread s i := by
  unfold transfersTable tableTransferStep at step
  simp only [Bool.and_eq_true, beq_iff_eq] at step
  have state := step.1.2
  have operand : controlOperandStep s = false := by
    unfold controlOperandStep
    rw [state]
    exact Bool.and_false _
  refine ⟨fetched_transfer write (Or.inr (Or.inr rfl)) (Or.inr state), ?_, ?_⟩
  · rw [operand, Bool.and_false]
  · rw [executeIs_unique write (by decide), Bool.and_false]

/-- Without a read request the end of a machine cycle takes no word of program memory. -/
theorem unread_of_request (last : s.bus.phase = 3)
    (absent : ∀ address, request? s ≠ some (.programRead address)) : Unread s i := by
  rcases Bool.eq_false_or_eq_true s.bus.active with active | inactive
  · have strobes : strobing s = true := by
      unfold strobing
      rw [active, last]
      rfl
    unfold request? at absent
    rw [strobes, Bool.not_true, if_neg Bool.false_ne_true] at absent
    split_ifs at absent with io input table
    · exact unread_io io
    · exact unread_io io
    · rw [Bool.and_eq_true] at table
      exact unread_table table.1 table.2
    · exact absurd rfl (absent _)
  · have unfetched : fetchedInstruction s i = false := by
      unfold fetchedInstruction fetchBoundary
      rw [inactive]
      simp
    refine ⟨unfetched, ?_, ?_⟩
    · rw [inactive, Bool.false_and]
    · rw [inactive, Bool.false_and, Bool.false_and]

/-- Without an input request the end of a machine cycle takes no input. -/
theorem input_of_request (noInitialize : i.initializeI = false) (running : i.rs = false)
    (last : s.bus.phase = 3) (absent : ∀ port, request? s ≠ some (.ioRead port)) :
    (coreExecuteBoundary s i && ioTransferStep s && executeIs s .in) = false := by
  by_contra takes
  rw [Bool.not_eq_false, Bool.and_eq_true, Bool.and_eq_true] at takes
  have active := active_of_advance takes.1.1
  have strobes : strobing s = true := by
    unfold strobing
    rw [active, last]
    rfl
  have ready : executeReady s i = true := by
    have advances := takes.1.1
    have state : interruptVectorStep s = false := by
      have step := takes.1.2
      unfold ioTransferStep at step
      rw [Bool.and_eq_true, beq_iff_eq] at step
      unfold interruptVectorStep
      rw [step.2]
      rfl
    unfold coreExecuteBoundary at advances
    rw [state, Bool.or_false, Bool.and_eq_true] at advances
    exact advances.2
  have valid : accepts s = true := by
    unfold executeReady at ready
    rw [Bool.and_eq_true, Bool.and_eq_true] at ready
    rw [← coreInstructionValid_eq noInitialize (coreReset_running running)]
    exact ready.1.2
  apply absent (ioPort s)
  unfold request? transfersIo
  rw [strobes, takes.1.2, valid, takes.2]
  rfl

/-! ## The answer to a request -/

/-- The word at the data input a read request asks for. -/
def Inputs.Answers (i : Inputs) (word : BitVec 16) : Request → Prop
  | .programRead _ => i.programData = word
  | .ioRead _ => i.ioReadData = word
  | _ => True

/-- An enabled clock outside reset with the answer to a request. -/
def answering (int bio : Bool) (request : Option Request) (word : BitVec 16) : Inputs where
  initializeI := false
  rs := false
  clockEnable := true
  bio := bio
  int := int
  programData := match request with | some (.programRead _) => word | _ => 0
  ioReadData := match request with | some (.ioRead _) => word | _ => 0
  debugDataWrite := false
  debugDataAddress := 0
  debugData := 0

/-- The end of a machine cycle is a function of the pins and the answer to its request. -/
theorem step_answered (noInitialize : i.initializeI = false) (running : i.rs = false)
    (enabled : i.clockEnable = true) (noDebug : i.debugDataWrite = false)
    (last : s.bus.phase = 3)
    (answered : ∀ request, request? s = some request → i.Answers word request) :
    Alike (step s (answering i.int i.bio (request? s) word)) (step s i) := by
  have same (request : Option Request) : answering i.int i.bio request word =
      i.offered (answering i.int i.bio request word).programData
        (answering i.int i.bio request word).ioReadData := by
    unfold Inputs.offered
    rw [noInitialize, running, enabled]
    rfl
  rw [same]
  apply step_offered noDebug
  · rcases shown : request? s with _ | request
    · exact Or.inr (unread_of_request last fun address here => by rw [shown] at here; cases here)
    · cases request with
      | programRead address => exact Or.inl (answered _ shown)
      | _ => exact Or.inr (unread_of_request last
          fun address here => by rw [shown] at here; cases here)
  · rcases shown : request? s with _ | request
    · exact Or.inr (input_of_request noInitialize running last
        fun port here => by rw [shown] at here; cases here)
    · cases request with
      | ioRead port => exact Or.inl (answered _ shown)
      | _ => exact Or.inr (input_of_request noInitialize running last
          fun port here => by rw [shown] at here; cases here)

/-- The last phase of a fresh cycle. -/
theorem settled_eq_loaded (last : s.bus.phase = 3) (fresh : Fresh s) :
    s.settled = s.view.loaded := by
  have operand : s.core.dataRam.readData true 0 =
      s.core.dataRam.memory.read (operandAddress s) := fresh
  unfold State.settled State.loaded State.view InternalRam.settled
  rw [last, operand]
  rfl

/-- The end of a machine cycle is a function of the state the cycle holds, of the pins and
of the answer to its request. -/
theorem step_view (noInitialize : i.initializeI = false) (running : i.rs = false)
    (enabled : i.clockEnable = true) (noDebug : i.debugDataWrite = false)
    (last : s.bus.phase = 3) (fresh : Fresh s)
    (answered : ∀ request, request? s = some request → i.Answers word request) :
    request? s.view.loaded = request? s ∧
      Alike (step s.view.loaded (answering i.int i.bio (request? s) word)) (step s i) := by
  have started : s.bus.phase ≠ 0 := by
    rw [last]
    decide
  have request : request? s.settled = request? s := request?_held started started rfl
  have alike := step_answered (s := s.settled) noInitialize running enabled noDebug last
    (by rwa [request])
  have held := step_settled s i
  rw [request, settled_eq_loaded last fresh] at alike
  rw [settled_eq_loaded last fresh] at request held
  exact ⟨request, alike.view.trans held.view.symm, alike.retired.trans held.retired.symm⟩

/-- A clock within a machine cycle keeps what the cycle holds. -/
theorem view_within (noInitialize : i.initializeI = false) (noDebug : i.debugDataWrite = false)
    (within : pipelineBoundary s i = false) : (step s i).view = s.view := by
  have memory := heldRam_memory (s := s) noDebug
  rw [step_held noInitialize within]
  unfold State.view State.held
  dsimp only
  rw [memory]

/-! ## The state a reset leaves -/

/-- What the first machine cycle after an initialisation holds. -/
def initialView (memory : DataRam) : State :=
  { clearState with core := Core.blank.joined false (.bare memory) }

/-- An initialisation, from whatever the registers held. -/
theorem view_initialized (asserted : i.initializeI = true) (noDebug : i.debugDataWrite = false) :
    (step s i).view = initialView s.core.dataRam.memory := by
  have request : (coreInputs s i (coreExecuteBoundary s i)).initializeRequest = true := asserted
  have registers : Core.nextRegisters params s.core (coreInputs s i (coreExecuteBoundary s i)) =
      Core.initializeCycle s.core := by
    unfold Core.nextRegisters
    rw [request]
    rfl
  have memory : (step s i).core.dataRam.memory = s.core.dataRam.memory := by
    have invalid : Core.instructionValid params s.core
        (coreInputs s i (coreExecuteBoundary s i)) = false := by
      unfold Core.instructionValid
      rw [request]
      rfl
    rw [step_core]
    unfold Core.step
    rw [InternalRam.step_memory]
    unfold InternalRam.nextMemory Core.ramInputs
    dsimp only
    rw [invalid, Bool.and_false, Bool.false_and, if_neg Bool.false_ne_true]
    have quiet : (coreInputs s i (coreExecuteBoundary s i)).debugDataWrite = false := noDebug
    rw [quiet]
    rfl
  have core : (step s i).core.joined false (.bare s.core.dataRam.memory) =
      Core.blank.joined false (.bare s.core.dataRam.memory) := by
    rw [step_core]
    unfold Core.step
    rw [registers]
    rfl
  have rest : { (step s i).view with core := Core.blank } =
      { initialView s.core.dataRam.memory with core := Core.blank } := by
    unfold step nextModules FetchExecute.step ProgramBus.step slotInputs busInputs
    dsimp only
    rw [asserted]
    rfl
  unfold State.view
  rw [memory]
  calc (step s i).held 0 (.bare s.core.dataRam.memory)
      = { ({ (step s i).view with core := Core.blank } : State) with
          core := (step s i).core.joined false (.bare s.core.dataRam.memory) } := rfl
    _ = initialView s.core.dataRam.memory := by
        rw [rest, core]
        rfl

/-- A recognized reset keeps what an initialisation has left. -/
theorem view_flush (noInitialize : i.initializeI = false) (noDebug : i.debugDataWrite = false)
    (boundary : pipelineBoundary s i = true) (reset : i.rs = true) {memory : DataRam}
    (initial : s.view = initialView memory) : (step s i).view = initialView memory := by
  rcases pipelineBoundary_enabled boundary with ⟨-, enabled, last⟩
  have requested : (coreInputs s i false).resetRequest = true := by
    change coreReset s i = true
    unfold coreReset
    rw [enabled, last, reset]
    rfl
  have held := congrArg (fun view : State => view.core.dataRam.memory) initial
  change s.core.dataRam.memory = memory at held
  have core := congrArg (fun view : State => view.core) initial
  change s.core.joined false (.bare s.core.dataRam.memory) =
    Core.blank.joined false (.bare memory) at core
  rw [held] at core
  have registers : Core.nextRegisters params s.core (coreInputs s i false) =
      Core.resetCycle s.core := by
    have quiet : (coreInputs s i false).initializeRequest = false := noInitialize
    unfold Core.nextRegisters
    rw [quiet, requested]
    rfl
  have cleared : (Core.step params s.core (coreInputs s i false)).joined false (.bare memory) =
      Core.blank.joined false (.bare memory) := by
    unfold Core.step
    rw [registers]
    calc (Core.resetCycle s.core).joined false (.bare memory)
        = (Core.resetCycle (s.core.joined false (.bare memory))).joined false (.bare memory) := rfl
      _ = Core.blank.joined false (.bare memory) := by
          rw [core]
          rfl
  have kept : (Core.step params s.core (coreInputs s i false)).dataRam.memory = memory :=
    (heldRam_memory noDebug).trans held
  rw [step_flush noInitialize boundary reset]
  unfold State.view State.held
  dsimp only
  rw [kept]
  change ({ clearState with
    core := (Core.step params s.core (coreInputs s i false)).joined false (.bare memory) } : State)
      = _
  rw [cleared]
  rfl

end Data

end Slice

end Tms32010.Rtl
