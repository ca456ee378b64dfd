import Tms32010.Isa.Run
import Tms32010.Rtl.Steps

/-!
# The stages of an instruction in the slice

One lemma for each stage a fetching boundary finds the slice in: the stage it
leaves, and, when a step completes there, the step of the instruction-level
machine it is.
-/

namespace Tms32010.Rtl.Slice

open Tms32010.Rtl.Core (Running Idle spansCycles machine)

section Stages

variable {attached : Prop} {a : Isa.State} {σ : Attached} {made : List Cycle} {i : Inputs}
  {m : Mnemonic}

/-- The completed step of the machine, and what the slice shows after it. -/
def Completes (attached : Prop) (a : Isa.State) (σ : Attached) (i : Inputs)
    (made : List Cycle) : Prop :=
  ∃ b : Isa.State, (attached → Takes a made b) ∧ completing σ.slice i = true ∧
    Lockstep attached b (σ.step i) []

/-! ## The first fetch -/

/-- The first fetch fills the slot. -/
theorem Lockstep.prime (lock : Lockstep attached a σ made) (stage : Priming a σ)
    (fetch : fetchBoundary σ.slice i = true) (noInitialize : i.initializeI = false)
    (noDebug : i.debugDataWrite = false) (served : attached → σ.Served i) :
    coreExecuteBoundary σ.slice i = false ∧
      (σ.step i).slice.fetchExecute.executeValid = true ∧ Lockstep attached a (σ.step i) [] := by
  rcases fetchBoundary_pipeline fetch with ⟨boundary, active, reset⟩
  rcases steps_unoccupied (i := i) stage.unoccupied with
    ⟨operand, target, start, computed, io, prefetch, table, transfer, second, ready, complete,
      dummy⟩
  have vector : interruptVectorStep σ.slice = false := by
    unfold interruptVectorStep
    rw [stage.state]
    rfl
  have paused : coreExecuteBoundary σ.slice i = false := by
    unfold coreExecuteBoundary
    rw [ready, vector, Bool.or_false, Bool.and_false]
  have fetched : fetchedInstruction σ.slice i = true := by
    unfold fetchedInstruction
    rw [fetch, dummy, stage.unoccupied]
    simp
  have noTransfer : ioTransferActive σ.slice i = false ∧ tableTransferActive σ.slice i = false := by
    unfold ioTransferActive tableTransferActive
    rw [io, transfer]
    exact ⟨rfl, rfl⟩
  have address : nextFetchAddress σ.slice i = σ.slice.bus.address + 1 := by
    unfold nextFetchAddress
    rw [active, dummy, start, table, transfer, noTransfer.1, operand]
    rfl
  rcases core_held (σ := σ) noInitialize noDebug (coreReset_fetch fetch) with
    ⟨ram, memory, core, -, -⟩
  have owned := Core.step_owned lock.owned (coreInputs σ.slice i false)
  have shown := stage.toShown.kept false false 0 memory
  rw [core] at owned
  refine ⟨paused, ?_⟩
  rw [step_noTransfer noTransfer, step_fetch noInitialize fetch (lock.seen active), paused, core,
    address]
  have slot : nextSlot σ.slice i = ⟨true, σ.slice.bus.address, i.programData⟩ := by
    unfold nextSlot
    rw [fetched, stage.unoccupied]
    rfl
  have carried : nextProgramData σ.slice i = i.programData := by
    unfold nextProgramData
    rw [reset, fetched]
    rfl
  have state : nextPipelineState σ.slice i = .sequential := by
    unfold nextPipelineState
    rw [reset, paused]
    exact stage.state
  have held : nextInterruptProtected σ.slice i = σ.slice.interruptProtected := by
    unfold nextInterruptProtected
    rw [reset, paused]
    rfl
  rw [slot, carried, state, held]
  refine ⟨rfl, owned, lock.protect, fun _ => rfl, fun _ advanced => absurd rfl advanced, ?_⟩
  refine .issuing ⟨⟨shown.shows, shown.idle⟩, stage.entry, rfl, rfl, rfl, ?_, rfl, ?_, ?_⟩
  · exact stage.next.trans stage.start.symm
  · change σ.slice.bus.address + 1 = a.pc + 1
    rw [stage.next, stage.start]
  · intro attach
    have program : a.program = σ.program := by
      rw [← stage.shows]
      rfl
    rw [program, stage.start, ← stage.next]
    exact (read_of_noTransfer fetch noTransfer (served attach)).symm

/-! ## The interrupt entry -/

/-- The vector fetch enters the interrupt. -/
theorem Lockstep.vector (lock : Lockstep attached a σ made) (stage : Vector a σ)
    (fetch : fetchBoundary σ.slice i = true) (noInitialize : i.initializeI = false)
    (noDebug : i.debugDataWrite = false) (served : attached → σ.Served i) :
    coreExecuteBoundary σ.slice i = true ∧ Completes attached a σ i [i.cycle] := by
  rcases fetchBoundary_pipeline fetch with ⟨boundary, active, reset⟩
  rcases steps_unoccupied (i := i) stage.unoccupied with
    ⟨operand, target, start, computed, io, prefetch, table, transfer, second, ready, complete,
      dummy⟩
  have running := running_of_fetch fetch noInitialize noDebug
  have vector : interruptVectorStep σ.slice = true := by
    unfold interruptVectorStep
    rw [stage.state]
    rfl
  have advances : coreExecuteBoundary σ.slice i = true := by
    unfold coreExecuteBoundary
    rw [fetch, vector, Bool.or_true]
    rfl
  have fetched : fetchedInstruction σ.slice i = true := by
    unfold fetchedInstruction
    rw [fetch, vector]
    rfl
  have noTransfer : ioTransferActive σ.slice i = false ∧ tableTransferActive σ.slice i = false := by
    unfold ioTransferActive tableTransferActive
    rw [io, transfer]
    exact ⟨rfl, rfl⟩
  have address : nextFetchAddress σ.slice i = σ.slice.bus.address + 1 := by
    unfold nextFetchAddress
    rw [active, dummy, start, table, transfer, noTransfer.1, operand]
    rfl
  have state : nextPipelineState σ.slice i = .sequential := by
    unfold nextPipelineState
    rw [reset, advances, dummy, start, computed, operand, target, io, prefetch, table, transfer,
      second, vector]
    rfl
  have slot : nextSlot σ.slice i = ⟨true, σ.slice.bus.address, i.programData⟩ := by
    unfold nextSlot
    rw [fetched, stage.unoccupied]
    rfl
  have carried : nextProgramData σ.slice i = i.programData := by
    unfold nextProgramData
    rw [reset, fetched]
    rfl
  have held : nextInterruptProtected σ.slice i = σ.slice.interruptProtected := by
    unfold nextInterruptProtected
    rw [reset, complete, Bool.and_false]
    rfl
  have entered := Core.entry_retires (p := params) (s := σ.slice.core)
    (i := coreInputs σ.slice i true) stage.idle stage.entry running σ.program σ.ioOutput a.cycleCount
  have cleared := Core.entry_deferral (p := params) (s := σ.slice.core)
    (i := coreInputs σ.slice i true) stage.entry running
  have owned := Core.step_owned lock.owned (coreInputs σ.slice i true)
  have undelayed : σ.slice.interruptProtected = false := lock.protect.trans stage.undelayed
  have pending : a.interruptEntryPending = true := by
    rw [← stage.shows]
    exact stage.entry
  rw [stage.shows] at entered
  refine ⟨advances, (Isa.enterInterrupt a).state, ?_, ?_, ?_⟩
  · intro _
    refine ⟨Isa.enterInterrupt a, ?_, rfl, rfl, by rintro _ ⟨⟩⟩
    unfold Isa.step
    rw [pending]
    rfl
  · unfold completing
    rw [stage.entry, Bool.or_true]
  · rw [step_noTransfer noTransfer, step_fetch noInitialize fetch (lock.seen active), advances,
      address, slot, carried, state, held]
    refine ⟨owned, ?_, fun _ => rfl, fun _ advanced => absurd rfl advanced, ?_⟩
    · exact undelayed.trans cleared.2.1.symm
    · refine .issuing ⟨⟨entered.1.symm, entered.2⟩, cleared.1, rfl, rfl, rfl, stage.next, rfl, ?_,
        ?_⟩
      · change σ.slice.bus.address + 1 = 2 + 1
        rw [stage.next]
      · intro attach
        have program : a.program = σ.program := by
          rw [← stage.shows]
          rfl
        have read := read_of_noTransfer fetch noTransfer (served attach)
        rw [stage.next, ← program] at read
        exact read.symm

/-! ## The first cycle -/

/-- The core accepts the word of a fetching boundary. -/
theorem Issuing.accepted (stage : Issuing attached a σ) (fetch : fetchBoundary σ.slice i = true)
    (noInitialize : i.initializeI = false) (noDebug : i.debugDataWrite = false) :
    ∃ m, mnemonic? σ.slice.fetchExecute.executeWord = some m ∧ m.stackAccess = false ∧
      Isa.dataFault? m σ.slice.fetchExecute.executeWord a = none := by
  have valid := (ready_of_fetch fetch stage.occupied).2
  have running := running_of_fetch fetch noInitialize noDebug
  change Core.instructionValid params σ.slice.core (coreInputs σ.slice i true) = true at valid
  have word : (coreInputs σ.slice i true).programData = σ.slice.fetchExecute.executeWord :=
    stage.word
  rcases decode_cases (coreInputs σ.slice i true).programData with
    rejected | ⟨m, found, implemented, -⟩
  · rw [Core.instructionValid_issue_unsupported stage.idle stage.entry rejected] at valid
    exact absurd valid Bool.false_ne_true
  · rw [Core.instructionValid_issue found implemented stage.idle stage.entry running σ.program
      σ.ioOutput a.cycleCount, stage.shows, Bool.and_eq_true, Option.isNone_iff_eq_none,
      word] at valid
    rw [word] at found
    exact ⟨m, found, implemented, valid.2⟩

/-- The registers an instruction is issued from. -/
theorem Issuing.registers (stage : Issuing attached a σ) :
    σ.slice.core.toRegisters = a.toRegisters := by
  rw [← stage.shows]
  rfl

/-- The state in the core that an instruction is issued from. -/
theorem Issuing.outside (stage : Issuing attached a σ) :
    a.interruptEntryPending = false ∧ σ.slice.core.interruptDelayOne = a.interruptDelayOne ∧
      σ.slice.core.dataRam.memory = a.data ∧ σ.program = a.program ∧
      σ.ioOutput = a.ioOutput := by
  have shows := stage.shows
  refine ⟨?_, ?_, ?_, ?_, ?_⟩ <;> rw [← shows]
  · exact stage.entry
  all_goals rfl

theorem Issuing.carried (stage : Issuing attached a σ)
    (found : mnemonic? σ.slice.fetchExecute.executeWord = some m) :
    mnemonic? (coreInputs σ.slice i true).programData = some m := by
  have word : (coreInputs σ.slice i true).programData = σ.slice.fetchExecute.executeWord :=
    stage.word
  rw [word]
  exact found

/-- The operand word the bus drives is the addressed one. -/
theorem Lockstep.writeData_eq (lock : Lockstep attached a σ made)
    (fetch : fetchBoundary σ.slice i = true) (attach : attached)
    (address : operandAddress σ.slice =
      a.toRegisters.dataAddress m σ.slice.fetchExecute.executeWord)
    (data : σ.slice.core.dataRam.memory = a.data) :
    writeData σ.slice i = Isa.operand m σ.slice.fetchExecute.executeWord a := by
  have phase : σ.slice.bus.phase ≠ 0 := by
    rw [beq_iff_eq.mp (pipelineBoundary_enabled (fetchBoundary_pipeline fetch).1).2.2]
    decide
  have fresh := lock.fresh attach phase
  rw [address, data] at fresh
  exact fresh

section Issue

variable (fetch : fetchBoundary σ.slice i = true) (noInitialize : i.initializeI = false)
  (found : mnemonic? σ.slice.fetchExecute.executeWord = some m)
  (implemented : m.stackAccess = false)

include fetch noInitialize found implemented

/-- A one-cycle instruction completes in its first cycle. -/
theorem Lockstep.issue_single (lock : Lockstep attached a σ made) (stage : Issuing attached a σ)
    (noDebug : i.debugDataWrite = false) (served : attached → σ.Served i)
    (single : spansCycles m = false)
    (noFault : Isa.dataFault? m σ.slice.fetchExecute.executeWord a = none) :
    Finishes σ.slice i ∧
      Completes attached a σ i [i.cycle] := by
  have running := running_of_fetch fetch noInitialize noDebug
  have carried := stage.carried (i := i) found
  have word : (coreInputs σ.slice i true).programData = σ.slice.fetchExecute.executeWord :=
    stage.word
  have finish := finishes found implemented stage.occupied fetch (by
    rw [stage.state]
    unfold finishing
    rw [single]
    rfl)
  have valid := (ready_of_fetch fetch stage.occupied).2
  change Core.instructionValid params σ.slice.core (coreInputs σ.slice i true) = true at valid
  have decoded := Core.decoded_eq carried implemented
  have onIssue : Core.retiresOnIssue m.operation = true := by
    cases m <;> first | rfl | exact absurd single (by decide)
  have boundary : Core.retirementBoundary params σ.slice.core (coreInputs σ.slice i true) =
      true := by
    unfold Core.retirementBoundary
    rw [stage.entry, stage.idle.control, stage.idle.computed, stage.idle.io, stage.idle.table,
      valid, decoded]
    exact onIssue
  have operation : Core.retiringOperation σ.slice.core (coreInputs σ.slice i true) =
      m.operation := by
    unfold Core.retiringOperation
    rw [stage.entry, stage.idle.control, stage.idle.computed, stage.idle.io, stage.idle.table,
      decoded]
    rfl
  have pc : σ.slice.core.pc = a.pc := by
    rw [← stage.shows]
    rfl
  have next : σ.slice.bus.address =
      Core.programNextAddress params σ.slice.core (coreInputs σ.slice i true) := by
    have plain : (m.operation == .cala) = false ∧ (m.operation == .ret) = false := by
      cases m <;> first | exact ⟨rfl, rfl⟩ | exact absurd single (by decide)
    unfold Core.programNextAddress
    rw [stage.entry, stage.idle.control, stage.idle.computed, stage.idle.io, stage.idle.table,
      valid, decoded]
    simp only [encoded, plain, Bool.false_eq_true, Bool.or_self, if_false, if_true, pc]
    exact stage.next
  refine ⟨finish, _, ?_, lock.finish found implemented fetch noInitialize noDebug served finish
    boundary operation next (a.cycleCount + 1)⟩
  intro attach
  have phase : σ.slice.bus.phase ≠ 0 := by
    rw [beq_iff_eq.mp (pipelineBoundary_enabled (fetchBoundary_pipeline fetch).1).2.2]
    decide
  have fresh : m.readsData = true →
      Core.ramReadData params σ.slice.core (coreInputs σ.slice i true) =
        σ.slice.core.dataRam.memory.read
          (σ.slice.core.toRegisters.dataAddress m (coreInputs σ.slice i true).programData) := by
    intro reads
    rw [← Core.dataAddress_issue carried implemented stage.idle stage.entry
      (Mnemonic.dataAddressed_of_readsData reads)]
    exact lock.fresh attach phase
  have supported : Isa.dataFault? m (coreInputs σ.slice i true).programData
      (machine σ.slice.core σ.program σ.ioOutput a.cycleCount) = none := by
    rw [stage.shows, word]
    exact noFault
  have level : (stepPins [i.cycle]).int = (coreInputs σ.slice i true).int :=
    Bool.and_true _
  have retired := Core.issue_retires carried implemented stage.idle stage.entry running σ.program
    σ.ioOutput a.cycleCount single supported fresh (stepPins [i.cycle]) level
  rw [stage.shows, word] at retired
  have entry : a.interruptEntryPending = false := by
    rw [← stage.shows]
    exact stage.entry
  exact ⟨_, Isa.step_of_instruction entry (stage.stored attach) found retired, rfl, rfl,
    by rintro _ ⟨⟩; exact implemented⟩

/-- What the first cycle of a longer instruction leaves in the slot and in the core. -/
theorem Issuing.spanning (stage : Issuing attached a σ) (continues : Continues σ.slice i)
    (seen : σ.slice.bus.releaseBoundarySeen = true)
    (underway : Core.Underway m a (!i.int)
      (Core.step params σ.slice.core (coreInputs σ.slice i true))) :
    Spanning attached a (σ.step i) m (!i.cycle.int) := by
  have slice := step_continues continues fetch noInitialize seen
  have slot : (σ.step i).slice.fetchExecute = σ.slice.fetchExecute := by rw [slice]
  refine ⟨?_, ?_, ?_, ?_, ?_, implemented, ?_⟩
  · rw [slice]
    exact underway
  · rw [slot]
    exact stage.occupied
  · rw [slice]
  · rw [slot]
    exact stage.address
  · rw [slot]
    exact found
  · rw [slot]
    exact stage.stored

/-- The first cycle of a two-word branch samples its operand. -/
theorem Lockstep.issue_control (lock : Lockstep attached a σ made) (stage : Issuing attached a σ)
    (noDebug : i.debugDataWrite = false) (served : attached → σ.Served i)
    (family : m.twoWordControlFlow = true) :
    Continues σ.slice i ∧ Lockstep attached a (σ.step i) [i.cycle] := by
  rcases fetchBoundary_pipeline fetch with ⟨boundary, active, reset⟩
  have running := running_of_fetch fetch noInitialize noDebug
  have spans : spansCycles m = true := by
    simp [spansCycles, family]
  have apart := Mnemonic.twoWordControlFlow_apart family
  have more := continues found implemented stage.occupied fetch spans (Or.inl stage.state)
  have steps := steps_eq found implemented stage.occupied
  simp only [stage.state, apart, family, Bool.false_and, Bool.true_and] at steps
  rcases steps with ⟨operand, -, start, computed, io, -, table, transfer, -⟩
  have issued := Core.issue_control (p := params) (stage.carried (i := i) found) implemented
    stage.idle stage.entry running σ.program σ.ioOutput a.cycleCount family
  rw [stage.shows] at issued
  have noTransfer : ioTransferActive σ.slice i = false ∧ tableTransferActive σ.slice i = false := by
    unfold ioTransferActive tableTransferActive
    rw [io, transfer]
    exact ⟨rfl, rfl⟩
  have seen := lock.seen active
  have slice := step_continues more fetch noInitialize seen
  have spanning := stage.spanning fetch noInitialize found implemented more seen issued.1
  have address : nextFetchAddress σ.slice i = operandFetchAddress σ.slice i := by
    unfold nextFetchAddress
    rw [active, more.dummy, start, table, transfer, noTransfer.1, operand]
    rfl
  have carrier : nextProgramData σ.slice i = i.programData := by
    unfold nextProgramData
    rw [reset, more.advances, operand]
    simp
  have state : nextPipelineState σ.slice i =
      if i.programData.extractLsb' 12 4 == 0 then .controlTarget else .controlInvalid := by
    unfold nextPipelineState
    rw [reset, more.advances, more.dummy, start, computed, operand]
    rfl
  have bioz : nextBiozTaken σ.slice i =
      (i.programData.extractLsb' 12 4 == 0 && m == .bioz && !i.bio) := by
    have bioz : executeIs σ.slice .bioz = (m == .bioz) := by
      rw [executeIs_eq found implemented stage.occupied]
      cases m <;> rfl
    unfold nextBiozTaken
    rw [reset, more.advances, more.dummy, start, computed, operand, bioz]
    rfl
  rcases stage.outside with ⟨-, delay, -, program, output⟩
  refine ⟨more, lock.continued more fetch noInitialize (issued.1.delay.trans delay.symm) ?_⟩
  have memories := step_noTransfer (σ := σ) noTransfer
  refine .control (m := m) (c := i.cycle) ⟨spanning, ?_, family, ?_, ?_, ?_, ?_, ?_, ?_⟩
  · rw [slice]
    exact issued.2
  · rw [slice]
    dsimp only
    rw [state, carrier]
  · rw [slice]
    dsimp only
    rw [bioz, carrier]
    rfl
  · rw [slice]
    dsimp only
    rw [carrier, address]
    intro supported
    have following : a.pc + 1 + 1 = a.pc + 2 := BitVec.add_assoc _ _ _
    rw [operandFetchAddress_eq found implemented stage.occupied family supported,
      stage.registers, stage.next, following]
    rfl
  · rw [slice]
    dsimp only
    rw [carrier]
    intro attach
    rw [read_of_noTransfer fetch noTransfer (served attach), stage.next, program]
  · rw [memories]
    exact program
  · rw [memories]
    exact output

/-- The first cycle of `CALA` and `RET` discards a prefetch. -/
theorem Lockstep.issue_computed (lock : Lockstep attached a σ made) (stage : Issuing attached a σ)
    (noDebug : i.debugDataWrite = false) (family : m.computedControlFlow = true) :
    Continues σ.slice i ∧ Lockstep attached a (σ.step i) [i.cycle] := by
  rcases fetchBoundary_pipeline fetch with ⟨boundary, active, reset⟩
  have running := running_of_fetch fetch noInitialize noDebug
  have spans : spansCycles m = true := by
    simp [spansCycles, family]
  have apart := Mnemonic.computedControlFlow_apart family
  have more := continues found implemented stage.occupied fetch spans (Or.inl stage.state)
  have steps := steps_eq found implemented stage.occupied
  simp only [stage.state, apart, family, Bool.false_and, Bool.true_and] at steps
  rcases steps with ⟨operand, -, start, -, io, -, -, transfer, -⟩
  have issued := Core.issue_computed (p := params) (stage.carried (i := i) found) implemented
    stage.idle stage.entry running σ.program σ.ioOutput a.cycleCount family rfl
  rw [stage.shows] at issued
  have noTransfer : ioTransferActive σ.slice i = false ∧ tableTransferActive σ.slice i = false := by
    unfold ioTransferActive tableTransferActive
    rw [io, transfer]
    exact ⟨rfl, rfl⟩
  have seen := lock.seen active
  have slice := step_continues more fetch noInitialize seen
  have spanning := stage.spanning fetch noInitialize found implemented more seen issued.1
  have target : computedAddress σ.slice =
      (Core.step params σ.slice.core (coreInputs σ.slice i true)).pendingComputedTarget := by
    rw [issued.2.target]
    unfold computedAddress
    rw [executeIs_eq found implemented stage.occupied, ← stage.registers]
    cases m <;> rfl
  have address : nextFetchAddress σ.slice i = computedAddress σ.slice := by
    unfold nextFetchAddress
    rw [active, more.dummy, start]
    rfl
  have carrier : nextProgramData σ.slice i = σ.slice.coreProgramData := by
    unfold nextProgramData
    rw [reset, more.fetched, operand, transfer]
    simp
  have state : nextPipelineState σ.slice i = .computedTarget := by
    unfold nextPipelineState
    rw [reset, more.advances, more.dummy, start]
    rfl
  have held : nextComputedTargetAddress σ.slice i = computedAddress σ.slice := by
    unfold nextComputedTargetAddress
    rw [reset, more.advances, more.dummy, start]
    rfl
  rcases stage.outside with ⟨-, delay, -, program, output⟩
  refine ⟨more, lock.continued more fetch noInitialize (issued.1.delay.trans delay.symm) ?_⟩
  have memories := step_noTransfer (σ := σ) noTransfer
  refine .computed (m := m) (c := i.cycle) ⟨spanning, ?_, family, ?_, ?_, ?_, ?_, ?_, ?_⟩
  · rw [slice]
    exact issued.2
  · rw [slice]
    exact state
  · rw [slice]
    exact carrier.trans stage.word
  · rw [slice]
    exact held.trans target
  · rw [slice]
    exact address.trans target
  · rw [memories]
    exact program
  · rw [memories]
    exact output

/-- The first cycle of `IN` and `OUT` transfers the port word. -/
theorem Lockstep.issue_io (lock : Lockstep attached a σ made) (stage : Issuing attached a σ)
    (noDebug : i.debugDataWrite = false) (family : m.ioTransfer = true)
    (noFault : Isa.dataFault? m σ.slice.fetchExecute.executeWord a = none) :
    Continues σ.slice i ∧ Lockstep attached a (σ.step i) [i.cycle] := by
  rcases fetchBoundary_pipeline fetch with ⟨boundary, active, reset⟩
  have running := running_of_fetch fetch noInitialize noDebug
  have spans : spansCycles m = true := by
    simp [spansCycles, family]
  have apart := Mnemonic.ioTransfer_apart family
  have more := continues found implemented stage.occupied fetch spans (Or.inl stage.state)
  have steps := steps_eq found implemented stage.occupied
  simp only [stage.state, apart, family, Bool.false_and, Bool.true_and] at steps
  rcases steps with ⟨operand, target, start, computed, io, -, table, transfer, -⟩
  have carried := stage.carried (i := i) found
  have word : (coreInputs σ.slice i true).programData = σ.slice.fetchExecute.executeWord :=
    stage.word
  have issued := Core.issue_io (p := params) carried implemented
    stage.idle stage.entry running σ.program σ.ioOutput a.cycleCount family (by
      rw [stage.shows, word]
      exact noFault)
  rw [stage.shows, word] at issued
  have activeTransfer : ioTransferActive σ.slice i = true := by
    unfold ioTransferActive
    rw [io, (ready_of_fetch fetch stage.occupied).2]
    rfl
  have noTable : tableTransferActive σ.slice i = false := by
    unfold tableTransferActive
    rw [transfer]
    rfl
  have seen := lock.seen active
  have slice := step_continues more fetch noInitialize seen
  have spanning := stage.spanning fetch noInitialize found implemented more seen issued.1
  have address : nextFetchAddress σ.slice i = σ.slice.bus.address := by
    unfold nextFetchAddress
    rw [active, more.dummy, start, table, transfer, activeTransfer]
    rfl
  have state : nextPipelineState σ.slice i = .ioPrefetch := by
    unfold nextPipelineState
    rw [reset, more.advances, more.dummy, start, computed, operand, target, io]
    rfl
  have sample : m = .in → nextIoReadSample σ.slice i = i.ioReadData := by
    rintro rfl
    unfold nextIoReadSample
    rw [reset, more.advances, more.dummy, io, executeIs_eq found implemented stage.occupied]
    rfl
  rcases stage.outside with ⟨-, delay, data, program, output⟩
  refine ⟨more, lock.continued more fetch noInitialize (issued.1.delay.trans delay.symm) ?_⟩
  refine .io (m := m) (c := i.cycle) ⟨spanning, ?_, family, ?_, ?_, ?_, ?_, ?_, ?_⟩
  · rw [slice]
    exact issued.2
  · rw [slice]
    exact noFault
  · rw [slice]
    exact state
  · rw [slice]
    exact sample
  · rw [slice]
    exact address.trans stage.next
  · unfold Attached.step programWrite
    rw [noTable, Bool.false_and, Bool.and_false]
    exact program
  · intro attach
    have presented : operandAddress σ.slice =
        a.toRegisters.dataAddress m σ.slice.fetchExecute.executeWord := by
      have issue := Core.dataAddress_issue carried implemented stage.idle stage.entry
        (Mnemonic.dataAddressed_of_ioTransfer family)
      rw [stage.registers, word] at issue
      exact issue
    have driven := lock.writeData_eq fetch attach presented data
    have port : ioPort σ.slice = Instruction.port σ.slice.fetchExecute.executeWord := by
      unfold ioPort
      rw [executeDecoded_eq found implemented]
      rfl
    have writes : ioWrite σ.slice i = (m == .out) := by
      unfold ioWrite
      rw [activeTransfer, executeIs_eq found implemented stage.occupied]
      cases m <;> rfl
    have slot : (σ.step i).slice.fetchExecute = σ.slice.fetchExecute := by rw [slice]
    rw [slot]
    unfold Attached.step Isa.straightOutput
    rw [fetch, writes, port, driven, output]
    cases m <;> rfl

/-- The first cycle of `TBLR` and `TBLW` discards a prefetch. -/
theorem Lockstep.issue_table (lock : Lockstep attached a σ made) (stage : Issuing attached a σ)
    (noDebug : i.debugDataWrite = false) (family : m.tableTransfer = true)
    (noFault : Isa.dataFault? m σ.slice.fetchExecute.executeWord a = none) :
    Continues σ.slice i ∧ Lockstep attached a (σ.step i) [i.cycle] := by
  rcases fetchBoundary_pipeline fetch with ⟨boundary, active, reset⟩
  have running := running_of_fetch fetch noInitialize noDebug
  have spans : spansCycles m = true := by
    simp [spansCycles, family]
  have apart := Mnemonic.tableTransfer_apart family
  have more := continues found implemented stage.occupied fetch spans (Or.inl stage.state)
  have steps := steps_eq found implemented stage.occupied
  simp only [stage.state, apart, family, Bool.false_and, Bool.true_and] at steps
  rcases steps with ⟨operand, target, start, computed, io, prefetch, table, transfer, -⟩
  have word : (coreInputs σ.slice i true).programData = σ.slice.fetchExecute.executeWord :=
    stage.word
  have issued := Core.issue_table (p := params) (stage.carried (i := i) found) implemented
    stage.idle stage.entry running σ.program σ.ioOutput a.cycleCount family (by
      rw [stage.shows, word]
      exact noFault)
  rw [stage.shows, word] at issued
  have noTransfer : ioTransferActive σ.slice i = false ∧ tableTransferActive σ.slice i = false := by
    unfold ioTransferActive tableTransferActive
    rw [io, transfer]
    exact ⟨rfl, rfl⟩
  have seen := lock.seen active
  have slice := step_continues more fetch noInitialize seen
  have spanning := stage.spanning fetch noInitialize found implemented more seen issued.1
  have address : nextFetchAddress σ.slice i = σ.slice.core.accumulator.extractLsb' 0 12 := by
    unfold nextFetchAddress
    rw [active, more.dummy, start, table]
    rfl
  have state : nextPipelineState σ.slice i = .tableTransfer := by
    unfold nextPipelineState
    rw [reset, more.advances, more.dummy, start, computed, operand, target, io, prefetch, table]
    rfl
  rcases stage.outside with ⟨-, delay, -, program, output⟩
  refine ⟨more, lock.continued more fetch noInitialize (issued.1.delay.trans delay.symm) ?_⟩
  have memories := step_noTransfer (σ := σ) noTransfer
  refine .tableFirst (m := m) (c := i.cycle) ⟨spanning, ?_, family, ?_, ?_, ?_, ?_, ?_⟩
  · rw [slice]
    exact issued.2
  · rw [slice]
    exact noFault
  · rw [slice]
    exact state
  · rw [slice]
    exact address.trans (by rw [stage.registers])
  · rw [memories]
    exact program
  · rw [memories]
    exact output

end Issue

/-! ## Later cycles -/

theorem branch_bio {r : Registers} {bio bio' : Bool}
    (same : r.branchTaken m bio = r.branchTaken m bio') (target : BitVec 12) :
    r.branch m bio target = r.branch m bio' target := by
  unfold Registers.branch
  rw [same]

/-- For `BIOZ` the core sees the retained decision, for the others `BIO` does not matter. -/
theorem Control.branchTaken {c : Cycle} (stage : Control attached a σ m c)
    (state : σ.slice.pipelineState = .controlTarget) :
    a.branchTaken m (coreInputs σ.slice i true).bio = a.branchTaken m c.bio := by
  have supported : (σ.slice.coreProgramData.extractLsb' 12 4 == 0) = true := by
    have which := stage.state
    rw [state] at which
    by_contra absent
    rw [if_neg absent] at which
    exact absurd which (by decide)
  have step := (steps_eq stage.found stage.implemented stage.occupied).2.1
  rw [state, stage.family] at step
  by_cases conditional : m = .bioz
  · subst conditional
    have retained : (coreInputs σ.slice i true).bio = c.bio := by
      unfold coreInputs coreBio
      dsimp only
      rw [step, executeIs_eq stage.found stage.implemented stage.occupied, stage.bioz,
        supported]
      exact Bool.not_not c.bio
    rw [retained]
  · unfold Registers.branchTaken
    cases m <;> first | rfl | exact absurd rfl conditional

/-- The core announces the address the bus fetches the target from. -/
theorem Control.programNextAddress {c : Cycle} (stage : Control attached a σ m c)
    (supported : σ.slice.coreProgramData.extractLsb' 12 4 = 0) :
    Core.programNextAddress params σ.slice.core (coreInputs σ.slice i true) =
      σ.slice.bus.address := by
  have state : σ.slice.pipelineState = .controlTarget := by
    rw [stage.state, supported]
    rfl
  have carrier : (coreInputs σ.slice i true).programData = σ.slice.coreProgramData := rfl
  unfold Core.programNextAddress
  rw [stage.underway.entry, stage.pending.computed, stage.pending.pending,
    stage.pending.operation, isTwoWordControlFlow_operation, stage.family,
    Core.controlTarget_pending stage.underway stage.pending stage.family,
    stage.branchTaken state, carrier, supported]
  exact (stage.next supported).symm

theorem Computed.programNextAddress {c : Cycle} (stage : Computed attached a σ m c) :
    Core.programNextAddress params σ.slice.core (coreInputs σ.slice i true) =
      σ.slice.bus.address := by
  unfold Core.programNextAddress
  rw [stage.underway.entry, stage.pending.pending]
  exact stage.next.symm

theorem Io.programNextAddress {c : Cycle} (stage : Io attached a σ m c) :
    Core.programNextAddress params σ.slice.core (coreInputs σ.slice i true) =
      σ.slice.bus.address := by
  unfold Core.programNextAddress
  rw [stage.underway.entry, stage.pending.computed, stage.pending.control,
    stage.pending.pending, stage.underway.registers]
  exact stage.next.symm

theorem TableSecond.programNextAddress {c c' : Cycle} (stage : TableSecond attached a σ m c c') :
    Core.programNextAddress params σ.slice.core (coreInputs σ.slice i true) =
      σ.slice.bus.address := by
  unfold Core.programNextAddress
  rw [stage.underway.entry, stage.pending.computed, stage.pending.control,
    stage.pending.pending, Bool.or_true, stage.underway.registers]
  exact stage.next.symm

section Later

variable (fetch : fetchBoundary σ.slice i = true) (noInitialize : i.initializeI = false)
  (noDebug : i.debugDataWrite = false)

/-- The core accepts the cycle of an occupied slot. -/
theorem Spanning.accepted {low : Bool} (stage : Spanning attached a σ m low)
    (fetch : fetchBoundary σ.slice i = true) :
    Core.instructionValid params σ.slice.core (coreInputs σ.slice i true) = true :=
  (ready_of_fetch fetch stage.occupied).2

include fetch noInitialize noDebug

/-- The target fetch completes a two-word branch. -/
theorem Lockstep.control_finish {c : Cycle} (lock : Lockstep attached a σ made)
    (stage : Control attached a σ m c) (served : attached → σ.Served i) :
    Finishes σ.slice i ∧ Completes attached a σ i [c, i.cycle] := by
  have running := running_of_fetch fetch noInitialize noDebug
  have valid := stage.accepted fetch
  have supported : σ.slice.coreProgramData.extractLsb' 12 4 = 0 := by
    rw [Core.instructionValid_control stage.underway stage.pending running stage.family] at valid
    exact beq_iff_eq.mp valid
  have state : σ.slice.pipelineState = .controlTarget := by
    rw [stage.state, supported]
    rfl
  have finish := finishes stage.found stage.implemented stage.occupied fetch (by
    rw [state]
    exact stage.family)
  rcases Core.retires_control stage.underway stage.pending valid with ⟨boundary, operation⟩
  have next := (stage.programNextAddress (i := i) supported).symm
  refine ⟨finish, _, ?_, lock.finish stage.found stage.implemented fetch noInitialize noDebug
    served finish boundary operation next (a.cycleCount + 2)⟩
  intro attach
  have stored := stage.stored attach
  have retired := (Core.control_retires (p := params) stage.underway stage.pending stage.family running
    σ.program σ.ioOutput (a.cycleCount + 2)
    { stepPins [c, i.cycle] with bio := (coreInputs σ.slice i true).bio }
    (stage.operand attach) supported
    (by simp [stepPins, coreInputs, Inputs.cycle]) rfl
    ⟨stage.program.symm, stage.ioOutput.symm, rfl⟩).1
  have pins : Isa.stepControl m (a.program a.pc)
      { stepPins [c, i.cycle] with bio := (coreInputs σ.slice i true).bio }
      (Isa.latchRequest (stepPins [c, i.cycle]) a) =
      Isa.stepControl m (a.program a.pc) (stepPins [c, i.cycle])
        (Isa.latchRequest (stepPins [c, i.cycle]) a) := by
    unfold Isa.stepControl
    dsimp only
    have decided : (Isa.latchRequest (stepPins [c, i.cycle]) a).branchTaken m
        (coreInputs σ.slice i true).bio =
        (Isa.latchRequest (stepPins [c, i.cycle]) a).branchTaken m (stepPins [c, i.cycle]).bio :=
      stage.branchTaken state
    rw [branch_bio decided]
  have made := (Isa.stepInstruction_control stage.family _ _ _).trans (pins.symm.trans retired)
  exact ⟨_, Isa.step_of_instruction stage.underway.noEntry rfl (by rw [stored]; exact stage.found)
    made, rfl, rfl, by rintro _ ⟨⟩; exact stage.implemented⟩

/-- The target fetch completes `CALA` and `RET`. -/
theorem Lockstep.computed_finish {c : Cycle} (lock : Lockstep attached a σ made)
    (stage : Computed attached a σ m c) (served : attached → σ.Served i) :
    Finishes σ.slice i ∧ Completes attached a σ i [c, i.cycle] := by
  have running := running_of_fetch fetch noInitialize noDebug
  have valid := stage.accepted fetch
  have finish := finishes stage.found stage.implemented stage.occupied fetch (by
    rw [stage.state]
    exact stage.family)
  rcases Core.retires_computed stage.underway stage.pending valid with ⟨boundary, operation⟩
  have next := (stage.programNextAddress (i := i)).symm
  refine ⟨finish, _, ?_, lock.finish stage.found stage.implemented fetch noInitialize noDebug
    served finish boundary operation next (a.cycleCount + 2)⟩
  intro attach
  have stored := stage.stored attach
  have phase : σ.slice.bus.phase ≠ 0 := by
    rw [beq_iff_eq.mp (pipelineBoundary_enabled (fetchBoundary_pipeline fetch).1).2.2]
    decide
  have fresh : Core.ramReadData params σ.slice.core (coreInputs σ.slice i true) =
      σ.slice.core.dataRam.memory.read 0 := by
    have captured := lock.fresh attach phase
    have address : operandAddress σ.slice = 0 :=
      Core.dataAddress_computed stage.underway stage.pending
    rw [address] at captured
    exact captured
  have retired := Core.computed_retires (p := params) stage.underway stage.pending stage.family
    running rfl fresh σ.slice.fetchExecute.executeWord σ.program σ.ioOutput (a.cycleCount + 2)
    (stepPins [c, i.cycle]) (by simp [stepPins, coreInputs, Inputs.cycle])
    ⟨stage.program.symm, stage.ioOutput.symm, rfl⟩
  -- The carrier still holds `CALA` or `RET`, whose decoding stores nothing.
  have kept : Core.strayData (coreInputs σ.slice i true).programData a = a.data := by
    have word : (coreInputs σ.slice i true).programData = σ.slice.fetchExecute.executeWord :=
      stage.word
    have family := stage.family
    unfold Core.strayData
    rw [word, stage.found]
    cases m <;> first | rfl | exact absurd family (by decide)
  have shown : { machine (Core.step params σ.slice.core (coreInputs σ.slice i true)) σ.program
        σ.ioOutput (a.cycleCount + 2) with data := a.data } =
      machine (Core.step params σ.slice.core (coreInputs σ.slice i true)) σ.program
        σ.ioOutput (a.cycleCount + 2) := by
    rw [← kept, ← retired.2.1]
    rfl
  rw [shown] at retired
  have made := (Isa.stepInstruction_computed stage.family _ (stepPins [c, i.cycle]) _).trans
    (congrArg Except.ok retired.1)
  exact ⟨_, Isa.step_of_instruction stage.underway.noEntry stored stage.found made, rfl, rfl,
    by rintro _ ⟨⟩; exact stage.implemented⟩

/-- The next fetch completes `IN` and `OUT`. -/
theorem Lockstep.io_finish {c : Cycle} (lock : Lockstep attached a σ made)
    (stage : Io attached a σ m c) (served : attached → σ.Served i) :
    Finishes σ.slice i ∧ Completes attached a σ i [c, i.cycle] := by
  have running := running_of_fetch fetch noInitialize noDebug
  have valid := stage.accepted fetch
  have finish := finishes stage.found stage.implemented stage.occupied fetch (by
    rw [stage.state]
    exact stage.family)
  rcases Core.retires_io stage.underway stage.pending valid with ⟨boundary, operation⟩
  have next := (stage.programNextAddress (i := i)).symm
  refine ⟨finish, _, ?_, lock.finish stage.found stage.implemented fetch noInitialize noDebug
    served finish boundary operation next (a.cycleCount + 2)⟩
  intro attach
  have level : (stepPins [c, i.cycle]).int = (!(!c.int) && (coreInputs σ.slice i true).int) := by
    simp [stepPins, coreInputs, Inputs.cycle]
  have transfers : (m.tableTransfer || m.ioTransfer) = true := by
    rw [stage.family, Bool.or_true]
  have retired : Isa.stepStraight m σ.slice.fetchExecute.executeWord (stepPins [c, i.cycle])
      (Isa.latchRequest (stepPins [c, i.cycle]) a) = .ok
        { state := machine (Core.step params σ.slice.core (coreInputs σ.slice i true)) σ.program
            σ.ioOutput (a.cycleCount + 2)
          executed := some m
          cycles := 2
          bus := Isa.straightBus m σ.slice.fetchExecute.executeWord (stepPins [c, i.cycle]) a } := by
    have pins (port : BitVec 3 → BitVec 16)
        (input : port (Instruction.port σ.slice.fetchExecute.executeWord) =
          σ.slice.ioReadSample) :=
      (Core.io_retires (p := params) stage.underway stage.pending running stage.family
        stage.found stage.noFault σ.program σ.ioOutput (a.cycleCount + 2)
        { stepPins [c, i.cycle] with ioInput := port } level input
        ⟨stage.program.symm, (stage.ioOutput attach).symm, rfl⟩).1
    by_cases inputs : m = .in
    · exact pins (stepPins [c, i.cycle]).ioInput (stage.sample inputs).symm
    · have output := pins (fun _ => σ.slice.ioReadSample) rfl
      have bus : Isa.straightBus m σ.slice.fetchExecute.executeWord
          { stepPins [c, i.cycle] with ioInput := fun _ => σ.slice.ioReadSample } a =
          Isa.straightBus m σ.slice.fetchExecute.executeWord (stepPins [c, i.cycle]) a := by
        unfold Isa.straightBus
        cases m <;> first | rfl | exact absurd rfl inputs
      rw [Isa.stepStraight_port inputs, bus] at output
      exact output
  have made := (Isa.stepInstruction_transfer transfers _ _ _).trans retired
  exact ⟨_, Isa.step_of_instruction stage.underway.noEntry (stage.stored attach) stage.found made,
    rfl, rfl, by rintro _ ⟨⟩; exact stage.implemented⟩

/-- The second cycle of `TBLR` and `TBLW` transfers the table word. -/
theorem Lockstep.table_transfer {c : Cycle} (lock : Lockstep attached a σ made)
    (stage : TableFirst attached a σ m c) (served : attached → σ.Served i) :
    Continues σ.slice i ∧ Lockstep attached a (σ.step i) [c, i.cycle] := by
  rcases fetchBoundary_pipeline fetch with ⟨boundary, active, reset⟩
  have running := running_of_fetch fetch noInitialize noDebug
  have valid := stage.accepted fetch
  have spans := stage.underway.spans
  have apart := Mnemonic.tableTransfer_apart stage.family
  have more := continues stage.found stage.implemented stage.occupied fetch spans
    (Or.inr stage.state)
  have steps := steps_eq stage.found stage.implemented stage.occupied
  simp only [stage.state, apart, stage.family, Bool.false_and, Bool.true_and] at steps
  rcases steps with ⟨operand, target, start, computed, io, prefetch, table, transfer, second⟩
  have started : tableStartStep σ.slice = false := table
  have transferring : tableTransferStep σ.slice = true := transfer
  have next := Core.table_prefetches (p := params) stage.underway stage.pending running
  have slice := step_continues more fetch noInitialize (lock.seen active)
  have slot : (σ.step i).slice.fetchExecute = σ.slice.fetchExecute := by rw [slice]
  have noIo : ioTransferActive σ.slice i = false := by
    unfold ioTransferActive
    rw [io]
    rfl
  have transfers : tableTransferActive σ.slice i = true := by
    unfold tableTransferActive
    rw [transferring]
    exact valid
  have writes : programWrite σ.slice i = (m == .tblw) := by
    unfold programWrite
    rw [transfers, executeIs_eq stage.found stage.implemented stage.occupied]
    cases m <;> rfl
  have reads : executeIs σ.slice .tblr = (m == .tblr) := by
    rw [executeIs_eq stage.found stage.implemented stage.occupied]
    cases m <;> rfl
  have presented : programAddress σ.slice i = a.accumulator.extractLsb' 0 12 := by
    unfold programAddress
    rw [noIo]
    exact stage.next
  have address : nextFetchAddress σ.slice i = a.pc + 1 := by
    unfold nextFetchAddress
    rw [active, more.dummy, start, started, transferring, stage.underway.registers]
    rfl
  have state : nextPipelineState σ.slice i = .tablePrefetch := by
    unfold nextPipelineState
    rw [reset, more.advances, more.dummy, start, computed, operand, target, io, prefetch, started,
      transferring]
    rfl
  have delay : (Core.step params σ.slice.core (coreInputs σ.slice i true)).interruptDelayOne =
      σ.slice.core.interruptDelayOne := next.1.delay.trans stage.underway.delay.symm
  refine ⟨more, lock.continued more fetch noInitialize delay ?_⟩
  refine Stage.tableSecond (m := m) (c := c)
    ⟨⟨?_, ?_, ?_, ?_, ?_, stage.implemented, ?_⟩, ?_, stage.family, ?_, ?_, ?_, ?_, ?_, ?_⟩
  · rw [slice]
    exact next.1
  · rw [slot]
    exact stage.occupied
  · rw [slice]
  · rw [slot]
    exact stage.address
  · rw [slot]
    exact stage.found
  · rw [slot]
    exact stage.stored
  · rw [slice]
    exact next.2
  · rw [slot]
    exact stage.noFault
  · rw [slice]
    exact state
  · rw [slice]
    exact address
  · rintro attach rfl
    have carrier : nextProgramData σ.slice i = i.programData := by
      unfold nextProgramData
      rw [reset, more.fetched, more.advances, transferring, reads]
      simp
    have read : menN σ.slice i = false := by
      unfold menN ProgramBus.menN
      rw [noIo, writes, active,
        beq_iff_eq.mp (pipelineBoundary_enabled boundary).2.2]
      rfl
    rw [slice]
    dsimp only
    rw [carrier, served attach fetch read, presented, stage.program]
  · intro attach
    have driven : writeData σ.slice i = Isa.operand m σ.slice.fetchExecute.executeWord a := by
      apply lock.writeData_eq fetch attach _ stage.underway.data
      unfold operandAddress Core.dataAddress
      rw [stage.underway.entry, stage.pending.pending]
      exact stage.pending.address
    rw [slot]
    unfold Attached.step Isa.straightProgram
    rw [fetch, writes, presented, driven, stage.program]
    cases m <;> rfl
  · unfold Attached.step ioWrite
    rw [noIo, Bool.false_and, Bool.and_false]
    exact stage.ioOutput

/-- The next fetch completes `TBLR` and `TBLW`. -/
theorem Lockstep.table_finish {c c' : Cycle} (lock : Lockstep attached a σ made)
    (stage : TableSecond attached a σ m c c') (served : attached → σ.Served i) :
    Finishes σ.slice i ∧ Completes attached a σ i [c, c', i.cycle] := by
  have running := running_of_fetch fetch noInitialize noDebug
  have valid := stage.accepted fetch
  have finish := finishes stage.found stage.implemented stage.occupied fetch (by
    rw [stage.state]
    exact stage.family)
  rcases Core.retires_table stage.underway stage.pending valid with ⟨boundary, operation⟩
  have next := (stage.programNextAddress (i := i)).symm
  refine ⟨finish, _, ?_, lock.finish stage.found stage.implemented fetch noInitialize noDebug
    served finish boundary operation next (a.cycleCount + 3)⟩
  intro attach
  have level : (stepPins [c, c', i.cycle]).int =
      (!(!c.int || !c'.int) && (coreInputs σ.slice i true).int) := by
    simp [stepPins, coreInputs, Inputs.cycle, Bool.and_assoc]
  have retired := (Core.table_retires (p := params) stage.underway stage.pending running
    stage.family stage.found stage.noFault σ.program σ.ioOutput (a.cycleCount + 3)
    (stepPins [c, c', i.cycle]) level (stage.read attach)
    ⟨(stage.program attach).symm, stage.ioOutput.symm, rfl⟩).1
  have transfers : (m.tableTransfer || m.ioTransfer) = true := by
    rw [stage.family, Bool.true_or]
  have made := (Isa.stepInstruction_transfer transfers _ _ _).trans retired
  exact ⟨_, Isa.step_of_instruction stage.underway.noEntry (stage.stored attach) stage.found made,
    rfl, rfl, by rintro _ ⟨⟩; exact stage.implemented⟩

end Later

end Stages

end Tms32010.Rtl.Slice
