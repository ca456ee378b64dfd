import Tms32010.Rtl.Advance
import Tms32010.Rtl.Held

/-!
# The slice and its core in lock step

The slice tracks in its own registers where the core is within an instruction.
The invariant says, for each pipeline state, which instruction is underway in the
core, what the slot and the carrier hold, and which address the bus fetches. It
is stated relative to the architectural state the instruction started from.
-/

namespace Tms32010.Rtl.Slice

open Tms32010.Rtl.Core (Idle Running Underway ControlPending ComputedPending IoPending
  TablePending machine)

/-! ## The slice and its memories -/

/-- A slice with its program memory and the latches its output ports drive. -/
structure Attached where
  slice : State
  program : ProgramMemory
  ioOutput : BitVec 3 → BitVec 16

namespace Attached

variable (σ : Attached) (i : Inputs)

/-- A fetching boundary stores the word of a table write and latches the word of an output. -/
def step : Attached where
  slice := Slice.step σ.slice i
  program :=
    if fetchBoundary σ.slice i && programWrite σ.slice i then
      Function.update σ.program (programAddress σ.slice i) (writeData σ.slice i)
    else σ.program
  ioOutput :=
    if fetchBoundary σ.slice i && ioWrite σ.slice i then
      Function.update σ.ioOutput (ioPort σ.slice) (writeData σ.slice i)
    else σ.ioOutput

/-- A boundary that reads program memory samples the addressed word. -/
def Served : Prop :=
  fetchBoundary σ.slice i = true → menN σ.slice i = false →
    i.programData = σ.program (programAddress σ.slice i)

end Attached

/-! ## Cycles of a step -/

/-- The pins at a boundary that advances the core. -/
structure Cycle where
  int : Bool
  bio : Bool
  ioReadData : BitVec 16
  deriving DecidableEq, Repr

/-- The pins of a clock. -/
def Inputs.cycle (i : Inputs) : Cycle := ⟨i.int, i.bio, i.ioReadData⟩

/-- The pins of a step of one or more cycles: an interrupt request in any of them
counts; `BIO` and the input port are those of the first. -/
def stepPins (made : List Cycle) : Isa.Input where
  int := made.all Cycle.int
  bio := (made.map Cycle.bio).headD true
  ioInput := fun _ => (made.map Cycle.ioReadData).headD 0

/-- The cycles make a step of the machine that executes no `PUSH` or `POP`. -/
def Takes (a : Isa.State) (made : List Cycle) (b : Isa.State) : Prop :=
  ∃ outcome, Isa.step (stepPins made) a = .ok outcome ∧ outcome.state = b ∧
    outcome.cycles = made.length ∧ ∀ m, outcome.executed = some m → m.stackAccess = false

/-! ## Stages -/

/-- The registers of the core and the memories are those of a machine state. -/
structure Shown (a : Isa.State) (σ : Attached) : Prop where
  shows : machine σ.slice.core σ.program σ.ioOutput a.cycleCount = a
  idle : Idle σ.slice.core

section Stages

variable (attached : Prop) (a : Isa.State) (σ : Attached)

/-- The first fetch has not been made. -/
structure Priming : Prop extends Shown a σ where
  entry : σ.slice.core.interruptEntryPending = false
  state : σ.slice.pipelineState = .sequential
  unoccupied : σ.slice.fetchExecute.executeValid = false
  start : a.pc = 0
  next : σ.slice.bus.address = 0

/-- The slot holds the next instruction. -/
structure Issuing : Prop extends Shown a σ where
  entry : σ.slice.core.interruptEntryPending = false
  state : σ.slice.pipelineState = .sequential
  occupied : σ.slice.fetchExecute.executeValid = true
  active : σ.slice.bus.active = true
  address : σ.slice.fetchExecute.executeAddress = a.pc
  word : σ.slice.coreProgramData = σ.slice.fetchExecute.executeWord
  next : σ.slice.bus.address = a.pc + 1
  stored : attached → a.program a.pc = σ.slice.fetchExecute.executeWord

/-- The core enters the interrupt at the next boundary. -/
structure Vector : Prop extends Shown a σ where
  entry : σ.slice.core.interruptEntryPending = true
  undelayed : σ.slice.core.interruptDelayOne = false
  state : σ.slice.pipelineState = .interruptVector
  unoccupied : σ.slice.fetchExecute.executeValid = false
  active : σ.slice.bus.active = true
  next : σ.slice.bus.address = 2

/-- The slot holds an instruction of several cycles that the core has issued. -/
structure Spanning (m : Mnemonic) (low : Bool) : Prop where
  underway : Underway m a low σ.slice.core
  occupied : σ.slice.fetchExecute.executeValid = true
  active : σ.slice.bus.active = true
  address : σ.slice.fetchExecute.executeAddress = a.pc
  found : mnemonic? σ.slice.fetchExecute.executeWord = some m
  implemented : m.stackAccess = false
  stored : attached → a.program a.pc = σ.slice.fetchExecute.executeWord

/-- A branch operand was sampled; the bus fetches where the branch goes. -/
structure Control (m : Mnemonic) (c : Cycle) : Prop extends
    Spanning attached a σ m (!c.int) where
  pending : ControlPending m σ.slice.core
  family : m.twoWordControlFlow = true
  state : σ.slice.pipelineState =
    if σ.slice.coreProgramData.extractLsb' 12 4 == 0 then .controlTarget else .controlInvalid
  bioz : σ.slice.biozTaken =
    (σ.slice.coreProgramData.extractLsb' 12 4 == 0 && m == .bioz && !c.bio)
  next : σ.slice.coreProgramData.extractLsb' 12 4 = 0 → σ.slice.bus.address =
    if a.branchTaken m c.bio then σ.slice.coreProgramData.extractLsb' 0 12 else a.pc + 2
  operand : attached → a.program (a.pc + 1) = σ.slice.coreProgramData
  program : σ.program = a.program
  ioOutput : σ.ioOutput = a.ioOutput

/-- The bus fetches where `CALA` or `RET` goes. -/
structure Computed (m : Mnemonic) (c : Cycle) : Prop extends
    Spanning attached a σ m (!c.int) where
  pending : ComputedPending m a σ.slice.core
  family : m.computedControlFlow = true
  state : σ.slice.pipelineState = .computedTarget
  word : σ.slice.coreProgramData = σ.slice.fetchExecute.executeWord
  target : σ.slice.computedTargetAddress = σ.slice.core.pendingComputedTarget
  next : σ.slice.bus.address = σ.slice.core.pendingComputedTarget
  program : σ.program = a.program
  ioOutput : σ.ioOutput = a.ioOutput

/-- The port transfer was made; the bus fetches the next instruction. -/
structure Io (m : Mnemonic) (c : Cycle) : Prop extends Spanning attached a σ m (!c.int) where
  pending : IoPending m σ.slice.fetchExecute.executeWord a σ.slice.core
  family : m.ioTransfer = true
  noFault : Isa.dataFault? m σ.slice.fetchExecute.executeWord a = none
  state : σ.slice.pipelineState = .ioPrefetch
  sample : m = .in → σ.slice.ioReadSample = c.ioReadData
  next : σ.slice.bus.address = a.pc + 1
  program : σ.program = a.program
  ioOutput : attached → σ.ioOutput = Isa.straightOutput m σ.slice.fetchExecute.executeWord a

/-- The discarded prefetch was made; the bus transfers the table word. -/
structure TableFirst (m : Mnemonic) (c : Cycle) : Prop extends
    Spanning attached a σ m (!c.int) where
  pending : TablePending m σ.slice.fetchExecute.executeWord a false σ.slice.core
  family : m.tableTransfer = true
  noFault : Isa.dataFault? m σ.slice.fetchExecute.executeWord a = none
  state : σ.slice.pipelineState = .tableTransfer
  next : σ.slice.bus.address = a.accumulator.extractLsb' 0 12
  program : σ.program = a.program
  ioOutput : σ.ioOutput = a.ioOutput

/-- The table word was transferred; the bus fetches the next instruction. -/
structure TableSecond (m : Mnemonic) (c c' : Cycle) : Prop extends
    Spanning attached a σ m (!c.int || !c'.int) where
  pending : TablePending m σ.slice.fetchExecute.executeWord a true σ.slice.core
  family : m.tableTransfer = true
  noFault : Isa.dataFault? m σ.slice.fetchExecute.executeWord a = none
  state : σ.slice.pipelineState = .tablePrefetch
  next : σ.slice.bus.address = a.pc + 1
  read : attached → m = .tblr →
    a.program (a.accumulator.extractLsb' 0 12) = σ.slice.coreProgramData
  program : attached → σ.program = Isa.straightProgram m σ.slice.fetchExecute.executeWord a
  ioOutput : σ.ioOutput = a.ioOutput

/-- The stage of the step underway, and the cycles it has made. -/
inductive Stage : List Cycle → Prop where
  | priming (stage : Priming a σ) : Stage []
  | issuing (stage : Issuing attached a σ) : Stage []
  | vector (stage : Vector a σ) : Stage []
  | control {m : Mnemonic} {c : Cycle} (stage : Control attached a σ m c) : Stage [c]
  | computed {m : Mnemonic} {c : Cycle} (stage : Computed attached a σ m c) : Stage [c]
  | io {m : Mnemonic} {c : Cycle} (stage : Io attached a σ m c) : Stage [c]
  | tableFirst {m : Mnemonic} {c : Cycle} (stage : TableFirst attached a σ m c) : Stage [c]
  | tableSecond {m : Mnemonic} {c c' : Cycle} (stage : TableSecond attached a σ m c c') :
      Stage [c, c']

/-- The invariant. `attached` says that program memory answers with its contents and
that nothing but the slice writes the memories. -/
structure Lockstep (made : List Cycle) : Prop where
  owned : Core.Owned params σ.slice.core
  protect : σ.slice.interruptProtected = σ.slice.core.interruptDelayOne
  seen : σ.slice.bus.active = true → σ.slice.bus.releaseBoundarySeen = true
  fresh : attached → σ.slice.bus.phase ≠ 0 →
    σ.slice.core.dataRam.readData true (operandAddress σ.slice) =
      σ.slice.core.dataRam.memory.read (operandAddress σ.slice)
  stage : Stage attached a σ made

end Stages

/-- Between two steps the slice shows the machine state. -/
theorem Stage.shown {attached : Prop} {a : Isa.State} {σ : Attached}
    (stage : Stage attached a σ []) : Shown a σ := by
  cases stage with
  | priming stage => exact stage.toShown
  | issuing stage => exact stage.toShown
  | vector stage => exact stage.toShown

/-! ## Clocks within a machine cycle -/

section Within

variable {attached : Prop} {a : Isa.State} {σ : Attached} {made : List Cycle} {i : Inputs}

/-- A state that differs in the phase, the two status flags and the data RAM. -/
def Attached.held (σ : Attached) (sample retired : Bool) (phase : BitVec 2) (ram : InternalRam) :
    Attached :=
  { σ with
    slice :=
      { σ.slice with
        bus := { σ.slice.bus with sample := sample, phase := phase }
        core := { σ.slice.core with retired := retired, dataRam := ram } } }

section Held

variable {sample retired : Bool} {phase : BitVec 2} {ram : InternalRam}

theorem TablePending.held {m : Mnemonic} {word : BitVec 16} {first : Bool} {core : Core.State}
    (pending : TablePending m word a first core) :
    TablePending m word { a with data := ram.memory } first
      { core with retired := retired, dataRam := ram } :=
  ⟨pending.pending, pending.phase, pending.operation, pending.programAddress, pending.address,
    pending.indirect, pending.selected, pending.increment, pending.decrement, pending.preserve,
    pending.next, pending.control, pending.computed, pending.io⟩

theorem Shown.held (sample retired : Bool) (phase : BitVec 2) (ram : InternalRam)
    (shown : Shown a σ) :
    Shown { a with data := ram.memory } (σ.held sample retired phase ram) where
  shows := by
    have kept := congrArg (fun b : Isa.State => { b with data := ram.memory }) shown.shows
    exact kept
  idle := ⟨shown.idle.control, shown.idle.computed, shown.idle.io, shown.idle.table⟩

theorem Shown.kept (sample retired : Bool) (phase : BitVec 2) (shown : Shown a σ)
    (memory : ram.memory = σ.slice.core.dataRam.memory) :
    Shown a (σ.held sample retired phase ram) := by
  have next := shown.held sample retired phase ram
  have data : σ.slice.core.dataRam.memory = a.data := by
    rw [← shown.shows]
    rfl
  have same : { a with data := ram.memory } = a := by
    rw [memory, data]
  rwa [same] at next

theorem Spanning.held {m : Mnemonic} {low : Bool} (stage : Spanning attached a σ m low) :
    Spanning attached { a with data := ram.memory } (σ.held sample retired phase ram) m low where
  underway := ⟨stage.underway.registers, stage.underway.delay, stage.underway.entry,
    stage.underway.noEntry, rfl, stage.underway.spans⟩
  occupied := stage.occupied
  active := stage.active
  address := stage.address
  found := stage.found
  implemented := stage.implemented
  stored := stage.stored

/-- The data memory of the machine state. -/
theorem Stage.data (stage : Stage attached a σ made) : σ.slice.core.dataRam.memory = a.data := by
  have shown (shown : Shown a σ) : σ.slice.core.dataRam.memory = a.data := by
    rw [← shown.shows]
    rfl
  cases stage with
  | priming stage => exact shown stage.toShown
  | issuing stage => exact shown stage.toShown
  | vector stage => exact shown stage.toShown
  | control stage => exact stage.underway.data
  | computed stage => exact stage.underway.data
  | io stage => exact stage.underway.data
  | tableFirst stage => exact stage.underway.data
  | tableSecond stage => exact stage.underway.data

/-- The stage does not depend on what is held within a machine cycle, nor, where the
memories are not attached, on the data memory. -/
theorem Stage.held (sample retired : Bool) (phase : BitVec 2) (stage : Stage attached a σ made)
    (memory : attached → ram.memory = σ.slice.core.dataRam.memory) :
    Stage attached { a with data := ram.memory } (σ.held sample retired phase ram) made := by
  have same (attach : attached) : { a with data := ram.memory } = a := by
    rw [memory attach, stage.data]
  cases stage with
  | priming stage =>
      exact .priming ⟨stage.toShown.held .., stage.entry, stage.state, stage.unoccupied,
        stage.start, stage.next⟩
  | issuing stage =>
      exact .issuing ⟨stage.toShown.held .., stage.entry, stage.state, stage.occupied,
        stage.active, stage.address, stage.word, stage.next, stage.stored⟩
  | vector stage =>
      exact .vector ⟨stage.toShown.held .., stage.entry, stage.undelayed, stage.state,
        stage.unoccupied, stage.active, stage.next⟩
  | control stage =>
      rcases stage with ⟨spanning, pending, family, state, bioz, next, operand, program, output⟩
      exact .control ⟨spanning.held,
        ⟨pending.pending, pending.operation, pending.computed, pending.io, pending.table⟩,
        family, state, bioz, next, operand, program, output⟩
  | computed stage =>
      rcases stage with ⟨spanning, pending, family, state, word, target, next, program, output⟩
      exact .computed ⟨spanning.held,
        ⟨pending.pending, pending.operation, pending.target, pending.returnAddress,
          pending.control, pending.io, pending.table⟩,
        family, state, word, target, next, program, output⟩
  | io stage =>
      rcases stage with ⟨spanning, pending, family, fault, state, sample, next, program, output⟩
      refine .io ⟨spanning.held,
        ⟨pending.pending, pending.operation, pending.port, pending.address, pending.indirect,
          pending.selected, pending.increment, pending.decrement, pending.preserve,
          pending.next, pending.control, pending.computed, pending.table⟩,
        family, fault, state, sample, next, program, ?_⟩
      intro attach
      rw [same attach]
      exact output attach
  | tableFirst stage =>
      rcases stage with ⟨spanning, pending, family, fault, state, next, program, output⟩
      exact .tableFirst ⟨spanning.held, TablePending.held pending, family, fault,
        state, next, program, output⟩
  | tableSecond stage =>
      rcases stage with ⟨spanning, pending, family, fault, state, next, read, program, output⟩
      refine .tableSecond ⟨spanning.held, TablePending.held pending, family, fault,
        state, next, read, ?_, output⟩
      intro attach
      rw [same attach]
      exact program attach

/-- Within a machine cycle the machine state is the same. -/
theorem Stage.kept (sample retired : Bool) (phase : BitVec 2) (stage : Stage attached a σ made)
    (memory : ram.memory = σ.slice.core.dataRam.memory) :
    Stage attached a (σ.held sample retired phase ram) made := by
  have next := stage.held sample retired phase fun _ => memory
  have same : { a with data := ram.memory } = a := by
    rw [memory, stage.data]
  rwa [same] at next

end Held

/-- A core that is not enabled keeps its registers and its memory. -/
theorem core_held (noInitialize : i.initializeI = false) (noDebug : i.debugDataWrite = false)
    (noReset : coreReset σ.slice i = false) :
    ∃ ram : InternalRam, ram.memory = σ.slice.core.dataRam.memory ∧
      Core.step params σ.slice.core (coreInputs σ.slice i false) =
        { σ.slice.core with retired := false, dataRam := ram } ∧
      ((i.clockEnable = true → ram.readData true (operandAddress σ.slice) =
          σ.slice.core.dataRam.memory.read (operandAddress σ.slice)) ∧
        (i.clockEnable = false → ram.readData true (operandAddress σ.slice) =
          σ.slice.core.dataRam.readData true (operandAddress σ.slice))) := by
  have disabled := Core.step_disabled (p := params) (s := σ.slice.core)
    (i := coreInputs σ.slice i false) noInitialize noReset rfl noDebug
  refine ⟨_, disabled.2, disabled.1, ?_, ?_⟩
  · intro enabled
    exact InternalRam.readData_step _ enabled (by simp [Core.ramInputs, coreInputs]) noDebug _
  · intro paused
    have kept : (Core.step params σ.slice.core (coreInputs σ.slice i false)).dataRam =
        { σ.slice.core.dataRam with
          memory := (Core.step params σ.slice.core (coreInputs σ.slice i false)).dataRam.memory } := by
      unfold Core.step InternalRam.step
      simp [Core.ramInputs, coreInputs, paused]
    rw [kept]
    rfl

theorem Attached.step_within (noInitialize : i.initializeI = false)
    (within : pipelineBoundary σ.slice i = false) {ram : InternalRam}
    (core : Core.step params σ.slice.core (coreInputs σ.slice i false) =
      { σ.slice.core with retired := false, dataRam := ram }) :
    σ.step i = σ.held false false
      (if busClockEnable σ.slice i then σ.slice.bus.phase + 1 else σ.slice.bus.phase) ram := by
  have noFetch : fetchBoundary σ.slice i = false := by
    unfold fetchBoundary
    rw [within]
    rfl
  unfold Attached.step Attached.held
  rw [noFetch, Slice.step_within noInitialize within, core]
  rfl

/-- A clock within a machine cycle keeps the invariant and makes no cycle. -/
theorem Lockstep.within (lock : Lockstep attached a σ made) (noInitialize : i.initializeI = false)
    (noDebug : i.debugDataWrite = false) (within : pipelineBoundary σ.slice i = false) :
    Lockstep attached a (σ.step i) made := by
  have noReset := coreReset_eq within
  rcases core_held (σ := σ) noInitialize noDebug noReset with ⟨ram, memory, core, captured, kept⟩
  have owned := Core.step_owned lock.owned (coreInputs σ.slice i false)
  rw [core] at owned
  rw [Attached.step_within noInitialize within core]
  refine ⟨owned, lock.protect, lock.seen, ?_, lock.stage.kept _ _ _ memory⟩
  intro attach advanced
  have read : ram.readData true (operandAddress σ.slice) =
      σ.slice.core.dataRam.memory.read (operandAddress σ.slice) := by
    cases enabled : i.clockEnable
    · have paused : busClockEnable σ.slice i = false := by
        unfold busClockEnable
        rw [enabled]
        rfl
      rw [Attached.held, paused] at advanced
      rw [kept enabled]
      exact lock.fresh attach advanced
    · exact captured enabled
  change ram.readData true (operandAddress σ.slice) = ram.memory.read (operandAddress σ.slice)
  rw [read, memory]

/-! ## Reset -/

/-- The stage of a cleared slice. -/
theorem Stage.primed {core : Core.State} {slice : State} {program : ProgramMemory}
    {ioOutput : BitVec 3 → BitVec 16} (cycleCount : Nat) (same : slice.core = core)
    (idle : Idle core) (entry : core.interruptEntryPending = false) (start : core.pc = 0)
    (state : slice.pipelineState = .sequential)
    (unoccupied : slice.fetchExecute.executeValid = false) (next : slice.bus.address = 0) :
    Stage attached (machine core program ioOutput cycleCount) ⟨slice, program, ioOutput⟩ [] :=
  .priming ⟨⟨by rw [← same]; rfl, by rw [same]; exact idle⟩, by rw [same]; exact entry, state,
    unoccupied, start, next⟩

/-- The clock initializes the slice or ends a machine cycle under reset. -/
def Attached.Restarts (σ : Attached) (i : Inputs) : Prop :=
  i.initializeI = true ∨ (pipelineBoundary σ.slice i = true ∧ i.rs = true)

/-- What a restart leaves, from whatever the registers held. -/
theorem Attached.step_restart (restarts : σ.Restarts i) :
    (σ.step i).slice.bus.active = false ∧ (σ.step i).slice.bus.phase = 0 ∧
      (σ.step i).slice.bus.address = 0 ∧ (σ.step i).slice.fetchExecute = FetchExecute.empty ∧
      (σ.step i).slice.pipelineState = .sequential ∧
      (σ.step i).slice.interruptProtected = false ∧
      ∃ core ram, (core = Core.initializeCycle σ.slice.core ∨
        core = Core.resetCycle σ.slice.core) ∧
        (σ.step i).slice.core = { core with dataRam := ram } ∧
        Core.Owned params (σ.step i).slice.core := by
  change (Slice.step σ.slice i).bus.active = _ ∧ (Slice.step σ.slice i).bus.phase = _ ∧
    (Slice.step σ.slice i).bus.address = _ ∧ (Slice.step σ.slice i).fetchExecute = _ ∧
    (Slice.step σ.slice i).pipelineState = _ ∧ (Slice.step σ.slice i).interruptProtected = _ ∧
    ∃ core ram, _ ∧ (Slice.step σ.slice i).core = _ ∧ Core.Owned params (Slice.step σ.slice i).core
  rcases Bool.eq_false_or_eq_true i.initializeI with asserted | noInitialize
  · have request : (coreInputs σ.slice i (coreExecuteBoundary σ.slice i)).initializeRequest =
        true := asserted
    have owned := Core.owned_of_reset (p := params) (s := σ.slice.core)
      (i := coreInputs σ.slice i (coreExecuteBoundary σ.slice i)) (by rw [request]; rfl)
    have registers : Core.nextRegisters params σ.slice.core
        (coreInputs σ.slice i (coreExecuteBoundary σ.slice i)) =
        Core.initializeCycle σ.slice.core := by
      unfold Core.nextRegisters
      rw [request]
      rfl
    have slot : FetchExecute.step σ.slice.fetchExecute (slotInputs σ.slice i) =
        FetchExecute.empty := by
      unfold FetchExecute.step slotInputs
      rw [asserted]
      rfl
    have bus : ProgramBus.step σ.slice.bus (busInputs σ.slice i) =
        ⟨0, 0, false, false, false⟩ := by
      unfold ProgramBus.step busInputs
      rw [asserted]
      rfl
    unfold Slice.step
    rw [if_pos asserted]
    unfold nextModules
    rw [slot, bus]
    exact ⟨rfl, rfl, rfl, rfl, rfl, rfl, _, _, Or.inl registers, rfl, owned⟩
  · rcases restarts with asserted | ⟨boundary, reset⟩
    · exact absurd (noInitialize.symm.trans asserted) Bool.false_ne_true
    rcases pipelineBoundary_enabled boundary with ⟨-, enabled, phase⟩
    have request : (coreInputs σ.slice i false).resetRequest = true := by
      change coreReset σ.slice i = true
      unfold coreReset
      rw [enabled, phase, reset]
      rfl
    have owned := Core.owned_of_reset (p := params) (s := σ.slice.core)
      (i := coreInputs σ.slice i false) (by rw [request, Bool.or_true])
    have registers : Core.nextRegisters params σ.slice.core (coreInputs σ.slice i false) =
        Core.resetCycle σ.slice.core := by
      have quiet : (coreInputs σ.slice i false).initializeRequest = false := noInitialize
      unfold Core.nextRegisters
      rw [quiet, request]
      rfl
    have last : σ.slice.bus.phase + 1 = 0 := by
      rw [beq_iff_eq.mp phase]
      rfl
    rw [Slice.step_flush noInitialize boundary reset, last]
    exact ⟨rfl, rfl, rfl, rfl, rfl, rfl, _, _, Or.inr registers, rfl, owned⟩

/-- A restart starts the invariant. -/
theorem Lockstep.restarted (restarts : σ.Restarts i) (cycleCount : ℕ) :
    Lockstep attached
      (machine (σ.step i).slice.core (σ.step i).program (σ.step i).ioOutput cycleCount)
      (σ.step i) [] := by
  rcases Attached.step_restart restarts with
    ⟨inactive, phase, address, slot, state, protect, cleared, ram, which, core, owned⟩
  have flags : Idle (σ.step i).slice.core ∧
      (σ.step i).slice.core.interruptEntryPending = false ∧
      (σ.step i).slice.core.interruptDelayOne = false ∧ (σ.step i).slice.core.pc = 0 := by
    rw [core]
    rcases which with rfl | rfl <;> exact ⟨⟨rfl, rfl, rfl, rfl⟩, rfl, rfl, rfl⟩
  have unoccupied : (σ.step i).slice.fetchExecute.executeValid = false := by
    rw [slot]
    rfl
  refine ⟨owned, protect.trans flags.2.2.1.symm, ?_, ?_,
    Stage.primed cycleCount rfl flags.1 flags.2.1 flags.2.2.2 state unoccupied address⟩
  · intro active
    exact absurd (inactive.symm.trans active) Bool.false_ne_true
  · intro _ advanced
    exact absurd phase advanced

/-- The state of the processor after a recognized reset. -/
def resetState (a : Isa.State) : Isa.State :=
  { a with
    pc := 0
    interruptMask := true
    interruptPending := false
    interruptDelayOne := false
    interruptEntryPending := false }

/-- The boundaries between the release and the first fetch. -/
theorem Lockstep.release (lock : Lockstep attached a σ made) (noInitialize : i.initializeI = false)
    (noDebug : i.debugDataWrite = false) (boundary : pipelineBoundary σ.slice i = true)
    (running : i.rs = false) (inactive : σ.slice.bus.active = false) :
    Lockstep attached a (σ.step i) made := by
  have noFetch : fetchBoundary σ.slice i = false := by
    unfold fetchBoundary
    rw [inactive]
    simp
  have noReset : coreReset σ.slice i = false := by
    unfold coreReset
    rw [running, Bool.and_false]
  rcases core_held (σ := σ) noInitialize noDebug noReset with ⟨ram, memory, core, -, -⟩
  have owned := Core.step_owned lock.owned (coreInputs σ.slice i false)
  have last : σ.slice.bus.phase + 1 = 0 := by
    rw [beq_iff_eq.mp (pipelineBoundary_enabled boundary).2.2]
    rfl
  rw [core] at owned
  cases lock.stage with
  | priming stage =>
      have shown := stage.toShown.kept false false 0 memory
      unfold Attached.step
      rw [noFetch, Slice.step_release noInitialize boundary running inactive stage.unoccupied, core]
      refine ⟨owned, lock.protect, fun _ => rfl, ?_, ?_⟩
      · intro _ advanced
        exact absurd last advanced
      · refine .priming ⟨⟨shown.shows, shown.idle⟩, stage.entry, stage.state, rfl, stage.start, ?_⟩
        change (if σ.slice.bus.releaseBoundarySeen then 0 else σ.slice.bus.address) = 0
        rw [stage.next, ite_self]
  | issuing stage => exact absurd (inactive.symm.trans stage.active) Bool.false_ne_true
  | vector stage => exact absurd (inactive.symm.trans stage.active) Bool.false_ne_true
  | control stage => exact absurd (inactive.symm.trans stage.active) Bool.false_ne_true
  | computed stage => exact absurd (inactive.symm.trans stage.active) Bool.false_ne_true
  | io stage => exact absurd (inactive.symm.trans stage.active) Bool.false_ne_true
  | tableFirst stage => exact absurd (inactive.symm.trans stage.active) Bool.false_ne_true
  | tableSecond stage => exact absurd (inactive.symm.trans stage.active) Bool.false_ne_true

end Within

end Tms32010.Rtl.Slice
