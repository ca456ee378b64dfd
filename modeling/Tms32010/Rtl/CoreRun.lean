import Tms32010.Isa.Run
import Tms32010.Lib.Clocked
import Tms32010.Rtl.Completion

/-!
# Runs of the core

The core with a program memory that answers the address it presents. Every enabled
clock is a bus cycle; between two instructions the core shows a state of the
instruction-level machine, and within one it is at a known cycle of it. A core that
refuses a word or a branch operand is parked.
-/

namespace Tms32010.Rtl.Core

/-! ## The core and its memories -/

/-- A core with its program memory and the latches its output ports drive. -/
structure Hosted where
  core : State
  program : ProgramMemory
  ioOutput : BitVec 3 → BitVec 16

/-- The pins and the bus of an enabled clock. -/
structure Cycle where
  int : Bool
  bio : Bool
  ioReadData : BitVec 16
  bus : Isa.BusCycle
  deriving DecidableEq, Repr

/-- The bus cycle the strobes of the core make. -/
def busCycle (p : Params) (s : State) (i : Inputs) : Isa.BusCycle :=
  if ioRead s i then .ioRead s.pendingIoPort i.ioReadData
  else if ioWrite s i then .ioWrite s.pendingIoPort (programWriteData p s i)
  else if programWrite s i then .programWrite (programAddress s) (programWriteData p s i)
  else .programRead (programAddress s) i.programData

/-- The pins of a step: an interrupt request in any cycle counts; `BIO` and the input
port are those of the last. -/
def pins (made : List Cycle) : Isa.Input where
  int := made.all Cycle.int
  bio := (made.map Cycle.bio).getLastD true
  ioInput := fun _ => (made.map Cycle.ioReadData).getLastD 0

theorem pins_int (made : List Cycle) (c : Cycle) :
    (pins (made ++ [c])).int = (made.all Cycle.int && c.int) := by
  simp [pins]

theorem pins_bio (made : List Cycle) (c : Cycle) : (pins (made ++ [c])).bio = c.bio := by
  simp [pins]

theorem pins_ioInput (made : List Cycle) (c : Cycle) (port : BitVec 3) :
    (pins (made ++ [c])).ioInput port = c.ioReadData := by
  simp [pins]

namespace Hosted

section Clock

variable (p : Params) (σ : Hosted) (i : Inputs)

/-- The cycle of an enabled clock. -/
def cycle : Cycle := ⟨i.int, i.bio, i.ioReadData, busCycle p σ.core i⟩

/-- An enabled clock stores the word of a table write and latches the word of an output. -/
def step : Hosted where
  core := Core.step p σ.core i
  program :=
    if i.clockEnable && programWrite σ.core i then
      Function.update σ.program (programAddress σ.core) (programWriteData p σ.core i)
    else σ.program
  ioOutput :=
    if i.clockEnable && ioWrite σ.core i then
      Function.update σ.ioOutput σ.core.pendingIoPort (programWriteData p σ.core i)
    else σ.ioOutput

/-- A clock outside reset, without a debug write, whose read program memory answers. -/
structure Runs : Prop where
  noInitialize : i.initializeRequest = false
  noReset : i.resetRequest = false
  noDebug : i.debugDataWrite = false
  served : i.clockEnable = true → programRead σ.core i = true →
    i.programData = σ.program (programAddress σ.core)

end Clock

/-- The core with its memories: a cycle is an enabled clock that it accepts. -/
def device (p : Params) : Clocked.Device Inputs Hosted Cycle where
  next := step p
  cycle? σ i :=
    if i.clockEnable && (σ.core.interruptEntryPending || instructionValid p σ.core i) then
      some (σ.cycle p i)
    else none
  completes σ i := σ.core.interruptEntryPending || retirementBoundary p σ.core i

end Hosted

/-! ## Steps -/

/-- The state a completed step leaves: the machine's, but for the store that `CALA` and
`RET` make of the word after them. -/
def strayed (a : Isa.State) (outcome : Isa.Outcome) : Isa.State :=
  match outcome.executed with
  | some m =>
      if m.computedControlFlow then
        { outcome.state with data := strayData (a.program (a.pc + 1)) a }
      else outcome.state
  | none => outcome.state

/-- The cycles of a completed step. -/
structure Executes (p : Params) (a : Isa.State) (made : List Cycle) (outcome : Isa.Outcome) :
    Prop where
  step : Isa.step (pins made) a = .ok outcome
  cycles : outcome.cycles = made.length
  implemented : ∀ m, outcome.executed = some m → m.stackAccess = false ∧
    (m.computedControlFlow = true → p.enableInferredComputedControl = true)
  bus : (∀ m, outcome.executed = some m → m.computedControlFlow = false) →
    outcome.bus = made.map Cycle.bus

/-- The core makes the cycles from one state to another. -/
def Takes (p : Params) (a : Isa.State) (made : List Cycle) (b : Isa.State) : Prop :=
  ∃ outcome, Executes p a made outcome ∧ strayed a outcome = b

theorem Takes.unique {p : Params} {a b b' : Isa.State} {made : List Cycle}
    (takes : Takes p a made b) (takes' : Takes p a made b') : b = b' := by
  rcases takes with ⟨outcome, executes, rfl⟩
  rcases takes' with ⟨outcome', executes', rfl⟩
  have same : outcome = outcome' := Except.ok.inj (executes.step.symm.trans executes'.step)
  rw [same]

/-! ## Stages -/

/-- The core shows the machine state. -/
structure Shown (a : Isa.State) (σ : Hosted) : Prop where
  shows : machine σ.core σ.program σ.ioOutput a.cycleCount = a
  idle : Idle σ.core

section Stages

variable (p : Params) (a : Isa.State) (σ : Hosted)

/-- The word at the program counter is one the core refuses. -/
def RefusesWord : Prop :=
  ∀ m, mnemonic? (a.program a.pc) = some m →
    m.stackAccess = true ∨
      (m.computedControlFlow = true ∧ p.enableInferredComputedControl = false) ∨
        Isa.dataFault? m (a.program a.pc) a ≠ none

/-- The word at the program counter is a branch whose operand the core refuses. -/
def RefusesOperand : Prop :=
  ∃ m, mnemonic? (a.program a.pc) = some m ∧ m.twoWordControlFlow = true ∧
    (a.program (a.pc + 1)).extractLsb' 12 4 ≠ 0

/-- The core does not complete the instruction at the program counter. -/
def Stuck : Prop :=
  a.interruptEntryPending = false ∧ (RefusesWord p a ∨ RefusesOperand a)

/-- An instruction of several cycles has been issued. -/
structure Spanning (m : Mnemonic) (c : Cycle) (low : Bool) : Prop where
  underway : Underway m a low σ.core
  found : mnemonic? (a.program a.pc) = some m
  implemented : m.stackAccess = false
  fetched : c.bus = .programRead a.pc (a.program a.pc)
  program : σ.program = a.program
  ioOutput : σ.ioOutput = a.ioOutput

/-- A branch waits for its operand. -/
structure Control (m : Mnemonic) (c : Cycle) (low : Bool) : Prop extends
    Spanning a σ m c low where
  pending : ControlPending m σ.core
  family : m.twoWordControlFlow = true

/-- `CALA` or `RET` waits for its second cycle. -/
structure Computed (m : Mnemonic) (c : Cycle) : Prop extends Spanning a σ m c (!c.int) where
  pending : ComputedPending m a σ.core
  family : m.computedControlFlow = true
  enabled : p.enableInferredComputedControl = true

/-- `IN` or `OUT` waits for its transfer. -/
structure Io (m : Mnemonic) (c : Cycle) : Prop extends Spanning a σ m c (!c.int) where
  pending : IoPending m (a.program a.pc) a σ.core
  family : m.ioTransfer = true
  noFault : Isa.dataFault? m (a.program a.pc) a = none

/-- A table access waits for its discarded prefetch. -/
structure TableFirst (m : Mnemonic) (c : Cycle) : Prop extends
    Spanning a σ m c (!c.int) where
  pending : TablePending m (a.program a.pc) a false σ.core
  family : m.tableTransfer = true
  noFault : Isa.dataFault? m (a.program a.pc) a = none

/-- A table access waits for its transfer. -/
structure TableSecond (m : Mnemonic) (c c' : Cycle) : Prop extends
    Spanning a σ m c (!c.int || !c'.int) where
  pending : TablePending m (a.program a.pc) a true σ.core
  family : m.tableTransfer = true
  noFault : Isa.dataFault? m (a.program a.pc) a = none
  prefetched : c'.bus = .programRead (a.pc + 1) (a.program (a.pc + 1))

/-- The core is at the first cycle of an instruction it refuses: it shows the machine
state, later requests apart. -/
structure WordRefused : Prop where
  shows : machine σ.core σ.program σ.ioOutput a.cycleCount =
    { a with interruptPending := σ.core.interruptPending }
  idle : Idle σ.core
  entry : a.interruptEntryPending = false
  refuses : RefusesWord p a

/-- The core is at the operand of a branch, and refuses it. -/
structure OperandRefused (m : Mnemonic) (c : Cycle) (low : Bool) : Prop extends
    Control a σ m c low where
  refused : (a.program (a.pc + 1)).extractLsb' 12 4 ≠ 0

/-- The core is parked at the first cycle of an instruction. -/
structure ParkedWord : Prop extends WordRefused p a σ where
  illegal : σ.core.illegal = true

/-- The core is parked at the operand of a branch. -/
structure ParkedOperand (m : Mnemonic) (c : Cycle) (low : Bool) : Prop extends
    OperandRefused a σ m c low where
  illegal : σ.core.illegal = true

/-- The stage of the instruction at the program counter, and the cycles it has made. -/
inductive Stage : List Cycle → Prop where
  | shown (stage : Shown a σ) : Stage []
  | control {m : Mnemonic} {c : Cycle} (stage : Control a σ m c (!c.int)) : Stage [c]
  | computed {m : Mnemonic} {c : Cycle} (stage : Computed p a σ m c) : Stage [c]
  | io {m : Mnemonic} {c : Cycle} (stage : Io a σ m c) : Stage [c]
  | tableFirst {m : Mnemonic} {c : Cycle} (stage : TableFirst a σ m c) : Stage [c]
  | tableSecond {m : Mnemonic} {c c' : Cycle} (stage : TableSecond a σ m c c') : Stage [c, c']
  | parkedWord (stage : ParkedWord p a σ) : Stage []
  | parkedOperand {m : Mnemonic} {c : Cycle} {low : Bool} (stage : ParkedOperand a σ m c low) :
      Stage [c]

end Stages

/-! ## Clocks without a cycle -/

section Clock

variable {p : Params} {a : Isa.State} {σ : Hosted} {i : Inputs} {m : Mnemonic} {c : Cycle}
  {made : List Cycle} {low : Bool}

theorem Shown.pc (shown : Shown a σ) : σ.core.pc = a.pc :=
  congrArg (fun b : Isa.State => b.pc) shown.shows

theorem Shown.program (shown : Shown a σ) : σ.program = a.program :=
  congrArg Isa.State.program shown.shows

theorem Shown.entry (shown : Shown a σ) :
    σ.core.interruptEntryPending = a.interruptEntryPending :=
  congrArg Isa.State.interruptEntryPending shown.shows

/-- An enabled clock of a run. -/
theorem Hosted.Runs.running (runs : σ.Runs i) (enabled : i.clockEnable = true) : Running i :=
  ⟨runs.noInitialize, runs.noReset, enabled, runs.noDebug⟩

/-- A cycle that transfers nothing reads the word at the program counter. -/
structure Fetches (p : Params) (σ : Hosted) (i : Inputs) : Prop where
  word : i.programData = σ.program σ.core.pc
  bus : busCycle p σ.core i = .programRead σ.core.pc i.programData
  program : (σ.step p i).program = σ.program
  ioOutput : (σ.step p i).ioOutput = σ.ioOutput

theorem Hosted.Runs.fetches (runs : σ.Runs i) (enabled : i.clockEnable = true)
    (io : σ.core.ioPending = false)
    (table : (σ.core.tablePending && σ.core.tableTransferPhase) = false) : Fetches p σ i := by
  have address : programAddress σ.core = σ.core.pc := by
    unfold programAddress
    rw [table]
    rfl
  have noWrite : programWrite σ.core i = false := by
    unfold programWrite
    rw [Bool.and_assoc _ σ.core.tablePending, table]
    simp
  have noIo : ioRead σ.core i = false ∧ ioWrite σ.core i = false := by
    unfold ioRead ioWrite
    rw [io]
    simp
  have reads : programRead σ.core i = true := by
    unfold programRead
    rw [runs.noInitialize, runs.noReset, io, table]
    rfl
  refine ⟨?_, ?_, ?_, ?_⟩
  · rw [runs.served enabled reads, address]
  · unfold busCycle
    rw [noIo.1, noIo.2, noWrite, address]
    rfl
  · unfold Hosted.step
    rw [noWrite, Bool.and_false]
    rfl
  · unfold Hosted.step
    rw [noIo.2, Bool.and_false]
    rfl

/-- The core with another retirement flag and another read port of its data RAM. -/
def Hosted.held (σ : Hosted) (retired : Bool) (ram : InternalRam) : Hosted :=
  { σ with core := { σ.core with retired := retired, dataRam := ram } }

section Held

variable {retired : Bool} {ram : InternalRam}

theorem Underway.held (underway : Underway m a low σ.core)
    (memory : ram.memory = σ.core.dataRam.memory) :
    Underway m a low (σ.held retired ram).core :=
  ⟨underway.registers, underway.delay, underway.entry, underway.noEntry,
    memory.trans underway.data, underway.spans⟩

theorem Spanning.held (stage : Spanning a σ m c low)
    (memory : ram.memory = σ.core.dataRam.memory) : Spanning a (σ.held retired ram) m c low :=
  ⟨stage.underway.held memory, stage.found, stage.implemented, stage.fetched, stage.program,
    stage.ioOutput⟩

theorem machine_held (memory : ram.memory = σ.core.dataRam.memory) (cycleCount : ℕ) :
    machine (σ.held retired ram).core σ.program σ.ioOutput cycleCount =
      machine σ.core σ.program σ.ioOutput cycleCount := by
  unfold machine Hosted.held
  rw [memory]

theorem Control.held (stage : Control a σ m c low)
    (memory : ram.memory = σ.core.dataRam.memory) : Control a (σ.held retired ram) m c low :=
  ⟨stage.toSpanning.held memory,
    ⟨stage.pending.pending, stage.pending.operation, stage.pending.computed, stage.pending.io,
      stage.pending.table⟩,
    stage.family⟩

theorem TablePending.hosted {word : BitVec 16} {phase : Bool}
    (pending : TablePending m word a phase σ.core) :
    TablePending m word a phase (σ.held retired ram).core :=
  ⟨pending.pending, pending.phase, pending.operation, pending.programAddress, pending.address,
    pending.indirect, pending.selected, pending.increment, pending.decrement, pending.preserve,
    pending.next, pending.control, pending.computed, pending.io⟩

/-- The stage depends neither on the retirement flag nor on the read port. -/
theorem Stage.held (stage : Stage p a σ made) (memory : ram.memory = σ.core.dataRam.memory) :
    Stage p a (σ.held retired ram) made := by
  cases stage with
  | shown stage =>
      exact .shown ⟨(machine_held memory _).trans stage.shows,
        ⟨stage.idle.control, stage.idle.computed, stage.idle.io, stage.idle.table⟩⟩
  | control stage => exact .control (stage.held memory)
  | computed stage =>
      exact .computed ⟨stage.toSpanning.held memory,
        ⟨stage.pending.pending, stage.pending.operation, stage.pending.target,
          stage.pending.returnAddress, stage.pending.control, stage.pending.io,
          stage.pending.table⟩,
        stage.family, stage.enabled⟩
  | io stage =>
      exact .io ⟨stage.toSpanning.held memory,
        ⟨stage.pending.pending, stage.pending.operation, stage.pending.port,
          stage.pending.address, stage.pending.indirect, stage.pending.selected,
          stage.pending.increment, stage.pending.decrement, stage.pending.preserve,
          stage.pending.next, stage.pending.control, stage.pending.computed,
          stage.pending.table⟩,
        stage.family, stage.noFault⟩
  | tableFirst stage =>
      exact .tableFirst ⟨stage.toSpanning.held memory, stage.pending.hosted, stage.family,
        stage.noFault⟩
  | tableSecond stage =>
      exact .tableSecond ⟨stage.toSpanning.held memory, stage.pending.hosted, stage.family,
        stage.noFault, stage.prefetched⟩
  | parkedWord stage =>
      exact .parkedWord ⟨⟨(machine_held memory _).trans stage.shows,
        ⟨stage.idle.control, stage.idle.computed, stage.idle.io, stage.idle.table⟩,
        stage.entry, stage.refuses⟩, stage.illegal⟩
  | parkedOperand stage =>
      exact .parkedOperand ⟨⟨stage.toControl.held memory, stage.refused⟩, stage.illegal⟩

end Held

/-- A clock without enable. -/
theorem Stage.disabled (stage : Stage p a σ made) (runs : σ.Runs i)
    (disabled : i.clockEnable = false) : Stage p a (σ.step p i) made := by
  rcases step_disabled (p := p) (s := σ.core) runs.noInitialize runs.noReset disabled
    runs.noDebug with ⟨core, memory⟩
  have next : σ.step p i = σ.held false (Core.step p σ.core i).dataRam := by
    unfold Hosted.step Hosted.held
    rw [disabled, Bool.false_and, Bool.false_and, ← core]
    rfl
  rw [next]
  exact stage.held memory

/-! ## Refused words -/

/-- The core refuses the word it is to issue exactly when it refuses it in every state
with these registers. -/
theorem refusesWord_iff {s : State} {program : ProgramMemory} {ioOutput : BitVec 3 → BitVec 16}
    {cycleCount : ℕ} (shows : machine s program ioOutput cycleCount = a) (idle : Idle s)
    (entry : s.interruptEntryPending = false) (running : Running i)
    (word : i.programData = a.program a.pc) :
    instructionValid p s i = false ↔ RefusesWord p a := by
  unfold RefusesWord
  rw [← word]
  by_cases supported : ∃ m, mnemonic? i.programData = some m ∧ m.stackAccess = false
  · rcases supported with ⟨m, found, implemented⟩
    rw [instructionValid_issue found implemented idle entry running program ioOutput cycleCount,
      shows]
    constructor
    · intro invalid m' found'
      rw [found, Option.some_inj] at found'
      subst found'
      rw [Bool.and_eq_false_iff, Bool.or_eq_false_iff, Bool.not_eq_false'] at invalid
      rcases invalid with ⟨disabled, computed⟩ | fault
      · exact Or.inr (Or.inl ⟨computed, disabled⟩)
      · refine Or.inr (Or.inr ?_)
        intro none
        rw [none] at fault
        exact absurd fault (by decide)
    · intro refuses
      rcases refuses m found with stack | ⟨computed, disabled⟩ | fault
      · exact absurd (implemented.symm.trans stack) Bool.false_ne_true
      · rw [computed, disabled]
        rfl
      · rw [Bool.and_eq_false_iff, Option.isNone_eq_false_iff, Option.isSome_iff_ne_none]
        exact Or.inr fault
  · have accesses : ∀ m, mnemonic? i.programData = some m → m.stackAccess = true := by
      intro m found
      by_contra implemented
      rw [Bool.not_eq_true] at implemented
      exact supported ⟨m, found, implemented⟩
    constructor
    · exact fun _ m found => Or.inl (accesses m found)
    · exact fun _ => instructionValid_issue_unsupported idle entry (decode_invalid accesses)

/-- Where the memories of a spanning instruction are read next. -/
theorem Spanning.fetches (stage : Spanning a σ m c low) (runs : σ.Runs i)
    (enabled : i.clockEnable = true) (io : σ.core.ioPending = false)
    (table : (σ.core.tablePending && σ.core.tableTransferPhase) = false) :
    i.programData = a.program (a.pc + 1) ∧
      busCycle p σ.core i = .programRead (a.pc + 1) (a.program (a.pc + 1)) ∧
      (σ.step p i).program = a.program ∧ (σ.step p i).ioOutput = a.ioOutput := by
  have fetches : Fetches p σ i := runs.fetches enabled io table
  have pc : σ.core.pc = a.pc + 1 := congrArg (fun r : Registers => r.pc) stage.underway.registers
  have word := fetches.word
  have bus := fetches.bus
  rw [pc, stage.program] at word
  rw [pc, word] at bus
  exact ⟨word, bus, fetches.program.trans stage.program, fetches.ioOutput.trans stage.ioOutput⟩

theorem Control.fetches (stage : Control a σ m c low) (runs : σ.Runs i)
    (enabled : i.clockEnable = true) :
    i.programData = a.program (a.pc + 1) ∧
      busCycle p σ.core i = .programRead (a.pc + 1) (a.program (a.pc + 1)) ∧
      (σ.step p i).program = a.program ∧ (σ.step p i).ioOutput = a.ioOutput :=
  stage.toSpanning.fetches runs enabled stage.pending.io (by rw [stage.pending.table]; rfl)

/-- The core that reports an unsupported word and latches a request. -/
theorem Hosted.Runs.parks (runs : σ.Runs i) (enabled : i.clockEnable = true)
    (entry : σ.core.interruptEntryPending = false)
    (invalid : instructionValid p σ.core i = false) :
    ∃ ram : InternalRam, ram.memory = σ.core.dataRam.memory ∧
      (σ.step p i).core =
        { σ.core with
          retired := false
          illegal := true
          interruptPending := σ.core.interruptPending || !i.int
          dataRam := ram } := by
  rcases step_parked (p := p) entry invalid (runs.running enabled) with ⟨core, memory⟩
  exact ⟨_, memory, core⟩

/-- An enabled clock that is refused parks the core at the word. -/
theorem WordRefused.park (refused : WordRefused p a σ) (runs : σ.Runs i)
    (enabled : i.clockEnable = true) (invalid : instructionValid p σ.core i = false) :
    ParkedWord p a (σ.step p i) := by
  have idle := refused.idle
  have noEntry : σ.core.interruptEntryPending = false :=
    (congrArg Isa.State.interruptEntryPending refused.shows).trans refused.entry
  have fetches : Fetches p σ i := runs.fetches enabled idle.io (by rw [idle.table]; rfl)
  rcases runs.parks enabled noEntry invalid with ⟨ram, memory, core⟩
  refine ⟨⟨?_, ?_, refused.entry, refused.refuses⟩, ?_⟩
  · have same := congrArg (fun b : Isa.State =>
      { b with interruptPending := σ.core.interruptPending || !i.int }) refused.shows
    rw [core, fetches.program, fetches.ioOutput]
    unfold machine at same ⊢
    rw [memory]
    exact same
  · rw [core]
    exact ⟨idle.control, idle.computed, idle.io, idle.table⟩
  · rw [core]

/-- An enabled clock that is refused parks the core at the operand. -/
theorem OperandRefused.park (stage : OperandRefused a σ m c low) (runs : σ.Runs i)
    (enabled : i.clockEnable = true) (invalid : instructionValid p σ.core i = false) :
    ParkedOperand a (σ.step p i) m c (low || !i.int) := by
  rcases stage.fetches (p := p) runs enabled with ⟨-, -, program, ioOutput⟩
  rcases runs.parks enabled stage.underway.entry invalid with ⟨ram, memory, core⟩
  refine ⟨⟨⟨⟨?_, stage.found, stage.implemented, stage.fetched, program, ioOutput⟩, ?_,
    stage.family⟩, stage.refused⟩, ?_⟩
  · rw [core]
    refine ⟨?_, stage.underway.delay, stage.underway.entry, stage.underway.noEntry,
      memory.trans stage.underway.data, stage.underway.spans⟩
    have registers := congrArg (fun r : Registers =>
      { r with interruptPending := r.interruptPending || !i.int }) stage.underway.registers
    simpa only [Bool.or_assoc] using registers
  · rw [core]
    exact ⟨stage.pending.pending, stage.pending.operation, stage.pending.computed,
      stage.pending.io, stage.pending.table⟩
  · rw [core]

/-- An enabled clock that the core does not accept is at a word or an operand it refuses. -/
theorem Stage.refuses (stage : Stage p a σ made) (runs : σ.Runs i) (enabled : i.clockEnable = true)
    (entry : σ.core.interruptEntryPending = false)
    (invalid : instructionValid p σ.core i = false) :
    (made = [] ∧ WordRefused p a σ) ∨ ∃ m c low, made = [c] ∧ OperandRefused a σ m c low := by
  have running := runs.running enabled
  cases stage with
  | shown stage =>
      have fetches : Fetches p σ i :=
        runs.fetches enabled stage.idle.io (by rw [stage.idle.table]; rfl)
      have word := fetches.word
      rw [stage.pc, stage.program] at word
      refine Or.inl ⟨rfl, ?_, stage.idle, stage.entry.symm.trans entry,
        (refusesWord_iff stage.shows stage.idle entry running word).mp invalid⟩
      have pending : σ.core.interruptPending = a.interruptPending :=
        congrArg (fun b : Isa.State => b.interruptPending) stage.shows
      rw [pending]
      exact stage.shows
  | control stage =>
      have refused := instructionValid_control (p := p) stage.underway stage.pending running
        stage.family
      rw [invalid, (stage.fetches (p := p) runs enabled).1, eq_comm, beq_eq_false_iff_ne]
        at refused
      exact Or.inr ⟨_, _, _, rfl, stage, refused⟩
  | computed stage =>
      have valid := instructionValid_computed stage.underway stage.pending stage.family running
        stage.enabled
      exact absurd (invalid.symm.trans valid) Bool.false_ne_true
  | io stage =>
      have valid := instructionValid_io (p := p) stage.underway stage.pending running stage.family
        stage.noFault
      exact absurd (invalid.symm.trans valid) Bool.false_ne_true
  | tableFirst stage =>
      have valid := instructionValid_prefetch (p := p) stage.underway stage.pending running
      exact absurd (invalid.symm.trans valid) Bool.false_ne_true
  | tableSecond stage =>
      have valid := instructionValid_table (p := p) stage.underway stage.pending running
        stage.family stage.noFault
      exact absurd (invalid.symm.trans valid) Bool.false_ne_true
  | parkedWord stage => exact Or.inl ⟨rfl, stage.toWordRefused⟩
  | parkedOperand stage => exact Or.inr ⟨_, _, _, rfl, stage.toOperandRefused⟩

/-- An enabled clock that the core does not accept parks it. -/
theorem Stage.parks (stage : Stage p a σ made) (runs : σ.Runs i) (enabled : i.clockEnable = true)
    (entry : σ.core.interruptEntryPending = false)
    (invalid : instructionValid p σ.core i = false) :
    Stage p a (σ.step p i) made ∧ Stuck p a := by
  rcases stage.refuses runs enabled entry invalid with ⟨rfl, refused⟩ | ⟨m, c, low, rfl, refused⟩
  · exact ⟨.parkedWord (refused.park runs enabled invalid), refused.entry,
      Or.inl refused.refuses⟩
  · exact ⟨.parkedOperand (refused.park runs enabled invalid), refused.underway.noEntry,
      Or.inr ⟨m, refused.found, refused.family, refused.refused⟩⟩

/-- A word the core refuses is refused in every enabled clock. -/
theorem WordRefused.invalid (stage : WordRefused p a σ) (runs : σ.Runs i)
    (enabled : i.clockEnable = true) : instructionValid p σ.core i = false := by
  have entry : σ.core.interruptEntryPending = false :=
    (congrArg Isa.State.interruptEntryPending stage.shows).trans stage.entry
  have fetches : Fetches p σ i :=
    runs.fetches enabled stage.idle.io (by rw [stage.idle.table]; rfl)
  have pc : σ.core.pc = a.pc := congrArg (fun b : Isa.State => b.pc) stage.shows
  have program : σ.program = a.program := congrArg Isa.State.program stage.shows
  have word := fetches.word
  rw [pc, program] at word
  exact (refusesWord_iff stage.shows stage.idle entry (runs.running enabled) word).mpr
    stage.refuses

theorem OperandRefused.invalid (stage : OperandRefused a σ m c low) (runs : σ.Runs i)
    (enabled : i.clockEnable = true) : instructionValid p σ.core i = false := by
  rw [instructionValid_control (p := p) stage.underway stage.pending (runs.running enabled)
    stage.family, (stage.fetches (p := p) runs enabled).1]
  exact beq_eq_false_iff_ne.mpr stage.refused

/-! ## Issue -/

/-- The core accepts the word at the program counter. -/
structure Accepted (p : Params) (a : Isa.State) (σ : Hosted) (i : Inputs) (m : Mnemonic) :
    Prop where
  word : i.programData = a.program a.pc
  fetches : Fetches p σ i
  entry : σ.core.interruptEntryPending = false
  found : mnemonic? i.programData = some m
  implemented : m.stackAccess = false
  enabled : m.computedControlFlow = true → p.enableInferredComputedControl = true
  noFault : Isa.dataFault? m i.programData
    (machine σ.core σ.program σ.ioOutput a.cycleCount) = none

theorem Shown.accepted (shown : Shown a σ) (runs : σ.Runs i) (enabled : i.clockEnable = true)
    (entry : σ.core.interruptEntryPending = false) (valid : instructionValid p σ.core i = true) :
    ∃ m, Accepted p a σ i m := by
  have fetches : Fetches p σ i :=
    runs.fetches enabled shown.idle.io (by rw [shown.idle.table]; rfl)
  have word := fetches.word
  rw [shown.pc, shown.program] at word
  have accepts : ¬RefusesWord p a := by
    intro refuses
    have invalid := (refusesWord_iff (p := p) shown.shows shown.idle entry (runs.running enabled)
      word).mpr refuses
    exact absurd (invalid.symm.trans valid) Bool.false_ne_true
  unfold RefusesWord at accepts
  push Not at accepts
  rcases accepts with ⟨m, found, implemented, enabled, noFault⟩
  refine ⟨m, word, fetches, entry, by rw [word]; exact found, by simpa using implemented, ?_, ?_⟩
  · intro computed
    simpa using enabled computed
  · rw [word, shown.shows]
    exact noFault

/-- An accepted word retires unless it spans cycles. -/
theorem Accepted.retires (accepted : Accepted p a σ i m) (idle : Idle σ.core)
    (valid : instructionValid p σ.core i = true) :
    retirementBoundary p σ.core i = !spansCycles m := by
  have onIssue : retiresOnIssue m.operation = !spansCycles m := by
    cases m <;> rfl
  unfold retirementBoundary
  rw [accepted.entry, idle.control, idle.computed, idle.io, idle.table, valid,
    decoded_eq accepted.found accepted.implemented]
  exact onIssue

/-! ## Completion -/

/-- The clock completes the step. -/
def Finishes (p : Params) (a : Isa.State) (σ : Hosted) (i : Inputs) (made : List Cycle) : Prop :=
  ∃ b, Takes p a (made ++ [σ.cycle p i]) b ∧ Shown b (σ.step p i)

theorem strayed_eq {outcome : Isa.Outcome} (executed : outcome.executed = some m)
    (plain : m.computedControlFlow = false) : strayed a outcome = outcome.state := by
  unfold strayed
  rw [executed]
  dsimp only
  rw [plain]
  rfl

/-- A combinational read port reads the addressed word. -/
theorem ramReadData_eq (combinational : p.registerInternalRamRead = false) (s : State) :
    ramReadData p s i = s.dataRam.memory.read (dataAddress s i) := by
  unfold ramReadData
  rw [combinational, InternalRam.readData_async]

/-- The cycles of an instruction that is not `CALA` or `RET`. -/
theorem finishes_plain {outcome : Isa.Outcome}
    (step : Isa.step (pins (made ++ [σ.cycle p i])) a = .ok outcome)
    (executed : outcome.executed = some m) (implemented : m.stackAccess = false)
    (plain : m.computedControlFlow = false)
    (bus : outcome.bus = (made ++ [σ.cycle p i]).map Cycle.bus)
    (cycles : outcome.cycles = made.length + 1)
    (state : outcome.state = machine (σ.step p i).core (σ.step p i).program
      (σ.step p i).ioOutput outcome.state.cycleCount)
    (idle : Idle (σ.step p i).core) : Finishes p a σ i made := by
  refine ⟨outcome.state, ⟨outcome, ⟨step, ?_, ?_, fun _ => bus⟩, strayed_eq executed plain⟩,
    ⟨state.symm, idle⟩⟩
  · rw [cycles, List.length_append, List.length_singleton]
  · intro m' executed'
    rw [executed, Option.some_inj] at executed'
    subst executed'
    exact ⟨implemented, fun computed => absurd (plain.symm.trans computed) Bool.false_ne_true⟩

section Completion

variable (combinational : p.registerInternalRamRead = false)

include combinational

/-- A one-cycle instruction completes in its first cycle. -/
theorem Accepted.single (accepted : Accepted p a σ i m) (shown : Shown a σ) (runs : σ.Runs i)
    (enabled : i.clockEnable = true) (single : spansCycles m = false) :
    Finishes p a σ i [] := by
  have plain : m.computedControlFlow = false := by
    simp only [spansCycles, Bool.or_eq_false_iff] at single
    exact single.1.1.2
  have fresh : m.readsData = true → ramReadData p σ.core i =
      σ.core.dataRam.memory.read (σ.core.toRegisters.dataAddress m i.programData) := by
    intro reads
    rw [ramReadData_eq combinational, dataAddress_issue accepted.found accepted.implemented
      shown.idle accepted.entry (Mnemonic.dataAddressed_of_readsData reads)]
  have retires := issue_retires (p := p) accepted.found accepted.implemented shown.idle
    accepted.entry (runs.running enabled) σ.program σ.ioOutput a.cycleCount single
    accepted.noFault fresh (pins ([] ++ [σ.cycle p i]))
    (by rw [pins_int]; rfl)
  rw [shown.shows] at retires
  have step := Isa.step_of_instruction (shown.entry.symm.trans accepted.entry)
    accepted.word.symm accepted.found retires
  refine finishes_plain step rfl accepted.implemented plain ?_ rfl ?_ ?_
  · change _ = [busCycle p σ.core i]
    rw [accepted.fetches.bus]
  · rw [accepted.fetches.program, accepted.fetches.ioOutput]
    rfl
  · exact issue_idle (p := p) accepted.found accepted.implemented shown.idle accepted.entry
      (runs.running enabled) σ.program σ.ioOutput a.cycleCount single accepted.noFault

end Completion

/-- The interrupt entry completes in one cycle. -/
theorem Shown.enters (shown : Shown a σ) (runs : σ.Runs i) (enabled : i.clockEnable = true)
    (entry : σ.core.interruptEntryPending = true) : Finishes p a σ i [] := by
  have fetches : Fetches p σ i :=
    runs.fetches enabled shown.idle.io (by rw [shown.idle.table]; rfl)
  rcases entry_retires (p := p) shown.idle entry (runs.running enabled) σ.program σ.ioOutput
    a.cycleCount with ⟨enters, idle⟩
  rw [shown.shows] at enters
  have step : Isa.step (pins ([] ++ [σ.cycle p i])) a = .ok (Isa.enterInterrupt a) := by
    unfold Isa.step
    rw [← shown.entry, entry]
    rfl
  refine ⟨(Isa.enterInterrupt a).state, ⟨Isa.enterInterrupt a, ⟨step, rfl, nofun, ?_⟩, rfl⟩,
    ⟨?_, idle⟩⟩
  · intro _
    change _ = [busCycle p σ.core i]
    rw [fetches.bus, fetches.word, shown.pc, shown.program]
    rfl
  · rw [fetches.program, fetches.ioOutput, enters]
    rfl

/-- The operand cycle completes a branch. -/
theorem Control.finishes (stage : Control a σ m c (!c.int)) (runs : σ.Runs i)
    (enabled : i.clockEnable = true) (valid : instructionValid p σ.core i = true) :
    Finishes p a σ i [c] := by
  rcases stage.fetches (p := p) runs enabled with ⟨word, bus, program, ioOutput⟩
  have running := runs.running enabled
  have plain := (Mnemonic.twoWordControlFlow_apart stage.family).1
  have supported : i.programData.extractLsb' 12 4 = 0 := by
    rw [instructionValid_control (p := p) stage.underway stage.pending running stage.family,
      beq_iff_eq] at valid
    exact valid
  rcases control_retires (p := p) stage.underway stage.pending stage.family running a.program
    a.ioOutput (a.cycleCount + 2) (pins ([c] ++ [σ.cycle p i])) word.symm supported
    (by rw [pins_int]; simp [Hosted.cycle]) (pins_bio _ _) ⟨rfl, rfl, rfl⟩ with ⟨retires, idle⟩
  have made := (Isa.stepInstruction_control stage.family _ _ _).trans retires
  have step := Isa.step_of_instruction stage.underway.noEntry rfl stage.found made
  refine finishes_plain step rfl stage.implemented plain ?_ rfl ?_ idle
  · change [_, _] = [c.bus, busCycle p σ.core i]
    rw [stage.fetched, bus, word]
  · rw [program, ioOutput]
    rfl

/-- The second cycle completes `CALA` and `RET`. -/
theorem Computed.finishes (combinational : p.registerInternalRamRead = false)
    (stage : Computed p a σ m c) (runs : σ.Runs i) (enabled : i.clockEnable = true) :
    Finishes p a σ i [c] := by
  rcases stage.toSpanning.fetches (p := p) runs enabled stage.pending.io
    (by rw [stage.pending.table]; rfl) with ⟨word, -, program, ioOutput⟩
  have running := runs.running enabled
  have fresh : ramReadData p σ.core i = σ.core.dataRam.memory.read 0 := by
    rw [ramReadData_eq combinational, dataAddress_computed stage.underway stage.pending]
  rcases computed_retires stage.underway stage.pending stage.family running stage.enabled fresh
    (a.program a.pc) a.program a.ioOutput (a.cycleCount + 2) (pins ([c] ++ [σ.cycle p i]))
    (by rw [pins_int]; simp [Hosted.cycle]) ⟨rfl, rfl, rfl⟩ with ⟨retires, memory, idle⟩
  have made := (Isa.stepInstruction_computed stage.family _ (pins ([c] ++ [σ.cycle p i])) _).trans
    (congrArg Except.ok retires)
  have step := Isa.step_of_instruction stage.underway.noEntry rfl stage.found made
  refine ⟨_, ⟨_, ⟨step, rfl, ?_, ?_⟩, rfl⟩, ⟨?_, idle⟩⟩
  · intro m' executed
    cases executed
    exact ⟨stage.implemented, fun _ => stage.enabled⟩
  · intro plain
    exact absurd ((plain m rfl).symm.trans stage.family) Bool.false_ne_true
  · have family := stage.family
    unfold strayed
    dsimp only
    rw [family, program, ioOutput, ← word, ← memory]
    rfl

section Transfer

variable (combinational : p.registerInternalRamRead = false)

include combinational

/-- The operand word a transfer drives. -/
theorem programWriteData_eq (underway : Underway m a low σ.core)
    (address : dataAddress σ.core i = a.toRegisters.dataAddress m (a.program a.pc)) :
    programWriteData p σ.core i = Isa.operand m (a.program a.pc) a := by
  unfold programWriteData Isa.operand
  rw [ramReadData_eq combinational, address, underway.data]

/-- The bus and the memories in the transfer cycle of `IN` and `OUT`. -/
theorem Io.transfers (stage : Io a σ m c) (runs : σ.Runs i) (enabled : i.clockEnable = true)
    (inputs : Isa.Input) (input : ∀ port, inputs.ioInput port = i.ioReadData) :
    Isa.straightBus m (a.program a.pc) inputs a = [c.bus, busCycle p σ.core i] ∧
      (σ.step p i).program = a.program ∧
      (σ.step p i).ioOutput = Isa.straightOutput m (a.program a.pc) a := by
  have data : programWriteData p σ.core i = Isa.operand m (a.program a.pc) a :=
    programWriteData_eq combinational stage.underway (dataAddress_io stage.underway stage.pending)
  have strobes : ioRead σ.core i = (m == .in) ∧ ioWrite σ.core i = (m == .out) ∧
      programWrite σ.core i = false := by
    unfold ioRead ioWrite programWrite
    rw [runs.noInitialize, runs.noReset, stage.underway.entry, stage.pending.pending,
      stage.pending.operation, stage.pending.table]
    cases m <;> exact ⟨rfl, rfl, rfl⟩
  unfold busCycle Hosted.step
  rw [strobes.1, strobes.2.1, strobes.2.2, stage.fetched, stage.pending.port, data, enabled,
    stage.program, stage.ioOutput]
  rcases Mnemonic.ioTransfer_iff.mp stage.family with rfl | rfl
  · refine ⟨?_, rfl, rfl⟩
    change [_, Isa.BusCycle.ioRead _ (inputs.ioInput _)] = _
    rw [input]
    rfl
  · exact ⟨rfl, rfl, rfl⟩

/-- The transfer cycle completes `IN` and `OUT`. -/
theorem Io.finishes (stage : Io a σ m c) (runs : σ.Runs i) (enabled : i.clockEnable = true) :
    Finishes p a σ i [c] := by
  have plain := (Mnemonic.ioTransfer_apart stage.family).2.1
  have input (port : BitVec 3) :
      (pins ([c] ++ [σ.cycle p i])).ioInput port = i.ioReadData := pins_ioInput _ _ _
  rcases stage.transfers combinational runs enabled _ input with ⟨bus, program, ioOutput⟩
  rcases io_retires (p := p) stage.underway stage.pending (runs.running enabled) stage.family
    stage.found stage.noFault a.program (Isa.straightOutput m (a.program a.pc) a)
    (a.cycleCount + 2) (pins ([c] ++ [σ.cycle p i])) (by rw [pins_int]; simp [Hosted.cycle])
    (input _) ⟨rfl, rfl, rfl⟩ with ⟨retires, idle⟩
  have transfers : (m.tableTransfer || m.ioTransfer) = true := by
    rw [stage.family, Bool.or_true]
  have made := (Isa.stepInstruction_transfer transfers _ _ _).trans retires
  have step := Isa.step_of_instruction stage.underway.noEntry rfl stage.found made
  refine finishes_plain step rfl stage.implemented plain bus rfl ?_ idle
  rw [program, ioOutput]
  rfl

/-- The bus and the memories in the transfer cycle of a table access. -/
theorem TableSecond.transfers {c' : Cycle} (stage : TableSecond a σ m c c') (runs : σ.Runs i)
    (enabled : i.clockEnable = true) (inputs : Isa.Input) :
    Isa.straightBus m (a.program a.pc) inputs a = [c.bus, c'.bus, busCycle p σ.core i] ∧
      (m = .tblr → a.program (a.accumulator.extractLsb' 0 12) = i.programData) ∧
      (σ.step p i).program = Isa.straightProgram m (a.program a.pc) a ∧
      (σ.step p i).ioOutput = a.ioOutput := by
  have data : programWriteData p σ.core i = Isa.operand m (a.program a.pc) a :=
    programWriteData_eq combinational stage.underway
      (dataAddress_table stage.underway stage.pending)
  have address : programAddress σ.core = a.accumulator.extractLsb' 0 12 := by
    unfold programAddress
    rw [stage.pending.pending, stage.pending.phase, stage.underway.entry,
      stage.pending.programAddress]
    rfl
  have strobes : ioRead σ.core i = false ∧ ioWrite σ.core i = false ∧
      programWrite σ.core i = (m == .tblw) ∧ programRead σ.core i = (m == .tblr) := by
    have family := stage.family
    unfold ioRead ioWrite programWrite programRead
    rw [runs.noInitialize, runs.noReset, stage.underway.entry, stage.pending.pending,
      stage.pending.phase, stage.pending.operation, stage.pending.io]
    cases m <;> first | exact ⟨rfl, rfl, rfl, rfl⟩ | exact absurd family (by decide)
  have served := runs.served enabled
  rw [strobes.2.2.2, address, stage.program] at served
  unfold busCycle Hosted.step
  rw [strobes.1, strobes.2.1, strobes.2.2.1, stage.fetched, stage.prefetched, address, data,
    enabled, stage.program, stage.ioOutput]
  rcases Mnemonic.tableTransfer_iff.mp stage.family with rfl | rfl
  · rw [served rfl]
    exact ⟨rfl, fun _ => rfl, rfl, rfl⟩
  · exact ⟨rfl, nofun, rfl, rfl⟩

/-- The transfer cycle completes a table access. -/
theorem TableSecond.finishes {c' : Cycle} (stage : TableSecond a σ m c c') (runs : σ.Runs i)
    (enabled : i.clockEnable = true) : Finishes p a σ i [c, c'] := by
  have plain := (Mnemonic.tableTransfer_apart stage.family).2.1
  rcases stage.transfers combinational runs enabled (pins ([c, c'] ++ [σ.cycle p i])) with
    ⟨bus, read, program, ioOutput⟩
  rcases table_retires (p := p) stage.underway stage.pending (runs.running enabled) stage.family
    stage.found stage.noFault (Isa.straightProgram m (a.program a.pc) a) a.ioOutput
    (a.cycleCount + 3) (pins ([c, c'] ++ [σ.cycle p i]))
    (by rw [pins_int]; simp [Hosted.cycle]) read ⟨rfl, rfl, rfl⟩ with ⟨retires, idle⟩
  have transfers : (m.tableTransfer || m.ioTransfer) = true := by
    rw [stage.family, Bool.true_or]
  have made := (Isa.stepInstruction_transfer transfers _ _ _).trans retires
  have step := Isa.step_of_instruction stage.underway.noEntry rfl stage.found made
  refine finishes_plain step rfl stage.implemented plain bus rfl ?_ idle
  rw [program, ioOutput]
  rfl

end Transfer

/-! ## Cycles within an instruction -/

/-- The first cycle of an instruction of several. -/
theorem Accepted.starts (accepted : Accepted p a σ i m) (shown : Shown a σ) (runs : σ.Runs i)
    (enabled : i.clockEnable = true) (spans : spansCycles m = true) :
    Stage p a (σ.step p i) [σ.cycle p i] := by
  have running := runs.running enabled
  have fetches := accepted.fetches
  have found : mnemonic? (a.program a.pc) = some m := by
    rw [← accepted.word]
    exact accepted.found
  have noFault : Isa.dataFault? m (a.program a.pc) a = none := by
    have noFault := accepted.noFault
    rwa [shown.shows, accepted.word] at noFault
  have spanning {low : Bool} (underway : Underway m a low (σ.step p i).core) :
      Spanning a (σ.step p i) m (σ.cycle p i) low := by
    refine ⟨underway, found, accepted.implemented, ?_, fetches.program.trans shown.program,
      fetches.ioOutput.trans (congrArg Isa.State.ioOutput shown.shows)⟩
    change busCycle p σ.core i = _
    rw [fetches.bus, shown.pc, accepted.word]
  have family : m.twoWordControlFlow = true ∨ m.computedControlFlow = true ∨
      m.tableTransfer = true ∨ m.ioTransfer = true := by
    simpa [spansCycles, or_assoc] using spans
  rcases family with family | family | family | family
  · have issued := issue_control (p := p) accepted.found accepted.implemented shown.idle
      accepted.entry running σ.program σ.ioOutput a.cycleCount family
    rw [shown.shows] at issued
    exact .control ⟨spanning issued.1, issued.2, family⟩
  · have issued := issue_computed (p := p) accepted.found accepted.implemented shown.idle
      accepted.entry running σ.program σ.ioOutput a.cycleCount family (accepted.enabled family)
    rw [shown.shows] at issued
    exact .computed ⟨spanning issued.1, issued.2, family, accepted.enabled family⟩
  · have issued := issue_table (p := p) accepted.found accepted.implemented shown.idle
      accepted.entry running σ.program σ.ioOutput a.cycleCount family accepted.noFault
    rw [shown.shows, accepted.word] at issued
    exact .tableFirst ⟨spanning issued.1, issued.2, family, noFault⟩
  · have issued := issue_io (p := p) accepted.found accepted.implemented shown.idle
      accepted.entry running σ.program σ.ioOutput a.cycleCount family accepted.noFault
    rw [shown.shows, accepted.word] at issued
    exact .io ⟨spanning issued.1, issued.2, family, noFault⟩

/-- The discarded prefetch of a table access. -/
theorem TableFirst.prefetches (stage : TableFirst a σ m c) (runs : σ.Runs i)
    (enabled : i.clockEnable = true) : TableSecond a (σ.step p i) m c (σ.cycle p i) := by
  rcases stage.toSpanning.fetches (p := p) runs enabled stage.pending.io
    (by rw [stage.pending.phase, Bool.and_false]) with ⟨word, bus, program, ioOutput⟩
  rcases table_prefetches (p := p) stage.underway stage.pending (runs.running enabled) with
    ⟨underway, pending⟩
  exact ⟨⟨underway, stage.found, stage.implemented, stage.fetched, program, ioOutput⟩, pending,
    stage.family, stage.noFault, bus⟩

/-! ## The simulation -/

/-- An enabled clock that the core accepts goes on with the step underway, or completes it
as the machine does. -/
theorem Stage.accepts (combinational : p.registerInternalRamRead = false)
    (stage : Stage p a σ made) (runs : σ.Runs i) (enabled : i.clockEnable = true)
    (accepts : σ.core.interruptEntryPending = true ∨ instructionValid p σ.core i = true) :
    if σ.core.interruptEntryPending || retirementBoundary p σ.core i then Finishes p a σ i made
    else Stage p a (σ.step p i) (made ++ [σ.cycle p i]) := by
  have running := runs.running enabled
  have valid (entry : σ.core.interruptEntryPending = false) :
      instructionValid p σ.core i = true :=
    accepts.resolve_left (by rw [entry]; exact Bool.false_ne_true)
  cases stage with
  | shown stage =>
      rcases Bool.eq_false_or_eq_true σ.core.interruptEntryPending with entry | entry
      · rw [entry, Bool.true_or, if_pos rfl]
        exact stage.enters runs enabled entry
      · rcases stage.accepted runs enabled entry (valid entry) with ⟨m, accepted⟩
        rw [entry, Bool.false_or, accepted.retires stage.idle (valid entry)]
        rcases Bool.eq_false_or_eq_true (spansCycles m) with spans | single
        · rw [spans, if_neg (by decide)]
          exact accepted.starts stage runs enabled spans
        · rw [single, if_pos (by decide)]
          exact accepted.single combinational stage runs enabled single
  | control stage =>
      have valid := valid stage.underway.entry
      rw [(retires_control stage.underway stage.pending valid).1, Bool.or_true, if_pos rfl]
      exact stage.finishes runs enabled valid
  | computed stage =>
      have valid := valid stage.underway.entry
      rw [(retires_computed stage.underway stage.pending valid).1, Bool.or_true, if_pos rfl]
      exact stage.finishes combinational runs enabled
  | io stage =>
      have valid := valid stage.underway.entry
      rw [(retires_io stage.underway stage.pending valid).1, Bool.or_true, if_pos rfl]
      exact stage.finishes combinational runs enabled
  | tableFirst stage =>
      have within : retirementBoundary p σ.core i = false := by
        unfold retirementBoundary
        rw [stage.underway.entry, stage.pending.control, stage.pending.computed,
          stage.pending.pending, stage.pending.phase]
        rfl
      rw [stage.underway.entry, within, if_neg (by decide)]
      exact .tableSecond (stage.prefetches runs enabled)
  | tableSecond stage =>
      have valid := valid stage.underway.entry
      rw [(retires_table stage.underway stage.pending valid).1, Bool.or_true, if_pos rfl]
      exact stage.finishes combinational runs enabled
  | parkedWord stage =>
      have entry : σ.core.interruptEntryPending = false :=
        (congrArg Isa.State.interruptEntryPending stage.shows).trans stage.entry
      exact absurd ((stage.invalid runs enabled).symm.trans (valid entry)) Bool.false_ne_true
  | parkedOperand stage =>
      exact absurd ((stage.invalid (p := p) runs enabled).symm.trans
        (valid stage.underway.entry)) Bool.false_ne_true

end Clock

namespace Hosted

variable {p : Params}

theorem cycle?_some {σ : Hosted} {i : Inputs} {c : Cycle}
    (some : (device p).cycle? σ i = .some c) :
    i.clockEnable = true ∧
      (σ.core.interruptEntryPending = true ∨ instructionValid p σ.core i = true) ∧
        c = σ.cycle p i := by
  unfold device at some
  have both : (i.clockEnable = true ∧
      (σ.core.interruptEntryPending = true ∨ instructionValid p σ.core i = true)) ∧
        σ.cycle p i = c := by
    simpa using some
  exact ⟨both.1.1, both.1.2, both.2.symm⟩

theorem cycle?_none {σ : Hosted} {i : Inputs} (none : (device p).cycle? σ i = .none) :
    i.clockEnable = false ∨
      (i.clockEnable = true ∧ σ.core.interruptEntryPending = false ∧
        instructionValid p σ.core i = false) := by
  unfold device at none
  have either : i.clockEnable = true →
      σ.core.interruptEntryPending = false ∧ instructionValid p σ.core i = false := by
    simpa using none
  rcases Bool.eq_false_or_eq_true i.clockEnable with enabled | disabled
  · exact Or.inr ⟨enabled, either enabled⟩
  · exact Or.inl disabled

/-- The core simulates the instruction-level machine, its stray stores apart. -/
theorem simulates (combinational : p.registerInternalRamRead = false) :
    Clocked.Simulates (device p) Runs (Takes p) (fun a made σ => Stage p a σ made) where
  pauses := by
    intro a made σ i stage runs none
    rcases cycle?_none none with disabled | ⟨enabled, entry, invalid⟩
    · exact stage.disabled runs disabled
    · exact (stage.parks runs enabled entry invalid).1
  continues := by
    intro a made σ i cycle stage runs some goesOn
    rcases cycle?_some some with ⟨enabled, accepts, rfl⟩
    have next := stage.accepts combinational runs enabled accepts
    replace goesOn : (σ.core.interruptEntryPending || retirementBoundary p σ.core i) = false :=
      goesOn
    rwa [goesOn, if_neg Bool.false_ne_true] at next
  completes := by
    intro a made σ i cycle stage runs some ends
    rcases cycle?_some some with ⟨enabled, accepts, rfl⟩
    have next := stage.accepts combinational runs enabled accepts
    replace ends : (σ.core.interruptEntryPending || retirementBoundary p σ.core i) = true := ends
    rw [ends, if_pos rfl] at next
    rcases next with ⟨b, takes, shown⟩
    exact ⟨b, takes, .shown shown⟩

/-- A completed step shows the state of the machine. -/
theorem completes_shown (combinational : p.registerInternalRamRead = false) {a b : Isa.State}
    {made : List Cycle} {σ : Hosted} {i : Inputs} {cycle : Cycle} (stage : Stage p a σ made)
    (runs : σ.Runs i) (some : (device p).cycle? σ i = .some cycle)
    (ends : (device p).completes σ i = true) (takes : Takes p a (made ++ [cycle]) b) :
    Shown b ((device p).next σ i) := by
  rcases cycle?_some some with ⟨enabled, accepts, rfl⟩
  have next := stage.accepts combinational runs enabled accepts
  replace ends : (σ.core.interruptEntryPending || retirementBoundary p σ.core i) = true := ends
  rw [ends, if_pos rfl] at next
  rcases next with ⟨b', takes', shown⟩
  have same : b' = b := takes'.unique takes
  rwa [same] at shown

/-- The cycles a step has yet to make, at most. -/
def remaining (made : List Cycle) (_ : Hosted) : ℕ := 3 - made.length

theorem length_le {a : Isa.State} {σ : Hosted} {made : List Cycle} (stage : Stage p a σ made) :
    made.length ≤ 2 := by
  cases stage <;> simp

/-- The core keeps pace: every enabled clock is a cycle unless it is parked. -/
theorem paced : Clocked.Paced (device p) Runs (fun a made σ => Stage p a σ made) (Stuck p)
    Inputs.clockEnable remaining 3 where
  pauses := by
    intro a made σ i _ _ disabled
    refine ⟨?_, Nat.le_refl _⟩
    unfold device
    dsimp only
    rw [disabled]
    rfl
  waits := by
    intro a made σ i stage runs free enabled none
    rcases cycle?_none none with disabled | ⟨_, entry, invalid⟩
    · exact absurd (disabled.symm.trans enabled) Bool.false_ne_true
    · exact absurd (stage.parks runs enabled entry invalid).2 free
  continues := by
    intro a made σ i cycle stage _ _ _
    have short := length_le stage
    unfold remaining
    rw [List.length_append, List.length_singleton]
    omega
  completes := by
    intro a made σ i cycle stage _ _ _
    have short := length_le stage
    unfold remaining
    rw [List.length_nil]
    omega

/-! ### An environment -/

/-- The clock with the answer of the program memory. -/
def answered (σ : Hosted) (i : Inputs) : Inputs :=
  { i with programData := σ.program (programAddress σ.core) }

/-- A run in which program memory answers every clock. -/
def attended (p : Params) (σ : Hosted) : List Inputs → List Inputs
  | [] => []
  | i :: clocks => σ.answered i :: attended p (σ.step p (σ.answered i)) clocks

/-- The memory can answer every run. -/
theorem admits_attended (σ : Hosted) {clocks : List Inputs}
    (quiet : ∀ i ∈ clocks, i.initializeRequest = false ∧ i.resetRequest = false ∧
      i.debugDataWrite = false) : (device p).Admits Runs σ (attended p σ clocks) := by
  induction clocks generalizing σ with
  | nil => trivial
  | cons i clocks ih =>
      rcases quiet i List.mem_cons_self with ⟨noInitialize, noReset, noDebug⟩
      refine ⟨⟨noInitialize, noReset, noDebug, fun _ _ => rfl⟩, ?_⟩
      exact ih _ fun j member => quiet j (List.mem_cons_of_mem i member)

/-- A run of one repeated clock. -/
theorem admits_repeated (σ : Hosted) {i : Inputs}
    (quiet : i.initializeRequest = false ∧ i.resetRequest = false ∧ i.debugDataWrite = false)
    (count : ℕ) : (device p).Admits Runs σ (attended p σ (List.replicate count i)) := by
  apply admits_attended
  intro j member
  rw [List.eq_of_mem_replicate member]
  exact quiet

end Hosted

/-- What the core does not complete raises in the machine, or is `PUSH`, `POP` or a computed
transfer the parameter leaves out. -/
theorem stuck_iff {p : Params} {a : Isa.State} :
    Stuck p a ↔ a.interruptEntryPending = false ∧
      ∀ inputs outcome, Isa.step inputs a = .ok outcome →
        ∃ m, outcome.executed = some m ∧
          (m.stackAccess = true ∨
            (m.computedControlFlow = true ∧ p.enableInferredComputedControl = false)) := by
  constructor
  · rintro ⟨entry, refuses⟩
    refine ⟨entry, ?_⟩
    intro inputs outcome made
    rcases Isa.step_supported made entry with ⟨m, found, executed, noFault, operand⟩
    refine ⟨m, executed, ?_⟩
    rcases refuses with refuses | ⟨m', found', family, refused⟩
    · rcases refuses m found with stack | computed | fault
      · exact Or.inl stack
      · exact Or.inr computed
      · exact absurd noFault fault
    · rw [found, Option.some_inj] at found'
      subst found'
      exact absurd (operand family) refused
  · rintro ⟨entry, goes⟩
    refine ⟨entry, ?_⟩
    by_contra free
    rw [not_or] at free
    rcases free with ⟨accepts, operand⟩
    unfold RefusesWord at accepts
    push Not at accepts
    rcases accepts with ⟨m, found, implemented, enabled, noFault⟩
    have supported (family : m.twoWordControlFlow = true) :
        (a.program (a.pc + 1)).extractLsb' 12 4 = 0 := by
      by_contra refused
      exact operand ⟨m, found, family, refused⟩
    rcases Isa.step_completes entry found noFault supported (pins []) with
      ⟨outcome, made, executed⟩
    rcases goes _ _ made with ⟨m', executed', refused⟩
    rw [executed, Option.some_inj] at executed'
    subst executed'
    rcases refused with stack | ⟨computed, disabled⟩
    · exact implemented stack
    · exact enabled computed disabled

/-- A step the core takes starts from a state it completes. -/
theorem Takes.free {p : Params} {a b : Isa.State} {made : List Cycle} (takes : Takes p a made b) :
    ¬Stuck p a := by
  rcases takes with ⟨outcome, executes, -⟩
  intro stuck
  rcases (stuck_iff.mp stuck).2 _ _ executes.step with ⟨m, executed, refused⟩
  rcases executes.implemented m executed with ⟨plain, enabled⟩
  rcases refused with access | ⟨computed, disabled⟩
  · exact absurd (plain.symm.trans access) Bool.false_ne_true
  · exact absurd (disabled.symm.trans (enabled computed)) Bool.false_ne_true

end Tms32010.Rtl.Core
