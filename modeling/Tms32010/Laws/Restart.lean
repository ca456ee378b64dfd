import Tms32010.Laws.PipelineRuns
import Tms32010.Rtl.MisterRun

/-!
# Clean restart

A reset pulse from any state of the wrapper. While the reset is active no transfer is
accepted and the core makes no cycle, so its registers and its data RAM stay those of the
last core cycle. The reset is recognized before it is released; the release opens with a
read of program address zero, and the run from there is a run of the reference model.
-/

namespace Tms32010.Rtl

open Model (Tms32010Model trajectory embed)

/-! ## Registers over a reset -/

/-- The registers a reset keeps. -/
structure Retains (kept registers : Registers) : Prop where
  accumulator : registers.accumulator = kept.accumulator
  tRegister : registers.tRegister = kept.tRegister
  productRegister : registers.productRegister = kept.productRegister
  auxiliaryRegister0 : registers.auxiliaryRegister0 = kept.auxiliaryRegister0
  auxiliaryRegister1 : registers.auxiliaryRegister1 = kept.auxiliaryRegister1
  auxiliaryRegisterPointer : registers.auxiliaryRegisterPointer = kept.auxiliaryRegisterPointer
  dataPagePointer : registers.dataPagePointer = kept.dataPagePointer
  stack : registers.stack = kept.stack
  overflowFlag : registers.overflowFlag = kept.overflowFlag
  overflowMode : registers.overflowMode = kept.overflowMode

theorem Retains.refl (kept : Registers) : Retains kept kept :=
  ⟨rfl, rfl, rfl, rfl, rfl, rfl, rfl, rfl, rfl, rfl⟩

theorem Retains.trans {kept middle registers : Registers} (first : Retains kept middle)
    (second : Retains middle registers) : Retains kept registers where
  accumulator := second.accumulator.trans first.accumulator
  tRegister := second.tRegister.trans first.tRegister
  productRegister := second.productRegister.trans first.productRegister
  auxiliaryRegister0 := second.auxiliaryRegister0.trans first.auxiliaryRegister0
  auxiliaryRegister1 := second.auxiliaryRegister1.trans first.auxiliaryRegister1
  auxiliaryRegisterPointer :=
    second.auxiliaryRegisterPointer.trans first.auxiliaryRegisterPointer
  dataPagePointer := second.dataPagePointer.trans first.dataPagePointer
  stack := second.stack.trans first.stack
  overflowFlag := second.overflowFlag.trans first.overflowFlag
  overflowMode := second.overflowMode.trans first.overflowMode

/-- The other registers are the program counter and the interrupt flags. -/
theorem Retains.eq {kept registers : Registers} (retains : Retains kept registers) :
    registers =
      { kept with
        pc := registers.pc
        interruptMask := registers.interruptMask
        interruptPending := registers.interruptPending } := by
  cases registers
  rcases retains with ⟨rfl, rfl, rfl, rfl, rfl, rfl, rfl, rfl, rfl, rfl⟩
  rfl

namespace Core

/-- The registers a recognized reset clears. -/
structure Cleared (s : State) : Prop where
  pc : s.pc = 0
  interruptMask : s.interruptMask = true
  interruptPending : s.interruptPending = false
  interruptDelayOne : s.interruptDelayOne = false
  interruptEntryPending : s.interruptEntryPending = false

section Clock

variable {p : Params} {s : State} {i : Inputs}

/-- Without a cycle the registers are reset or keep their values. -/
theorem nextRegisters_disabled (noInitialize : i.initializeRequest = false)
    (disabled : i.clockEnable = false) :
    nextRegisters p s i = if i.resetRequest then resetCycle s else { s with retired := false } := by
  unfold nextRegisters
  rw [noInitialize, disabled]
  rfl

/-- Without a cycle the core keeps its registers, whether it is reset or not. -/
theorem step_retains (noInitialize : i.initializeRequest = false)
    (disabled : i.clockEnable = false) : Retains s.toRegisters (step p s i).toRegisters := by
  change Retains s.toRegisters (nextRegisters p s i).toRegisters
  rw [nextRegisters_disabled noInitialize disabled]
  split_ifs
  · exact ⟨rfl, rfl, rfl, rfl, rfl, rfl, rfl, rfl, rfl, rfl⟩
  · exact Retains.refl s.toRegisters

theorem Cleared.of_registers {registers : State} (cleared : Cleared registers)
    (same : nextRegisters p s i = registers) : Cleared (step p s i) := by
  subst same
  exact ⟨cleared.pc, cleared.interruptMask, cleared.interruptPending, cleared.interruptDelayOne,
    cleared.interruptEntryPending⟩

theorem cleared_resetCycle (s : State) : Cleared (resetCycle s) := ⟨rfl, rfl, rfl, rfl, rfl⟩

/-- What a reset has cleared stays so without a cycle. -/
theorem step_cleared (cleared : Cleared s) (noInitialize : i.initializeRequest = false)
    (disabled : i.clockEnable = false) : Cleared (step p s i) := by
  refine Cleared.of_registers ?_ (nextRegisters_disabled noInitialize disabled)
  split_ifs
  · exact cleared_resetCycle s
  · exact ⟨cleared.pc, cleared.interruptMask, cleared.interruptPending,
      cleared.interruptDelayOne, cleared.interruptEntryPending⟩

/-- A reset clears. -/
theorem step_reset (noInitialize : i.initializeRequest = false) (reset : i.resetRequest = true) :
    Cleared (step p s i) := by
  apply (cleared_resetCycle s).of_registers
  unfold nextRegisters
  rw [noInitialize, reset]
  rfl

/-- Without a cycle only the debug port writes the data RAM. -/
theorem step_memory_disabled (disabled : i.clockEnable = false) :
    (step p s i).dataRam.memory =
      if i.debugDataWrite then s.dataRam.memory.write i.debugDataAddress i.debugData
      else s.dataRam.memory := by
  have ports : (ramInputs p s i).write = false ∧
      (ramInputs p s i).debugWrite = i.debugDataWrite ∧
      (ramInputs p s i).debugAddress = i.debugDataAddress ∧
      (ramInputs p s i).debugData = i.debugData := by
    refine ⟨?_, rfl, rfl, rfl⟩
    unfold ramInputs
    rw [disabled]
    simp
  rcases ports with ⟨write, debugWrite, debugAddress, debugData⟩
  unfold step
  rw [InternalRam.step_memory]
  unfold InternalRam.nextMemory
  rw [write, debugWrite, debugAddress, debugData, Bool.false_and, if_neg Bool.false_ne_true]
  cases i.debugDataWrite
  · rfl
  · rw [Bool.true_and, if_pos rfl]
    split_ifs with valid
    · rfl
    · rw [DataRam.addressValid_iff] at valid
      unfold DataRam.write
      rw [dif_neg valid]

end Clock

end Core

namespace Mister

/-! ## Clocks without a core cycle -/

/-- The core makes a cycle. -/
def coreCycle (σ : Hosted) (i : Inputs) : Bool :=
  Slice.coreExecuteBoundary σ.wrapper.pipeline (sliceInputs σ.wrapper i)

/-- The data memory after the debug port of a clock. -/
def debugged (memory : DataRam) (i : Inputs) : DataRam :=
  if i.debugDataWrite then memory.write i.debugDataAddress i.debugData else memory

section Clock

variable {σ : Hosted} {i : Inputs}

/-- A reset stops the core. -/
theorem coreCycle_active (active : resetActive σ.wrapper i = true) : coreCycle σ i = false := by
  unfold coreCycle Slice.coreExecuteBoundary
  rw [fetchBoundary_eq, active, Bool.not_true, Bool.and_false, Bool.false_and]

/-- A transfer is a cycle of the core. -/
theorem accepted_idle (idle : coreCycle σ i = false) {request : Request}
    (taken : accepted σ.wrapper i = some request) :
    ∃ address, request = .programRead address := by
  unfold coreCycle Slice.coreExecuteBoundary at idle
  rcases Bool.eq_false_or_eq_true
    (Slice.fetchBoundary σ.wrapper.pipeline (sliceInputs σ.wrapper i)) with fetch | quiet
  · rw [fetch, Bool.true_and, Bool.or_eq_false_iff] at idle
    rcases Slice.transfers_unready idle.1 with ⟨io, table⟩
    rw [accepted_of_fetch fetch] at taken
    unfold Slice.programWrite Slice.ioRead Slice.ioWrite at taken
    rw [io, table] at taken
    simp only [Bool.false_and, Bool.false_eq_true, if_false] at taken
    exact ⟨_, (Option.some.inj taken).symm⟩
  · exact accepted_quiet quiet taken

/-- The core of the wrapper after a clock without a cycle. -/
theorem step_core_idle (idle : coreCycle σ i = false) :
    (σ.step i).wrapper.pipeline.core =
      Core.step Slice.params σ.wrapper.pipeline.core
        (Slice.coreInputs σ.wrapper.pipeline (sliceInputs σ.wrapper i) false) := by
  have whole := Slice.step_core σ.wrapper.pipeline (sliceInputs σ.wrapper i)
  unfold coreCycle at idle
  rw [idle] at whole
  exact whole

/-- What a clock without a core cycle keeps. -/
theorem step_idle (noInitialize : i.resetI = false) (idle : coreCycle σ i = false) :
    Retains σ.wrapper.pipeline.core.toRegisters
        (σ.step i).wrapper.pipeline.core.toRegisters ∧
      (σ.step i).wrapper.pipeline.core.dataRam.memory =
        debugged σ.wrapper.pipeline.core.dataRam.memory i ∧
      (σ.step i).program = σ.program ∧ (σ.step i).ioOutput = σ.ioOutput := by
  rw [step_core_idle idle]
  refine ⟨Core.step_retains noInitialize rfl, Core.step_memory_disabled rfl, ?_, ?_⟩
  · unfold Hosted.step
    cases taken : accepted σ.wrapper i with
    | none => rfl
    | some request =>
        rcases accepted_idle idle taken with ⟨address, rfl⟩
        rfl
  · unfold Hosted.step
    cases taken : accepted σ.wrapper i with
    | none => rfl
    | some request =>
        rcases accepted_idle idle taken with ⟨address, rfl⟩
        rfl

/-- The end of a machine cycle under reset recognizes it. -/
theorem step_recognized (noInitialize : i.resetI = false)
    (active : resetActive σ.wrapper i = true) (ends : endsCycle σ.wrapper i = true) :
    Core.Cleared (σ.step i).wrapper.pipeline.core := by
  rw [step_core_idle (coreCycle_active active)]
  apply Core.step_reset noInitialize
  rw [← pipelineBoundary_endsCycle] at ends
  rcases Slice.pipelineBoundary_enabled ends with ⟨-, enabled, last⟩
  change Slice.coreReset σ.wrapper.pipeline (sliceInputs σ.wrapper i) = true
  unfold Slice.coreReset
  rw [enabled, last]
  exact active

end Clock

/-! ## The release -/

/-- The enabled clocks the wrapper is past the end of a reset, up to its first request. -/
structure Opening (s : State) (enabled : ℕ) : Prop where
  early : enabled ≤ 9
  position : (phase s).toNat = enabled % 4
  seen : s.pipeline.bus.releaseBoundarySeen = decide (4 ≤ enabled)
  active : s.pipeline.bus.active = decide (8 ≤ enabled)
  address : s.pipeline.bus.address = 0
  empty : s.pipeline.fetchExecute.executeValid = false
  free : s.memoryWait = false

section Opening

variable {s : State} {i : Inputs} {enabled : ℕ}

/-- The end of a machine cycle under reset starts the release. -/
theorem Opening.start (noInitialize : i.resetI = false) (active : resetActive s i = true)
    (ends : endsCycle s i = true) : Opening (step s i) 0 := by
  rw [← pipelineBoundary_endsCycle] at ends
  have last := beq_iff_eq.mp (Slice.pipelineBoundary_enabled ends).2.2
  have flushed := Slice.step_flush (i := sliceInputs s i) noInitialize ends active
  have free := memoryWait_active active
  have slice : (step s i).pipeline = Slice.step s.pipeline (sliceInputs s i) := rfl
  rw [flushed] at slice
  refine ⟨by omega, ?_, ?_, ?_, ?_, ?_, free⟩
  · unfold phase
    rw [slice, last]
    rfl
  · rw [slice]
    rfl
  · rw [slice]
    rfl
  · rw [slice]
  · rw [slice]
    rfl

/-- The wrapper requests nothing in eight enabled clocks, then the program word at zero. -/
theorem Opening.request? (opening : Opening s enabled) :
    Slice.request? s.pipeline = if enabled ≤ 8 then none else some (.programRead 0) := by
  have small := opening.early
  have position := opening.position
  unfold phase at position
  have strobes : Slice.strobing s.pipeline = decide (8 < enabled) := by
    unfold Slice.strobing
    rw [opening.active, Bool.eq_iff_iff, Bool.and_eq_true, bne_iff_ne, ne_eq, ← BitVec.toNat_inj,
      position, decide_eq_true_iff, decide_eq_true_iff]
    change _ ∧ ¬_ = 0 ↔ _
    omega
  have io : Slice.transfersIo s.pipeline = false := by
    unfold Slice.transfersIo Slice.ioTransferStep Slice.executeIoSupported Slice.executeIs
    rw [opening.empty]
    rfl
  have table : Slice.transfersTable s.pipeline = false := by
    unfold Slice.transfersTable Slice.tableTransferStep Slice.executeTableSupported Slice.executeIs
    rw [opening.empty]
    rfl
  unfold Slice.request?
  rw [strobes, io, table, opening.address]
  by_cases silent : enabled ≤ 8
  · rw [decide_eq_false (by omega), if_pos silent]
    rfl
  · rw [decide_eq_true (by omega), if_neg silent]
    rfl

/-- The hold stays clear up to the first request. -/
theorem Opening.free_step (opening : Opening s enabled) (running : Running s i) :
    (step s i).memoryWait = false := by
  rw [memoryWait_running running, opening.free, if_neg Bool.false_ne_true]
  by_cases third : phase s = 2
  · rw [third, beq_self_eq_true, if_pos rfl, (responds_eq s i).1, running.callback?,
      opening.request?, if_pos]
    · rfl
    · have position := opening.position
      have early := opening.early
      rw [third] at position
      change 2 = _ at position
      omega
  · rw [beq_eq_false_iff_ne.mpr third, if_neg Bool.false_ne_true]

/-- A clock of the release. -/
theorem Opening.step (opening : Opening s enabled) (running : Running s i)
    (later : enabled + i.clockEnable.toNat ≤ 9) :
    Opening (step s i) (enabled + i.clockEnable.toNat) := by
  have flowing : Slice.parked s.pipeline = false := by
    unfold Slice.parked
    rw [opening.empty]
    rfl
  have bus : Slice.busClockEnable s.pipeline (sliceInputs s i) = i.clockEnable := by
    rw [running.busClockEnable.1, flowing]
    unfold wrapperClockEnable
    rw [opening.free, Bool.not_false, Bool.and_true, Bool.and_true]
  have position := opening.position
  have seen := opening.seen
  have active := opening.active
  have next : phase (Mister.step s i) = if i.clockEnable then phase s + 1 else phase s := by
    have noInitialize : i.resetI = false := running.noInitialize
    rw [phase_step, noInitialize, bus, if_neg Bool.false_ne_true]
  have moved : (phase (Mister.step s i)).toNat = (enabled + i.clockEnable.toNat) % 4 := by
    rw [next]
    cases i.clockEnable
    · exact position
    · rw [if_pos rfl, Bool.toNat_true]
      bv_omega
  rcases Bool.eq_false_or_eq_true (Slice.pipelineBoundary s.pipeline (sliceInputs s i))
    with boundary | within
  · have enables : i.clockEnable = true := by
      rw [← bus]
      unfold Slice.pipelineBoundary at boundary
      rw [Bool.and_eq_true] at boundary
      exact boundary.1
    have last : (phase s).toNat = 3 := by
      unfold phase
      rw [beq_iff_eq.mp (Slice.pipelineBoundary_enabled boundary).2.2]
      rfl
    rw [enables, Bool.toNat_true] at later moved ⊢
    have inactive : s.pipeline.bus.active = false := by
      rw [active, decide_eq_false]
      omega
    have slice : (Mister.step s i).pipeline = _ := Slice.step_release (i := sliceInputs s i)
      running.noInitialize boundary running.noReset inactive opening.empty
    refine ⟨later, moved, ?_, ?_, ?_, ?_, opening.free_step running⟩
    · rw [slice]
      dsimp only
      rw [eq_comm, decide_eq_true_iff]
      omega
    · rw [slice]
      dsimp only
      rw [seen, decide_eq_decide]
      omega
    · rw [slice]
      dsimp only
      rw [opening.address, ite_self]
    · rw [slice]
      rfl
  · have slice : (Mister.step s i).pipeline = _ :=
      Slice.step_within (i := sliceInputs s i) running.noInitialize within
    have inside : i.clockEnable = true → (phase s).toNat ≠ 3 := by
      intro enables last
      unfold Slice.pipelineBoundary at within
      rw [bus, enables, Bool.true_and, beq_eq_false_iff_ne] at within
      exact within (BitVec.eq_of_toNat_eq last)
    have counted : i.clockEnable.toNat = 1 → (phase s).toNat ≠ 3 := by
      intro one
      apply inside
      cases enables : i.clockEnable
      · rw [enables] at one
        exact absurd one (by decide)
      · rfl
    have bound := Bool.toNat_le i.clockEnable
    refine ⟨later, moved, ?_, ?_, ?_, ?_, opening.free_step running⟩
    · rw [slice]
      dsimp only
      rw [seen, decide_eq_decide]
      omega
    · rw [slice]
      dsimp only
      rw [active, decide_eq_decide]
      omega
    · rw [slice]
      exact opening.address
    · rw [slice]
      exact opening.empty

end Opening

/-! ## Pulses -/

section Run

variable (start : Hosted) (inputs : ℕ → Inputs)

/-- A reset pulse: the core makes its last cycle before `settled`, the reset is requested
in `first` and stays active up to `last`. -/
structure Pulse (settled first last : ℕ) : Prop where
  settles : settled ≤ first
  lasts : first ≤ last
  requested : (inputs first).processorReset = true
  idle : ∀ clock, settled ≤ clock → clock < first →
    coreCycle (start.stateAt inputs clock) (inputs clock) = false
  noInitialize : ∀ clock, settled ≤ clock → clock ≤ last → (inputs clock).resetI = false
  active : ∀ clock, first ≤ clock → clock ≤ last →
    resetActive (start.stateAt inputs clock).wrapper (inputs clock) = true

/-- The data memory the debug port has made of a memory. -/
def debuggedMemory (memory : DataRam) (first now : ℕ) : DataRam :=
  (List.range' first (now - first)).foldl (fun memory clock => debugged memory (inputs clock))
    memory

/-- The registers of the core before a clock. -/
def registersAt (clock : ℕ) : Registers :=
  (start.stateAt inputs clock).wrapper.pipeline.core.toRegisters

/-- The data memory before a clock. -/
def memoryAt (clock : ℕ) : DataRam :=
  (start.stateAt inputs clock).wrapper.pipeline.core.dataRam.memory

/-- The architectural state of a settled clock, with what the debug port has written since. -/
def retainedState (settled now cycles : ℕ) : Isa.State :=
  { (start.stateAt inputs settled).slice.architecture cycles with
    data := debuggedMemory inputs (memoryAt start inputs settled) settled now }

/-- The enabled clocks after a clock. -/
def enabledSince (last now : ℕ) : ℕ :=
  Timeline.between (fun clock => (inputs clock).clockEnable) last now

/-- What follows a reset whose last clock is `last`, since a settled clock before it. -/
structure Restarted (settled last : ℕ) : Prop where
  recognized : Core.Cleared (start.stateAt inputs (last + 1)).wrapper.pipeline.core
  /-- The first request is a read of program address zero. -/
  opens : ∀ now, last < now →
    (∀ clock, last < clock → clock ≤ now →
      resetActive (start.stateAt inputs clock).wrapper (inputs clock) = false) →
    (enabledSince inputs last now ≤ 8 →
      callback? (start.stateAt inputs now).wrapper (inputs now) = none) ∧
    (enabledSince inputs last now = 9 →
      callback? (start.stateAt inputs now).wrapper (inputs now) = some (.programRead 0))
  /-- The run is one of the reference model, reset in the retained state. -/
  follows : ∀ count cycles pins,
    (∀ clock, last < clock → clock ≤ last + count →
      (start.stateAt inputs clock).Runs (inputs clock)) →
    let origin := Model.resetAtInstructionBoundary
      (embed pins (retainedState start inputs settled (last + 1) cycles))
    let clocks := start.sliceClocks inputs (last + 1) count
    let steps := Slice.Attached.device.steps [] (start.stateAt inputs (last + 1)).slice clocks
    Slice.Attached.device.run (start.stateAt inputs (last + 1)).slice clocks =
        (start.stateAt inputs (last + 1 + count)).slice ∧
      ∃ calls, trajectory origin (steps.map fun step => Slice.stepPins step.1) = .ok calls ∧
        List.Forall₂ Slice.ShowsCall steps calls ∧
        (Slice.GoesOn (Slice.lastModel origin calls) →
          clocks.countP Slice.Inputs.clockEnable ≤ 24 + 16 * steps.length)

/-- What a reset pulse does. -/
structure CleanRestart (settled first last : ℕ) : Prop where
  /-- Only program reads are accepted. -/
  silent : ∀ clock, first ≤ clock → clock ≤ last → ∀ request,
    accepted (start.stateAt inputs clock).wrapper (inputs clock) = some request →
      ∃ address, request = .programRead address
  retains : ∀ now, first ≤ now → now ≤ last + 1 →
    Retains (registersAt start inputs settled) (registersAt start inputs now)
  data : ∀ now, first ≤ now → now ≤ last + 1 →
    memoryAt start inputs now =
      debuggedMemory inputs (memoryAt start inputs settled) settled now
  /-- Reset is recognized at the end of any machine cycle. -/
  recognized : ∀ clock now, first ≤ clock → clock < now → now ≤ last + 1 →
    endsCycle (start.stateAt inputs clock).wrapper (inputs clock) = true →
      Core.Cleared (start.stateAt inputs now).wrapper.pipeline.core
  released : resetActive (start.stateAt inputs (last + 1)).wrapper (inputs (last + 1)) = false →
    Restarted start inputs settled last

end Run

section Pulse

variable {start : Hosted} {inputs : ℕ → Inputs} {settled first last : ℕ}

/-- The core makes no cycle until the reset is released. -/
theorem Pulse.quiet (pulse : Pulse start inputs settled first last) {clock : ℕ}
    (after : settled ≤ clock) (within : clock ≤ last) :
    coreCycle (start.stateAt inputs clock) (inputs clock) = false := by
  by_cases early : clock < first
  · exact pulse.idle clock after early
  · exact coreCycle_active (pulse.active clock (by omega) within)

/-- What the pulse keeps since the settled clock. -/
theorem Pulse.kept (pulse : Pulse start inputs settled first last) {now : ℕ}
    (after : settled ≤ now) (within : now ≤ last + 1) :
    Retains (registersAt start inputs settled) (registersAt start inputs now) ∧
      memoryAt start inputs now =
        debuggedMemory inputs (memoryAt start inputs settled) settled now ∧
      (start.stateAt inputs now).program = (start.stateAt inputs settled).program ∧
      (start.stateAt inputs now).ioOutput = (start.stateAt inputs settled).ioOutput := by
  induction now, after using Nat.le_induction with
  | base =>
      refine ⟨Retains.refl _, ?_, rfl, rfl⟩
      unfold debuggedMemory
      rw [Nat.sub_self]
      rfl
  | succ now after ih =>
      rcases ih (by omega) with ⟨registers, memory, program, output⟩
      rcases step_idle (pulse.noInitialize now after (by omega))
        (pulse.quiet after (by omega)) with ⟨keeps, writes, stores, latches⟩
      refine ⟨registers.trans keeps, ?_, stores.trans program, latches.trans output⟩
      have longer : now + 1 - settled = now - settled + 1 := by omega
      have index : settled + (now - settled) = now := by omega
      unfold debuggedMemory
      rw [longer, List.range'_1_concat, List.foldl_append, index]
      change _ = debugged (debuggedMemory inputs _ settled now) (inputs now)
      rw [← memory]
      exact writes

/-- Recognition lasts as long as the reset. -/
theorem Pulse.cleared (pulse : Pulse start inputs settled first last) {clock now : ℕ}
    (after : first ≤ clock) (later : clock < now) (within : now ≤ last + 1)
    (ends : endsCycle (start.stateAt inputs clock).wrapper (inputs clock) = true) :
    Core.Cleared (start.stateAt inputs now).wrapper.pipeline.core := by
  have settles := pulse.settles
  induction now, later using Nat.le_induction with
  | base =>
      exact step_recognized (pulse.noInitialize clock (by omega) (by omega))
        (pulse.active clock after (by omega)) ends
  | succ now later ih =>
      have quiet : coreCycle (start.stateAt inputs now) (inputs now) = false :=
        pulse.quiet (by omega) (by omega)
      rw [Hosted.stateAt_succ, step_core_idle quiet]
      exact Core.step_cleared (ih (by omega)) (pulse.noInitialize now (by omega) (by omega)) rfl

/-- The last clock of a reset ends a machine cycle. -/
theorem endsCycle_of_released {s : State} {i next : Inputs} (active : resetActive s i = true)
    (released : resetActive (step s i) next = false) :
    endsCycle s i = true := by
  have ended := (running_iff.mpr released).remaining
  rcases Bool.eq_false_or_eq_true (resetRequest i) with request | noRequest
  · rw [resetCyclesRemaining_request request] at ended
    exact absurd ended (by decide)
  · rcases step_active noRequest active with ⟨advance, -, counter⟩
    rcases Bool.eq_false_or_eq_true (wrapperClockEnable s i && phase s == 3) with ends | early
    · unfold endsCycle
      rw [advance]
      exact ends
    · rw [early, if_neg Bool.false_ne_true] at counter
      rw [resetActive_iff noRequest, ← counter, ended] at active
      exact absurd rfl active

/-- The opening of the release, clock by clock. -/
theorem Pulse.opening (pulse : Pulse start inputs settled first last)
    (ends : endsCycle (start.stateAt inputs last).wrapper (inputs last) = true) {now : ℕ}
    (later : last < now)
    (running : ∀ clock, last < clock → clock < now →
      resetActive (start.stateAt inputs clock).wrapper (inputs clock) = false)
    (early : enabledSince inputs last now ≤ 9) :
    Opening (start.stateAt inputs now).wrapper (enabledSince inputs last now) := by
  have settles := pulse.settles
  have lasts := pulse.lasts
  induction now, later using Nat.le_induction with
  | base =>
      have none : enabledSince inputs last (last + 1) = 0 := Timeline.between_succ_self _ last
      rw [none]
      exact Opening.start (pulse.noInitialize last (by omega) (Nat.le_refl last))
        (pulse.active last lasts (Nat.le_refl last)) ends
  | succ now later ih =>
      have counted : enabledSince inputs last (now + 1) =
          enabledSince inputs last now + (inputs now).clockEnable.toNat :=
        Timeline.between_succ later
      rw [counted] at early ⊢
      have before := ih (fun clock after within => running clock after (by omega)) (by omega)
      exact before.step (running_iff.mpr (running now later (Nat.lt_succ_self now))) early

/-- The architectural state of a released wrapper. -/
theorem Pulse.architecture (pulse : Pulse start inputs settled first last)
    (cleared : Core.Cleared (start.stateAt inputs (last + 1)).wrapper.pipeline.core)
    (cycles : ℕ) :
    (start.stateAt inputs (last + 1)).slice.architecture cycles =
      Slice.resetState (retainedState start inputs settled (last + 1) cycles) := by
  have settles := pulse.settles
  have lasts := pulse.lasts
  rcases pulse.kept (Nat.le_succ_of_le (by omega)) (Nat.le_refl (last + 1)) with
    ⟨keeps, memory, program, output⟩
  have registers : registersAt start inputs (last + 1) =
      { registersAt start inputs settled with
        pc := 0, interruptMask := true, interruptPending := false } := by
    have pc : (registersAt start inputs (last + 1)).pc = 0 := cleared.pc
    have mask : (registersAt start inputs (last + 1)).interruptMask = true :=
      cleared.interruptMask
    have pending : (registersAt start inputs (last + 1)).interruptPending = false :=
      cleared.interruptPending
    have whole := keeps.eq
    rwa [pc, mask, pending] at whole
  unfold Slice.Attached.architecture Core.machine Slice.resetState retainedState
  change Isa.State.mk (registersAt start inputs (last + 1)) _ _ (memoryAt start inputs (last + 1))
    (start.stateAt inputs (last + 1)).program (start.stateAt inputs (last + 1)).ioOutput cycles = _
  rw [registers, memory, program, output]
  change Isa.State.mk _ (start.stateAt inputs (last + 1)).wrapper.pipeline.core.interruptDelayOne
    (start.stateAt inputs (last + 1)).wrapper.pipeline.core.interruptEntryPending _ _ _ _ = _
  rw [cleared.interruptDelayOne, cleared.interruptEntryPending]
  rfl

/-- The run after the release is one of the reference model. -/
theorem Pulse.restarted (pulse : Pulse start inputs settled first last)
    (released : resetActive (start.stateAt inputs (last + 1)).wrapper (inputs (last + 1)) =
      false) : Restarted start inputs settled last := by
  have settles := pulse.settles
  have lasts := pulse.lasts
  have active := pulse.active last lasts (Nat.le_refl last)
  have ends := endsCycle_of_released active released
  have cleared := pulse.cleared lasts (Nat.lt_succ_self last) (Nat.le_refl _) ends
  refine ⟨cleared, ?_, ?_⟩
  · intro now later running
    have shown (early : enabledSince inputs last now ≤ 9) :
        callback? (start.stateAt inputs now).wrapper (inputs now) =
          if enabledSince inputs last now ≤ 8 then none else some (.programRead 0) := by
      have opening := pulse.opening ends later
        (fun clock after before => running clock after (by omega)) early
      rw [(running_iff.mpr (running now later (Nat.le_refl now))).callback?, opening.request?]
    constructor
    · intro silent
      rw [shown (by omega), if_pos silent]
    · intro ninth
      rw [shown (by omega), if_neg (by omega)]
  · intro count cycles pins runs origin clocks steps
    refine ⟨start.run_sliceClocks inputs (last + 1) count, ?_⟩
    have restarts : (start.stateAt inputs last).slice.Restarts
        (sliceInputs (start.stateAt inputs last).wrapper (inputs last)) :=
      Or.inr ⟨ends, active⟩
    have lock : Slice.Lockstep True _ _ [] := Slice.Lockstep.restarted restarts cycles
    rw [← Hosted.step_slice, ← Hosted.stateAt_succ] at lock
    change Slice.Lockstep True
      ((start.stateAt inputs (last + 1)).slice.architecture cycles) _ [] at lock
    rw [pulse.architecture cleared cycles] at lock
    have ready : ∀ clock, last + 1 ≤ clock → clock < last + 1 + count → _ :=
      fun clock after before => runs clock (by omega) (by omega)
    have followed := lock.calls (Hosted.admits_sliceClocks ready) pins
    rw [← Slice.resetAtInstructionBoundary_embed] at followed
    exact followed

end Pulse

/-! ## Restart -/

/-- A reset pulse of any length, from any state and under any pattern of clock enables and
readies, restarts the wrapper cleanly. -/
theorem clean_restart (start : Hosted) (inputs : ℕ → Inputs) (settled first last : ℕ)
    (pulse : Pulse start inputs settled first last) :
    CleanRestart start inputs settled first last := by
  have settles := pulse.settles
  refine ⟨?_, ?_, ?_, ?_, pulse.restarted⟩
  · intro clock after within request taken
    exact accepted_idle (pulse.quiet (by omega) within) taken
  · intro now after within
    exact (pulse.kept (by omega) within).1
  · intro now after within
    exact (pulse.kept (by omega) within).2.1
  · intro clock now after later within ends
    exact pulse.cleared after later within ends

/-- A run that is reset in the third clock of a machine cycle. -/
def pulsedRun (clock : ℕ) : Inputs := { enabledInputs with processorReset := clock == 22 }

/-- The wrapper with a memory of `NOP`. -/
def idleHosted : Hosted := ⟨clearState, fun _ => 0x7f80, fun _ => 0⟩

theorem clean_restart_nop : CleanRestart idleHosted pulsedRun 20 22 39 := by
  apply clean_restart
  refine ⟨by omega, by omega, rfl, ?_, fun _ _ _ => rfl, ?_⟩
  · have checked : ∀ clock < 22, 20 ≤ clock →
        coreCycle (idleHosted.stateAt pulsedRun clock) (pulsedRun clock) = false := by
      decide +kernel
    intro clock after before
    exact checked clock before after
  · have checked : ∀ clock < 40, 22 ≤ clock →
        resetActive (idleHosted.stateAt pulsedRun clock).wrapper (pulsedRun clock) = true := by
      decide +kernel
    intro clock after within
    exact checked clock (by omega) after

end Mister

end Tms32010.Rtl
