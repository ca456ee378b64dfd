import Tms32010.Rtl.SliceRun

/-!
# The slice tracks its core

Whatever the inputs do, stalls, resets, writes of the debug port and unsupported
words included, the pipeline state of the slice names the operation pending in
the core, and the slot holds the instruction at the core's program counter.
-/

namespace Tms32010.Rtl.Slice

/-! ## Debug writes -/

/-- The clock without its debug write. -/
def Inputs.undebugged (i : Inputs) : Inputs := { i with debugDataWrite := false }

section Undebugged

variable (s : State) (i : Inputs)

theorem undebugged_boundary : pipelineBoundary s i.undebugged = pipelineBoundary s i := rfl

theorem undebugged_core :
    Core.nextRegisters params s.core (coreInputs s i (coreExecuteBoundary s i)) =
      Core.nextRegisters params s.core
        (coreInputs s i.undebugged (coreExecuteBoundary s i.undebugged)) := rfl

theorem undebugged_ports :
    busInputs s i.undebugged = busInputs s i ∧ slotInputs s i.undebugged = slotInputs s i :=
  ⟨rfl, rfl⟩

theorem undebugged_registers :
    nextPipelineState s i.undebugged = nextPipelineState s i ∧
      nextProgramData s i.undebugged = nextProgramData s i ∧
      nextBiozTaken s i.undebugged = nextBiozTaken s i ∧
      nextIoReadSample s i.undebugged = nextIoReadSample s i ∧
      nextComputedTargetAddress s i.undebugged = nextComputedTargetAddress s i ∧
      nextInterruptProtected s i.undebugged = nextInterruptProtected s i :=
  ⟨rfl, rfl, rfl, rfl, rfl, rfl⟩

theorem undebugged_modules :
    nextModules s i =
      { nextModules s i.undebugged with
        core :=
          { (nextModules s i.undebugged).core with dataRam := (nextModules s i).core.dataRam } } := by
  have core : Core.step params s.core (coreInputs s i (coreExecuteBoundary s i)) =
      { Core.step params s.core
          (coreInputs s i.undebugged (coreExecuteBoundary s i.undebugged)) with
        dataRam := (nextModules s i).core.dataRam } := by
    calc Core.step params s.core (coreInputs s i (coreExecuteBoundary s i))
        = { Core.nextRegisters params s.core (coreInputs s i (coreExecuteBoundary s i)) with
            dataRam := (nextModules s i).core.dataRam } := rfl
      _ = _ := by rw [undebugged_core]; rfl
  unfold nextModules at core ⊢
  rw [(undebugged_ports s i).1, (undebugged_ports s i).2]
  exact congrArg (State.mk _ _ · _ _ _ _ _ _) core

/-- A debug write changes the data RAM only. -/
theorem step_undebugged :
    ∃ ram, step s i =
      { step s i.undebugged with core := { (step s i.undebugged).core with dataRam := ram } } := by
  rcases undebugged_registers s i with ⟨state, word, bioz, sample, target, protect⟩
  have same : i.undebugged.initializeI = i.initializeI := rfl
  refine ⟨(nextModules s i).core.dataRam, ?_⟩
  unfold step
  rw [undebugged_boundary, undebugged_modules, same, state, word, bioz, sample, target, protect]
  split_ifs <;> rfl

end Undebugged

section Invariant

variable {a : Isa.State} {σ : Attached} {made : List Cycle}

/-- Where the memories are not attached the data RAM is arbitrary. -/
theorem Lockstep.overwrite (lock : Lockstep False a σ made) (ram : InternalRam) :
    Lockstep False { a with data := ram.memory }
      (σ.held σ.slice.bus.sample σ.slice.core.retired σ.slice.bus.phase ram) made := by
  rcases lock.owned with ⟨⟨o, owner⟩, captured, deferred, status⟩
  refine ⟨?_, lock.protect, lock.seen, fun attached => attached.elim, ?_⟩
  · exact ⟨⟨o, owner.entry, owner.computed, owner.control, owner.table, owner.io⟩,
      captured.of_same ⟨rfl, rfl, rfl, rfl, rfl, rfl, rfl, rfl, rfl, rfl, rfl, rfl, rfl, rfl,
        rfl, rfl, rfl⟩, deferred, status⟩
  · exact lock.stage.held _ _ _ fun attached => attached.elim

/-- Every clock without a debug write keeps the slice in lock step with its core. -/
theorem Lockstep.clock (lock : Lockstep False a σ made) (i : Inputs)
    (noDebug : i.debugDataWrite = false) :
    ∃ b made', Lockstep False b (σ.step i) made' := by
  rcases Bool.eq_false_or_eq_true i.initializeI with asserted | noInitialize
  · exact ⟨_, [], Lockstep.restarted (Or.inl asserted) 0⟩
  rcases Bool.eq_false_or_eq_true i.rs with reset | running
  · rcases Bool.eq_false_or_eq_true (pipelineBoundary σ.slice i) with boundary | within
    · exact ⟨_, [], Lockstep.restarted (Or.inr ⟨boundary, reset⟩) 0⟩
    · exact ⟨a, made, lock.within noInitialize noDebug within⟩
  · have runs : σ.Runs False i := ⟨noInitialize, running, noDebug, False.elim⟩
    rcases Bool.eq_false_or_eq_true (coreExecuteBoundary σ.slice i) with advances | paused
    · cases lock.fetch (fetch_of_advance advances) runs with
      | primes _ _ next => exact ⟨a, made, next⟩
      | continues _ _ next => exact ⟨a, made ++ [i.cycle], next⟩
      | completes _ next =>
          rcases next with ⟨b, -, -, next⟩
          exact ⟨b, [], next⟩
    · exact ⟨a, made, lock.pause runs paused⟩

end Invariant

/-! ## Reachable states -/

/-- The states the slice reaches once it was initialized. -/
inductive Reachable : State → Prop where
  | initialized (s : State) (i : Inputs) (asserted : i.initializeI = true) : Reachable (step s i)
  | clock {s : State} (reached : Reachable s) (i : Inputs) : Reachable (step s i)

/-- Every reachable state is in lock step, over some memories. -/
theorem Reachable.lockstep {s : State} (reached : Reachable s) :
    ∃ a program ioOutput made, Lockstep False a ⟨s, program, ioOutput⟩ made := by
  induction reached with
  | initialized s i asserted =>
      have restarts : Attached.Restarts ⟨s, fun _ => 0, fun _ => 0⟩ i := Or.inl asserted
      exact ⟨_, _, _, [], Lockstep.restarted restarts 0⟩
  | @clock s _ i ih =>
      rcases ih with ⟨a, program, ioOutput, made, lock⟩
      rcases lock.clock i.undebugged rfl with ⟨b, made', next⟩
      rcases step_undebugged s i with ⟨ram, stepped⟩
      rw [stepped]
      exact ⟨_, _, _, made', next.overwrite ram⟩

/-! ## Tracking -/

/-- The pipeline state, the slot and the protection flag agree with the core. -/
structure Tracks (s : State) : Prop where
  vector : s.pipelineState = .interruptVector ↔ s.core.interruptEntryPending = true
  control : s.pipelineState = .controlTarget ∨ s.pipelineState = .controlInvalid ↔
    s.core.controlOperandPending = true
  computed : s.pipelineState = .computedTarget ↔ s.core.computedControlPending = true
  io : s.pipelineState = .ioPrefetch ↔ s.core.ioPending = true
  tableTransfer : s.pipelineState = .tableTransfer ↔
    s.core.tablePending = true ∧ s.core.tableTransferPhase = false
  tablePrefetch : s.pipelineState = .tablePrefetch ↔
    s.core.tablePending = true ∧ s.core.tableTransferPhase = true
  operation :
    (s.core.controlOperandPending = true →
      executeIs s s.core.pendingControlOperation = true) ∧
    (s.core.computedControlPending = true →
      executeIs s s.core.pendingComputedOperation = true) ∧
    (s.core.ioPending = true → executeIs s s.core.pendingIoOperation = true) ∧
    (s.core.tablePending = true → executeIs s s.core.pendingTableOperation = true)
  protect : s.interruptProtected = s.core.interruptDelayOne
  slot : s.pipelineState = .sequential → s.fetchExecute.executeValid = true →
    s.fetchExecute.executeAddress = s.core.pc ∧
      s.coreProgramData = s.fetchExecute.executeWord ∧ s.bus.address = s.core.pc + 1

section Tracking

variable {a : Isa.State} {σ : Attached} {made : List Cycle}

theorem Spanning.executes {m : Mnemonic} {low : Bool} (stage : Spanning False a σ m low)
    {operation : Operation} (same : operation = m.operation) :
    executeIs σ.slice operation = true := by
  rw [executeIs_eq stage.found stage.implemented stage.occupied, same]
  exact beq_self_eq_true m.operation

/-- Each stage names the operation pending in the core. -/
theorem Lockstep.tracks (lock : Lockstep False a σ made) : Tracks σ.slice := by
  have protect := lock.protect
  have phase : σ.slice.core.tableTransferPhase = true → σ.slice.core.tablePending = true :=
    lock.owned.captured.phase
  have stage := lock.stage
  cases stage with
  | priming stage =>
      have idle := stage.idle
      refine ⟨?_, ?_, ?_, ?_, ?_, ?_, ?_, protect, ?_⟩
      case refine_8 =>
        intro _ occupied
        exact absurd (stage.unoccupied.symm.trans occupied) Bool.false_ne_true
      all_goals
        simp [stage.state, stage.entry, idle.control, idle.computed, idle.io, idle.table]
  | issuing stage =>
      have idle := stage.idle
      have pc : σ.slice.core.pc = a.pc := congrArg Registers.pc stage.registers
      refine ⟨?_, ?_, ?_, ?_, ?_, ?_, ?_, protect, ?_⟩
      case refine_8 =>
        intro _ _
        rw [pc]
        exact ⟨stage.address, stage.word, stage.next⟩
      all_goals
        simp [stage.state, stage.entry, idle.control, idle.computed, idle.io, idle.table]
  | vector stage =>
      have idle := stage.idle
      refine ⟨?_, ?_, ?_, ?_, ?_, ?_, ?_, protect, ?_⟩ <;>
        simp [stage.state, stage.entry, idle.control, idle.computed, idle.io, idle.table]
  | control stage =>
      have executes := stage.toSpanning.executes stage.pending.operation
      have state : σ.slice.pipelineState = .controlTarget ∨
          σ.slice.pipelineState = .controlInvalid := by
        rw [stage.state]
        split_ifs
        · exact Or.inl rfl
        · exact Or.inr rfl
      refine ⟨?_, ?_, ?_, ?_, ?_, ?_, ?_, protect, ?_⟩ <;>
        rcases state with state | state <;>
        simp [state, stage.underway.entry, stage.pending.pending, stage.pending.computed,
          stage.pending.io, stage.pending.table, executes]
  | computed stage =>
      have executes := stage.toSpanning.executes stage.pending.operation
      refine ⟨?_, ?_, ?_, ?_, ?_, ?_, ?_, protect, ?_⟩ <;>
        simp [stage.state, stage.underway.entry, stage.pending.pending, stage.pending.control,
          stage.pending.io, stage.pending.table, executes]
  | io stage =>
      have executes := stage.toSpanning.executes stage.pending.operation
      refine ⟨?_, ?_, ?_, ?_, ?_, ?_, ?_, protect, ?_⟩ <;>
        simp [stage.state, stage.underway.entry, stage.pending.pending, stage.pending.control,
          stage.pending.computed, stage.pending.table, executes]
  | tableFirst stage =>
      have executes := stage.toSpanning.executes stage.pending.operation
      refine ⟨?_, ?_, ?_, ?_, ?_, ?_, ?_, protect, ?_⟩ <;>
        simp [stage.state, stage.underway.entry, stage.pending.pending, stage.pending.control,
          stage.pending.computed, stage.pending.io, stage.pending.phase, executes]
  | tableSecond stage =>
      have executes := stage.toSpanning.executes stage.pending.operation
      refine ⟨?_, ?_, ?_, ?_, ?_, ?_, ?_, protect, ?_⟩ <;>
        simp [stage.state, stage.underway.entry, stage.pending.pending, stage.pending.control,
          stage.pending.computed, stage.pending.io, stage.pending.phase, executes]

end Tracking

/-- In every reachable state of the slice its own tracking agrees with its core. -/
theorem reachable_tracks {s : State} (reached : Reachable s) : Tracks s := by
  rcases reached.lockstep with ⟨a, program, ioOutput, made, lock⟩
  exact lock.tracks

/-! ## A protected branch -/

/-- A clock of a program that enables interrupts and then branches to zero, with an
interrupt requested throughout. -/
def protectedBranch (s : State) : Inputs :=
  { enabledInputs with int := false, programData := if s.bus.address = 0 then 0x7f82 else
      if s.bus.address = 1 then 0xf900 else 0 }

/-- The state after some clocks of that program. -/
def protectedBranchState : ℕ → State
  | 0 => step clearState { enabledInputs with initializeI := true }
  | n + 1 => step (protectedBranchState n) (protectedBranch (protectedBranchState n))

theorem protectedBranchState_reachable (n : ℕ) : Reachable (protectedBranchState n) := by
  induction n with
  | zero => exact .initialized _ _ rfl
  | succ n ih => exact .clock ih _

/-- The branch waits for its operand as the protected instruction, and then the interrupt
for its vector. -/
theorem reachable_tracks_branch :
    ((protectedBranchState 20).core.controlOperandPending = true ∧
      (protectedBranchState 20).core.interruptDelayOne = true ∧
      Tracks (protectedBranchState 20)) ∧
      (protectedBranchState 24).core.interruptEntryPending = true ∧
      Tracks (protectedBranchState 24) :=
  ⟨⟨by decide +kernel, by decide +kernel, reachable_tracks (protectedBranchState_reachable 20)⟩,
    by decide +kernel, reachable_tracks (protectedBranchState_reachable 24)⟩

end Tms32010.Rtl.Slice
