import Tms32010.Lib.Clocked
import Tms32010.Rtl.Stages

/-!
# Runs of the slice

The stages assembled: every clock of a running slice keeps the invariant, makes a
cycle of the step underway or completes it as the instruction-level machine does.
The slice keeps pace with the machine: it is blocked only where the machine
faults or meets `PUSH` or `POP`, and every other enabled clock brings it nearer
to its next completion.
-/

namespace Tms32010.Rtl.Slice

open Tms32010.Rtl.Core (spansCycles machine)

section Clock

variable {attached : Prop} {a : Isa.State} {σ : Attached} {made : List Cycle} {i : Inputs}

/-! ## One clock -/

/-- A clock of a running slice. -/
structure Attached.Runs (attached : Prop) (σ : Attached) (i : Inputs) : Prop where
  noInitialize : i.initializeI = false
  noReset : i.rs = false
  noDebug : i.debugDataWrite = false
  served : attached → σ.Served i

/-- What a fetching boundary does to the step underway. -/
inductive Boundary (attached : Prop) (a : Isa.State) (σ : Attached) (i : Inputs)
    (made : List Cycle) : Prop where
  | primes (paused : coreExecuteBoundary σ.slice i = false)
      (filled : (σ.step i).slice.fetchExecute.executeValid = true)
      (next : Lockstep attached a (σ.step i) made)
  | continues (advances : coreExecuteBoundary σ.slice i = true)
      (goesOn : completing σ.slice i = false)
      (next : Lockstep attached a (σ.step i) (made ++ [i.cycle]))
  | completes (advances : coreExecuteBoundary σ.slice i = true)
      (next : Completes attached a σ i (made ++ [i.cycle]))

theorem Boundary.of_continues (fetch : fetchBoundary σ.slice i = true)
    (runs : σ.Runs attached i) (more : Continues σ.slice i)
    (quiet : Core.retirementBoundary params σ.slice.core (coreInputs σ.slice i true) = false ∧
      σ.slice.core.interruptEntryPending = false)
    (next : Lockstep attached a (σ.step i) (made ++ [i.cycle])) :
    Boundary attached a σ i made := by
  refine .continues more.advances ?_ next
  rw [completing_eq fetch more.advances runs.noInitialize runs.noDebug, quiet.1, quiet.2]
  rfl

/-- The first cycle of a longer instruction retires nothing. -/
theorem Issuing.quiet {m : Mnemonic} (stage : Issuing attached a σ)
    (found : mnemonic? σ.slice.fetchExecute.executeWord = some m)
    (implemented : m.stackAccess = false) (spans : spansCycles m = true) :
    Core.retirementBoundary params σ.slice.core (coreInputs σ.slice i true) = false ∧
      σ.slice.core.interruptEntryPending = false := by
  refine ⟨?_, stage.entry⟩
  have later : Core.retiresOnIssue m.operation = false := by
    cases m <;> first | rfl | exact absurd spans (by decide)
  have decoded := Core.decoded_eq (stage.carried (i := i) found) implemented
  unfold Core.retirementBoundary
  rw [stage.entry, stage.idle.control, stage.idle.computed, stage.idle.io, stage.idle.table,
    decoded]
  simp only [encoded, later, Bool.and_false, Bool.or_self, Bool.false_eq_true, if_false]

/-- The discarded prefetch of a table access retires nothing. -/
theorem TableFirst.quiet {m : Mnemonic} {c : Cycle} (stage : TableFirst attached a σ m c) :
    Core.retirementBoundary params σ.slice.core (coreInputs σ.slice i true) = false ∧
      σ.slice.core.interruptEntryPending = false := by
  refine ⟨?_, stage.underway.entry⟩
  unfold Core.retirementBoundary
  rw [stage.underway.entry, stage.pending.control, stage.pending.computed, stage.pending.pending,
    stage.pending.phase]
  rfl

/-- The instruction of a family starts. -/
theorem Lockstep.issue (lock : Lockstep attached a σ []) (stage : Issuing attached a σ)
    (fetch : fetchBoundary σ.slice i = true) (runs : σ.Runs attached i) :
    Boundary attached a σ i [] := by
  rcases stage.accepted fetch runs.noInitialize runs.noDebug with
    ⟨m, found, implemented, noFault⟩
  rcases Bool.eq_false_or_eq_true (spansCycles m) with spans | single
  · have family : m.twoWordControlFlow = true ∨ m.computedControlFlow = true ∨
        m.tableTransfer = true ∨ m.ioTransfer = true := by
      simpa [spansCycles, or_assoc] using spans
    rcases family with family | family | family | family
    · rcases lock.issue_control fetch runs.noInitialize found implemented stage runs.noDebug
        runs.served family with ⟨more, next⟩
      exact .of_continues fetch runs more (stage.quiet found implemented spans) next
    · rcases lock.issue_computed fetch runs.noInitialize found implemented stage runs.noDebug
        family with ⟨more, next⟩
      exact .of_continues fetch runs more (stage.quiet found implemented spans) next
    · rcases lock.issue_table fetch runs.noInitialize found implemented stage runs.noDebug
        family noFault with ⟨more, next⟩
      exact .of_continues fetch runs more (stage.quiet found implemented spans) next
    · rcases lock.issue_io fetch runs.noInitialize found implemented stage runs.noDebug
        family noFault with ⟨more, next⟩
      exact .of_continues fetch runs more (stage.quiet found implemented spans) next
  · rcases lock.issue_single fetch runs.noInitialize found implemented stage runs.noDebug
      runs.served single noFault with ⟨finish, next⟩
    exact .completes finish.advances next

/-- Every fetching boundary. -/
theorem Lockstep.fetch (lock : Lockstep attached a σ made)
    (fetch : fetchBoundary σ.slice i = true) (runs : σ.Runs attached i) :
    Boundary attached a σ i made := by
  have stage := lock.stage
  cases stage with
  | priming stage =>
      rcases lock.prime stage fetch runs.noInitialize runs.noDebug runs.served with
        ⟨paused, filled, next⟩
      exact .primes paused filled next
  | issuing stage => exact lock.issue stage fetch runs
  | vector stage =>
      rcases lock.vector stage fetch runs.noInitialize runs.noDebug runs.served with
        ⟨advances, next⟩
      exact .completes advances next
  | control stage =>
      rcases lock.control_finish fetch runs.noInitialize runs.noDebug stage runs.served with
        ⟨finish, next⟩
      exact .completes finish.advances next
  | computed stage =>
      rcases lock.computed_finish fetch runs.noInitialize runs.noDebug stage runs.served with
        ⟨finish, next⟩
      exact .completes finish.advances next
  | io stage =>
      rcases lock.io_finish fetch runs.noInitialize runs.noDebug stage runs.served with
        ⟨finish, next⟩
      exact .completes finish.advances next
  | tableFirst stage =>
      rcases lock.table_transfer fetch runs.noInitialize runs.noDebug stage runs.served with
        ⟨more, next⟩
      exact .of_continues fetch runs more stage.quiet next
  | tableSecond stage =>
      rcases lock.table_finish fetch runs.noInitialize runs.noDebug stage runs.served with
        ⟨finish, next⟩
      exact .completes finish.advances next

/-- A clock that advances the core is a fetching boundary. -/
theorem fetch_of_advance {s : State} (advances : coreExecuteBoundary s i = true) :
    fetchBoundary s i = true := by
  unfold coreExecuteBoundary at advances
  rw [Bool.and_eq_true] at advances
  exact advances.1

/-- Any clock that does not advance the core. -/
theorem Lockstep.pause (lock : Lockstep attached a σ made) (runs : σ.Runs attached i)
    (paused : coreExecuteBoundary σ.slice i = false) : Lockstep attached a (σ.step i) made := by
  rcases Bool.eq_false_or_eq_true (pipelineBoundary σ.slice i) with boundary | within
  · rcases Bool.eq_false_or_eq_true σ.slice.bus.active with active | inactive
    · have fetch : fetchBoundary σ.slice i = true := by
        unfold fetchBoundary
        rw [boundary, active, runs.noReset]
        rfl
      cases lock.fetch fetch runs with
      | primes _ _ next => exact next
      | continues advances _ _ => exact absurd (paused.symm.trans advances) Bool.false_ne_true
      | completes advances _ => exact absurd (paused.symm.trans advances) Bool.false_ne_true
    · exact lock.release runs.noInitialize runs.noDebug boundary runs.noReset inactive
  · exact lock.within runs.noInitialize runs.noDebug within

end Clock

/-! ## Blocked words -/

section Blocked

variable {a : Isa.State} {σ : Attached} {made : List Cycle} {i : Inputs}

/-- No pins make the next step of the machine, or it executes `PUSH` or `POP`. -/
def Stuck (a : Isa.State) : Prop :=
  ∀ pins outcome, Isa.step pins a = .ok outcome →
    ∃ m, outcome.executed = some m ∧ m.stackAccess = true

theorem Takes.free {b : Isa.State} (takes : Takes a made b) : ¬Stuck a := by
  rcases takes with ⟨outcome, step, -, -, plain⟩
  intro stuck
  rcases stuck _ _ step with ⟨m, executed, access⟩
  exact absurd ((plain m executed).symm.trans access) Bool.false_ne_true

/-- A machine that is not stuck has a supported instruction ahead. -/
theorem supported_of_not_stuck (free : ¬Stuck a) (entry : a.interruptEntryPending = false) :
    ∃ m, mnemonic? (a.program a.pc) = some m ∧ m.stackAccess = false ∧
      Isa.dataFault? m (a.program a.pc) a = none ∧
      (m.twoWordControlFlow = true → (a.program (a.pc + 1)).extractLsb' 12 4 = 0) := by
  unfold Stuck at free
  push Not at free
  rcases free with ⟨pins, outcome, step, plain⟩
  rcases Isa.step_supported step entry with ⟨m, found, executed, noFault, operand⟩
  exact ⟨m, found, Bool.eq_false_iff.mpr (plain m executed), noFault, operand⟩

/-- The core of a running slice runs, were it enabled. -/
theorem Attached.Runs.running {attached : Prop} (runs : σ.Runs attached i) :
    Core.Running (coreInputs σ.slice i true) := by
  refine ⟨runs.noInitialize, ?_, rfl, runs.noDebug⟩
  change coreReset σ.slice i = false
  unfold coreReset
  rw [runs.noReset, Bool.and_false]

/-- A word the core accepts, in a state of its family, is not blocked. -/
theorem pipelineBlocked_eq {m : Mnemonic}
    (found : mnemonic? σ.slice.fetchExecute.executeWord = some m)
    (implemented : m.stackAccess = false) (occupied : σ.slice.fetchExecute.executeValid = true)
    (valid : Core.instructionValid params σ.slice.core (coreInputs σ.slice i true) = true)
    (state : σ.slice.pipelineState = .sequential ∨
      finishing m σ.slice.pipelineState = true ∨
      (m.tableTransfer = true ∧ σ.slice.pipelineState = .tableTransfer)) :
    pipelineBlocked σ.slice i = false := by
  have accepted : coreInstructionValid σ.slice i = true := valid
  unfold pipelineBlocked
  rw [executeReady_eq found implemented occupied, accepted]
  rcases state with state | state | ⟨family, state⟩
  · simp [state]
  · simp [state]
  · simp [state, family]

/-- A blocked slice shows a stuck machine. -/
theorem Lockstep.stuck_of_blocked (lock : Lockstep True a σ made) (runs : σ.Runs True i)
    (blocked : pipelineBlocked σ.slice i = true) : Stuck a := by
  by_contra free
  have running := runs.running
  suffices free : pipelineBlocked σ.slice i = false from
    absurd (free.symm.trans blocked) Bool.false_ne_true
  have empty (unoccupied : σ.slice.fetchExecute.executeValid = false) :
      pipelineBlocked σ.slice i = false := by
    unfold pipelineBlocked
    rw [unoccupied]
    rfl
  have stage := lock.stage
  cases stage with
  | priming stage => exact empty stage.unoccupied
  | vector stage => exact empty stage.unoccupied
  | issuing stage =>
      rcases supported_of_not_stuck free stage.outside.1 with ⟨m, found, implemented, noFault, -⟩
      rw [stage.stored trivial] at found noFault
      have word : (coreInputs σ.slice i true).programData = σ.slice.fetchExecute.executeWord :=
        stage.word
      have valid : Core.instructionValid params σ.slice.core (coreInputs σ.slice i true) =
          true := by
        rw [Core.instructionValid_issue (stage.carried (i := i) found) implemented stage.idle
          stage.entry running σ.program σ.ioOutput a.cycleCount, stage.shows, word, noFault]
        rfl
      exact pipelineBlocked_eq found implemented stage.occupied valid (Or.inl stage.state)
  | @control m c stage =>
      rcases supported_of_not_stuck free stage.underway.noEntry with ⟨m', found, -, -, operand⟩
      rw [stage.stored trivial, stage.found, Option.some.injEq] at found
      have supported := operand (by rw [← found]; exact stage.family)
      rw [stage.operand trivial] at supported
      have state : σ.slice.pipelineState = .controlTarget := by
        rw [stage.state, supported]
        rfl
      refine pipelineBlocked_eq stage.found stage.implemented stage.occupied ?_
        (Or.inr (Or.inl ?_))
      · have nibble : (coreInputs σ.slice i true).programData.extractLsb' 12 4 = 0 := supported
        rw [Core.instructionValid_control stage.underway stage.pending running stage.family, nibble]
        rfl
      · rw [state]
        exact stage.family
  | computed stage =>
      refine pipelineBlocked_eq stage.found stage.implemented stage.occupied ?_
        (Or.inr (Or.inl ?_))
      · exact Core.instructionValid_computed stage.underway stage.pending stage.family running rfl
      · rw [stage.state]
        exact stage.family
  | io stage =>
      refine pipelineBlocked_eq stage.found stage.implemented stage.occupied ?_
        (Or.inr (Or.inl ?_))
      · exact Core.instructionValid_io stage.underway stage.pending running stage.family
          stage.noFault
      · rw [stage.state]
        exact stage.family
  | tableFirst stage =>
      refine pipelineBlocked_eq stage.found stage.implemented stage.occupied ?_
        (Or.inr (Or.inr ⟨stage.family, stage.state⟩))
      exact Core.instructionValid_prefetch stage.underway stage.pending running
  | tableSecond stage =>
      refine pipelineBlocked_eq stage.found stage.implemented stage.occupied ?_
        (Or.inr (Or.inl ?_))
      · exact Core.instructionValid_table stage.underway stage.pending running stage.family
          stage.noFault
      · rw [stage.state]
        exact stage.family

end Blocked

/-! ## The slice as a clocked device -/

namespace Attached

/-- The slice with its memories: a cycle is a boundary that advances the core. -/
def device : Clocked.Device Inputs Attached Cycle where
  next := step
  cycle? σ i := if coreExecuteBoundary σ.slice i then some i.cycle else none
  completes σ i := completing σ.slice i

theorem cycle?_none {σ : Attached} {i : Inputs} (none : device.cycle? σ i = .none) :
    coreExecuteBoundary σ.slice i = false := by
  unfold device at none
  simpa using none

theorem cycle?_some {σ : Attached} {i : Inputs} {cycle : Cycle}
    (some : device.cycle? σ i = .some cycle) :
    coreExecuteBoundary σ.slice i = true ∧ cycle = i.cycle := by
  unfold device at some
  have both : coreExecuteBoundary σ.slice i = true ∧ i.cycle = cycle := by
    simpa using some
  exact ⟨both.1, both.2.symm⟩

/-- The slice simulates the instruction-level machine. -/
theorem simulates (attached : Prop) :
    Clocked.Simulates device (Runs attached) (fun a made b => attached → Takes a made b)
      (fun a made σ => Lockstep attached a σ made) where
  pauses := by
    intro a made σ i lock runs none
    exact Lockstep.pause lock runs (cycle?_none none)
  continues := by
    intro a made σ i cycle lock runs some goesOn
    rcases cycle?_some some with ⟨advances, rfl⟩
    cases lock.fetch (fetch_of_advance advances) runs with
    | primes paused _ _ => exact absurd (paused.symm.trans advances) Bool.false_ne_true
    | continues _ _ next => exact next
    | completes _ next =>
        rcases next with ⟨-, -, ends, -⟩
        exact absurd (goesOn.symm.trans ends) Bool.false_ne_true
  completes := by
    intro a made σ i cycle lock runs some ends
    rcases cycle?_some some with ⟨advances, rfl⟩
    cases lock.fetch (fetch_of_advance advances) runs with
    | primes paused _ _ => exact absurd (paused.symm.trans advances) Bool.false_ne_true
    | continues _ goesOn _ => exact absurd (goesOn.symm.trans ends) Bool.false_ne_true
    | completes _ next =>
        rcases next with ⟨b, takes, -, next⟩
        exact ⟨b, takes, next⟩

/-! ### Attached memories -/

/-- The clock with the word program memory answers. -/
def answered (σ : Attached) (i : Inputs) : Inputs :=
  { i with programData := σ.program (programAddress σ.slice i) }

/-- A run in which program memory answers every clock. -/
def attended (σ : Attached) : List Inputs → List Inputs
  | [] => []
  | i :: clocks => σ.answered i :: attended (σ.step (σ.answered i)) clocks

theorem runs_answered (σ : Attached) {i : Inputs} (noInitialize : i.initializeI = false)
    (noReset : i.rs = false) (noDebug : i.debugDataWrite = false) (attached : Prop) :
    σ.Runs attached (σ.answered i) :=
  ⟨noInitialize, noReset, noDebug, fun _ _ _ => rfl⟩

/-- The memory can answer every run. -/
theorem admits_attended (attached : Prop) (σ : Attached) {clocks : List Inputs}
    (quiet : ∀ i ∈ clocks, i.initializeI = false ∧ i.rs = false ∧ i.debugDataWrite = false) :
    device.Admits (Runs attached) σ (attended σ clocks) := by
  induction clocks generalizing σ with
  | nil => trivial
  | cons i clocks ih =>
      rcases quiet i List.mem_cons_self with ⟨noInitialize, noReset, noDebug⟩
      refine ⟨runs_answered σ noInitialize noReset noDebug attached, ?_⟩
      exact ih _ fun j member => quiet j (List.mem_cons_of_mem i member)

/-- A run of one repeated clock. -/
theorem admits_repeated (attached : Prop) (σ : Attached) {i : Inputs}
    (quiet : i.initializeI = false ∧ i.rs = false ∧ i.debugDataWrite = false) (count : ℕ) :
    device.Admits (Runs attached) σ (attended σ (List.replicate count i)) := by
  apply admits_attended
  intro j member
  rw [List.eq_of_mem_replicate member]
  exact quiet

/-! ### Pace -/

/-- The machine cycles before the first cycle of a step, after a reset. -/
def startup (σ : Attached) : ℕ :=
  if σ.slice.bus.active then
    (if σ.slice.fetchExecute.executeValid || σ.slice.pipelineState == .interruptVector then 0
     else 1)
  else if σ.slice.bus.releaseBoundarySeen then 2
  else 3

/-- The most enabled clocks until the step underway completes. -/
def remaining (made : List Cycle) (σ : Attached) : ℕ :=
  4 * (startup σ + (3 - made.length)) - σ.slice.bus.phase.toNat

section Pace

variable {attached : Prop} {a : Isa.State} {σ : Attached} {made : List Cycle} {i : Inputs}

theorem startup_le (σ : Attached) : startup σ ≤ 3 := by
  unfold startup
  split_ifs <;> omega

/-- A step that has made a cycle is under way. -/
theorem startup_eq (stage : Stage attached a σ made) (empty : made ≠ []) :
    startup σ = 0 ∧ made.length ≤ 2 := by
  have underway {m : Mnemonic} {low : Bool} (stage : Spanning attached a σ m low) :
      startup σ = 0 := by
    unfold startup
    rw [stage.active, stage.occupied]
    rfl
  cases stage with
  | priming => exact absurd rfl empty
  | issuing => exact absurd rfl empty
  | vector => exact absurd rfl empty
  | control stage => exact ⟨underway stage.toSpanning, by simp⟩
  | computed stage => exact ⟨underway stage.toSpanning, by simp⟩
  | io stage => exact ⟨underway stage.toSpanning, by simp⟩
  | tableFirst stage => exact ⟨underway stage.toSpanning, by simp⟩
  | tableSecond stage => exact ⟨underway stage.toSpanning, by simp⟩

theorem length_le (stage : Stage attached a σ made) : made.length ≤ 2 := by
  by_cases empty : made = []
  · rw [empty]
    exact Nat.zero_le 2
  · exact (startup_eq stage empty).2

/-- After the last clock of a machine cycle the phase is zero. -/
theorem step_phase (runs : σ.Runs attached i) (boundary : pipelineBoundary σ.slice i = true) :
    (σ.step i).slice.bus.phase = 0 := by
  rcases pipelineBoundary_enabled boundary with ⟨enabled, -, phase⟩
  change (Slice.step σ.slice i).bus.phase = 0
  rw [step_bus]
  unfold ProgramBus.step busInputs
  dsimp only
  rw [runs.noInitialize, enabled, phase, beq_iff_eq.mp phase]
  rfl

theorem remaining_boundary (made : List Cycle) (runs : σ.Runs attached i)
    (boundary : pipelineBoundary σ.slice i = true) :
    remaining made σ = 4 * (startup σ + (3 - made.length)) - 3 ∧
      remaining made (σ.step i) = 4 * (startup (σ.step i) + (3 - made.length)) := by
  have phase := beq_iff_eq.mp (pipelineBoundary_enabled boundary).2.2
  unfold remaining
  rw [step_phase runs boundary, phase]
  exact ⟨rfl, rfl⟩

/-- A clock within a machine cycle. -/
theorem remaining_within (runs : σ.Runs attached i) (within : pipelineBoundary σ.slice i = false) :
    startup (σ.step i) = startup σ ∧ (σ.step i).slice.bus.phase =
      if busClockEnable σ.slice i then σ.slice.bus.phase + 1 else σ.slice.bus.phase := by
  have slice : (σ.step i).slice = _ := Slice.step_within runs.noInitialize within
  unfold startup
  rw [slice]
  exact ⟨rfl, rfl⟩

/-- After the first fetch the bus stays active. -/
theorem startup_fetch (lock : Lockstep attached a σ made) (runs : σ.Runs attached i)
    (fetch : fetchBoundary σ.slice i = true) :
    startup (σ.step i) ≤ 1 ∧
      ((σ.step i).slice.fetchExecute.executeValid = true → startup (σ.step i) = 0) := by
  have slice : (σ.step i).slice = _ := step_fetch runs.noInitialize fetch
    (lock.seen (fetchBoundary_pipeline fetch).2.1)
  have active : (σ.step i).slice.bus.active = true := by
    rw [slice]
  unfold startup
  rw [active, if_pos rfl]
  constructor
  · split_ifs
    · exact Nat.zero_le 1
    · exact Nat.le_refl 1
  · intro occupied
    rw [occupied]
    rfl

/-- A fetching boundary that does not advance the core fills the empty slot. -/
theorem startup_prime (fetch : fetchBoundary σ.slice i = true)
    (paused : coreExecuteBoundary σ.slice i = false) : startup σ = 1 := by
  have quiet : (executeReady σ.slice i || interruptVectorStep σ.slice) = false := by
    unfold coreExecuteBoundary at paused
    rwa [fetch, Bool.true_and] at paused
  rw [Bool.or_eq_false_iff] at quiet
  have unoccupied : σ.slice.fetchExecute.executeValid = false := by
    by_contra occupied
    rw [Bool.not_eq_false] at occupied
    exact absurd (quiet.1.symm.trans (ready_of_fetch fetch occupied).1) Bool.false_ne_true
  have state : (σ.slice.pipelineState == .interruptVector) = false := quiet.2
  unfold startup
  rw [(fetchBoundary_pipeline fetch).2.1, unoccupied, state]
  rfl

/-- The boundaries before the first fetch. -/
theorem startup_release (lock : Lockstep attached a σ made) (runs : σ.Runs attached i)
    (boundary : pipelineBoundary σ.slice i = true) (inactive : σ.slice.bus.active = false) :
    startup (σ.step i) < startup σ := by
  have unoccupied : σ.slice.fetchExecute.executeValid = false ∧
      σ.slice.pipelineState = .sequential := by
    have stage := lock.stage
    cases stage with
    | priming stage => exact ⟨stage.unoccupied, stage.state⟩
    | issuing stage => exact absurd (inactive.symm.trans stage.active) Bool.false_ne_true
    | vector stage => exact absurd (inactive.symm.trans stage.active) Bool.false_ne_true
    | control stage => exact absurd (inactive.symm.trans stage.active) Bool.false_ne_true
    | computed stage => exact absurd (inactive.symm.trans stage.active) Bool.false_ne_true
    | io stage => exact absurd (inactive.symm.trans stage.active) Bool.false_ne_true
    | tableFirst stage => exact absurd (inactive.symm.trans stage.active) Bool.false_ne_true
    | tableSecond stage => exact absurd (inactive.symm.trans stage.active) Bool.false_ne_true
  have slice : (σ.step i).slice = _ :=
    step_release runs.noInitialize boundary runs.noReset inactive unoccupied.1
  unfold startup
  rw [slice, inactive]
  dsimp only
  rw [unoccupied.2]
  cases σ.slice.bus.releaseBoundarySeen
  · exact Nat.lt_succ_self 2
  · exact Nat.lt_succ_self 1

/-- The slice keeps pace with the machine. -/
theorem paced :
    Clocked.Paced device (Runs True) (fun a made σ => Lockstep True a σ made) Stuck
      Inputs.clockEnable remaining 16 where
  pauses := by
    intro a made σ i lock runs disabled
    have paused : busClockEnable σ.slice i = false := by
      unfold busClockEnable
      rw [disabled]
      rfl
    have within : pipelineBoundary σ.slice i = false := by
      unfold pipelineBoundary
      rw [paused]
      rfl
    rcases remaining_within runs within with ⟨startup, phase⟩
    rw [paused, if_neg Bool.false_ne_true] at phase
    constructor
    · have quiet : coreExecuteBoundary σ.slice i = false := by
        unfold coreExecuteBoundary fetchBoundary
        rw [within]
        rfl
      unfold device
      simp [quiet]
    · change remaining made (σ.step i) ≤ remaining made σ
      unfold remaining
      rw [startup, phase]
  waits := by
    intro a made σ i lock runs free enabled none
    have paused := cycle?_none none
    have length := length_le lock.stage
    have unblocked : pipelineBlocked σ.slice i = false := by
      by_contra blocked
      rw [Bool.not_eq_false] at blocked
      exact free (lock.stuck_of_blocked runs blocked)
    have bus : busClockEnable σ.slice i = true := by
      unfold busClockEnable
      rw [enabled, unblocked, Bool.not_false, Bool.or_true]
      rfl
    change remaining made (σ.step i) < remaining made σ
    rcases Bool.eq_false_or_eq_true (pipelineBoundary σ.slice i) with boundary | within
    · rcases remaining_boundary made runs boundary with ⟨before, after⟩
      rw [before, after]
      rcases Bool.eq_false_or_eq_true σ.slice.bus.active with active | inactive
      · have fetch : fetchBoundary σ.slice i = true := by
          unfold fetchBoundary
          rw [boundary, active, runs.noReset]
          rfl
        cases lock.fetch fetch runs with
        | primes _ filled _ =>
            have first := startup_prime fetch paused
            have second := (startup_fetch lock runs fetch).2 filled
            omega
        | continues advances _ _ => exact absurd (paused.symm.trans advances) Bool.false_ne_true
        | completes advances _ => exact absurd (paused.symm.trans advances) Bool.false_ne_true
      · have fewer := startup_release lock runs boundary inactive
        omega
    · rcases remaining_within runs within with ⟨startup, phase⟩
      rw [bus, if_pos rfl] at phase
      have early : (σ.slice.bus.phase == 3) = false := by
        unfold pipelineBoundary at within
        rwa [bus, Bool.true_and] at within
      have differs : σ.slice.bus.phase ≠ 3 := by
        simpa using early
      unfold remaining
      rw [startup, phase]
      have counted : (σ.slice.bus.phase + 1).toNat = σ.slice.bus.phase.toNat + 1 := by
        bv_omega
      have small : σ.slice.bus.phase.toNat < 3 := by
        bv_omega
      omega
  continues := by
    intro a made σ i cycle lock runs some goesOn
    have next := (simulates True).continues lock runs some goesOn
    rcases startup_eq next.stage (by simp) with ⟨startup, length⟩
    rcases cycle?_some some with ⟨advances, -⟩
    have boundary := (fetchBoundary_pipeline (fetch_of_advance advances)).1
    have after := (remaining_boundary (made ++ [cycle]) runs boundary).2
    have before := (remaining_boundary made runs boundary).1
    change remaining (made ++ [cycle]) (σ.step i) < remaining made σ
    have startup' : Attached.startup (σ.step i) = 0 := startup
    rw [List.length_append, List.length_singleton] at length after
    rw [after, before, startup']
    omega
  completes := by
    intro a made σ i cycle lock runs some ends
    rcases cycle?_some some with ⟨advances, -⟩
    have fetch := fetch_of_advance advances
    have boundary := (fetchBoundary_pipeline fetch).1
    have active := (startup_fetch lock runs fetch).1
    have length := length_le lock.stage
    rcases remaining_boundary [] runs boundary with ⟨-, after⟩
    rcases remaining_boundary made runs boundary with ⟨before, -⟩
    change remaining [] (σ.step i) < remaining made σ + 16
    rw [after, before, List.length_nil]
    omega

end Pace

end Attached

end Tms32010.Rtl.Slice
