import Tms32010.Laws.PipelineRuns
import Tms32010.Rtl.CoreRun

/-!
# The core runs the reference model

After a reset the core, with a program memory that answers it, shows at its successive
retirements and interrupt entries the states of successive calls of the reference
model, as long as the word after `CALA` or `RET` makes no store of its own.
-/

namespace Tms32010

/-- A write that leaves the memory as it is. -/
theorem DataRam.write_eq_self {ram : DataRam} {address : BitVec 8} {value : BitVec 16}
    (valid : DataRam.addressValid address = true) :
    ram.write address value = ram ↔ ram.read address = value := by
  constructor
  · intro same
    rw [← same, DataRam.read_write_same valid]
  · rintro rfl
    funext k
    unfold DataRam.write DataRam.read
    rw [DataRam.addressValid_iff] at valid
    by_cases same : k = ⟨address.toNat, valid⟩
    · subst same
      simp [valid]
    · simp [valid, same]

namespace Rtl.Core

open Model (Tms32010Model StepTrace trajectory embed)
open Slice (GoesOn lastModel usesStackAccess resetState)

/-! ## Stores of the word after `CALA` and `RET` -/

/-- The store of a word that `CALA` and `RET` do not mask leaves the data RAM as it is: a
move from address 0 to 1, or a store to 0. -/
def StoresNothing (r : Registers) (data : DataRam) (word : BitVec 16) : Prop :=
  ∀ m, mnemonic? word = some m →
    (m.movesData = true → data.read 1 = data.read 0) ∧
      (m.storesRegister = true → data.read 0 = r.storeWord m word)

/-- An enabled second cycle of `CALA` or `RET` finds a word that stores nothing. -/
def Harmless (σ : Hosted) (i : Inputs) : Prop :=
  i.clockEnable = true → σ.core.computedControlPending = true →
    StoresNothing σ.core.toRegisters σ.core.dataRam.memory i.programData

theorem storesNothing_iff (word : BitVec 16) (a : Isa.State) :
    StoresNothing a.toRegisters a.data word ↔ strayData word a = a.data := by
  unfold StoresNothing strayData
  cases found : mnemonic? word with
  | none => exact ⟨fun _ => rfl, fun _ _ => nofun⟩
  | some m =>
      dsimp only
      have apart : m.movesData = true → m.storesRegister = false := by
        cases m <;> decide
      rcases Bool.eq_false_or_eq_true m.movesData with moves | stays
      · rw [if_pos moves, DataRam.write_eq_self (by decide)]
        constructor
        · intro nothing
          exact (nothing m rfl).1 moves
        · intro same m' found'
          cases found'
          exact ⟨fun _ => same, fun stores =>
            absurd ((apart moves).symm.trans stores) Bool.false_ne_true⟩
      · rw [stays, if_neg Bool.false_ne_true]
        rcases Bool.eq_false_or_eq_true m.storesRegister with stores | keeps
        · rw [if_pos stores, DataRam.write_eq_self (by decide)]
          constructor
          · intro nothing
            exact (nothing m rfl).2 stores
          · intro same m' found'
            cases found'
            exact ⟨fun moves => absurd (stays.symm.trans moves) Bool.false_ne_true,
              fun _ => same⟩
        · rw [keeps, if_neg Bool.false_ne_true]
          refine ⟨fun _ => rfl, fun _ m' found' => ?_⟩
          cases found'
          exact ⟨fun moves => absurd (stays.symm.trans moves) Bool.false_ne_true,
            fun stores => absurd (keeps.symm.trans stores) Bool.false_ne_true⟩

section Clock

variable {p : Params} {a : Isa.State} {σ : Hosted} {i : Inputs} {made : List Cycle}

/-- The only stage with a pending computed transfer. -/
theorem Stage.computedStage (stage : Stage p a σ made)
    (pending : σ.core.computedControlPending = true) :
    ∃ m c, made = [c] ∧ Computed p a σ m c := by
  have other {q : Prop} (none : σ.core.computedControlPending = false) : q :=
    absurd (none.symm.trans pending) Bool.false_ne_true
  cases stage with
  | shown stage => exact other stage.idle.computed
  | control stage => exact other stage.pending.computed
  | computed stage => exact ⟨_, _, rfl, stage⟩
  | io stage => exact other stage.pending.computed
  | tableFirst stage => exact other stage.pending.computed
  | tableSecond stage => exact other stage.pending.computed
  | parkedWord stage => exact other stage.idle.computed
  | parkedOperand stage => exact other stage.pending.computed

/-- In the second cycle of `CALA` and `RET` the stray store is harmless when it leaves the
data RAM of the machine as it is. -/
theorem Computed.harmless_iff {m : Mnemonic} {c : Cycle} (stage : Computed p a σ m c)
    (runs : σ.Runs i) (enabled : i.clockEnable = true) :
    Harmless σ i ↔ strayData (a.program (a.pc + 1)) a = a.data := by
  rcases stage.toSpanning.fetches (p := p) runs enabled stage.pending.io
    (by rw [stage.pending.table]; rfl) with ⟨word, -, -, -⟩
  have same : StoresNothing σ.core.toRegisters σ.core.dataRam.memory i.programData ↔
      StoresNothing a.toRegisters a.data (a.program (a.pc + 1)) := by
    rw [stage.underway.registers, stage.underway.data, word]
    rfl
  rw [← storesNothing_iff, ← same]
  exact ⟨fun harmless => harmless enabled stage.pending.pending, fun nothing _ _ => nothing⟩

/-- The machine makes the cycles from one state to another, without a stray store. -/
def Exact (a : Isa.State) (made : List Cycle) (b : Isa.State) : Prop :=
  ∃ outcome, Isa.step (pins made) a = .ok outcome ∧ outcome.state = b ∧
    outcome.cycles = made.length ∧ ∀ m, outcome.executed = some m → m.stackAccess = false

/-- The machine's step of `CALA` and `RET`. -/
theorem computed_outcome {m : Mnemonic} {inputs : Isa.Input} {outcome : Isa.Outcome}
    (noEntry : a.interruptEntryPending = false) (found : mnemonic? (a.program a.pc) = some m)
    (family : m.computedControlFlow = true) (made : Isa.step inputs a = .ok outcome) :
    outcome.executed = some m ∧ outcome.cycles = 2 ∧ outcome.state.data = a.data := by
  have stepped := Isa.step_of_instruction noEntry rfl found
    (Isa.stepInstruction_computed family (a.program a.pc) inputs (Isa.latchRequest inputs a))
  rw [made, Except.ok.injEq] at stepped
  rw [stepped]
  refine ⟨rfl, rfl, ?_⟩
  unfold Isa.stepStack Isa.retire Isa.advanceInterrupt
  dsimp only
  split_ifs <;> rfl

/-- A step that executes `CALA` or `RET` completes in its second cycle. -/
theorem Stage.executes_computed (stage : Stage p a σ made) {m : Mnemonic}
    {inputs : Isa.Input} {outcome : Isa.Outcome} (step : Isa.step inputs a = .ok outcome)
    (cycles : outcome.cycles = made.length + 1) (executed : outcome.executed = some m)
    (family : m.computedControlFlow = true) : σ.core.computedControlPending = true := by
  have noEntry : a.interruptEntryPending = false := by
    by_contra entry
    rw [Bool.not_eq_false] at entry
    unfold Isa.step at step
    rw [if_pos entry, Except.ok.injEq] at step
    rw [← step] at executed
    exact absurd executed nofun
  rcases Isa.step_supported step noEntry with ⟨m', found, executed', -, -⟩
  have same : m' = m := Option.some.inj (executed'.symm.trans executed)
  subst same
  rw [(computed_outcome noEntry found family step).2.1] at cycles
  have control {n : Mnemonic} (found' : mnemonic? (a.program a.pc) = some n)
      (branch : n.twoWordControlFlow = true) : σ.core.computedControlPending = true := by
    cases found'.symm.trans found
    exact absurd ((Mnemonic.twoWordControlFlow_apart branch).1.symm.trans family)
      Bool.false_ne_true
  cases stage with
  | shown stage => exact absurd cycles (by decide)
  | control stage => exact control stage.found stage.family
  | computed stage => exact stage.pending.pending
  | io stage =>
      cases stage.found.symm.trans found
      exact absurd ((Mnemonic.ioTransfer_apart stage.family).2.1.symm.trans family)
        Bool.false_ne_true
  | tableFirst stage =>
      cases stage.found.symm.trans found
      exact absurd ((Mnemonic.tableTransfer_apart stage.family).2.1.symm.trans family)
        Bool.false_ne_true
  | tableSecond stage => exact absurd cycles (by simp)
  | parkedWord stage => exact absurd cycles (by decide)
  | parkedOperand stage => exact control stage.found stage.family

/-- A completing clock is harmless exactly when the step leaves the state of the machine. -/
theorem Stage.harmless_iff (stage : Stage p a σ made) (runs : σ.Runs i)
    (enabled : i.clockEnable = true) {outcome : Isa.Outcome}
    (executes : Executes p a (made ++ [σ.cycle p i]) outcome) :
    Harmless σ i ↔ strayed a outcome = outcome.state := by
  have cycles := executes.cycles
  rw [List.length_append, List.length_singleton] at cycles
  rcases Bool.eq_false_or_eq_true σ.core.computedControlPending with pending | none
  · rcases stage.computedStage pending with ⟨m, c, -, stage⟩
    rcases computed_outcome stage.underway.noEntry stage.found stage.family executes.step with
      ⟨executed, -, data⟩
    rw [stage.harmless_iff runs enabled, ← data]
    unfold strayed
    rw [executed]
    dsimp only
    rw [stage.family, if_pos rfl]
    constructor
    · intro same
      rw [same]
    · exact fun same => congrArg Isa.State.data same
  · refine ⟨fun _ => ?_, fun _ _ pending => absurd (none.symm.trans pending) Bool.false_ne_true⟩
    unfold strayed
    cases executed : outcome.executed with
    | none => rfl
    | some m =>
        have plain : m.computedControlFlow = false := by
          by_contra family
          rw [Bool.not_eq_false] at family
          have pending := stage.executes_computed executes.step cycles executed family
          exact absurd (none.symm.trans pending) Bool.false_ne_true
        dsimp only
        rw [plain]
        rfl

end Clock

/-! ## Runs -/

/-- The core simulates the machine in a run without a harmful store. -/
theorem simulates_exact {p : Params} (combinational : p.registerInternalRamRead = false) :
    Clocked.Simulates (Hosted.device p) (fun σ i => σ.Runs i ∧ Harmless σ i) Exact
      (fun a made σ => Stage p a σ made) where
  pauses stage admitted none := (Hosted.simulates combinational).pauses stage admitted.1 none
  continues stage admitted some goesOn :=
    (Hosted.simulates combinational).continues stage admitted.1 some goesOn
  completes := by
    intro a made σ i cycle stage admitted some ends
    rcases Hosted.cycle?_some some with ⟨enabled, -, rfl⟩
    rcases (Hosted.simulates combinational).completes stage admitted.1 some ends with
      ⟨b, ⟨outcome, executes, rfl⟩, next⟩
    refine ⟨_, ⟨outcome, executes.step, ?_, executes.cycles,
      fun m executed => (executes.implemented m executed).1⟩, next⟩
    exact ((stage.harmless_iff admitted.1 enabled executes).mp admitted.2).symm

/-- The architectural state of the core with its memories, after `cycles` machine cycles. -/
def Hosted.architecture (σ : Hosted) (cycles : ℕ) : Isa.State :=
  machine σ.core σ.program σ.ioOutput cycles

/-- A completed step of the core shows the model after a call, and takes its cycles. -/
structure ShowsCall (step : List Cycle × Hosted) (call : StepTrace × Tms32010Model) :
    Prop where
  state : call.2 = embed (pins step.1) (step.2.architecture call.2.cycleCount)
  cycles : call.1.cycles = step.1.length
  plain : ¬usesStackAccess call.1

/-- A clock that completes no step keeps every word of the data RAM. -/
def KeepsData (p : Params) (σ : Hosted) (i : Inputs) : Prop :=
  ((Hosted.device p).cycle? σ i = none ∨ (Hosted.device p).completes σ i = false) →
    (σ.step p i).core.dataRam.memory = σ.core.dataRam.memory

/-- The completed steps of a run are the successive calls of the model, no other clock
changes the data RAM, and the run never falls behind a model that goes on. -/
structure Refines (p : Params) (origin : Tms32010Model) (σ : Hosted) (clocks : List Inputs) :
    Prop where
  calls : ∃ calls, trajectory origin
      (((Hosted.device p).steps [] σ clocks).map fun step => pins step.1) = .ok calls ∧
    List.Forall₂ ShowsCall ((Hosted.device p).steps [] σ clocks) calls ∧
    (GoesOn (lastModel origin calls) → clocks.countP Inputs.clockEnable ≤
      3 + 3 * ((Hosted.device p).steps [] σ clocks).length)
  data : (Hosted.device p).Admits (KeepsData p) σ clocks

section Run

variable {p : Params} {a : Isa.State} {σ : Hosted} {made : List Cycle}

theorem image_injective {n w : ℕ} {first second : Fin n → BitVec w}
    (same : Model.image first = Model.image second) : first = second := by
  have words := List.ofFn_injective same
  funext k
  exact BitVec.eq_of_toNat_eq (congrFun words k)

/-- Until a step completes the data RAM is that of the machine before it. -/
theorem Stage.data (stage : Stage p a σ made) : σ.core.dataRam.memory = a.data := by
  cases stage with
  | shown stage => exact congrArg Isa.State.data stage.shows
  | control stage => exact stage.underway.data
  | computed stage => exact stage.underway.data
  | io stage => exact stage.underway.data
  | tableFirst stage => exact stage.underway.data
  | tableSecond stage => exact stage.underway.data
  | parkedWord stage => exact congrArg Isa.State.data stage.shows
  | parkedOperand stage => exact stage.underway.data

theorem strayed_eq_of_data {outcome : Isa.Outcome}
    (data : (strayed a outcome).data = outcome.state.data) :
    strayed a outcome = outcome.state := by
  unfold strayed at data ⊢
  cases executed : outcome.executed with
  | none => rfl
  | some m =>
      rw [executed] at data
      dsimp only at data ⊢
      cases family : m.computedControlFlow
      · rfl
      · rw [family, if_pos rfl] at data
        rw [if_pos rfl]
        dsimp only at data
        rw [data]

/-- What the core shows of a call is the state the call leaves. -/
theorem data_of_shows {outcome : Isa.Outcome} {σ : Hosted}
    {made : List Cycle} {trace : StepTrace} {self : Tms32010Model}
    (step : Isa.step (pins made) a = .ok outcome)
    (called : Model.step (embed (pins made) a) = .ok trace self)
    (shows : ShowsCall (made, σ) (trace, self)) :
    σ.core.dataRam.memory = outcome.state.data := by
  rcases Model.step_matches step with ⟨trace', called', -⟩
  rw [called, EStateM.Result.ok.injEq] at called'
  have state := shows.state
  dsimp only at state
  rw [called'.2] at state
  exact (image_injective (congrArg Tms32010Model.data state)).symm

/-- A run whose steps show the calls of the model makes no harmful store. -/
theorem harmless_of_shows (combinational : p.registerInternalRamRead = false)
    {clocks : List Inputs} (stage : Stage p a σ made)
    (runs : (Hosted.device p).Admits Hosted.Runs σ clocks) (inputs : Isa.Input)
    {calls : List (StepTrace × Tms32010Model)}
    (called : trajectory (embed inputs a)
      (((Hosted.device p).steps made σ clocks).map fun step => pins step.1) = .ok calls)
    (shows : List.Forall₂ ShowsCall ((Hosted.device p).steps made σ clocks) calls) :
    (Hosted.device p).Admits Harmless σ clocks := by
  have simulates := Hosted.simulates combinational
  induction clocks generalizing a σ made inputs calls with
  | nil => trivial
  | cons i clocks ih =>
      rcases runs with ⟨admitted, runs⟩
      unfold Clocked.Device.steps at called shows
      cases cycle : (Hosted.device p).cycle? σ i with
      | none =>
          rw [cycle] at called shows
          refine ⟨?_, ih (simulates.pauses stage admitted cycle) runs inputs called shows⟩
          intro enabled pending
          rcases Hosted.cycle?_none cycle with disabled | ⟨-, -, invalid⟩
          · exact absurd (disabled.symm.trans enabled) Bool.false_ne_true
          · rcases stage.computedStage pending with ⟨m, c, -, computed⟩
            have valid := instructionValid_computed computed.underway computed.pending
              computed.family (admitted.running enabled) computed.enabled
            exact absurd (invalid.symm.trans valid) Bool.false_ne_true
      | some c =>
          rw [cycle] at called shows
          rcases Hosted.cycle?_some cycle with ⟨enabled, -, rfl⟩
          dsimp only at called shows
          cases ends : (Hosted.device p).completes σ i
          · rw [ends, if_neg Bool.false_ne_true] at called shows
            have next := simulates.continues stage admitted cycle ends
            refine ⟨?_, ih next runs inputs called shows⟩
            intro _ pending
            rcases stage.computedStage pending with ⟨m, c, -, computed⟩
            have valid := instructionValid_computed computed.underway computed.pending
              computed.family (admitted.running enabled) computed.enabled
            have retires := (retires_computed computed.underway computed.pending valid).1
            replace ends : (σ.core.interruptEntryPending || retirementBoundary p σ.core i) =
                false := ends
            rw [retires, Bool.or_true] at ends
            exact absurd ends.symm Bool.false_ne_true
          · rw [ends, if_pos rfl] at called shows
            rcases simulates.completes stage admitted cycle ends with
              ⟨b, ⟨outcome, executes, rfl⟩, next⟩
            rw [List.map_cons] at called
            rcases Model.trajectory_cons executes.step called with
              ⟨trace, calls', rfl, made', -, tail⟩
            rcases shows with _ | ⟨first, shows⟩
            have stays : strayed a outcome = outcome.state :=
              strayed_eq_of_data (next.data.symm.trans (data_of_shows executes.step made' first))
            rw [stays] at next
            exact ⟨(stage.harmless_iff admitted enabled executes).mpr stays,
              ih next runs _ tail shows⟩

/-- No clock but the last of a step changes the data RAM. -/
theorem keepsData (combinational : p.registerInternalRamRead = false) {clocks : List Inputs}
    (stage : Stage p a σ made) (runs : (Hosted.device p).Admits Hosted.Runs σ clocks) :
    (Hosted.device p).Admits (KeepsData p) σ clocks := by
  have simulates := Hosted.simulates combinational
  induction clocks generalizing a σ made with
  | nil => trivial
  | cons i clocks ih =>
      rcases runs with ⟨admitted, runs⟩
      cases cycle : (Hosted.device p).cycle? σ i with
      | none =>
          have next := simulates.pauses stage admitted cycle
          exact ⟨fun _ => next.data.trans stage.data.symm, ih next runs⟩
      | some c =>
          cases ends : (Hosted.device p).completes σ i
          · have next := simulates.continues stage admitted cycle ends
            exact ⟨fun _ => next.data.trans stage.data.symm, ih next runs⟩
          · rcases simulates.completes stage admitted cycle ends with ⟨b, -, next⟩
            refine ⟨?_, ih next runs⟩
            intro within
            rcases within with none | within
            · exact absurd (cycle.symm.trans none) nofun
            · exact absurd (within.symm.trans ends) Bool.false_ne_true

/-- A harmless step takes the machine from one state to the other. -/
theorem Exact.unique {b b' : Isa.State} (takes : Exact a made b) (takes' : Exact a made b') :
    b = b' := by
  rcases takes with ⟨outcome, step, rfl, -⟩
  rcases takes' with ⟨outcome', step', rfl, -⟩
  have same : outcome = outcome' := Except.ok.inj (step.symm.trans step')
  rw [same]

/-- A completed step shows the state of the machine. -/
theorem completes_exact (combinational : p.registerInternalRamRead = false) {b : Isa.State}
    {i : Inputs} {cycle : Cycle} (stage : Stage p a σ made)
    (admitted : σ.Runs i ∧ Harmless σ i) (some : (Hosted.device p).cycle? σ i = .some cycle)
    (ends : (Hosted.device p).completes σ i = true) (takes : Exact a (made ++ [cycle]) b) :
    Shown b ((Hosted.device p).next σ i) := by
  rcases (Hosted.simulates combinational).completes stage admitted.1 some ends with
    ⟨b', takes, -⟩
  have shown := Hosted.completes_shown combinational stage admitted.1 some ends takes
  rcases takes with ⟨outcome, executes, rfl⟩
  rcases Hosted.cycle?_some some with ⟨enabled, -, rfl⟩
  rw [(stage.harmless_iff admitted.1 enabled executes).mp admitted.2] at shown
  have same : outcome.state = b := Exact.unique ⟨outcome, executes.step, rfl, executes.cycles,
    fun m executed => (executes.implemented m executed).1⟩ takes
  rwa [same] at shown

/-- A step of the machine without `PUSH` and `POP` starts from a state the default core
completes. -/
theorem Exact.free {b : Isa.State} (takes : Exact a made b) : ¬Stuck .default a := by
  rcases takes with ⟨outcome, step, -, -, plain⟩
  intro stuck
  rcases (stuck_iff.mp stuck).2 _ _ step with ⟨m, executed, refused⟩
  rcases refused with access | disabled
  · exact absurd ((plain m executed).symm.trans access) Bool.false_ne_true
  · exact absurd disabled.2 (by decide)

end Run

/-! ## Restarts -/

/-- A clock that initializes or resets the core. -/
def Restarts (start : Inputs) : Prop :=
  (start.initializeRequest || start.resetRequest) = true

section Restart

variable {p : Params} {start : Inputs}

/-- A restarted core has nothing underway and its interrupt state cleared. -/
theorem Hosted.step_restart (σ : Hosted) (restarts : Restarts start) :
    Idle (σ.step p start).core ∧
      resetState ((σ.step p start).architecture 0) = (σ.step p start).architecture 0 := by
  unfold Hosted.architecture Hosted.step Core.step nextRegisters
  rcases Bool.eq_false_or_eq_true start.initializeRequest with initial | noInitialize
  · rw [initial, if_pos rfl]
    exact ⟨⟨rfl, rfl, rfl, rfl⟩, rfl⟩
  · have reset : start.resetRequest = true := by
      unfold Restarts at restarts
      rwa [noInitialize, Bool.false_or] at restarts
    rw [noInitialize, reset, if_neg Bool.false_ne_true, if_pos rfl]
    exact ⟨⟨rfl, rfl, rfl, rfl⟩, rfl⟩

end Restart

/-! ## Refinement -/

/-- A model that goes on is in a state the default core completes. -/
theorem free_of_goesOn {inputs : Isa.Input} {b : Isa.State} (goes : GoesOn (embed inputs b)) :
    ¬Stuck .default b := by
  intro stuck
  apply Slice.free_of_goesOn goes
  intro pins outcome step
  rcases (stuck_iff.mp stuck).2 pins outcome step with ⟨m, executed, refused⟩
  rcases refused with access | disabled
  · exact ⟨m, executed, access⟩
  · exact absurd disabled.2 (by decide)

section Refinement

variable {a : Isa.State} {σ : Hosted} {clocks : List Inputs}

/-- A run without a harmful store refines the model. -/
theorem refines_of_harmless (shown : Shown a σ)
    (runs : (Hosted.device .default).Admits Hosted.Runs σ clocks)
    (harmless : (Hosted.device .default).Admits Harmless σ clocks) (inputs : Isa.Input) :
    Refines .default (embed inputs a) σ clocks := by
  have simulates : Clocked.Simulates (Hosted.device .default) _ _ _ := simulates_exact rfl
  have admits := ((Hosted.device .default).admits_and σ clocks).mpr ⟨runs, harmless⟩
  rcases simulates.follows_fresh
    (fun stage admitted some ends takes _ => completes_exact rfl stage admitted some ends takes)
    (.shown shown) admits with ⟨b, follows, -⟩
  rcases Slice.calls_of_follows (fun _ _ _ takes => takes) follows inputs with
    ⟨calls, ran, shows, pins', last⟩
  refine ⟨⟨calls, ran, shows.imp ?_, ?_⟩, keepsData rfl (.shown shown) runs⟩
  · rintro ⟨made, σ⟩ ⟨trace, self⟩ ⟨⟨b, agrees, state⟩, cycles, plain⟩
    refine ⟨?_, cycles, plain⟩
    dsimp only at agrees state
    subst state
    exact congrArg (embed (pins made)) agrees.shows.symm
  · intro goes
    rw [last] at goes
    have paced : Clocked.Paced (Hosted.device .default) _ _ _ _ _ _ :=
      Hosted.paced.restrict fun σ i (admitted : σ.Runs i ∧ Harmless σ i) => admitted.1
    exact paced.ticks_le simulates (fun _ _ _ takes => takes.free) (.shown shown) admits
      (follows.weaken fun _ _ shown => .shown shown) (free_of_goesOn goes)

/-- A run that refines the model makes no harmful store. -/
theorem harmless_of_refines (shown : Shown a σ)
    (runs : (Hosted.device .default).Admits Hosted.Runs σ clocks) (inputs : Isa.Input)
    (refines : Refines .default (embed inputs a) σ clocks) :
    (Hosted.device .default).Admits Harmless σ clocks := by
  rcases refines.calls with ⟨calls, ran, shows, -⟩
  exact harmless_of_shows rfl (.shown shown) runs inputs ran shows

end Refinement

/-- After a restart the core refines the reference model exactly when every enabled second
cycle of `CALA` and `RET` finds a word that stores nothing. -/
theorem core_refines_iff (σ : Hosted) (start : Inputs) (restarts : Restarts start)
    (clocks : List Inputs)
    (runs : (Hosted.device .default).Admits Hosted.Runs (σ.step .default start) clocks)
    (inputs : Isa.Input) :
    let origin := embed inputs ((σ.step .default start).architecture 0)
    origin = Model.resetAtInstructionBoundary origin ∧
      (Refines .default origin (σ.step .default start) clocks ↔
        (Hosted.device .default).Admits Harmless (σ.step .default start) clocks) := by
  intro origin
  rcases σ.step_restart (p := .default) restarts with ⟨idle, cleared⟩
  have shown : Shown ((σ.step .default start).architecture 0) (σ.step .default start) :=
    ⟨rfl, idle⟩
  refine ⟨?_, harmless_of_refines shown runs inputs, fun harmless =>
    refines_of_harmless shown runs harmless inputs⟩
  rw [Slice.resetAtInstructionBoundary_embed, cleared]

/-! ### A store of the word after `CALA` -/

/-- A clock that enables the core. -/
def enabledInputs : Inputs := { restingInputs with clockEnable := true }

/-- `LACK 5` and `CALA`, with `SACL 0` after them. -/
def callProgram : ProgramMemory := fun address =>
  if address = 0 then 0x7e05 else if address = 1 then 0x7f8c else 0x5000

/-- The core with this program, cleared. -/
def callStart : Hosted := ⟨blank, callProgram, fun _ => 0⟩

theorem core_refines_iff_call :
    let start := { restingInputs with initializeRequest := true }
    let σ := callStart.step .default start
    let origin := embed (pins []) (σ.architecture 0)
    origin = Model.resetAtInstructionBoundary origin ∧
      (Refines .default origin σ (σ.attended .default (List.replicate 8 enabledInputs)) ↔
        (Hosted.device .default).Admits Harmless σ
          (σ.attended .default (List.replicate 8 enabledInputs))) :=
  core_refines_iff callStart { restingInputs with initializeRequest := true } rfl _
    (Hosted.admits_repeated _ ⟨rfl, rfl, rfl⟩ 8) _

/-- Quiet pins. -/
def quietPins : Isa.Input := ⟨true, true, fun _ => 0⟩

/-- The two steps of the machine. -/
theorem callSteps :
    let a := (callStart.step .default { restingInputs with initializeRequest := true }).architecture 0
    ∃ first second, Isa.step quietPins a = .ok first ∧
      Isa.step quietPins first.state = .ok second ∧ first.executed = some .lack ∧
        second.executed = some .cala := by
  intro a
  have lack := Isa.step_of_instruction (i := quietPins) (s := a) (m := .lack) rfl
    (show _ = (0x7e05 : BitVec 16) from rfl) (by decide) rfl
  exact ⟨_, _, lack, Isa.step_of_instruction (m := .cala) rfl
    (show _ = (0x7f8c : BitVec 16) from rfl) (by decide) rfl, rfl, rfl⟩

/-- The model calls the word at 5 after two steps and stores nothing; the core stores 5
at data address 0 in the second cycle of `CALA`. -/
theorem core_stores_after_call :
    let σ := callStart.step .default { restingInputs with initializeRequest := true }
    let clocks := σ.attended .default (List.replicate 3 enabledInputs)
    let origin := embed (pins []) (σ.architecture 0)
    (Hosted.device .default).Admits Hosted.Runs σ clocks ∧
      (∃ calls, trajectory origin (((Hosted.device .default).steps [] σ clocks).map
          fun step => pins step.1) = .ok calls ∧
        ∀ call ∈ calls, ¬usesStackAccess call.1) ∧
      ((Hosted.device .default).run σ clocks).core.dataRam.memory.read 0 = 5 ∧
      ¬Refines .default origin σ clocks := by
  intro σ clocks origin
  have runs : (Hosted.device .default).Admits Hosted.Runs σ clocks :=
    Hosted.admits_repeated σ ⟨rfl, rfl, rfl⟩ 3
  refine ⟨runs, ?_, by decide +kernel, ?_⟩
  · have made : (((Hosted.device .default).steps [] σ clocks).map fun step => pins step.1) =
        [quietPins, quietPins] := by
      have cycles : ((Hosted.device .default).steps [] σ clocks).map Prod.fst =
          [[⟨true, true, 0, .programRead 0 0x7e05⟩],
            [⟨true, true, 0, .programRead 1 0x7f8c⟩, ⟨true, true, 0, .programRead 2 0x5000⟩]] := by
        decide +kernel
      have observed := congrArg (List.map pins) cycles
      rwa [List.map_map] at observed
    rcases callSteps with ⟨first, second, lack, cala, executed, executed'⟩
    have run : Isa.Run (σ.architecture 0) [(quietPins, first), (quietPins, second)]
        second.state := .step lack (.step cala (.done _))
    rcases Model.trajectory_embed run (pins []) with ⟨calls, ran, matched⟩
    rw [made]
    refine ⟨calls, ran, ?_⟩
    rcases matched with _ | ⟨matched, _ | ⟨matched', _ | _⟩⟩
    intro call member
    rcases List.mem_cons.mp member with rfl | member
    · exact Slice.plain_of_matches matched fun m some => by
        rw [← Option.some.inj (executed.symm.trans some)]
        rfl
    · rw [List.mem_singleton.mp member]
      exact Slice.plain_of_matches matched' fun m some => by
        rw [← Option.some.inj (executed'.symm.trans some)]
        rfl
  · intro refines
    have harmless := harmless_of_refines ⟨rfl, ⟨rfl, rfl, rfl, rfl⟩⟩ runs (pins []) refines
    have stores := harmless.2.2.1 rfl (by decide +kernel) .sacl (by decide +kernel)
    exact absurd (stores.2 rfl) (by decide +kernel)

end Rtl.Core

end Tms32010
