import Tms32010.Model.Run
import Tms32010.Rtl.SliceRun

/-!
# The pipeline slice runs the reference model

After a reset the slice, attached to a program memory, shows at its successive
retirements and interrupt entries the states of successive calls of the
reference model. It never falls behind: as long as the model can go on, every
sixteen enabled clocks complete a step.
-/

namespace Tms32010.Rtl.Slice

open Tms32010.Rtl.Core (machine)
open Model (Tms32010Model StepTrace trajectory embed)

/-! ## Calls and completed steps -/

/-- The architectural state of the slice with its memories, after `cycles` machine cycles. -/
def Attached.architecture (σ : Attached) (cycles : ℕ) : Isa.State :=
  machine σ.slice.core σ.program σ.ioOutput cycles

/-- A call of the model executes `PUSH` or `POP`. -/
def usesStackAccess (trace : StepTrace) : Prop :=
  ∃ m : Mnemonic, trace.mnemonic = .instruction m ∧ m.stackAccess = true

/-- A completed step of the slice shows the model after a call, and takes its cycles. -/
structure ShowsCall (step : List Cycle × Attached) (call : StepTrace × Tms32010Model) :
    Prop where
  state : call.2 = embed (stepPins step.1) (step.2.architecture call.2.cycleCount)
  cycles : call.1.cycles = step.1.length
  plain : ¬usesStackAccess call.1

/-- The model can make another call without an exception and without `PUSH` or `POP`. -/
def GoesOn (self : Tms32010Model) : Prop :=
  ∃ pins trace self', Model.step (self.drive pins) = .ok trace self' ∧ ¬usesStackAccess trace

/-- The model after the calls of a run. -/
def lastModel (self : Tms32010Model) (calls : List (StepTrace × Tms32010Model)) :
    Tms32010Model :=
  (calls.getLast?.map Prod.snd).getD self

theorem lastModel_cons (self : Tms32010Model) (call : StepTrace × Tms32010Model)
    (calls : List (StepTrace × Tms32010Model)) :
    lastModel self (call :: calls) = lastModel call.2 calls := by
  unfold lastModel
  cases calls with
  | nil => rfl
  | cons next rest => rw [List.getLast?_cons_cons]; simp [List.getLast?_cons]

/-- A call that matches a step without `PUSH` and `POP` executes none. -/
theorem plain_of_matches {made : Isa.Input × Isa.Outcome} {call : StepTrace × Tms32010Model}
    (matched : Model.CallMatches made call)
    (plain : ∀ m, made.2.executed = some m → m.stackAccess = false) :
    ¬usesStackAccess call.1 := by
  rintro ⟨m, label, access⟩
  exact absurd ((plain m (matched.executed label)).symm.trans access) Bool.false_ne_true

/-- Steps that follow the machine are calls of the model: each call matches a transition
with what holds of the step, and leaves the state the step is related to. -/
theorem matches_of_follows {κ σ : Type} {observed : List κ → Isa.Input}
    {takes : Isa.State → List κ → Isa.State → Prop} {related : Isa.State → σ → Prop}
    {holds : List κ → Isa.Outcome → Prop}
    (sound : ∀ a made b, takes a made b → ∃ outcome, Isa.step (observed made) a = .ok outcome ∧
      outcome.state = b ∧ holds made outcome)
    {a b : Isa.State} {steps : List (List κ × σ)}
    (follows : Clocked.Follows takes related a steps b) (pins : Isa.Input) :
    ∃ calls, trajectory (embed pins a) (steps.map fun step => observed step.1) = .ok calls ∧
      List.Forall₂ (fun step call => ∃ outcome, related outcome.state step.2 ∧
        Model.CallMatches (observed step.1, outcome) call ∧ holds step.1 outcome) steps calls ∧
      ∃ pins', lastModel (embed pins a) calls = embed pins' b := by
  induction follows generalizing pins with
  | done a => exact ⟨[], rfl, .nil, pins, rfl⟩
  | @step a b c made s rest takes agrees _ ih =>
      rcases sound a made b takes with ⟨outcome, step, rfl, held⟩
      rcases Model.step_matches step with ⟨trace, called, matched⟩
      rcases ih (observed made) with ⟨calls, tail, shows, pins', last⟩
      refine ⟨(trace, embed (observed made) outcome.state) :: calls, ?_,
        .cons ⟨outcome, agrees, matched, held⟩ shows, pins', ?_⟩
      · simp only [List.map_cons, trajectory, Model.drive_embed, called, tail]
        rfl
      · rw [lastModel_cons]
        exact last

/-- Steps that follow the machine are calls of the model: each call leaves the state the
step is related to, takes its cycles and executes no `PUSH` or `POP`. -/
theorem calls_of_follows {κ σ : Type} {observed : List κ → Isa.Input}
    {takes : Isa.State → List κ → Isa.State → Prop} {related : Isa.State → σ → Prop}
    (sound : ∀ a made b, takes a made b → ∃ outcome, Isa.step (observed made) a = .ok outcome ∧
      outcome.state = b ∧ outcome.cycles = made.length ∧
        ∀ m, outcome.executed = some m → m.stackAccess = false)
    {a b : Isa.State} {steps : List (List κ × σ)}
    (follows : Clocked.Follows takes related a steps b) (pins : Isa.Input) :
    ∃ calls, trajectory (embed pins a) (steps.map fun step => observed step.1) = .ok calls ∧
      List.Forall₂ (fun step call => (∃ b, related b step.2 ∧ call.2 = embed (observed step.1) b) ∧
        call.1.cycles = step.1.length ∧ ¬usesStackAccess call.1) steps calls ∧
      ∃ pins', lastModel (embed pins a) calls = embed pins' b := by
  rcases matches_of_follows sound follows pins with ⟨calls, ran, shows, last⟩
  refine ⟨calls, ran, shows.imp ?_, last⟩
  rintro step call ⟨outcome, agrees, matched, cycles, plain⟩
  exact ⟨⟨outcome.state, agrees, matched.model⟩, matched.cycles.trans cycles,
    plain_of_matches matched plain⟩

/-- The completed steps of a run of the slice are calls of the model. -/
theorem trajectory_of_follows {a b : Isa.State} {steps : List (List Cycle × Attached)}
    (follows : Clocked.Follows (fun a made b => True → Takes a made b)
      (fun b σ => Lockstep True b σ []) a steps b) (pins : Isa.Input) :
    ∃ calls, trajectory (embed pins a) (steps.map fun step => stepPins step.1) = .ok calls ∧
      List.Forall₂ ShowsCall steps calls ∧
      ∃ pins', lastModel (embed pins a) calls = embed pins' b := by
  rcases calls_of_follows (fun _ _ _ takes => takes trivial) follows pins with
    ⟨calls, ran, shows, last⟩
  refine ⟨calls, ran, shows.imp ?_, last⟩
  rintro ⟨made, σ⟩ ⟨trace, self⟩ ⟨⟨b, agrees, state⟩, cycles, plain⟩
  refine ⟨?_, cycles, plain⟩
  dsimp only at agrees state
  subst state
  exact congrArg (embed (stepPins made)) agrees.stage.shown.shows.symm

/-- A model that goes on is not stuck. -/
theorem free_of_goesOn {pins : Isa.Input} {b : Isa.State} (goes : GoesOn (embed pins b)) :
    ¬Stuck b := by
  rcases goes with ⟨pins', trace, self', called, plain⟩
  rw [Model.drive_embed] at called
  rcases Model.matches_of_step called with ⟨outcome, made, matched⟩
  intro stuck
  rcases stuck pins' outcome made with ⟨m, executed, access⟩
  apply plain
  refine ⟨m, ?_, access⟩
  rw [matched.mnemonic, executed]
  rfl

/-! ## Runs -/

/-- `reset_at_instruction_boundary` on an embedded state. -/
theorem resetAtInstructionBoundary_embed (pins : Isa.Input) (a : Isa.State) :
    Model.resetAtInstructionBoundary (embed pins a) = embed pins (resetState a) := by
  simp only [Model.resetAtInstructionBoundary, embed, resetState, Model.embedRegisters,
    BitVec.toNat_ofNat, Nat.zero_mod, BitVec.ofNat_eq_ofNat]

/-- A restart leaves the reset state. -/
theorem architecture_restart {σ : Attached} {start : Inputs} (restarts : σ.Restarts start) :
    resetState ((σ.step start).architecture 0) = (σ.step start).architecture 0 := by
  rcases Attached.step_restart restarts with ⟨-, -, -, -, -, -, cleared, ram, which, core, -⟩
  unfold Attached.architecture resetState machine
  rw [core]
  rcases which with rfl | rfl <;> rfl

/-- The completed steps of a slice between two steps are the successive calls of the
reference model from the state it shows. -/
theorem Lockstep.calls {a : Isa.State} {σ : Attached} (lock : Lockstep True a σ [])
    {clocks : List Inputs} (runs : Attached.device.Admits (Attached.Runs True) σ clocks)
    (pins : Isa.Input) :
    ∃ calls, trajectory (embed pins a)
        ((Attached.device.steps [] σ clocks).map fun step => stepPins step.1) = .ok calls ∧
      List.Forall₂ ShowsCall (Attached.device.steps [] σ clocks) calls ∧
      (GoesOn (lastModel (embed pins a) calls) →
        clocks.countP Inputs.clockEnable ≤
          24 + 16 * (Attached.device.steps [] σ clocks).length) := by
  rcases (Attached.simulates True).follows lock runs with ⟨b, follows, -⟩
  rcases trajectory_of_follows follows pins with ⟨calls, ran, shows, pins', last⟩
  refine ⟨calls, ran, shows, ?_⟩
  intro goes
  have free : ¬Stuck b := by
    rw [last] at goes
    exact free_of_goesOn goes
  have ticks := Attached.paced.ticks_le (Attached.simulates True)
    (fun _ _ _ takes => (takes trivial).free) lock runs follows free
  have first : Attached.remaining [] σ ≤ 24 := by
    have bound := Attached.startup_le σ
    unfold Attached.remaining
    rw [List.length_nil]
    omega
  exact ticks.trans (Nat.add_le_add_right first _)

/-- After a restart the completed steps of the slice are the successive calls of the
reference model from the reset state, and the slice never falls behind a model
that goes on. -/
theorem pipeline_refines_model (σ : Attached) (start : Inputs) (restarts : σ.Restarts start)
    (clocks : List Inputs)
    (runs : Attached.device.Admits (Attached.Runs True) (σ.step start) clocks)
    (pins : Isa.Input) :
    let origin := embed pins ((σ.step start).architecture 0)
    let steps := Attached.device.steps [] (σ.step start) clocks
    origin = Model.resetAtInstructionBoundary origin ∧
      ∃ calls, trajectory origin (steps.map fun step => stepPins step.1) = .ok calls ∧
        List.Forall₂ ShowsCall steps calls ∧
        (GoesOn (lastModel origin calls) →
          clocks.countP Inputs.clockEnable ≤ 24 + 16 * steps.length) := by
  intro origin steps
  have lock : Lockstep True ((σ.step start).architecture 0) (σ.step start) [] :=
    Lockstep.restarted restarts 0
  refine ⟨?_, lock.calls runs pins⟩
  rw [resetAtInstructionBoundary_embed, architecture_restart restarts]

/-- A program that calls a routine with a table write, a port read and a port write. -/
def transferProgram : ProgramMemory := fun address =>
  [0xf800, 4, 0xf900, 2, 0x7e20, 0x7d00, 0x4600, 0x4b00, 0x7f8d].getD address.toNat 0

theorem pipeline_refines_model_transfers :
    let start := { enabledInputs with initializeI := true }
    let σ : Attached := ⟨clearState, transferProgram, fun _ => 0⟩
    let clocks := (σ.step start).attended (List.replicate 80 enabledInputs)
    let origin := embed (stepPins []) ((σ.step start).architecture 0)
    let steps := Attached.device.steps [] (σ.step start) clocks
    7 ≤ steps.length ∧
      origin = Model.resetAtInstructionBoundary origin ∧
      ∃ calls, trajectory origin (steps.map fun step => stepPins step.1) = .ok calls ∧
        List.Forall₂ ShowsCall steps calls ∧
        (GoesOn (lastModel origin calls) →
          clocks.countP Inputs.clockEnable ≤ 24 + 16 * steps.length) := by
  intro start σ clocks origin steps
  refine ⟨by decide +kernel, ?_⟩
  exact pipeline_refines_model σ start (Or.inl rfl) clocks
    (Attached.admits_repeated _ _ ⟨rfl, rfl, rfl⟩ 80) _

end Tms32010.Rtl.Slice
