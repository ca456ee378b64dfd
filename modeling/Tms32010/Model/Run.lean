import Tms32010.Isa.Run
import Tms32010.Model.WellFormed

/-!
# Runs of the reference model

Successive calls of `step` with the pins driven before each call. A run of the
instruction-level machine is such a run of its embedding, call by call.
-/

namespace Tms32010.Model

/-- The model with its pins driven: `io_input`, `bio_input_high` and
`interrupt_input_high`. -/
def Tms32010Model.drive (self : Tms32010Model) (pins : Isa.Input) : Tms32010Model :=
  { self with
    ioInput := image (byValue pins.ioInput)
    bioInputHigh := pins.bio
    interruptInputHigh := pins.int }

/-- Successive calls of `step`: the trace and the model after each call. An
exception ends the run. -/
def trajectory (self : Tms32010Model) :
    List Isa.Input → Except Error (List (StepTrace × Tms32010Model))
  | [] => .ok []
  | pins :: rest =>
      match step (self.drive pins) with
      | .error error _ => .error error
      | .ok trace self' => ((trace, self') :: ·) <$> trajectory self' rest

/-- A property of every call of a run: the model before the call with its pins
driven, and the trace and the model after it. -/
def Along (property : Tms32010Model → StepTrace × Tms32010Model → Prop) :
    Tms32010Model → List Isa.Input → List (StepTrace × Tms32010Model) → Prop
  | self, pins :: rest, call :: calls =>
      property (self.drive pins) call ∧ Along property call.2 rest calls
  | _, _, _ => True

/-- A property that is decided call by call. -/
instance decidableAlong {property : Tms32010Model → StepTrace × Tms32010Model → Prop}
    [∀ self call, Decidable (property self call)] :
    ∀ self pins calls, Decidable (Along property self pins calls)
  | self, pins :: rest, call :: calls =>
      have : Decidable (Along property call.2 rest calls) := decidableAlong call.2 rest calls
      inferInstanceAs
        (Decidable (property (self.drive pins) call ∧ Along property call.2 rest calls))
  | _, [], _ => .isTrue trivial
  | _, _ :: _, [] => .isTrue trivial

/-- A call of `step` matches a transition of the machine. -/
structure CallMatches (made : Isa.Input × Isa.Outcome) (call : StepTrace × Tms32010Model) :
    Prop where
  model : call.2 = embed made.1 made.2.state
  mnemonic : call.1.mnemonic = executedLabel made.2.executed
  cycles : call.1.cycles = made.2.cycles
  bus : call.1.busCycles = stamped (made.2.state.cycleCount - made.2.cycles) made.2.bus

theorem drive_embed (i pins : Isa.Input) (s : Isa.State) :
    (embed i s).drive pins = embed pins s := by
  simp only [Tms32010Model.drive, embed]

theorem byValue_getElem? {a w : ℕ} (memory : BitVec a → BitVec w) (address : BitVec a) :
    (image (byValue memory))[address.toNat]? = some (memory address).toNat := by
  rw [image_getElem? _ address.isLt]
  rfl

theorem embed_program (i : Isa.Input) (s : Isa.State) (address : BitVec 12) :
    (embed i s).program[address.toNat]? = some (s.program address).toNat := by
  have program : (embed i s).program = image (byValue s.program) := by
    simp only [embed]
  rw [program, byValue_getElem?]

theorem step_matches {i : Isa.Input} {s : Isa.State} {outcome : Isa.Outcome}
    (made : Isa.step i s = .ok outcome) :
    ∃ trace, step (embed i s) = .ok trace (embed i outcome.state) ∧
      CallMatches (i, outcome) (trace, embed i outcome.state) := by
  have called := step_embed i s
  rw [made] at called
  rcases called with ⟨trace, called, mnemonic, cycles, bus⟩
  have start : outcome.state.cycleCount - outcome.cycles = s.cycleCount := by
    rw [Isa.step_cycleCount made, Nat.add_sub_cancel]
  refine ⟨trace, called, rfl, mnemonic, cycles, ?_⟩
  rw [start]
  exact bus

/-- The instruction a trace names is the one the transition executed. -/
theorem CallMatches.executed {made : Isa.Input × Isa.Outcome} {call : StepTrace × Tms32010Model}
    (matched : CallMatches made call) {m : Mnemonic} (label : call.1.mnemonic = .instruction m) :
    made.2.executed = some m := by
  have labelled := matched.mnemonic.symm.trans label
  cases executed : made.2.executed with
  | none =>
      rw [executed] at labelled
      exact absurd labelled (by simp [executedLabel])
  | some m' =>
      rw [executed, executedLabel, Label.instruction.injEq] at labelled
      rw [labelled]

/-- A call that does not raise matches a transition. -/
theorem matches_of_step {i : Isa.Input} {s : Isa.State} {trace : StepTrace}
    {self : Tms32010Model} (called : step (embed i s) = .ok trace self) :
    ∃ outcome, Isa.step i s = .ok outcome ∧ CallMatches (i, outcome) (trace, self) := by
  cases made : Isa.step i s with
  | error fault =>
      have raised := step_embed i s
      rw [made, called] at raised
      exact absurd raised (by simp)
  | ok outcome =>
      rcases step_matches made with ⟨trace', called', matched⟩
      rw [called, EStateM.Result.ok.injEq] at called'
      rw [called'.1, called'.2]
      exact ⟨outcome, rfl, matched⟩

/-- The first call of a run that does not raise, and the calls after it. -/
theorem trajectory_cons {pins i : Isa.Input} {s : Isa.State} {outcome : Isa.Outcome}
    {rest : List Isa.Input} {calls : List (StepTrace × Tms32010Model)}
    (made : Isa.step pins s = .ok outcome)
    (ran : trajectory (embed i s) (pins :: rest) = .ok calls) :
    ∃ trace tail, calls = (trace, embed pins outcome.state) :: tail ∧
      step (embed pins s) = .ok trace (embed pins outcome.state) ∧
      CallMatches (pins, outcome) (trace, embed pins outcome.state) ∧
      trajectory (embed pins outcome.state) rest = .ok tail := by
  rcases step_matches made with ⟨trace, called, matched⟩
  unfold trajectory at ran
  rw [drive_embed, called] at ran
  dsimp only at ran
  cases later : trajectory (embed pins outcome.state) rest with
  | error fault =>
      rw [later] at ran
      exact absurd ran nofun
  | ok tail =>
      rw [later] at ran
      exact ⟨trace, tail, (Except.ok.inj ran).symm, called, matched, rfl⟩

/-- A run of the machine is a run of the model. -/
theorem trajectory_embed {s t : Isa.State} {steps : List (Isa.Input × Isa.Outcome)}
    (run : Isa.Run s steps t) (i : Isa.Input) :
    ∃ calls, trajectory (embed i s) (steps.map Prod.fst) = .ok calls ∧
      List.Forall₂ CallMatches steps calls := by
  induction run generalizing i with
  | done s => exact ⟨[], rfl, .nil⟩
  | @step pins s t outcome rest made _ ih =>
      rcases step_matches made with ⟨trace, called, first⟩
      rcases ih pins with ⟨calls, tail, matched⟩
      refine ⟨(trace, embed pins outcome.state) :: calls, ?_, .cons first matched⟩
      simp only [List.map_cons, trajectory, drive_embed, called, tail]
      rfl

/-- What holds of every call from a model of the run holds along it. -/
theorem along_of_reached {property : Tms32010Model → StepTrace × Tms32010Model → Prop}
    {self : Tms32010Model} {pins : List Isa.Input} {calls : List (StepTrace × Tms32010Model)}
    (ran : trajectory self pins = .ok calls)
    (holds : ∀ reached ∈ self :: calls.map Prod.snd, ∀ inputs trace next,
      step (reached.drive inputs) = .ok trace next →
        property (reached.drive inputs) (trace, next)) :
    Along property self pins calls := by
  induction pins generalizing self calls with
  | nil =>
      cases calls <;> trivial
  | cons inputs pins ih =>
      unfold trajectory at ran
      cases called : step (self.drive inputs) with
      | error fault next =>
          rw [called] at ran
          cases ran
      | ok trace next =>
          rw [called] at ran
          dsimp only at ran
          cases later : trajectory next pins with
          | error fault =>
              rw [later] at ran
              cases ran
          | ok tail =>
              rw [later] at ran
              cases ran
              rw [List.forall_mem_cons] at holds
              exact ⟨holds.1 inputs trace next called, ih later holds.2⟩

/-- Whether `step` raises does not depend on what it raises. -/
theorem raises_iff (i : Isa.Input) (s : Isa.State) :
    (∃ error self', step (embed i s) = .error error self') ↔
      ∃ fault, Isa.step i s = .error fault := by
  have called := step_embed i s
  cases made : Isa.step i s with
  | ok outcome =>
      rw [made] at called
      rcases called with ⟨trace, called, -⟩
      simp [called]
  | error fault =>
      rw [made] at called
      simp [called]

end Tms32010.Model
