import Tms32010.Laws.CoreRuns
import Tms32010.Lib.Deferral

/-!
# The interrupt law

A request stays pending until it is served. Once it is armed at the end of an
instruction, one further instruction completes, prolonged by multiplications, and then
the interrupt is entered, unless `DINT` masks it. The reference model and the core obey
the same law in every run.
-/

namespace Tms32010

open Deferral (Policy Flags Move)

/-- `DINT` masks, `EINT` unmasks, and the multiplications prolong the protection. -/
def interruptPolicy : Policy Mnemonic where
  masks m := m == .dint
  unmasks m := m == .eint
  prolongs m := m == .mpy || m == .mpyk

theorem maskAfter_eq (m : Mnemonic) (mask : Bool) :
    interruptPolicy.maskAfter m mask = m.maskAfter mask := by
  cases m <;> rfl

theorem prolongs_eq (m : Mnemonic) : interruptPolicy.prolongs m = m.multiplies := by
  cases m <;> rfl

namespace Isa

/-- The interrupt flags of the machine. -/
def flags (s : State) : Flags :=
  ⟨s.interruptMask, s.interruptPending, s.interruptDelayOne, s.interruptEntryPending⟩

/-- The entry pushes the program counter and continues at the vector. -/
def Enters (s t : State) : Prop :=
  t.stack = s.stack.push s.pc ∧ t.pc = 0x002

/-- The registers of an instruction before its interrupt deferral. -/
structure Keeps (m : Mnemonic) (s t : State) : Prop where
  mask : t.interruptMask = m.maskAfter s.interruptMask
  pending : t.interruptPending = s.interruptPending
  delay : t.interruptDelayOne = s.interruptDelayOne
  entry : t.interruptEntryPending = s.interruptEntryPending

section Step

variable {i : Input} {s : State} {outcome : Outcome} {m : Mnemonic} {word : BitVec 16}

theorem stepStack_retires (s : State) (word : BitVec 16)
    (family : (m.computedControlFlow || m.stackAccess) = true) :
    ∃ cycles bus t, stepStack m word s = retire m cycles bus t ∧ Keeps m s t := by
  refine ⟨_, _, _, rfl, ?_⟩
  cases m <;> first | exact ⟨rfl, rfl, rfl, rfl⟩ | exact absurd family (by decide)

theorem stepControl_retires (family : m.twoWordControlFlow = true)
    (made : stepControl m word i s = .ok outcome) :
    ∃ cycles bus t, outcome = retire m cycles bus t ∧ Keeps m s t := by
  unfold stepControl at made
  dsimp only at made
  split_ifs at made
  rw [Except.ok.injEq] at made
  refine ⟨_, _, _, made.symm, ?_, ?_, rfl, rfl⟩
  · have keeps : m.maskAfter s.interruptMask = s.interruptMask := by
      cases m <;> first | rfl | exact absurd family (by decide)
    rw [keeps]
    exact Registers.branch_interruptMask _ _ _ _
  · have whole := congrArg Registers.interruptPending
      (Registers.branch_pending s.toRegisters m s.interruptPending i.bio
        ((s.program (s.pc + 1)).extractLsb' 0 12))
    exact whole

theorem stepStraight_retires (made : stepStraight m word i s = .ok outcome) :
    ∃ cycles bus t, outcome = retire m cycles bus t ∧ Keeps m s t := by
  unfold stepStraight at made
  split at made
  · exact absurd made (by simp)
  · rw [Except.ok.injEq] at made
    refine ⟨_, _, _, made.symm, ?_, ?_, rfl, rfl⟩
    · exact (Registers.postModify_interruptMask _ _ _ _).trans
        (Registers.execute_interruptMask _ _ _ _)
    · exact (Registers.postModify_interruptPending _ _ _ _).trans
        (Registers.execute_interruptPending _ _ _ _)

/-- What the deferral makes of the flags. -/
theorem advanceInterrupt_flags (t : State) (entry : t.interruptEntryPending = false) :
    flags (advanceInterrupt m t) =
      if t.interruptDelayOne then
        if t.interruptMask then ⟨t.interruptMask, t.interruptPending, false, false⟩
        else if interruptPolicy.prolongs m then
          ⟨t.interruptMask, t.interruptPending, true, false⟩
        else ⟨t.interruptMask, t.interruptPending, false, true⟩
      else ⟨t.interruptMask, t.interruptPending, t.interruptPending && !t.interruptMask, false⟩ := by
  rw [prolongs_eq]
  unfold advanceInterrupt flags
  cases delay : t.interruptDelayOne
  · cases armed : t.interruptPending && !t.interruptMask
    · simp [delay, entry]
    · simp [entry]
  · cases mask : t.interruptMask
    · cases m.multiplies <;> simp [delay, mask, entry]
    · simp [mask, entry]

theorem stepInstruction_retires (made : stepInstruction m word i s = .ok outcome) :
    ∃ cycles bus t, outcome = retire m cycles bus t ∧ Keeps m s t := by
  unfold stepInstruction at made
  split_ifs at made with single control
  · rcases stepStack_retires s word single with ⟨cycles, bus, t, retires, keeps⟩
    rw [Except.ok.injEq, retires] at made
    exact ⟨cycles, bus, t, made.symm, keeps⟩
  · exact stepControl_retires control made
  · exact stepStraight_retires made

/-- A transition is a move of the interrupt unit. -/
theorem makes (made : Isa.step i s = .ok outcome) :
    interruptPolicy.Makes flags Enters ⟨outcome.executed, !i.int, s, outcome.state⟩ := by
  cases entry : s.interruptEntryPending
  · rcases step_supported made entry with ⟨m, found, executed, -, -⟩
    rw [step_eq entry found] at made
    rcases stepInstruction_retires made with ⟨cycles, bus, t, rfl, keeps⟩
    unfold Policy.Makes
    refine ⟨entry, ?_⟩
    have after := advanceInterrupt_flags (m := m)
      { t with cycleCount := t.cycleCount + cycles } (keeps.entry.trans entry)
    refine after.trans ?_
    have mask : t.interruptMask = m.maskAfter s.interruptMask := keeps.mask
    have pending : t.interruptPending = (s.interruptPending || !i.int) := keeps.pending
    have delay : t.interruptDelayOne = s.interruptDelayOne := keeps.delay
    unfold Policy.retire flags
    dsimp only
    rw [maskAfter_eq, mask, pending, delay]
  · unfold Isa.step at made
    rw [entry, if_pos rfl, Except.ok.injEq] at made
    subst made
    exact ⟨entry, rfl, rfl, rfl⟩

/-- What a transition executes. -/
theorem executed_eq (made : Isa.step i s = .ok outcome) :
    outcome.executed = if s.interruptEntryPending then none else mnemonic? (s.program s.pc) := by
  cases entry : s.interruptEntryPending
  · rcases step_supported made entry with ⟨m, found, executed, -, -⟩
    rw [if_neg Bool.false_ne_true, found, executed]
  · unfold Isa.step at made
    rw [entry, if_pos rfl, Except.ok.injEq] at made
    rw [if_pos rfl, ← made]
    rfl

end Step

end Isa

/-! ## The model -/

namespace Model

/-- The interrupt flags of the model. -/
def flags (self : Tms32010Model) : Flags :=
  ⟨self.state.status.intm, self.state.interruptPending, self.interruptDelayOne,
    self.interruptEntryPending⟩

/-- The entry pushes the program counter and continues at the vector. -/
def Enters (self self' : Tms32010Model) : Prop :=
  self'.state.stack = self.state.pc :: self.state.stack.take 3 ∧ self'.state.pc = 0x002

/-- The instruction a label names. -/
def Label.executed : Label → Option Mnemonic
  | .instruction m => some m
  | .interrupt => none

/-- The moves of successive calls of `step`. -/
def moves : Tms32010Model → List Isa.Input → List (StepTrace × Tms32010Model) →
    List (Move Mnemonic Tms32010Model)
  | self, pins :: rest, call :: calls =>
      ⟨call.1.mnemonic.executed, !pins.int, self, call.2⟩ :: moves call.2 rest calls
  | _, _, _ => []

/-- The calls of a run are moves of the interrupt unit. -/
theorem run_of_trajectory {i : Isa.Input} {s : Isa.State} {pins : List Isa.Input}
    {calls : List (StepTrace × Tms32010Model)} (ran : trajectory (embed i s) pins = .ok calls) :
    interruptPolicy.Run flags Enters (embed i s) (moves (embed i s) pins calls) := by
  induction pins generalizing i s calls with
  | nil => exact .done _
  | cons input pins ih =>
      have first := ran
      unfold trajectory at first
      rw [drive_embed] at first
      cases called : step (embed input s) with
      | error fault self =>
          rw [called] at first
          cases first
      | ok trace self =>
          rcases matches_of_step called with ⟨outcome, made, -⟩
          rcases trajectory_cons made ran with ⟨trace', tail, rfl, -, matched, rest⟩
          have move := Isa.makes made
          have label : trace'.mnemonic.executed = outcome.executed := by
            rw [matched.mnemonic]
            cases outcome.executed <;> rfl
          have next : interruptPolicy.Makes flags Enters
              ⟨trace'.mnemonic.executed, !input.int, embed i s, embed input outcome.state⟩ := by
            refine move.map label rfl rfl rfl ?_
            rintro ⟨stack, pc⟩
            exact ⟨congrArg stackList stack, congrArg BitVec.toNat pc⟩
          exact .move next (ih rest)

end Model

/-! ## The core -/

namespace Rtl.Core

/-- The interrupt flags of the core. -/
def flags (σ : Hosted) : Flags :=
  ⟨σ.core.interruptMask, σ.core.interruptPending, σ.core.interruptDelayOne,
    σ.core.interruptEntryPending⟩

/-- The entry pushes the program counter and continues at the vector. -/
def Enters (σ τ : Hosted) : Prop :=
  τ.core.stack = σ.core.stack.push σ.core.pc ∧ τ.core.pc = 0x002

/-- What the core executes from between two instructions: the word at the program counter,
or the interrupt entry. -/
def Hosted.executes (σ : Hosted) : Option Mnemonic :=
  if σ.core.interruptEntryPending then none else mnemonic? (σ.program σ.core.pc)

/-- The moves of the completed steps of a run. -/
def moves : Hosted → List (List Cycle × Hosted) → List (Move Mnemonic Hosted)
  | _, [] => []
  | σ, (made, τ) :: rest => ⟨σ.executes, !(pins made).int, σ, τ⟩ :: moves τ rest

/-- The stray store leaves the registers and the interrupt flags. -/
theorem strayed_flags (a : Isa.State) (outcome : Isa.Outcome) :
    Isa.flags (strayed a outcome) = Isa.flags outcome.state ∧
      (strayed a outcome).toRegisters = outcome.state.toRegisters := by
  unfold strayed
  cases outcome.executed with
  | none => exact ⟨rfl, rfl⟩
  | some m =>
      dsimp only
      split_ifs <;> exact ⟨rfl, rfl⟩

/-- The completed steps of a run are moves of the interrupt unit. -/
theorem run_of_follows {p : Params} {a b : Isa.State} {σ : Hosted}
    {steps : List (List Cycle × Hosted)} (follows : Clocked.Follows (Takes p) Shown a steps b)
    (shown : Shown a σ) : interruptPolicy.Run flags Enters σ (moves σ steps) := by
  induction follows generalizing σ with
  | done a => exact .done σ
  | @step a b c made τ rest takes agrees _ ih =>
      rcases takes with ⟨outcome, executes, rfl⟩
      rcases strayed_flags a outcome with ⟨same, registers⟩
      have before : flags σ = Isa.flags a := congrArg Isa.flags shown.shows
      have after : flags τ = Isa.flags outcome.state :=
        (congrArg Isa.flags agrees.shows).trans same
      have executed : σ.executes = outcome.executed := by
        unfold Hosted.executes
        rw [Isa.executed_eq executes.step, shown.entry, shown.program, shown.pc]
      have next : interruptPolicy.Makes flags Enters ⟨σ.executes, !(pins made).int, σ, τ⟩ := by
        refine (Isa.makes executes.step).map executed rfl before after ?_
        rintro ⟨stack, pc⟩
        have core : τ.core.toRegisters = outcome.state.toRegisters :=
          (congrArg Isa.State.toRegisters agrees.shows).trans registers
        have start : σ.core.toRegisters = a.toRegisters :=
          congrArg Isa.State.toRegisters shown.shows
        unfold Enters
        rw [core, start]
        exact ⟨stack, pc⟩
      exact .move next (ih agrees)

end Rtl.Core

/-! ## The law -/

open Rtl.Core (Hosted Idle pins)

/-- From states without a scheduled entry the reference model, in every run without an
exception, and the core, in every run, obey the interrupt law. -/
theorem interrupt_law (a : Isa.State) (noDelay : a.interruptDelayOne = false)
    (noEntry : a.interruptEntryPending = false) (inputs : Isa.Input) (driven : List Isa.Input)
    (calls : List (Model.StepTrace × Model.Tms32010Model))
    (ran : Model.trajectory (Model.embed inputs a) driven = .ok calls)
    (σ : Hosted) (idle : Idle σ.core) (noDelay' : σ.core.interruptDelayOne = false)
    (noEntry' : σ.core.interruptEntryPending = false) (clocks : List Rtl.Core.Inputs)
    (runs : (Hosted.device .default).Admits Hosted.Runs σ clocks) :
    interruptPolicy.Lawful Model.flags Model.Enters
        (Model.moves (Model.embed inputs a) driven calls) ∧
      interruptPolicy.Lawful Rtl.Core.flags Rtl.Core.Enters
        (Rtl.Core.moves σ ((Hosted.device .default).steps [] σ clocks)) := by
  refine ⟨(Model.run_of_trajectory ran).lawful noDelay noEntry, ?_⟩
  have simulates : Clocked.Simulates (Hosted.device .default) _ _ _ := Hosted.simulates rfl
  have shown : Rtl.Core.Shown (σ.architecture 0) σ := ⟨rfl, idle⟩
  rcases simulates.follows_fresh
    (fun stage runs some ends takes _ => Hosted.completes_shown rfl stage runs some ends takes)
    (.shown shown) runs with ⟨b, follows, -⟩
  exact (Rtl.Core.run_of_follows follows shown).lawful noDelay' noEntry'

/-- `EINT` at address zero, and `NOP` everywhere else. -/
def enableProgram : ProgramMemory := fun address => if address = 0 then 0x7f82 else 0x7f80

/-- The core with this program, reset. -/
def enableStart : Hosted := ⟨Rtl.Core.blank, enableProgram, fun _ => 0⟩

/-- An interrupt request. -/
def requestPins : Isa.Input := ⟨false, true, fun _ => 0⟩

/-- `EINT`, one protected instruction, and the entry. -/
theorem enableSteps :
    ∃ first second third, Isa.step requestPins (enableStart.architecture 0) = .ok first ∧
      Isa.step requestPins first.state = .ok second ∧
        Isa.step requestPins second.state = .ok third ∧ third.executed = none := by
  have first := Isa.step_of_instruction (i := requestPins) (s := enableStart.architecture 0)
    (m := .eint) rfl (show _ = (0x7f82 : BitVec 16) from rfl) (by decide) rfl
  exact ⟨_, _, _, first,
    Isa.step_of_instruction (m := .nop) rfl (show _ = (0x7f80 : BitVec 16) from rfl) (by decide)
      rfl, rfl, rfl⟩

theorem interrupt_law_enable :
    let clocks := enableStart.attended .default
      (List.replicate 8 { Rtl.Core.enabledInputs with int := false })
    ∃ calls, Model.trajectory (Model.embed requestPins (enableStart.architecture 0))
        [requestPins, requestPins, requestPins] = .ok calls ∧
      interruptPolicy.Lawful Model.flags Model.Enters
        (Model.moves (Model.embed requestPins (enableStart.architecture 0))
          [requestPins, requestPins, requestPins] calls) ∧
      interruptPolicy.Lawful Rtl.Core.flags Rtl.Core.Enters
        (Rtl.Core.moves enableStart ((Hosted.device .default).steps [] enableStart clocks)) := by
  intro clocks
  rcases enableSteps with ⟨first, second, third, eint, nop, entry, -⟩
  have run : Isa.Run (enableStart.architecture 0)
      [(requestPins, first), (requestPins, second), (requestPins, third)] third.state :=
    .step eint (.step nop (.step entry (.done _)))
  rcases Model.trajectory_embed run requestPins with ⟨calls, ran, -⟩
  have runs : (Hosted.device .default).Admits Hosted.Runs enableStart clocks :=
    Hosted.admits_repeated _ ⟨rfl, rfl, rfl⟩ _
  exact ⟨calls, ran, interrupt_law _ rfl rfl requestPins _ calls ran enableStart
    ⟨rfl, rfl, rfl, rfl⟩ rfl rfl clocks runs⟩

end Tms32010
