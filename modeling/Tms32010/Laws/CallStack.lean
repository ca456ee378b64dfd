import Tms32010.Laws.Interrupts
import Tms32010.Laws.Overflow
import Tms32010.Lib.BoundedStack

/-!
# The call stack

Calls, pushes and interrupt entries save onto the four levels, returns and pops take from
them, and a table transfer borrows one level for its second cycle. As long as the work
between a saving instruction and a later taking one stays within three levels, the second
finds what the first saved, and the caller's own levels are back in place.
-/

namespace Tms32010

open BoundedStack (Balanced levelsAfter)

/-! ## The law -/

namespace CallStack

/-- What a processor shows of its control flow. -/
structure View where
  pc : ℕ
  acc : ℕ
  stack : List ℕ

/-- An executed instruction, or an interrupt entry. -/
structure Visit where
  executed : Option Mnemonic
  before : View
  after : View

namespace Visit

/-- What a visit does to the stack. A table transfer saves the next address over its
second cycle only. -/
def moves (visit : Visit) : List (BoundedStack.Move ℕ) :=
  match visit.executed with
  | none => [.push visit.before.pc]
  | some .call => [.push ((visit.before.pc + 2) % 4096)]
  | some .cala => [.push ((visit.before.pc + 1) % 4096)]
  | some .push => [.push (visit.before.acc % 4096)]
  | some .ret | some .pop => [.pop]
  | some .tblr | some .tblw => [.push ((visit.before.pc + 1) % 4096), .pop]
  | some _ => []

/-- A visit moves the four levels; a return and a pop take the top. -/
structure Follows (visit : Visit) : Prop where
  levels : visit.before.stack.length = 4
  stack : visit.after.stack = levelsAfter visit.moves visit.before.stack
  ret : visit.executed = some .ret → visit.before.stack.head? = some visit.after.pc
  pop : visit.executed = some .pop → visit.before.stack.head? = some visit.after.acc

end Visit

/-- Successive visits. -/
inductive Run : View → List Visit → Prop where
  | done (view : View) : Run view []
  | visit {visit : Visit} {visits : List Visit} (follows : visit.Follows)
      (rest : Run visit.after visits) : Run visit.before (visit :: visits)

/-- A visit that takes finds what an earlier visit saved, if the visits between are
balanced within three levels. -/
def Lawful (visits : List Visit) : Prop :=
  ∀ earlier opening body closing later value room,
    visits = earlier ++ opening :: (body ++ closing :: later) →
    opening.moves = [.push value] → room < 4 → Balanced room (body.flatMap Visit.moves) →
    (closing.executed = some .ret → closing.after.pc = value) ∧
      (closing.executed = some .pop → closing.after.acc = value) ∧
      (closing.moves = [.pop] →
        closing.after.stack.take (3 - room) = opening.before.stack.take (3 - room))

section Run

variable {view : View} {visits : List Visit}

theorem Run.later (run : Run view visits) {earlier later : List Visit}
    (split : visits = earlier ++ later) : ∃ middle, Run middle later := by
  induction run generalizing earlier with
  | done view =>
      rcases List.nil_eq_append_iff.mp split with ⟨-, rfl⟩
      exact ⟨view, .done view⟩
  | @visit visit visits follows rest ih =>
      cases earlier with
      | nil =>
          rw [List.nil_append] at split
          exact ⟨visit.before, split ▸ .visit follows rest⟩
      | cons first earlier =>
          rw [List.cons_append, List.cons.injEq] at split
          exact ih split.2

theorem Run.levels (run : Run view visits) {body : List Visit} {closing : Visit}
    {later : List Visit} (split : visits = body ++ closing :: later) :
    closing.Follows ∧
      closing.before.stack = levelsAfter (body.flatMap Visit.moves) view.stack := by
  induction run generalizing body with
  | done view => simp at split
  | @visit visit visits follows rest ih =>
      cases body with
      | nil =>
          rw [List.nil_append, List.cons.injEq] at split
          rcases split with ⟨rfl, -⟩
          exact ⟨follows, rfl⟩
      | cons first body =>
          rw [List.cons_append, List.cons.injEq] at split
          rcases split with ⟨rfl, split⟩
          rcases ih split with ⟨last, stack⟩
          refine ⟨last, ?_⟩
          rw [stack, follows.stack, List.flatMap_cons, BoundedStack.levelsAfter_append]

theorem Run.lawful (run : Run view visits) : Lawful visits := by
  intro earlier opening body closing later value room split opens room_lt balanced
  rcases run.later split with ⟨middle, run⟩
  cases run with
  | visit follows rest =>
      rcases rest.levels rfl with ⟨last, stack⟩
      have levels := follows.levels
      have pushed : opening.after.stack = (BoundedStack.Move.push value).onLevels
          opening.before.stack := by
        rw [follows.stack, opens]
        rfl
      have matched := @Balanced.matched _ opening.before.stack _ _ value balanced (by omega)
      rw [← pushed, ← stack, levels] at matched
      refine ⟨?_, ?_, ?_⟩
      · intro ret
        have top := (last.ret ret).symm.trans matched.1
        exact Option.some_inj.mp top
      · intro pop
        have top := (last.pop pop).symm.trans matched.1
        exact Option.some_inj.mp top
      · intro pops
        rw [last.stack, pops]
        exact matched.2

end Run

end CallStack

open CallStack (View Visit)

/-! ## The machine -/

namespace Registers

theorem execute_stack (r : Registers) (m : Mnemonic) (word operand : BitVec 16) :
    (r.execute m word operand).stack = if m.tableTransfer then r.stack.pushPop else r.stack := by
  cases m with
  | add | apac | lta | ltd | adds =>
      simp [Registers.execute, Rtl.addAccumulator_eq, Mnemonic.tableTransfer]
  | sub | spac | subh | subs =>
      simp [Registers.execute, Rtl.subtractAccumulator_eq, Mnemonic.tableTransfer]
  | lar | lark =>
      simp only [Registers.execute, setAuxiliaryRegister, Mnemonic.tableTransfer]
      split <;> rfl
  | abs =>
      simp only [Registers.execute, Registers.absolute, Mnemonic.tableTransfer]
      split <;> rfl
  | _ => rfl

theorem branch_stack (r : Registers) (m : Mnemonic) (bio : Bool) (target : BitVec 12) :
    (r.branch m bio target).stack = if m = .call then r.stack.push (r.pc + 2) else r.stack := by
  cases m with
  | banz =>
      simp only [Registers.branch, setAuxiliaryRegister]
      split <;> rfl
  | _ => rfl

end Registers

namespace Isa

/-- What the machine shows of its control flow. -/
def view (r : Registers) : View :=
  ⟨r.pc.toNat, r.accumulator.toNat, Model.stackList r.stack⟩

theorem retire_registers (m : Mnemonic) (cycles : ℕ) (bus : List BusCycle) (s : State) :
    (retire m cycles bus s).state.toRegisters = s.toRegisters :=
  advanceInterrupt_registers m _

section Step

variable {i : Input} {s : State} {outcome : Outcome} {m : Mnemonic} {word : BitVec 16}

theorem stackList_pushPop (stack : Stack) (value : ℕ) :
    Model.stackList stack.pushPop = levelsAfter [.push value, .pop] (Model.stackList stack) := rfl

theorem stepStack_follows (family : (m.computedControlFlow || m.stackAccess) = true) :
    (Visit.mk (some m) (view s.toRegisters)
      (view (stepStack m word s).state.toRegisters)).Follows := by
  unfold stepStack
  rw [retire_registers]
  cases m with
  | cala =>
      refine ⟨rfl, ?_, by simp, by simp⟩
      have next : (s.pc + 1).toNat = (s.pc.toNat + 1) % 4096 := BitVec.toNat_add ..
      simp only [view, Visit.moves, ← next]
      rfl
  | push =>
      refine ⟨rfl, ?_, by simp, by simp⟩
      have low : (s.accumulator.extractLsb' 0 12).toNat = s.accumulator.toNat % 4096 := by
        simp [BitVec.extractLsb'_toNat]
      simp only [view, Visit.moves, ← low]
      rfl
  | ret => exact ⟨rfl, rfl, fun _ => rfl, by simp⟩
  | pop =>
      refine ⟨rfl, rfl, by simp, fun _ => ?_⟩
      have wide : (s.stack.top.setWidth 32).toNat = s.stack.top.toNat := by
        rw [BitVec.toNat_setWidth]
        exact Nat.mod_eq_of_lt (Nat.lt_trans s.stack.top.isLt (by decide))
      simp only [view, wide]
      rfl
  | _ => exact absurd family (by decide)

theorem stepControl_follows (family : m.twoWordControlFlow = true)
    (made : stepControl m word i s = .ok outcome) :
    (Visit.mk (some m) (view s.toRegisters) (view outcome.state.toRegisters)).Follows := by
  have single : m ≠ .ret ∧ m ≠ .pop := by
    constructor <;> rintro rfl <;> exact absurd family (by decide)
  unfold stepControl at made
  dsimp only at made
  split_ifs at made
  cases made
  rw [retire_registers]
  refine ⟨rfl, ?_, ?_, ?_⟩
  · simp only [view, Registers.branch_stack]
    cases m with
    | call =>
        have next : (s.pc + 2).toNat = (s.pc.toNat + 2) % 4096 := BitVec.toNat_add ..
        simp only [Visit.moves, ← next]
        rfl
    | b | banz | bv | bioz | bgez | bgz | blez | blz | bnz | bz => rfl
    | _ => exact absurd family (by decide)
  · exact fun ret => absurd (Option.some_inj.mp ret) single.1
  · exact fun pop => absurd (Option.some_inj.mp pop) single.2

theorem straightRegisters_stack :
    (straightRegisters m word s).stack =
      if m.tableTransfer then s.stack.pushPop else s.stack := by
  have kept (r : Registers) (selected : Bool) : (r.postModify m word selected).stack = r.stack := by
    have whole := congrArg Registers.stack (r.postModify_stack m word selected r.stack)
    exact whole
  unfold straightRegisters
  rw [kept, Registers.execute_stack]
  rfl

theorem stepStraight_follows
    (straight : m.computedControlFlow = false ∧ m.stackAccess = false ∧
      m.twoWordControlFlow = false)
    (made : stepStraight m word i s = .ok outcome) :
    (Visit.mk (some m) (view s.toRegisters) (view outcome.state.toRegisters)).Follows := by
  have single : m ≠ .ret ∧ m ≠ .pop := by
    constructor <;> rintro rfl <;> exact absurd straight (by decide)
  unfold stepStraight at made
  split at made
  · cases made
  · cases made
    rw [retire_registers]
    refine ⟨rfl, ?_, ?_, ?_⟩
    · simp only [view, straightRegisters_stack]
      rcases straight with ⟨computed, access, control⟩
      cases m with
      | tblr | tblw => exact stackList_pushPop s.stack _
      | call => exact absurd control (by decide)
      | cala | ret => exact absurd computed (by decide)
      | push | pop => exact absurd access (by decide)
      | _ => rfl
    · exact fun ret => absurd (Option.some_inj.mp ret) single.1
    · exact fun pop => absurd (Option.some_inj.mp pop) single.2

/-- A transition is a visit of the call stack. -/
theorem visit_follows (made : step i s = .ok outcome) :
    (Visit.mk outcome.executed (view s.toRegisters) (view outcome.state.toRegisters)).Follows := by
  cases entry : s.interruptEntryPending
  · rcases step_supported made entry with ⟨m, found, executed, -, -⟩
    rw [step_eq entry found] at made
    rw [executed]
    unfold stepInstruction at made
    split_ifs at made with single control
    · cases made
      exact stepStack_follows (s := latchRequest i s) single
    · exact stepControl_follows (s := latchRequest i s) control made
    · simp only [Bool.not_eq_true, Bool.or_eq_false_iff] at single control
      exact stepStraight_follows (s := latchRequest i s) ⟨single.1, single.2, control⟩ made
  · unfold step at made
    rw [entry, if_pos rfl] at made
    cases made
    exact ⟨rfl, rfl, by simp [enterInterrupt], by simp [enterInterrupt]⟩

end Step

end Isa

/-! ## The model -/

namespace Model

/-- What the model shows of its control flow. -/
def controlView (self : Tms32010Model) : View :=
  ⟨self.state.pc, self.state.acc, self.state.stack⟩

/-- The visits of successive calls of `step`. -/
def visits : Tms32010Model → List (StepTrace × Tms32010Model) → List Visit
  | _, [] => []
  | self, call :: calls =>
      ⟨call.1.mnemonic.executed, controlView self, controlView call.2⟩ :: visits call.2 calls

/-- The calls of a run are visits of the call stack. -/
theorem visits_of_trajectory {i : Isa.Input} {s : Isa.State} {pins : List Isa.Input}
    {calls : List (StepTrace × Tms32010Model)} (ran : trajectory (embed i s) pins = .ok calls) :
    CallStack.Run (Isa.view s.toRegisters) (visits (embed i s) calls) := by
  induction pins generalizing i s calls with
  | nil =>
      cases ran
      exact .done _
  | cons input pins ih =>
      have first := ran
      unfold trajectory at first
      rw [drive_embed] at first
      cases called : step (embed input s) with
      | error fault self =>
          rw [called] at first
          cases first
      | ok trace self =>
          rcases matches_of_step called with ⟨outcome, made, -⟩
          rcases trajectory_cons made ran with ⟨trace', tail, rfl, -, matched, rest⟩
          have label : trace'.mnemonic.executed = outcome.executed := by
            rw [matched.mnemonic]
            cases outcome.executed <;> rfl
          have follows := Isa.visit_follows made
          rw [← label] at follows
          exact .visit follows (ih rest)

end Model

/-! ## The core -/

namespace Rtl.Core

/-- The visits of the completed steps of a run. -/
def visits : Hosted → List (List Cycle × Hosted) → List Visit
  | _, [] => []
  | σ, (_, τ) :: rest =>
      ⟨σ.executes, Isa.view σ.core.toRegisters, Isa.view τ.core.toRegisters⟩ :: visits τ rest

/-- The completed steps of a run are visits of the call stack. -/
theorem visits_of_follows {p : Params} {a b : Isa.State} {σ : Hosted}
    {steps : List (List Cycle × Hosted)} (follows : Clocked.Follows (Takes p) Shown a steps b)
    (shown : Shown a σ) :
    CallStack.Run (Isa.view σ.core.toRegisters) (visits σ steps) := by
  induction follows generalizing σ with
  | done a => exact .done _
  | @step a b c made τ rest takes agrees _ ih =>
      rcases takes with ⟨outcome, executes, rfl⟩
      have executed : σ.executes = outcome.executed := by
        unfold Hosted.executes
        rw [Isa.executed_eq executes.step, shown.entry, shown.program, shown.pc]
      have core : τ.core.toRegisters = outcome.state.toRegisters :=
        (congrArg Isa.State.toRegisters agrees.shows).trans (strayed_flags a outcome).2
      have start : σ.core.toRegisters = a.toRegisters :=
        congrArg Isa.State.toRegisters shown.shows
      have visit := Isa.visit_follows executes.step
      rw [← executed, ← core, ← start] at visit
      exact .visit visit (ih agrees)

end Rtl.Core

open Rtl.Core (Hosted Idle)

/-- In every run of the reference model without an exception, and in every run of the
core, a return resumes where the matching call, `CALA` or interrupt entry left off. -/
theorem calls_return {self : Model.Tms32010Model} (wellFormed : self.WellFormed)
    {pins : List Isa.Input} {calls : List (Model.StepTrace × Model.Tms32010Model)}
    (ran : Model.trajectory self pins = .ok calls) {σ : Hosted} (idle : Idle σ.core)
    {clocks : List Rtl.Core.Inputs}
    (runs : (Hosted.device .default).Admits Hosted.Runs σ clocks) :
    CallStack.Lawful (Model.visits self calls) ∧
      CallStack.Lawful (Rtl.Core.visits σ ((Hosted.device .default).steps [] σ clocks)) := by
  constructor
  · rcases wellFormed.exists_embed with ⟨i, s, rfl⟩
    exact (Model.visits_of_trajectory ran).lawful
  · have simulates : Clocked.Simulates (Hosted.device .default) _ _ _ := Hosted.simulates rfl
    have shown : Rtl.Core.Shown (σ.architecture 0) σ := ⟨rfl, idle⟩
    rcases simulates.follows_fresh
      (fun stage runs some ends takes _ => Hosted.completes_shown rfl stage runs some ends takes)
      (.shown shown) runs with ⟨b, follows, -⟩
    exact (Rtl.Core.visits_of_follows follows shown).lawful

/-- A routine at address 4 calls another at address 8, which reads a table. -/
def nestedProgram : List ℕ := [0xf800, 4, 0x7f80, 0x7f80, 0xf800, 8, 0x7f8d, 0x7f80, 0x6700, 0x7f8d]

/-- The model with this program. -/
def nestedModel : Model.Tms32010Model :=
  { program := nestedProgram ++ (List.replicate Model.programWords 0).drop 10 }

theorem nestedModel_wellFormed : nestedModel.WellFormed :=
  @Model.Tms32010Model.WellFormed.loaded {} Model.constructed_wellFormed nestedProgram (by decide)
    (by decide)

/-- The core with this program, reset. -/
def nestedCore : Hosted :=
  ⟨Rtl.Core.blank, fun address => BitVec.ofNat 16 (nestedProgram.getD address.toNat 0), fun _ => 0⟩

/-- The two calls, the table read and the two returns, with the address each leads to. -/
def nestedVisits : List (Option Mnemonic × ℕ) :=
  [(some .call, 4), (some .call, 8), (some .tblr, 9), (some .ret, 6), (some .ret, 2)]

theorem nestedModel_runs :
    ∃ calls, Model.trajectory nestedModel (List.replicate 5 ⟨true, true, fun _ => 0⟩) =
        .ok calls ∧
      ((Model.visits nestedModel calls).map fun visit => (visit.executed, visit.after.pc)) =
        nestedVisits := by
  have checked :
      (Model.trajectory nestedModel (List.replicate 5 ⟨true, true, fun _ => 0⟩)).toOption.map
          (fun calls =>
            (Model.visits nestedModel calls).map fun visit => (visit.executed, visit.after.pc)) =
        some nestedVisits := by
    decide +kernel
  cases ran : Model.trajectory nestedModel (List.replicate 5 ⟨true, true, fun _ => 0⟩) with
  | error fault =>
      rw [ran] at checked
      cases checked
  | ok calls =>
      rw [ran] at checked
      exact ⟨calls, rfl, Option.some.inj checked⟩

theorem calls_return_nested :
    let clocks := nestedCore.attended .default (List.replicate 11 Rtl.Core.enabledInputs)
    let visits := Rtl.Core.visits nestedCore ((Hosted.device .default).steps [] nestedCore clocks)
    (visits.map fun visit => (visit.executed, visit.after.pc)) = nestedVisits ∧
      CallStack.Lawful visits ∧
      ∃ calls, Model.trajectory nestedModel (List.replicate 5 ⟨true, true, fun _ => 0⟩) =
          .ok calls ∧
        ((Model.visits nestedModel calls).map fun visit => (visit.executed, visit.after.pc)) =
          nestedVisits ∧
        CallStack.Lawful (Model.visits nestedModel calls) := by
  intro clocks visits
  have runs : (Hosted.device .default).Admits Hosted.Runs nestedCore clocks :=
    Hosted.admits_repeated _ ⟨rfl, rfl, rfl⟩ _
  have idle : Idle nestedCore.core := ⟨rfl, rfl, rfl, rfl⟩
  rcases nestedModel_runs with ⟨calls, ran, visited⟩
  rcases calls_return nestedModel_wellFormed ran idle runs with ⟨model, core⟩
  exact ⟨by decide +kernel, core, calls, ran, visited, model⟩

end Tms32010
