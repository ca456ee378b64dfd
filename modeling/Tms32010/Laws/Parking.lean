import Tms32010.Laws.CoreRuns

/-!
# Parking on unsupported input

The core does not retire an instruction exactly when the reference model raises there, or
the word is `PUSH` or `POP`. From the first clock that reports it the core is frozen, in
the state before the instruction or, at the operand of a branch, one word further.
-/

namespace Tms32010.Rtl.Core

open Model (embed)

/-! ## Accepted clocks -/

section Edge

variable {p : Params} {s : State} {i : Inputs}

/-- A clock that the core accepts counts a cycle and reports nothing illegal. -/
theorem enabledCycle_accepted
    (accepts : s.interruptEntryPending = true ∨ instructionValid p s i = true) :
    (enabledCycle p s i).illegal = false ∧ (enabledCycle p s i).cycleCount = s.cycleCount + 1 := by
  unfold enabledCycle
  rcases Bool.eq_false_or_eq_true s.interruptEntryPending with entry | noEntry
  · rw [entry, if_pos rfl]
    exact ⟨rfl, rfl⟩
  · have valid := accepts.resolve_left (by rw [noEntry]; exact Bool.false_ne_true)
    rw [noEntry, valid]
    simp only [Bool.false_eq_true, if_false, if_true]
    split_ifs <;> exact ⟨rfl, rfl⟩

theorem interruptTracker_cycleCount (next : State) :
    (interruptTracker p s i next).cycleCount = next.cycleCount := by
  unfold interruptTracker
  dsimp only
  split_ifs <;> rfl

theorem step_accepted (running : Running i)
    (accepts : s.interruptEntryPending = true ∨ instructionValid p s i = true) :
    (step p s i).illegal = false ∧ (step p s i).cycleCount = s.cycleCount + 1 := by
  have next : nextRegisters p s i = interruptTracker p s i (enabledCycle p s i) := by
    unfold nextRegisters
    rw [running.noInitialize, running.noReset, running.enabled]
    rfl
  unfold step
  rw [next]
  rcases enabledCycle_accepted accepts with ⟨legal, counted⟩
  exact ⟨(interruptTracker_status _).2.trans legal,
    (interruptTracker_cycleCount _).trans counted⟩

end Edge

/-! ## The frozen core -/

/-- The second core differs from the first in `retired_o`, `illegal_o` and
`interrupt_pending_o` at most. -/
structure Frozen (σ τ : Hosted) : Prop where
  core : τ.core =
    { σ.core with
      retired := τ.core.retired
      illegal := τ.core.illegal
      interruptPending := τ.core.interruptPending }
  program : τ.program = σ.program
  ioOutput : τ.ioOutput = σ.ioOutput

theorem Frozen.trans {σ τ υ : Hosted} (first : Frozen σ τ) (second : Frozen τ υ) : Frozen σ υ := by
  refine ⟨?_, second.program.trans first.program, second.ioOutput.trans first.ioOutput⟩
  rw [second.core, first.core]

/-- No write to program memory or a port is issued, and no interrupt entered. -/
structure Silent (σ : Hosted) (i : Inputs) : Prop where
  programWrite : programWrite σ.core i = false
  ioWrite : ioWrite σ.core i = false
  noEntry : σ.core.interruptEntryPending = false

/-- The core has no transfer underway and refuses every enabled clock. -/
structure Refused (σ : Hosted) : Prop where
  noEntry : σ.core.interruptEntryPending = false
  io : σ.core.ioPending = false
  table : σ.core.tablePending = false
  invalid : ∀ i, σ.Runs i → i.clockEnable = true → instructionValid .default σ.core i = false

section Freeze

variable {a : Isa.State} {σ τ : Hosted} {i : Inputs} {made : List Cycle}

theorem Refused.silent (refused : Refused σ) (i : Inputs) : Silent σ i := by
  refine ⟨?_, ?_, refused.noEntry⟩
  · unfold programWrite
    rw [refused.table]
    simp
  · unfold ioWrite
    rw [refused.io]
    simp

theorem frozen_of_step {retired illegal pending : Bool}
    (core : Core.step .default σ.core i =
      { σ.core with
        retired := retired
        illegal := illegal
        interruptPending := pending
        dataRam := (Core.step .default σ.core i).dataRam })
    (memory : (Core.step .default σ.core i).dataRam.memory = σ.core.dataRam.memory)
    (program : (σ.step .default i).program = σ.program)
    (ioOutput : (σ.step .default i).ioOutput = σ.ioOutput) : Frozen σ (σ.step .default i) := by
  have ram : (Core.step .default σ.core i).dataRam = σ.core.dataRam :=
    InternalRam.step_combinational _ _ memory
  rw [ram] at core
  refine ⟨?_, program, ioOutput⟩
  change Core.step .default σ.core i =
    { σ.core with
      retired := (Core.step .default σ.core i).retired
      illegal := (Core.step .default σ.core i).illegal
      interruptPending := (Core.step .default σ.core i).interruptPending }
  rw [core]

/-- A clock without enable freezes the core. -/
theorem Hosted.Runs.frozen_disabled (runs : σ.Runs i) (disabled : i.clockEnable = false) :
    Frozen σ (σ.step .default i) := by
  rcases step_disabled (p := .default) (s := σ.core) runs.noInitialize runs.noReset disabled
    runs.noDebug with ⟨core, memory⟩
  apply frozen_of_step core memory
  · unfold Hosted.step
    rw [disabled]
    rfl
  · unfold Hosted.step
    rw [disabled]
    rfl

/-- A refused clock freezes the core. -/
theorem Hosted.Runs.frozen_refused (runs : σ.Runs i) (enabled : i.clockEnable = true)
    (entry : σ.core.interruptEntryPending = false) (io : σ.core.ioPending = false)
    (table : σ.core.tablePending = false)
    (invalid : instructionValid .default σ.core i = false) : Frozen σ (σ.step .default i) := by
  have fetches : Fetches .default σ i := runs.fetches enabled io (by rw [table]; rfl)
  rcases step_parked (p := .default) entry invalid (runs.running enabled) with ⟨core, memory⟩
  exact frozen_of_step core memory fetches.program fetches.ioOutput

/-- A frozen core sees the same clocks. -/
theorem Frozen.runs (frozen : Frozen σ τ) (runs : τ.Runs i) : σ.Runs i := by
  refine ⟨runs.noInitialize, runs.noReset, runs.noDebug, ?_⟩
  have served := runs.served
  rw [frozen.core, frozen.program] at served
  exact served

/-- A frozen core refuses what it refused. -/
theorem Frozen.refused (frozen : Frozen σ τ) (refused : Refused σ) : Refused τ := by
  refine ⟨?_, ?_, ?_, ?_⟩
  · rw [frozen.core]
    exact refused.noEntry
  · rw [frozen.core]
    exact refused.io
  · rw [frozen.core]
    exact refused.table
  · intro i runs enabled
    rw [frozen.core]
    exact refused.invalid i (frozen.runs runs) enabled

theorem Refused.frozen (refused : Refused σ) (runs : σ.Runs i) : Frozen σ (σ.step .default i) := by
  rcases Bool.eq_false_or_eq_true i.clockEnable with enabled | disabled
  · exact runs.frozen_refused enabled refused.noEntry refused.io refused.table
      (refused.invalid i runs enabled)
  · exact runs.frozen_disabled disabled

/-- A core that refuses its clocks stays frozen and silent through every run. -/
theorem Refused.freezes (refused : Refused σ) (frozen : Frozen σ τ) {clocks : List Inputs}
    (runs : (Hosted.device .default).Admits Hosted.Runs τ clocks) :
    (Hosted.device .default).Admits
      (fun υ j => Silent υ j ∧ Frozen σ (υ.step .default j)) τ clocks := by
  induction clocks generalizing τ with
  | nil => trivial
  | cons j clocks ih =>
      rcases runs with ⟨admitted, runs⟩
      have refused' := frozen.refused refused
      have frozen' := frozen.trans (refused'.frozen admitted)
      exact ⟨⟨refused'.silent j, frozen'⟩, ih frozen' runs⟩

/-- The clock that parks the core finds it refusing every clock. -/
theorem Stage.refused (stage : Stage .default a σ made) (runs : σ.Runs i)
    (enabled : i.clockEnable = true) (entry : σ.core.interruptEntryPending = false)
    (invalid : instructionValid .default σ.core i = false) : Refused σ := by
  rcases stage.refuses runs enabled entry invalid with ⟨-, refused⟩ | ⟨m, c, low, -, refused⟩
  · exact ⟨entry, refused.idle.io, refused.idle.table, fun _ runs enabled =>
      refused.invalid runs enabled⟩
  · exact ⟨entry, refused.pending.io, refused.pending.table, fun _ runs enabled =>
      refused.invalid runs enabled⟩

end Freeze

/-! ## Where the core parks -/

/-- The cycles the core is ahead of the instruction at its program counter: one when it
waits at the operand of a branch or call. -/
def Hosted.ahead (σ : Hosted) : ℕ :=
  if (mnemonic? (σ.program σ.core.pc)).any Mnemonic.twoWordControlFlow then 1 else 0

/-- The second core holds the state of the first, its program counter and cycle count
ahead by the cycles given, later interrupt requests apart. -/
structure ParkedAt (ahead : ℕ) (σ τ : Hosted) : Prop where
  registers : τ.core.toRegisters =
    { σ.core.toRegisters with
      pc := σ.core.pc + BitVec.ofNat 12 ahead
      interruptPending := τ.core.interruptPending }
  cycleCount : τ.core.cycleCount = σ.core.cycleCount + BitVec.ofNat 32 ahead
  data : τ.core.dataRam.memory = σ.core.dataRam.memory
  program : τ.program = σ.program
  ioOutput : τ.ioOutput = σ.ioOutput

section Parked

variable {a : Isa.State} {σ τ : Hosted} {made : List Cycle} {clocks : List Inputs} {n : ℕ}

/-- The cycle count grows by the cycles made. -/
theorem cycleCount_run (runs : (Hosted.device .default).Admits Hosted.Runs σ clocks)
    (none : (Hosted.device .default).steps made σ clocks = []) :
    ((Hosted.device .default).run σ clocks).core.cycleCount + BitVec.ofNat 32 made.length =
      σ.core.cycleCount +
        BitVec.ofNat 32 ((Hosted.device .default).rest made σ clocks).length := by
  induction clocks generalizing σ made with
  | nil => rfl
  | cons i clocks ih =>
      rcases runs with ⟨admitted, runs⟩
      unfold Clocked.Device.steps at none
      unfold Clocked.Device.run Clocked.Device.rest
      cases cycle : (Hosted.device .default).cycle? σ i with
      | none =>
          rw [cycle] at none
          have same : (σ.step .default i).core.cycleCount = σ.core.cycleCount := by
            rcases Hosted.cycle?_none cycle with disabled | ⟨enabled, entry, invalid⟩
            · rw [(admitted.frozen_disabled disabled).core]
            · rcases admitted.parks enabled entry invalid with ⟨ram, -, core⟩
              rw [core]
          rw [ih runs none]
          exact congrArg (· + _) same
      | some c =>
          rw [cycle] at none
          rcases Hosted.cycle?_some cycle with ⟨enabled, accepts, -⟩
          cases ends : (Hosted.device .default).completes σ i
          · rw [ends] at none
            have rest := ih runs none
            have counted := (step_accepted (admitted.running enabled) accepts).2
            replace counted : ((Hosted.device .default).next σ i).core.cycleCount =
              σ.core.cycleCount + 1 := counted
            rw [counted, List.length_append, List.length_singleton, BitVec.ofNat_add] at rest
            dsimp only
            rw [if_neg Bool.false_ne_true]
            grind
          · rw [ends] at none
            exact absurd none (by simp)

/-- A stuck machine completes no step. -/
theorem Stage.steps_eq_nil (stage : Stage .default a σ made) (stuck : Stuck .default a)
    (runs : (Hosted.device .default).Admits Hosted.Runs σ clocks) :
    (Hosted.device .default).steps made σ clocks = [] := by
  have simulates : Clocked.Simulates (Hosted.device .default) _ _ _ := Hosted.simulates rfl
  rcases simulates.follows stage runs with ⟨b, follows, -⟩
  generalize (Hosted.device .default).steps made σ clocks = steps at follows
  cases follows with
  | done => rfl
  | step takes _ _ => exact absurd stuck takes.free

/-- A branch is refused at its operand only. -/
theorem RefusesWord.ahead_eq (refuses : RefusesWord .default (σ.architecture n)) :
    σ.ahead = 0 := by
  unfold Hosted.ahead
  rw [if_neg]
  intro branch
  rcases (Option.any_eq_true _ _).mp branch with ⟨m, found, family⟩
  have apart : m.stackAccess = false ∧ m.computedControlFlow = false ∧ m.dataAddressed = false := by
    cases m <;> first | exact ⟨rfl, rfl, rfl⟩ | exact absurd family (by decide)
  rcases refuses m found with stack | ⟨computed, -⟩ | fault
  · exact absurd (apart.1.symm.trans stack) Bool.false_ne_true
  · exact absurd (apart.2.1.symm.trans computed) Bool.false_ne_true
  · apply fault
    unfold Isa.dataFault?
    rw [apart.2.2]
    rfl

/-- Where the core parks at a word. -/
theorem WordRefused.parkedAt (refused : WordRefused .default (σ.architecture n) τ)
    (cycleCount : τ.core.cycleCount = σ.core.cycleCount) : ParkedAt σ.ahead σ τ := by
  have registers := congrArg Isa.State.toRegisters refused.shows
  rw [refused.refuses.ahead_eq]
  refine ⟨?_, ?_, congrArg Isa.State.data refused.shows,
    congrArg Isa.State.program refused.shows, congrArg Isa.State.ioOutput refused.shows⟩
  · rw [BitVec.add_zero]
    exact registers
  · rw [cycleCount, BitVec.add_zero]

/-- Where the core parks at the operand of a branch. -/
theorem OperandRefused.parkedAt {m : Mnemonic} {c : Cycle} {low : Bool}
    (refused : OperandRefused (σ.architecture n) τ m c low)
    (cycleCount : τ.core.cycleCount = σ.core.cycleCount + 1) : ParkedAt σ.ahead σ τ := by
  have ahead : σ.ahead = 1 := by
    unfold Hosted.ahead
    have found : mnemonic? (σ.program σ.core.pc) = some m := refused.found
    rw [found, if_pos]
    exact refused.family
  have registers := refused.underway.registers
  rw [ahead]
  refine ⟨?_, cycleCount, refused.underway.data, refused.program, refused.ioOutput⟩
  rw [registers]
  rfl

end Parked

/-! ## The parking law -/

/-- The core does not complete the instruction: the model raises, or it is `PUSH` or `POP`. -/
def Unsupported (inputs : Isa.Input) (a : Isa.State) : Prop :=
  (∃ error self', Model.step (embed inputs a) = .error error self') ∨
    mnemonic? (a.program a.pc) = some .push ∨ mnemonic? (a.program a.pc) = some .pop

theorem stuck_iff_unsupported {a : Isa.State} (noEntry : a.interruptEntryPending = false)
    (inputs : Isa.Input) : Stuck .default a ↔ Unsupported inputs a := by
  unfold Unsupported
  rw [Model.raises_iff]
  constructor
  · intro stuck
    cases made : Isa.step inputs a with
    | error fault => exact Or.inl ⟨fault, rfl⟩
    | ok outcome =>
        rcases (stuck_iff.mp stuck).2 _ _ made with ⟨m, executed, refused⟩
        rcases Isa.step_supported made noEntry with ⟨m', found, executed', -, -⟩
        have same : m' = m := Option.some.inj (executed'.symm.trans executed)
        have stack : m.stackAccess = true := refused.resolve_right fun disabled =>
          absurd disabled.2 (by decide)
        rw [found, same]
        right
        cases m <;> first | exact Or.inl rfl | exact Or.inr rfl | exact absurd stack (by decide)
  · rintro (⟨fault, raises⟩ | stack)
    · refine stuck_iff.mpr ⟨noEntry, fun inputs' outcome made => ?_⟩
      rcases Isa.step_supported made noEntry with ⟨m, found, -, noFault, operand⟩
      rcases Isa.step_completes noEntry found noFault operand inputs with ⟨outcome', made', -⟩
      exact absurd (raises.symm.trans made') (by simp)
    · refine ⟨noEntry, Or.inl fun m found => Or.inl ?_⟩
      rcases stack with push | pop
      · rw [← Option.some.inj (push.symm.trans found)]
        rfl
      · rw [← Option.some.inj (pop.symm.trans found)]
        rfl

/-- The core parks: it never retires an instruction the model raises on, nor `PUSH` or `POP`,
and retires every other within four enabled clocks. When an enabled clock reports the
instruction illegal, the core holds the state before it, one word further at the operand of
a branch or call, and is frozen and silent from then on. -/
theorem core_parks (σ : Hosted) (idle : Idle σ.core)
    (noEntry : σ.core.interruptEntryPending = false) (clocks : List Inputs)
    (runs : (Hosted.device .default).Admits Hosted.Runs σ clocks) (inputs : Isa.Input)
    (cycles : ℕ) :
    (Unsupported inputs (σ.architecture cycles) →
        (Hosted.device .default).steps [] σ clocks = []) ∧
      (¬Unsupported inputs (σ.architecture cycles) → 3 < clocks.countP Inputs.clockEnable →
        (Hosted.device .default).steps [] σ clocks ≠ []) ∧
      ∀ before i after, clocks = before ++ i :: after → i.clockEnable = true →
        (Hosted.device .default).steps [] σ before = [] →
        (((Hosted.device .default).run σ before).step .default i).core.illegal = true →
        ParkedAt σ.ahead σ ((Hosted.device .default).run σ before) ∧
          (Hosted.device .default).Admits
            (fun τ j => Silent τ j ∧
              Frozen ((Hosted.device .default).run σ before) (τ.step .default j))
            ((Hosted.device .default).run σ before) (i :: after) := by
  have shown : Shown (σ.architecture cycles) σ := ⟨rfl, idle⟩
  have stage : Stage .default (σ.architecture cycles) σ [] := .shown shown
  have simulates : Clocked.Simulates (Hosted.device .default) _ _ _ := Hosted.simulates rfl
  rw [← stuck_iff_unsupported noEntry inputs]
  refine ⟨fun stuck => stage.steps_eq_nil stuck runs, ?_, ?_⟩
  · intro free enough none
    rcases simulates.follows stage runs with ⟨b, follows, -⟩
    have ticks := Hosted.paced.ticks_le simulates (fun _ _ _ takes => takes.free) stage runs
      follows
    rw [none] at ticks follows
    cases follows
    exact absurd (ticks free) (Nat.not_le_of_gt enough)
  · intro before i after whole enabled none illegal
    subst whole
    rcases (Clocked.Device.admits_append _ _ _ _ _).mp runs with ⟨runs, admitted, later⟩
    rcases simulates.follows stage runs with ⟨b, follows, reached⟩
    have counted := cycleCount_run runs none
    rw [none] at follows
    cases follows
    rw [List.length_nil, BitVec.add_zero] at counted
    have refuses : ¬(((Hosted.device .default).run σ before).core.interruptEntryPending = true ∨
        instructionValid .default ((Hosted.device .default).run σ before).core i = true) := by
      intro accepts
      have legal := (step_accepted (admitted.running enabled) accepts).1
      exact absurd (legal.symm.trans illegal) Bool.false_ne_true
    rw [not_or, Bool.not_eq_true, Bool.not_eq_true] at refuses
    have refused := reached.refused admitted enabled refuses.1 refuses.2
    refine ⟨?_, ⟨refused.silent i, refused.frozen admitted⟩,
      refused.freezes (refused.frozen admitted) later⟩
    rcases reached.refuses admitted enabled refuses.1 refuses.2 with
      ⟨made, word⟩ | ⟨m, c, low, made, operand⟩
    · rw [made, List.length_nil, BitVec.add_zero] at counted
      exact word.parkedAt counted
    · rw [made] at counted
      exact operand.parkedAt counted

/-- A word that decodes to nothing. -/
def emptyProgram : ProgramMemory := fun _ => 0x7f9f

theorem core_parks_empty :
    let σ : Hosted := ⟨blank, emptyProgram, fun _ => 0⟩
    let clocks := σ.attended .default (List.replicate 8 enabledInputs)
    (Unsupported (pins []) (σ.architecture 0) →
        (Hosted.device .default).steps [] σ clocks = []) ∧
      (¬Unsupported (pins []) (σ.architecture 0) → 3 < clocks.countP Inputs.clockEnable →
        (Hosted.device .default).steps [] σ clocks ≠ []) ∧
      ∀ before i after, clocks = before ++ i :: after → i.clockEnable = true →
        (Hosted.device .default).steps [] σ before = [] →
        (((Hosted.device .default).run σ before).step .default i).core.illegal = true →
        ParkedAt σ.ahead σ ((Hosted.device .default).run σ before) ∧
          (Hosted.device .default).Admits
            (fun τ j => Silent τ j ∧
              Frozen ((Hosted.device .default).run σ before) (τ.step .default j))
            ((Hosted.device .default).run σ before) (i :: after) :=
  core_parks _ ⟨rfl, rfl, rfl, rfl⟩ rfl _
    (Hosted.admits_repeated _ ⟨rfl, rfl, rfl⟩ _) _ _

end Tms32010.Rtl.Core
