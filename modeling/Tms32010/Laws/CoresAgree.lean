import Tms32010.Laws.CoreRuns

/-!
# The core and the slice agree

The core fetches and executes one instruction after the other; the slice fetches ahead.
Started from one state with the same memories, they complete the same steps in as many
machine cycles each, as long as they sample the same pins in each step.
-/

namespace Tms32010.Rtl

/-! ## Pins -/

/-- The levels and the port word of a clock. -/
structure Pins where
  int : Bool
  bio : Bool
  ioReadData : BitVec 16
  deriving DecidableEq, Repr

/-- The pins as a transition observes them. -/
def Pins.input (pins : Pins) : Isa.Input := ⟨pins.int, pins.bio, fun _ => pins.ioReadData⟩

section Held

variable {α β : Type} {value : β} {made : List α} {f : α → β}

theorem map_held (same : ∀ x ∈ made, f x = value) :
    made.map f = List.replicate made.length value := by
  rw [List.eq_replicate_iff, List.length_map]
  refine ⟨rfl, ?_⟩
  rintro y among
  rcases List.mem_map.mp among with ⟨x, inside, rfl⟩
  exact same x inside

/-- The first, the last and the conjunction of one repeated value. -/
theorem ends_held (some : made ≠ []) (same : ∀ x ∈ made, f x = value) (default : β) :
    (made.map f).headD default = value ∧ (made.map f).getLastD default = value := by
  rw [map_held same, List.getLastD_eq_getLast?, List.getLast?_replicate]
  cases made with
  | nil => exact absurd rfl some
  | cons x rest => exact ⟨rfl, rfl⟩

theorem all_held {level : Bool} {f : α → Bool} (some : made ≠ [])
    (same : ∀ x ∈ made, f x = level) : made.all f = level := by
  cases level
  · rcases List.exists_mem_of_ne_nil made some with ⟨x, inside⟩
    exact List.all_eq_false.mpr ⟨x, inside, by simp [same x inside]⟩
  · exact List.all_eq_true.mpr same

end Held

namespace Core

/-- The pins of a clock. -/
def Inputs.pins (i : Inputs) : Pins := ⟨i.int, i.bio, i.ioReadData⟩

/-- A step with pins that do not change observes these pins. -/
theorem pins_held {held : Pins} {made : List Cycle} (some : made ≠ [])
    (same : ∀ cycle ∈ made, Pins.mk cycle.int cycle.bio cycle.ioReadData = held) :
    pins made = held.input := by
  unfold pins Pins.input
  rw [all_held some fun cycle among => congrArg Pins.int (same cycle among),
    (ends_held some (fun cycle among => congrArg Pins.bio (same cycle among)) true).2,
    (ends_held some (fun cycle among => congrArg Pins.ioReadData (same cycle among)) 0).2]

/-- Every step of a run whose pins do not change observes these pins. -/
theorem observed_held {p : Params} {held : Pins} {clocks : List Inputs}
    (same : ∀ i ∈ clocks, i.pins = held) (σ : Hosted) :
    ∀ step ∈ (Hosted.device p).steps [] σ clocks, pins step.1 = held.input := by
  intro step among
  have cycles : step.1 ≠ [] ∧
      ∀ cycle ∈ step.1, Pins.mk cycle.int cycle.bio cycle.ioReadData = held := by
    refine (Hosted.device p).steps_forall (List.forall_mem_nil _) σ ?_ step among
    intro i inside σ cycle made
    rw [(Hosted.cycle?_some made).2.2]
    exact same i inside
  exact pins_held cycles.1 cycles.2

end Core

namespace Slice

/-- The pins of a clock. -/
def Inputs.pins (i : Inputs) : Pins := ⟨i.int, i.bio, i.ioReadData⟩

/-- A step with pins that do not change observes these pins. -/
theorem stepPins_held {held : Pins} {made : List Cycle} (some : made ≠ [])
    (same : ∀ cycle ∈ made, Pins.mk cycle.int cycle.bio cycle.ioReadData = held) :
    stepPins made = held.input := by
  unfold stepPins Pins.input
  rw [all_held some fun cycle among => congrArg Pins.int (same cycle among),
    (ends_held some (fun cycle among => congrArg Pins.bio (same cycle among)) true).1,
    (ends_held some (fun cycle among => congrArg Pins.ioReadData (same cycle among)) 0).1]

/-- Every step of a run whose pins do not change observes these pins. -/
theorem observed_held {held : Pins} {clocks : List Inputs}
    (same : ∀ i ∈ clocks, i.pins = held) (σ : Attached) :
    ∀ step ∈ Attached.device.steps [] σ clocks, stepPins step.1 = held.input := by
  intro step among
  have cycles : step.1 ≠ [] ∧
      ∀ cycle ∈ step.1, Pins.mk cycle.int cycle.bio cycle.ioReadData = held := by
    refine Attached.device.steps_forall (List.forall_mem_nil _) σ ?_ step among
    intro i inside σ cycle made
    rw [(Attached.cycle?_some made).2]
    exact same i inside
  exact stepPins_held cycles.1 cycles.2

end Slice

/-! ## Agreement -/

/-- A step of the core and one of the slice take as many cycles and leave the same
architectural state with its memories. -/
structure Agrees (step : List Core.Cycle × Core.Hosted)
    (step' : List Slice.Cycle × Slice.Attached) : Prop where
  cycles : step.1.length = step'.1.length
  state : step.2.architecture 0 = step'.2.architecture 0

/-- The completed steps of the core and of the slice. -/
structure CoresAgree (core : Core.Hosted) (clocks : List Core.Inputs) (slice : Slice.Attached)
    (clocks' : List Slice.Inputs) : Prop where
  /-- They agree as far as each step samples the same pins. -/
  sampled : ∀ count,
    let steps := ((Core.Hosted.device .default).steps [] core clocks).take count
    let steps' := (Slice.Attached.device.steps [] slice clocks').take count
    (steps.map fun step => Core.pins step.1) = steps'.map (fun step => Slice.stepPins step.1) →
      List.Forall₂ Agrees steps steps'
  /-- Pins that do not change are the same in every step. -/
  held : ∀ pins, (∀ i ∈ clocks, i.pins = pins) → (∀ i ∈ clocks', i.pins = pins) →
    let steps := (Core.Hosted.device .default).steps [] core clocks
    let steps' := Slice.Attached.device.steps [] slice clocks'
    ∀ count ≤ min steps.length steps'.length,
      List.Forall₂ Agrees (steps.take count) (steps'.take count)

section Agreement

variable {core : Core.Hosted} {clocks : List Core.Inputs} {slice : Slice.Attached}
  {clocks' : List Slice.Inputs}

theorem agree_of_sampled {a : Isa.State} (shown : Core.Shown a core)
    (lock : Slice.Lockstep True a slice [])
    (runs : (Core.Hosted.device .default).Admits Core.Hosted.Runs core clocks)
    (harmless : (Core.Hosted.device .default).Admits Core.Harmless core clocks)
    (runs' : Slice.Attached.device.Admits (Slice.Attached.Runs True) slice clocks') (count : ℕ)
    (sampled : ((((Core.Hosted.device .default).steps [] core clocks).take count).map
        fun step => Core.pins step.1) =
      ((Slice.Attached.device.steps [] slice clocks').take count).map
        fun step => Slice.stepPins step.1) :
    List.Forall₂ Agrees (((Core.Hosted.device .default).steps [] core clocks).take count)
      ((Slice.Attached.device.steps [] slice clocks').take count) := by
  have simulates : Clocked.Simulates (Core.Hosted.device .default) _ _ _ :=
    Core.simulates_exact rfl
  have admits := ((Core.Hosted.device .default).admits_and core clocks).mpr ⟨runs, harmless⟩
  rcases simulates.follows_fresh
    (fun stage admitted some ends takes _ =>
      Core.completes_exact rfl stage admitted some ends takes) (.shown shown) admits with
    ⟨b, follows, -⟩
  rcases (Slice.Attached.simulates True).follows lock runs' with ⟨b', follows', -⟩
  rcases follows.take count with ⟨c, first⟩
  rcases follows'.take count with ⟨c', second⟩
  have same {a : Isa.State} {made : List Core.Cycle} {made' : List Slice.Cycle} {b b' : Isa.State}
      (exact : Core.Exact a made b) (takes : True → Slice.Takes a made' b')
      (pins : Core.pins made = Slice.stepPins made') : b = b' ∧ made.length = made'.length := by
    rcases exact with ⟨outcome, step, rfl, cycles, -⟩
    rcases takes trivial with ⟨outcome', step', rfl, cycles', -⟩
    rw [pins, step', Except.ok.injEq] at step
    subst step
    exact ⟨rfl, cycles.symm.trans cycles'⟩
  have agreed := first.agree second
    (fun a made made' b b' exact takes pins => (same exact takes pins).1) sampled
  refine agreed.imp ?_
  rintro x y ⟨a, b, exact, takes, pins, agrees, agrees'⟩
  refine ⟨(same exact takes pins).2, ?_⟩
  have left := congrArg (fun b : Isa.State => { b with cycleCount := 0 }) agrees.shows
  have right := congrArg (fun b : Isa.State => { b with cycleCount := 0 }) agrees'.stage.shown.shows
  exact left.trans right.symm

end Agreement

/-- After restarts that leave the same state the core and the slice complete the same
steps. The core makes no harmful store after `CALA` and `RET`. -/
theorem cores_agree (core : Core.Hosted) (start : Core.Inputs) (restarts : Core.Restarts start)
    (slice : Slice.Attached) (start' : Slice.Inputs) (restarts' : slice.Restarts start')
    (same : (core.step .default start).architecture 0 = (slice.step start').architecture 0)
    (clocks : List Core.Inputs)
    (runs : (Core.Hosted.device .default).Admits Core.Hosted.Runs (core.step .default start) clocks)
    (harmless : (Core.Hosted.device .default).Admits Core.Harmless (core.step .default start)
      clocks)
    (clocks' : List Slice.Inputs)
    (runs' : Slice.Attached.device.Admits (Slice.Attached.Runs True) (slice.step start') clocks') :
    CoresAgree (core.step .default start) clocks (slice.step start') clocks' := by
  have shown : Core.Shown ((slice.step start').architecture 0) (core.step .default start) := by
    refine ⟨same, (core.step_restart (p := .default) restarts).1⟩
  have lock : Slice.Lockstep True ((slice.step start').architecture 0) (slice.step start') [] :=
    Slice.Lockstep.restarted restarts' 0
  have agree := agree_of_sampled shown lock runs harmless runs'
  refine ⟨agree, ?_⟩
  intro pins held held' steps steps' count within
  rw [le_min_iff] at within
  apply agree
  have observed := Core.observed_held (p := .default) held (core.step .default start)
  have observed' := Slice.observed_held held' (slice.step start')
  rw [map_held fun step among => observed step (List.mem_of_mem_take among),
    map_held fun step among => observed' step (List.mem_of_mem_take among),
    List.length_take_of_le within.1, List.length_take_of_le within.2]

/-- Where no word of program memory moves data or stores a register, none stores after
`CALA` and `RET`. -/
theorem Core.harmless_of_words {p : Core.Params} {clocks : List Core.Inputs}
    (words : ∀ i ∈ clocks,
      (mnemonic? i.programData).all (fun m => !m.movesData && !m.storesRegister) = true)
    (σ : Core.Hosted) : (Core.Hosted.device p).Admits Core.Harmless σ clocks := by
  induction clocks generalizing σ with
  | nil => trivial
  | cons i clocks ih =>
      refine ⟨?_, ih (fun j member => words j (List.mem_cons_of_mem i member)) _⟩
      intro _ _ m found
      have plain := words i List.mem_cons_self
      rw [found, Option.all_some, Bool.and_eq_true, Bool.not_eq_true', Bool.not_eq_true'] at plain
      exact ⟨fun moves => absurd (plain.1.symm.trans moves) Bool.noConfusion,
        fun stores => absurd (plain.2.symm.trans stores) Bool.noConfusion⟩

/-- The core with the program of transfers, cleared. -/
def transferCore : Core.Hosted := ⟨Core.blank, Slice.transferProgram, fun _ => 0⟩

/-- The slice with the same program, cleared. -/
def transferSlice : Slice.Attached := ⟨Slice.clearState, Slice.transferProgram, fun _ => 0⟩

/-- Both complete at least the seven instructions up to the loop. -/
theorem cores_agree_transfers :
    let start := { Core.restingInputs with initializeRequest := true }
    let start' := { Slice.enabledInputs with initializeI := true }
    let core := transferCore.step .default start
    let slice := transferSlice.step start'
    let clocks := core.attended .default (List.replicate 16 Core.enabledInputs)
    let clocks' := slice.attended (List.replicate 80 Slice.enabledInputs)
    7 ≤ ((Core.Hosted.device .default).steps [] core clocks).length ∧
      7 ≤ (Slice.Attached.device.steps [] slice clocks').length ∧
      CoresAgree core clocks slice clocks' := by
  intro start start' core slice clocks clocks'
  refine ⟨by decide +kernel, by decide +kernel, ?_⟩
  refine cores_agree transferCore { Core.restingInputs with initializeRequest := true } rfl
    transferSlice { Slice.enabledInputs with initializeI := true } (Or.inl rfl) rfl _ ?_
    (Core.harmless_of_words (by decide +kernel) _) _ ?_
  · exact Core.Hosted.admits_repeated _ ⟨rfl, rfl, rfl⟩ 16
  · exact Slice.Attached.admits_repeated _ _ ⟨rfl, rfl, rfl⟩ 80

end Tms32010.Rtl
