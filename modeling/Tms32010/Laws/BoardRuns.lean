import Tms32010.Laws.PipelineRuns
import Tms32010.Laws.ProgramStore
import Tms32010.Laws.Restart

/-!
# The board runs its program

From the release of the DSP reset on, the processor of the board with its program RAM is a
wrapper with a memory that answers it. Its completed steps are therefore successive calls
of the reference model on the words the host has stored.
-/

namespace Tms32010.Board.SoundMister

open Tms32010.Rtl Timeline
open Model (trajectory embed)

/-! ## The processor with its memory -/

section Memory

variable {s : State} {i : Inputs}

/-- No table write below address 8 is passed: on the board those are accesses of ports. -/
def StoresHigh (s : State) (i : Inputs) : Prop :=
  ∀ address word, Mister.accepted s.processor (processorInputs s i) =
    some (.programWrite address word) → 8 ≤ address.toNat

/-- The wrapper of the board, with the program RAM and latches for its ports. -/
def hosted (s : State) (ioOutput : BitVec 3 → BitVec 16) : Mister.Hosted :=
  ⟨s.processor, s.programRam.programRam, ioOutput⟩

/-- A clock of a running processor is one of the wrapper with its memory. -/
theorem hosted_step (disciplined : Disciplined s i)
    (running : Mister.Running s.processor (processorInputs s i)) (high : StoresHigh s i)
    (ioOutput : BitVec 3 → BitVec 16) :
    (hosted s ioOutput).step (processorInputs s i) =
      hosted (step s i) ((hosted s ioOutput).step (processorInputs s i)).ioOutput := by
  have program : ((hosted s ioOutput).step (processorInputs s i)).program =
      (step s i).programRam.programRam := by
    rw [programRam_step disciplined]
    unfold store? tableStore?
    rw [hostStore?_running running, Option.none_or]
    unfold Mister.Hosted.step hosted
    dsimp only
    cases taken : Mister.accepted s.processor (processorInputs s i) with
    | none => rfl
    | some request =>
        cases request with
        | programWrite address word =>
            dsimp only
            rw [if_pos (high address word taken), stored_some]
        | programRead | ioRead | ioWrite => rfl
  change Mister.Hosted.mk _ ((hosted s ioOutput).step (processorInputs s i)).program _ = _
  rw [program]
  rfl

end Memory

/-! ## Runs -/

section Run

variable (start : State) (inputs : ℕ → Inputs)

/-- The word an output port is given in a clock. -/
def outputAt? (clock : ℕ) : Option (BitVec 3 × BitVec 16) :=
  match acceptedAt start inputs clock with
  | some (.ioWrite port data) => some (port, data)
  | _ => none

/-- The last word of each output port before a clock. -/
def outputsAt : ℕ → BitVec 3 → BitVec 16
  | 0 => fun _ => 0
  | clock + 1 => stored (outputsAt clock) (outputAt? start inputs clock)

/-- The processor with its memory and its ports before a clock. -/
def hostedAt (clock : ℕ) : Mister.Hosted :=
  hosted (stateAt start inputs clock) (outputsAt start inputs clock)

/-- What a program of the board can tell of its state after `cycles` machine cycles. -/
def architectureAt (clock cycles : ℕ) : Isa.State :=
  (hostedAt start inputs clock).slice.architecture cycles

/-- The clocks of the slice from a clock on. -/
def sliceClocks (first count : ℕ) : List Slice.Inputs :=
  (hostedAt start inputs first).sliceClocks (fun clock => processorInputsAt start inputs
    (first + clock)) 0 count

/-- A step completed in the `place`-th clock shows the board after the call. -/
structure ShowsBoard (first count place : ℕ) (step : List Slice.Cycle × Slice.Attached)
    (call : Model.StepTrace × Model.Tms32010Model) : Prop where
  within : place < count
  state : call.2 = embed (Slice.stepPins step.1)
    (architectureAt start inputs (first + place + 1) call.2.cycleCount)
  cycles : call.1.cycles = step.1.length
  plain : ¬Slice.usesStackAccess call.1

/-- The DSP reset is released after `last`, and the processor runs for `count` clocks in
which nothing but it changes its memories. -/
structure Released (last count : ℕ) : Prop where
  disciplined : ∀ clock, Disciplined (stateAt start inputs clock) (inputs clock)
  active : resetAt start inputs last = true
  released : resetAt start inputs (last + 1) = false
  running : ∀ clock, last < clock → clock ≤ last + count → resetAt start inputs clock = false
  noDebug : ∀ clock, last < clock → clock ≤ last + count → (inputs clock).debugDataWrite = false
  high : ∀ clock, last < clock → clock ≤ last + count →
    StoresHigh (stateAt start inputs clock) (inputs clock)

/-- The run after the release is one of the reference model. -/
structure RunsModel (last count : ℕ) : Prop where
  /-- The program is the initial one with the words stored until the release. -/
  loaded : (architectureAt start inputs (last + 1) 0).program =
    ((List.range (last + 1)).map (storeAt start inputs)).foldl stored start.programRam.programRam
  follows : ∀ pins,
    let origin := embed pins (architectureAt start inputs (last + 1) 0)
    let clocks := sliceClocks start inputs (last + 1) count
    let steps := Slice.Attached.device.steps [] (hostedAt start inputs (last + 1)).slice clocks
    origin = Model.resetAtInstructionBoundary origin ∧
      ∃ calls, trajectory origin (steps.map fun step => Slice.stepPins step.1) = .ok calls ∧
        (∃ places : List ℕ, places.Pairwise (· < ·) ∧ places.length = steps.length ∧
          List.Forall₂ (fun shown call => ShowsBoard start inputs (last + 1) count shown.1
            shown.2 call) (places.zip steps) calls) ∧
        (Slice.GoesOn (Slice.lastModel origin calls) →
          clocks.countP Slice.Inputs.clockEnable ≤ 24 + 16 * steps.length)

variable {start inputs}

theorem hostedAt_succ {clock : ℕ}
    (disciplined : Disciplined (stateAt start inputs clock) (inputs clock))
    (running : resetAt start inputs clock = false)
    (high : StoresHigh (stateAt start inputs clock) (inputs clock)) :
    (hostedAt start inputs clock).step (processorInputsAt start inputs clock) =
      hostedAt start inputs (clock + 1) := by
  have step := hosted_step disciplined (Mister.running_iff.mpr running) high
    (outputsAt start inputs clock)
  have outputs : ((hostedAt start inputs clock).step
      (processorInputsAt start inputs clock)).ioOutput = outputsAt start inputs (clock + 1) := by
    change (match acceptedAt start inputs clock with
      | some (.ioWrite port data) => Function.update (outputsAt start inputs clock) port data
      | _ => outputsAt start inputs clock) =
        stored (outputsAt start inputs clock) (outputAt? start inputs clock)
    unfold outputAt?
    cases acceptedAt start inputs clock with
    | none => rfl
    | some request => cases request <;> rfl
  refine step.trans ?_
  change hosted (stateAt start inputs (clock + 1)) ((hostedAt start inputs clock).step
    (processorInputsAt start inputs clock)).ioOutput = _
  rw [outputs]
  rfl

variable {last count : ℕ}

/-- The wrapper with its memory runs through the states of the board. -/
theorem hostedAt_eq (released : Released start inputs last count) {clock : ℕ}
    (within : clock ≤ count) :
    (hostedAt start inputs (last + 1)).stateAt (fun clock => processorInputsAt start inputs
      (last + 1 + clock)) clock = hostedAt start inputs (last + 1 + clock) := by
  induction clock with
  | zero => rfl
  | succ clock ih =>
      have after : last < last + 1 + clock := by omega
      have before : last + 1 + clock ≤ last + count := by omega
      rw [Mister.Hosted.stateAt_succ, ih (by omega)]
      exact hostedAt_succ (released.disciplined _) (released.running _ after before)
        (released.high _ after before)

/-- A word the running processor samples is the one in the RAM. -/
theorem served_of_running (initialized : (inputs 0).initializeI = true)
    (disciplined : ∀ clock, Disciplined (stateAt start inputs clock) (inputs clock)) {clock : ℕ}
    (later : 0 < clock) (inactive : resetAt start inputs clock = false) :
    (hostedAt start inputs clock).Served (processorInputsAt start inputs clock) := by
  intro address taken
  rcases Mister.accepted_iff.mp taken with ⟨ends, shown⟩
  rcases response_sampled initialized disciplined later inactive ends shown with ⟨valid, tms⟩
  have word := coherent initialized later valid tms (phase_of_ends ends)
  rw [← address_of_read shown] at word
  exact word

/-- The clocks after the release are clocks of a wrapper outside reset that is answered. -/
theorem Released.runs (released : Released start inputs last count)
    (initialized : (inputs 0).initializeI = true) {clock : ℕ} (within : clock < count) :
    (hostedAt start inputs (last + 1 + clock)).Runs
      (processorInputsAt start inputs (last + 1 + clock)) := by
  have after : last < last + 1 + clock := by omega
  have before : last + 1 + clock ≤ last + count := by omega
  have inactive := released.running _ after before
  exact ⟨inactive, released.noDebug _ after before,
    served_of_running initialized released.disciplined (by omega) inactive⟩

/-- The release leaves the processor in lock step with a machine that was just reset. -/
theorem Released.lockstep (released : Released start inputs last count) :
    Slice.Lockstep True (architectureAt start inputs (last + 1) 0)
        (hostedAt start inputs (last + 1)).slice [] ∧
      Slice.resetState (architectureAt start inputs (last + 1) 0) =
        architectureAt start inputs (last + 1) 0 := by
  let σ : Mister.Hosted := ⟨(stateAt start inputs last).processor,
    programAt start inputs (last + 1), outputsAt start inputs last⟩
  have quiet (request : Request) (taken : acceptedAt start inputs last = some request) :
      ∃ address, request = .programRead address := Mister.accepted_reset released.active taken
  have step : σ.step (processorInputsAt start inputs last) = hostedAt start inputs (last + 1) := by
    have outputs : outputsAt start inputs (last + 1) = outputsAt start inputs last := by
      change stored (outputsAt start inputs last) (outputAt? start inputs last) = _
      unfold outputAt?
      cases taken : acceptedAt start inputs last with
      | none => rfl
      | some request =>
          rcases quiet request taken with ⟨address, rfl⟩
          rfl
    unfold hostedAt hosted
    rw [outputs]
    unfold Mister.Hosted.step
    cases taken : Mister.accepted σ.wrapper (processorInputsAt start inputs last) with
    | none => rfl
    | some request =>
        rcases quiet request taken with ⟨address, rfl⟩
        rfl
  have ends : Mister.endsCycle σ.wrapper (processorInputsAt start inputs last) = true :=
    Mister.endsCycle_of_released released.active released.released
  have restarts : σ.slice.Restarts (Mister.sliceInputs σ.wrapper
      (processorInputsAt start inputs last)) := by
    refine Or.inr ⟨?_, released.active⟩
    rw [← ends]
    exact Mister.pipelineBoundary_endsCycle
  have lock : Slice.Lockstep True _ _ _ := Slice.Lockstep.restarted restarts 0
  have origin := Slice.architecture_restart restarts
  rw [← Mister.Hosted.step_slice, step] at lock origin
  exact ⟨lock, origin⟩

/-- The slice after the first clocks since the release is the one of the board. -/
theorem Released.run_take (released : Released start inputs last count) {place : ℕ}
    (within : place < count) :
    Slice.Attached.device.run (hostedAt start inputs (last + 1)).slice
        ((sliceClocks start inputs (last + 1) count).take (place + 1)) =
      (hostedAt start inputs (last + 1 + place + 1)).slice := by
  have prefixed : (sliceClocks start inputs (last + 1) count).take (place + 1) =
      sliceClocks start inputs (last + 1) (place + 1) := by
    unfold sliceClocks Mister.Hosted.sliceClocks
    rw [← List.map_take, List.take_range'_of_length_ge within]
  have ran := Mister.Hosted.run_sliceClocks (hostedAt start inputs (last + 1))
    (fun clock => processorInputsAt start inputs (last + 1 + clock)) 0 (place + 1)
  have reached := hostedAt_eq released (Nat.succ_le_of_lt within)
  rw [Nat.zero_add] at ran
  rw [reached] at ran
  rw [prefixed]
  exact ran

/-- The clocks after the release are clocks of the running slice. -/
theorem Released.admits (released : Released start inputs last count)
    (initialized : (inputs 0).initializeI = true) :
    Slice.Attached.device.Admits (Slice.Attached.Runs True)
      (hostedAt start inputs (last + 1)).slice (sliceClocks start inputs (last + 1) count) := by
  let σ := hostedAt start inputs (last + 1)
  let wires := fun clock => processorInputsAt start inputs (last + 1 + clock)
  change Slice.Attached.device.Admits (Slice.Attached.Runs True) (σ.stateAt wires 0).slice
    (σ.sliceClocks wires 0 count)
  apply Mister.Hosted.admits_sliceClocks
  intro clock _ before
  rw [hostedAt_eq released (by omega)]
  exact released.runs initialized (by omega)

/-- The completed steps of the slice after the release are calls of the reference model. -/
theorem Released.calls (released : Released start inputs last count)
    (initialized : (inputs 0).initializeI = true) (pins : Isa.Input) :
    let origin := embed pins (architectureAt start inputs (last + 1) 0)
    let clocks := sliceClocks start inputs (last + 1) count
    let steps := Slice.Attached.device.steps [] (hostedAt start inputs (last + 1)).slice clocks
    ∃ calls, trajectory origin (steps.map fun step => Slice.stepPins step.1) = .ok calls ∧
      List.Forall₂ Slice.ShowsCall steps calls ∧
      (Slice.GoesOn (Slice.lastModel origin calls) →
        clocks.countP Slice.Inputs.clockEnable ≤ 24 + 16 * steps.length) := by
  intro origin clocks steps
  exact released.lockstep.1.calls (released.admits initialized) pins

/-- The run after the release is one of the reference model. -/
theorem Released.runsModel (released : Released start inputs last count)
    (initialized : (inputs 0).initializeI = true) : RunsModel start inputs last count := by
  have takes : Takes (programAt start inputs) (storeAt start inputs) :=
    fun clock => programRam_step (released.disciplined clock)
  refine ⟨takes.fold, ?_⟩
  intro pins origin clocks steps
  rcases released.calls initialized pins with ⟨calls, ran, shows, pace⟩
  rcases Slice.Attached.device.steps_places [] (hostedAt start inputs (last + 1)).slice clocks with
    ⟨places, sorted, placed⟩
  refine ⟨?_, calls, ran, ⟨places, sorted, placed.length_eq, ?_⟩, pace⟩
  · have same := Slice.resetAtInstructionBoundary_embed pins
      (architectureAt start inputs (last + 1) 0)
    rw [released.lockstep.2] at same
    exact same.symm
  have length : clocks.length = count := by simp [clocks, sliceClocks, Mister.Hosted.sliceClocks]
  refine (Clocked.forall₂_zip placed shows).imp ?_
  rintro ⟨place, step⟩ call ⟨⟨inside, state⟩, shown⟩
  rw [length] at inside
  refine ⟨inside, ?_, shown.cycles, shown.plain⟩
  rw [released.run_take inside] at state
  have made := shown.state
  rw [state] at made
  exact made

/-- After the release of its reset the processor of the board runs the stored program as the
reference model does. -/
theorem board_runs_model (start : State) (inputs : ℕ → Inputs) (last count : ℕ)
    (initialized : (inputs 0).initializeI = true) (released : Released start inputs last count) :
    RunsModel start inputs last count :=
  released.runsModel initialized

/-- A board that is initialized in its first clock and runs on. -/
def bootInputs (clock : ℕ) : Inputs :=
  { enabledInputs with
    initializeI := clock == 0
    useHostTiming := false }

/-- The board runs on, and its other ports answer in some clocks. -/
def portInputs (answers : ℕ → Bool) (clock : ℕ) : Inputs :=
  { bootInputs clock with ioReady := answers clock }

/-- A board whose program calls a routine with transfers. -/
def transferBoard : State := clearState Slice.transferProgram fun _ => 0

theorem portInputs_disciplined (board : State) (answers : ℕ → Bool) (clock : ℕ) :
    Disciplined (stateAt board (portInputs answers) clock) (portInputs answers clock) := by
  intro selected
  have absent : true = false := selected
  exact absurd absent (by decide)

/-- A request is no table write below address 8. -/
def avoidsPorts : Request → Bool
  | .programWrite address _ => 8 ≤ address.toNat
  | _ => true

/-- The checks of a run whose reset is over after clock 20. -/
theorem transferBoard_released {answers : ℕ → Bool}
    (active : resetAt transferBoard (portInputs answers) 20 = true)
    (running : ∀ clock < 121, 20 < clock →
      resetAt transferBoard (portInputs answers) clock = false)
    (high : ∀ clock < 121, 20 < clock →
      (acceptedAt transferBoard (portInputs answers) clock).all avoidsPorts = true) :
    Released transferBoard (portInputs answers) 20 100 where
  disciplined := portInputs_disciplined transferBoard answers
  active := active
  released := running 21 (by decide) (by decide)
  running clock after before := running clock (by omega) after
  noDebug _ _ _ := rfl
  high clock after before address word taken := by
    have checked := high clock (by omega) after
    have stores : acceptedAt transferBoard (portInputs answers) clock =
        some (.programWrite address word) := taken
    rw [stores] at checked
    exact of_decide_eq_true checked

/-- The port is not ready before clock 70. -/
def waitingInputs : ℕ → Inputs := portInputs fun clock => 70 ≤ clock

theorem waitingInputs_released : Released transferBoard waitingInputs 20 100 :=
  transferBoard_released (by decide +kernel) (by decide +kernel) (by decide +kernel)

/-- The processor is held for its port and completes its seven instructions. -/
theorem board_runs_model_transfers :
    (stateAt transferBoard waitingInputs 65).processor.memoryWait = true ∧
      7 ≤ (Slice.Attached.device.steps [] (hostedAt transferBoard waitingInputs 21).slice
        (sliceClocks transferBoard waitingInputs 21 100)).length ∧
      RunsModel transferBoard waitingInputs 20 100 :=
  ⟨by decide +kernel, by decide +kernel,
    board_runs_model transferBoard waitingInputs 20 100 rfl waitingInputs_released⟩

end Run

end Tms32010.Board.SoundMister
