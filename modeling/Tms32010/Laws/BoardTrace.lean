import Tms32010.Laws.BoardRuns
import Tms32010.Laws.BoardTransfers
import Tms32010.Rtl.Transfers

/-!
# The board transfers what the model does

What the processor of the board stores into program memory and moves through its ports is,
in order, what the calls of the reference model it shows do. Where every access of a port
is answered, the targets of the ports receive exactly these words.
-/

namespace Tms32010.Rtl.Slice

open Isa (BusCycle)
open Model (StepTrace Tms32010Model trajectory embed)

/-! ## Transfers of the calls -/

/-- The stores into program memory and the port words of a call. -/
def callTransfers (call : StepTrace × Tms32010Model) : List BusCycle :=
  (call.1.busCycles.map Prod.snd).filter BusCycle.transfers

/-- A call that matches a transition transfers what the transition does. -/
theorem callTransfers_eq {made : Isa.Input × Isa.Outcome} {call : StepTrace × Tms32010Model}
    (matched : Model.CallMatches made call) :
    callTransfers call = made.2.bus.filter BusCycle.transfers := by
  have bus (start : ℕ) (cycles : List BusCycle) :
      (Model.stamped start cycles).map Prod.snd = cycles := by
    unfold Model.stamped
    apply List.ext_getElem?
    intro k
    simp
  unfold callTransfers
  rw [matched.bus, bus]

/-- Steps that make the transfers of their calls make them in one list. -/
theorem flatMap_callTransfers {σ : Type} {steps : List (List (Cycle × Option BusCycle) × σ)}
    {calls : List (StepTrace × Tms32010Model)}
    (shows : List.Forall₂ (fun step call => step.1.filterMap Prod.snd = callTransfers call)
      steps calls) :
    (steps.map Prod.fst).flatten.filterMap Prod.snd = calls.flatMap callTransfers := by
  induction shows with
  | nil => rfl
  | cons first _ ih =>
      rw [List.map_cons, List.flatten_cons, List.filterMap_append, first, ih, List.flatMap_cons]

/-- The transfers of a run between two steps are those of the successive calls of the
reference model, and at most one of the call underway. -/
theorem Lockstep.transfers {a : Isa.State} {σ : Attached} (lock : Lockstep True a σ [])
    {clocks : List Inputs} (runs : Attached.device.Admits (Attached.Runs True) σ clocks)
    (pins : Isa.Input) :
    ∃ calls begun, trajectory (embed pins a)
        ((Attached.device.steps [] σ clocks).map fun step => stepPins step.1) = .ok calls ∧
      σ.transfers clocks = calls.flatMap callTransfers ++ begun ∧ begun.length ≤ 1 := by
  have start : Lockstep True a σ (([] : List (Cycle × Option BusCycle)).map Prod.fst) ∧
      Owes a [] := ⟨lock, rfl⟩
  have admits := Attached.device.admits_observing (fun σ i => transfer? σ.slice i) runs
  rcases Attached.observed_simulates.follows start admits with ⟨b, follows, last, owes⟩
  have sound (a : Isa.State) (made : List (Cycle × Option BusCycle)) (b : Isa.State)
      (takes : (True → Takes a (made.map Prod.fst) b) ∧ Owes a made) :
      ∃ outcome, Isa.step (stepPins (made.map Prod.fst)) a = .ok outcome ∧ outcome.state = b ∧
        made.filterMap Prod.snd = outcome.bus.filter BusCycle.transfers := by
    rcases takes.1 trivial with ⟨outcome, step, state, cycles, -⟩
    refine ⟨outcome, step, state, ?_⟩
    rw [takes.2.transfers]
    symm
    apply Isa.step_transfers step
    · exact cycles.trans (List.length_map _).symm
    · intro port
      rfl
  rcases matches_of_follows sound follows pins with ⟨calls, ran, shows, -⟩
  have steps := Attached.device.steps_observing (fun σ i => transfer? σ.slice i) [] σ clocks
  refine ⟨calls, (Attached.observed.rest [] σ clocks).filterMap Prod.snd, ?_, ?_, ?_⟩
  · rw [← ran]
    congr 1
    have mapped := congrArg (List.map fun step => stepPins step.1) steps
    rw [List.map_map] at mapped
    exact mapped.symm
  · have all := Attached.observed.cycles_eq [] σ clocks
    rw [List.nil_append] at all
    rw [Attached.transfers_eq, all, List.filterMap_append]
    congr 1
    apply flatMap_callTransfers
    refine shows.imp ?_
    rintro step call ⟨outcome, -, matched, made⟩
    exact made.trans (callTransfers_eq matched).symm
  · rw [owes.transfers]
    exact Isa.transfersOf_length _ _

end Tms32010.Rtl.Slice

namespace Tms32010.Rtl

/-! ## Accepted requests -/

/-- The bus cycle of an accepted request that is no read of program memory, with the word
of the ports. -/
def Request.transfer? (input : BitVec 16) : Request → Option Isa.BusCycle
  | .programRead _ => none
  | .programWrite address data => some (.programWrite address data)
  | .ioRead port => some (.ioRead port input)
  | .ioWrite port data => some (.ioWrite port data)

namespace Mister

/-- The wrapper accepts what its slice transfers. -/
theorem accepted_transfer (s : State) (i : Inputs) :
    (accepted s i).bind (Request.transfer? i.ioReadData) =
      Slice.transfer? s.pipeline (sliceInputs s i) := by
  rcases Bool.eq_false_or_eq_true (Slice.fetchBoundary s.pipeline (sliceInputs s i)) with
    fetch | quiet
  · unfold Slice.transfer?
    rw [accepted_of_fetch fetch, if_pos fetch]
    split_ifs <;> rfl
  · unfold Slice.transfer?
    rw [quiet, if_neg Bool.false_ne_true]
    cases taken : accepted s i with
    | none => rfl
    | some request =>
        rcases accepted_quiet quiet taken with ⟨address, rfl⟩
        rfl

/-- The transfers of the slice are those the wrapper accepts. -/
theorem Hosted.transfers_sliceClocks (start : Hosted) (inputs : ℕ → Inputs) (first count : ℕ) :
    (stateAt start inputs first).slice.transfers (sliceClocks start inputs first count) =
      (List.range' first count).filterMap fun clock =>
        (accepted (stateAt start inputs clock).wrapper (inputs clock)).bind
          (Request.transfer? (inputs clock).ioReadData) := by
  induction count generalizing first with
  | zero => rfl
  | succ count ih =>
      have next := ih (first + 1)
      rw [stateAt_succ, step_slice] at next
      have here : Slice.transfer? (stateAt start inputs first).slice.slice
          (sliceInputs (stateAt start inputs first).wrapper (inputs first)) = _ :=
        (accepted_transfer _ _).symm
      rw [sliceClocks_succ, Slice.Attached.transfers, here, next, List.range'_succ,
        List.filterMap_cons]
      cases (accepted (stateAt start inputs first).wrapper (inputs first)).bind
        (Request.transfer? (inputs first).ioReadData) <;> rfl

end Mister

end Tms32010.Rtl

namespace Tms32010.Board.SoundMister

open Tms32010.Rtl Timeline
open Isa (BusCycle)
open Model (trajectory embed)

section Run

variable (start : State) (inputs : ℕ → Inputs)

/-! ## Transfers of the board -/

/-- What the processor stores into program memory or moves through a port in a clock. -/
def transferredAt (clock : ℕ) : Option BusCycle :=
  (acceptedAt start inputs clock).bind
    (Request.transfer? (processorInputsAt start inputs clock).ioReadData)

/-- The transfers of `count` clocks. -/
def transfersFrom (first count : ℕ) : List BusCycle :=
  (List.range' first count).filterMap (transferredAt start inputs)

/-- The access of a port that a bus cycle is. -/
def portAccess? : BusCycle → Option PortAccess
  | .ioRead port _ => some (.read port)
  | .ioWrite port data => some (.write port data)
  | .programRead .. => none
  | .programWrite .. => none

/-- Every access of a port is answered in the clock that passes it. -/
def Answered (first count : ℕ) : Prop :=
  ∀ clock access, first ≤ clock → clock < first + count →
    passedAt start inputs clock = some access →
      Answers (stateAt start inputs clock) (inputs clock) access

/-- The host makes no direct access of a port. -/
def Unshared (first count : ℕ) : Prop :=
  ∀ clock, first ≤ clock → clock < first + count →
    hostCommitted? (stateAt start inputs clock) (inputs clock) = none

/-- What the board transfers after the release is what the reference model does. -/
structure TransfersModel (last count : ℕ) : Prop where
  /-- The calls of `RunsModel` make the transfers, all but one that may be underway. -/
  follows : ∀ pins,
    ∃ calls begun, trajectory (embed pins (architectureAt start inputs (last + 1) 0))
        ((Slice.Attached.device.steps [] (hostedAt start inputs (last + 1)).slice
          (sliceClocks start inputs (last + 1) count)).map fun step => Slice.stepPins step.1) =
        .ok calls ∧
      transfersFrom start inputs (last + 1) count =
        calls.flatMap Slice.callTransfers ++ begun ∧ begun.length ≤ 1
  /-- The board commits the accesses of the ports among them. -/
  commits : Answered start inputs (last + 1) count →
    (List.range' (last + 1) count).filterMap (committedAt start inputs) =
      (transfersFrom start inputs (last + 1) count).filterMap portAccess?
  /-- The targets of the ports hold what the accesses leave. -/
  holds : Answered start inputs (last + 1) count → Unshared start inputs (last + 1) count →
    consumersAt start inputs (last + 1 + count) =
      ((transfersFrom start inputs (last + 1) count).filterMap portAccess?).foldl
        Consumers.transfer (consumersAt start inputs (last + 1))

variable {start inputs} {last count : ℕ}

/-- The processor passes the accesses of the ports among its transfers. -/
theorem passedAt_eq {clock : ℕ}
    (high : StoresHigh (stateAt start inputs clock) (inputs clock)) :
    passedAt start inputs clock = (transferredAt start inputs clock).bind portAccess? := by
  change (acceptedAt start inputs clock).bind access? = _
  unfold transferredAt
  cases taken : acceptedAt start inputs clock with
  | none => rfl
  | some request =>
      cases request with
      | programWrite address data =>
          have apart := (portRegion_iff address).mpr (high address data taken)
          change (if portRegion address then _ else none) = none
          rw [apart, if_neg Bool.false_ne_true]
      | programRead | ioRead | ioWrite => rfl

/-- An answered access is the one the board commits. -/
theorem committedAt_eq {clock : ℕ}
    (answered : ∀ access, passedAt start inputs clock = some access →
      Answers (stateAt start inputs clock) (inputs clock) access) :
    committedAt start inputs clock = passedAt start inputs clock := by
  cases passed : passedAt start inputs clock with
  | none =>
      by_contra commits
      rcases Option.ne_none_iff_exists'.mp commits with ⟨access, committed⟩
      cases passed.symm.trans (passed_of_committed committed)
  | some access => exact (committed_iff passed).mpr (answered access passed)

/-- A clock leaves at the targets what its commit does. -/
theorem consumersAt_succ {clock : ℕ} (running : resetAt start inputs clock = false)
    (quiet : hostCommitted? (stateAt start inputs clock) (inputs clock) = none) :
    consumersAt start inputs (clock + 1) =
      (consumersAt start inputs clock).transfer? (committedAt start inputs clock) := by
  cases commits : committedAt start inputs clock with
  | some access => exact consumers_of_committed commits
  | none =>
      have selected := selected_of_running (Mister.running_iff.mpr running)
      apply consumers_quiet selected.1 selected.2 _ quiet
      by_contra commit
      rw [Bool.not_eq_false] at commit
      have shown := commit
      rw [ioCommit_eq, Bool.and_eq_true] at shown
      unfold committedAt committed? at commits
      rw [if_pos commit] at commits
      exact absurd shown.2 (by rw [commits]; decide)

/-- The transfers of the released board are those of its slice. -/
theorem Released.transfers (released : Released start inputs last count) :
    (hostedAt start inputs (last + 1)).slice.transfers (sliceClocks start inputs (last + 1) count) =
      transfersFrom start inputs (last + 1) count := by
  have all := Mister.Hosted.transfers_sliceClocks (hostedAt start inputs (last + 1))
    (fun clock => processorInputsAt start inputs (last + 1 + clock)) 0 count
  refine all.trans ?_
  unfold transfersFrom
  rw [List.range'_eq_map_range, List.range'_eq_map_range, List.filterMap_map, List.filterMap_map]
  apply List.filterMap_congr
  intro clock among
  have inside := List.mem_range.mp among
  dsimp only [Function.comp]
  rw [Nat.zero_add, hostedAt_eq released (Nat.le_of_lt inside)]
  rfl

/-- The targets hold what the commits of a run leave. -/
theorem Released.consumers (released : Released start inputs last count)
    (unshared : Unshared start inputs (last + 1) count) :
    consumersAt start inputs (last + 1 + count) =
      ((List.range' (last + 1) count).filterMap (committedAt start inputs)).foldl
        Consumers.transfer (consumersAt start inputs (last + 1)) := by
  have upto (clocks : ℕ) (within : clocks ≤ count) :
      consumersAt start inputs (last + 1 + clocks) =
        ((List.range' (last + 1) clocks).filterMap (committedAt start inputs)).foldl
          Consumers.transfer (consumersAt start inputs (last + 1)) := by
    induction clocks with
    | zero => rfl
    | succ clocks ih =>
        have running := released.running (last + 1 + clocks) (by omega) (by omega)
        have quiet := unshared (last + 1 + clocks) (by omega) (by omega)
        have next := consumersAt_succ running quiet
        rw [List.range'_concat, Nat.one_mul, List.filterMap_append, List.foldl_append,
          ← ih (by omega), List.filterMap_cons, List.filterMap_nil]
        refine next.trans ?_
        cases committedAt start inputs (last + 1 + clocks) <;> rfl
  exact upto count (Nat.le_refl count)

/-- What the processor of the board transfers after the release of its reset is what the
calls of the reference model do, and the targets of its ports receive it. -/
theorem board_transfers_model (start : State) (inputs : ℕ → Inputs) (last count : ℕ)
    (initialized : (inputs 0).initializeI = true) (released : Released start inputs last count) :
    TransfersModel start inputs last count := by
  have commits (answered : Answered start inputs (last + 1) count) :
      (List.range' (last + 1) count).filterMap (committedAt start inputs) =
        (transfersFrom start inputs (last + 1) count).filterMap portAccess? := by
    unfold transfersFrom
    rw [List.filterMap_filterMap]
    apply List.filterMap_congr
    intro clock among
    rcases List.mem_range'_1.mp among with ⟨after, before⟩
    rw [committedAt_eq fun access passed => answered clock access after before passed,
      passedAt_eq (released.high clock (by omega) (by omega))]
  refine ⟨?_, commits, ?_⟩
  · intro pins
    rcases released.lockstep.1.transfers (released.admits initialized) pins with
      ⟨calls, begun, ran, transfers, few⟩
    rw [released.transfers] at transfers
    exact ⟨calls, begun, ran, transfers, few⟩
  · intro answered unshared
    rw [← commits answered]
    exact released.consumers unshared

/-- A board whose program gives a word to port 3 and then goes on. -/
def outBoard : State := clearState outProgram fun _ => 0

/-- The reset of the board is over after clock 20. -/
theorem outBoard_released : Released outBoard bootInputs 20 60 := by
  have running : ∀ clock < 81, 20 < clock → resetAt outBoard bootInputs clock = false := by
    decide +kernel
  have ports : ∀ clock < 81, 20 < clock →
      (transferredAt outBoard bootInputs clock).all (fun cycle => (portAccess? cycle).isSome) =
        true := by
    decide +kernel
  refine ⟨?_, by decide +kernel, running 21 (by decide) (by decide), ?_, ?_, ?_⟩
  · intro clock selected
    have absent : true = false := selected
    exact absurd absent (by decide)
  · intro clock after before
    exact running clock (by omega) after
  · intro clock _ _
    rfl
  · intro clock after before address word taken
    have moved := ports clock (by omega) after
    have stores : acceptedAt outBoard bootInputs clock = some (.programWrite address word) := taken
    unfold transferredAt at moved
    rw [stores] at moved
    exact absurd moved Bool.false_ne_true

theorem board_transfers_model_out : TransfersModel outBoard bootInputs 20 60 :=
  board_transfers_model outBoard bootInputs 20 60 rfl outBoard_released

end Run

end Tms32010.Board.SoundMister
