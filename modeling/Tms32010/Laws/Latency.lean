import Tms32010.Lib.Stutter
import Tms32010.Laws.CallbackHandshake
import Tms32010.Rtl.CycleView
import Tms32010.Rtl.MisterRun

/-!
# Latency independence

The wrapper in an environment that answers every request by what was accepted before it.
Clock pauses and ready latencies lie between the ends of the machine cycles, and what a
machine cycle makes of the state it holds does not see them: every such run follows the
orbit of one map, so two runs make the same transactions and the same retirements.
-/

namespace Tms32010.Rtl.Mister

open Timeline

/-! ## Traces -/

/-- What a run shows: an accepted callback, or the state an instruction retires with. -/
inductive Event where
  | callback (request : Request)
  | retirement (registers : Registers) (data : DataRam)

/-- The callback of an event. -/
def Event.request? : Event → Option Request
  | .callback request => some request
  | .retirement _ _ => none

/-- The callbacks of a log. -/
def requests (log : List Event) : List Request := log.filterMap Event.request?

/-- The levels of the pins at the end of a machine cycle. -/
structure Levels where
  int : Bool
  bio : Bool

/-- What a machine cycle holds, after some machine cycles and their events. -/
structure Trace where
  view : Slice.State
  cycles : ℕ
  log : List Event

/-- The retirement a state shows. -/
def retirement (s : Slice.State) : List Event :=
  if s.core.retired then [.retirement s.core.toRegisters s.core.dataRam.memory] else []

/-- The events of a machine cycle: the callback it accepts and the retirement it ends with. -/
def cycleEvents (request : Option Request) (after : Slice.State) : List Event :=
  (request.map Event.callback).toList ++ retirement after

section Trace

variable (pins : ℕ → Levels) (respond : List Request → Request → BitVec 16)

/-- The word an environment answers after some events. -/
def answer (log : List Event) (request : Option Request) : BitVec 16 :=
  (request.map (respond (requests log))).getD 0

/-- One machine cycle. -/
def Trace.next (trace : Trace) : Trace :=
  let request := Slice.request? trace.view.loaded
  let levels := pins trace.cycles
  let after := Slice.step trace.view.loaded
    (Slice.answering levels.int levels.bio request (answer respond trace.log request))
  { view := after.view
    cycles := trace.cycles + 1
    log := trace.log ++ cycleEvents request after }

/-- The slice is parked. -/
def Trace.Parked (trace : Trace) : Prop := Slice.parked trace.view = true

end Trace

/-! ## Runs -/

section Run

variable (start : State) (inputs : ℕ → Inputs)

/-- The events of a clock. -/
def eventsAt (clock : ℕ) : List Event :=
  cycleEvents (accepted (stateAt start inputs clock) (inputs clock))
    (stateAt start inputs (clock + 1)).pipeline

/-- The events of the clocks after `last` and before `now`. -/
def logAt (last now : ℕ) : List Event :=
  (List.range' (last + 1) (now - (last + 1))).flatMap (eventsAt start inputs)

/-- The trace of the clocks after `last` and before `now`. -/
def traceAt (last now : ℕ) : Trace where
  view := (stateAt start inputs now).pipeline.view
  cycles := between (passes start inputs) last now
  log := logAt start inputs last now

/-- A run from a reset whose last clock is `last`, in an environment of given pins and
responses, with clock pauses and ready latencies of any finite length. -/
structure Attended (pins : ℕ → Levels) (respond : List Request → Request → BitVec 16)
    (last : ℕ) : Prop extends Session start inputs where
  active : ∀ clock, clock ≤ last → resetAt start inputs clock = true
  running : ∀ clock, last < clock → resetAt start inputs clock = false
  levels : ∀ clock, last < clock → passes start inputs clock = true →
    Levels.mk (inputs clock).int (inputs clock).bio =
      pins (between (passes start inputs) last clock)
  answers : ∀ clock request, last < clock → callbackAt start inputs clock = some request →
    ready (inputs clock) request = true →
      (sliceInputs (stateAt start inputs clock) (inputs clock)).Answers
        (respond (requests (logAt start inputs last clock)) request) request
  enabled : ∀ clock, ∃ later, clock ≤ later ∧ (inputs later).clockEnable = true
  responsive : ∀ clock request, callbackAt start inputs clock = some request →
    ∃ later, clock ≤ later ∧ (callbackAt start inputs later = some request →
      ready (inputs later) request = true)

/-- A request is accepted once, while it is active. -/
def AcceptedOnce (last : ℕ) : Prop :=
  ∀ clock request, last < clock → callbackAt start inputs clock = some request →
    ∃ boundary, clock ≤ boundary ∧
      accepted (stateAt start inputs boundary) (inputs boundary) = some request ∧
      (∀ active, clock ≤ active → active ≤ boundary →
        callbackAt start inputs active = some request) ∧
      (∀ earlier, clock ≤ earlier → earlier < boundary →
        accepted (stateAt start inputs earlier) (inputs earlier) = none) ∧
      callbackAt start inputs (boundary + 1) = none

end Run

section Law

variable {start : State} {inputs : ℕ → Inputs} {last now : ℕ} {pins : ℕ → Levels}
  {respond : List Request → Request → BitVec 16}

theorem logAt_succ (later : last < now) : logAt start inputs last (now + 1) =
    logAt start inputs last now ++ eventsAt start inputs now := by
  have longer : now + 1 - (last + 1) = now - (last + 1) + 1 := by omega
  have index : last + 1 + (now - (last + 1)) = now := by omega
  unfold logAt
  rw [longer, List.range'_1_concat, List.flatMap_append, index, List.flatMap_singleton]

theorem passes_eq (clock : ℕ) : passes start inputs clock =
    endsCycle (stateAt start inputs clock) (inputs clock) :=
  rfl

/-- Alike states show the same retirement. -/
theorem retirement_alike {s other : Slice.State} (alike : Slice.Alike s other) :
    retirement s = retirement other := by
  have registers := congrArg (fun view : Slice.State => view.core.toRegisters) alike.view
  have memory := congrArg (fun view : Slice.State => view.core.dataRam.memory) alike.view
  change s.core.toRegisters = other.core.toRegisters at registers
  change s.core.dataRam.memory = other.core.dataRam.memory at memory
  unfold retirement
  rw [alike.retired, registers, memory]

/-! ## Stuttering -/

/-- A clock within a machine cycle shows nothing. -/
theorem eventsAt_within (inactive : resetAt start inputs now = false)
    (stops : passes start inputs now = false) : eventsAt start inputs now = [] := by
  have running := running_at inactive
  have none : accepted (stateAt start inputs now) (inputs now) = none := by
    unfold accepted
    rw [← passes_eq, stops, if_neg Bool.false_ne_true]
  have quiet : (stateAt start inputs (now + 1)).pipeline.core.retired = false := by
    rw [stateAt_succ, running.held stops]
    rfl
  unfold eventsAt cycleEvents retirement
  rw [none, quiet]
  rfl

/-- Between the ends of its machine cycles a run keeps its trace. -/
theorem Attended.keeps (attended : Attended start inputs pins respond last)
    (later : last < now) (stops : passes start inputs now = false) :
    traceAt start inputs last (now + 1) = traceAt start inputs last now := by
  have inactive := attended.running now later
  have running := running_at inactive
  have view : (step (stateAt start inputs now) (inputs now)).pipeline.view = _ :=
    Slice.view_within running.noInitialize (attended.noDebug now) stops
  unfold traceAt
  rw [between_succ later, stops, logAt_succ later, eventsAt_within inactive stops,
    List.append_nil, stateAt_succ, view]
  rfl

/-- At the end of a machine cycle a run takes the next trace. -/
theorem Attended.moves (attended : Attended start inputs pins respond last)
    (later : last < now) (boundary : passes start inputs now = true) :
    traceAt start inputs last (now + 1) =
      (traceAt start inputs last now).next pins respond := by
  have inactive := attended.running now later
  have running := running_at inactive
  have steady := steady attended.toSession (Nat.zero_lt_of_lt later)
  have ends := boundary
  unfold passes at ends
  rw [Bool.and_eq_true, beq_iff_eq] at ends
  have third : (stateAt start inputs now).pipeline.bus.phase = 3 := ends.2
  have started : phase (stateAt start inputs now) ≠ 0 := by
    rw [ends.2]
    decide
  have enabled : (sliceInputs (stateAt start inputs now) (inputs now)).clockEnable = true := by
    have advance := ends.1
    unfold phaseAdvance at advance
    rw [Bool.and_eq_true] at advance
    exact advance.1
  have shown : callbackAt start inputs now =
      Slice.request? (stateAt start inputs now).pipeline := running.callback?
  have taken : accepted (stateAt start inputs now) (inputs now) =
      Slice.request? (stateAt start inputs now).pipeline := by
    unfold accepted
    rw [← passes_eq, boundary, if_pos rfl]
    exact shown
  have answered : ∀ request, Slice.request? (stateAt start inputs now).pipeline = some request →
      (sliceInputs (stateAt start inputs now) (inputs now)).Answers
        (answer respond (logAt start inputs last now)
          (Slice.request? (stateAt start inputs now).pipeline)) request := by
    intro request here
    have asked : callbackAt start inputs now = some request := shown.trans here
    have granted := (callback_answered attended.toSession (Nat.zero_lt_of_lt later) inactive
      boundary asked).1
    rw [here]
    exact attended.answers now request later asked granted
  rcases Slice.step_view running.noInitialize running.noReset enabled (attended.noDebug now)
    third (steady.fresh started) answered with ⟨request, alike⟩
  have levels := attended.levels now later boundary
  have after : retirement (stateAt start inputs (now + 1)).pipeline = retirement
      (Slice.step (stateAt start inputs now).pipeline.view.loaded
        (Slice.answering (inputs now).int (inputs now).bio
          (Slice.request? (stateAt start inputs now).pipeline)
          (answer respond (logAt start inputs last now)
            (Slice.request? (stateAt start inputs now).pipeline)))) :=
    (retirement_alike alike).symm
  unfold traceAt Trace.next
  dsimp only
  rw [between_succ later, boundary, logAt_succ later, request, ← levels]
  unfold eventsAt cycleEvents
  rw [taken, after]
  exact congrArg (fun view => Trace.mk view _ _) alike.view.symm

/-- Outside reset the trace stutters. -/
theorem Attended.stutters (attended : Attended start inputs pins respond last) :
    Stutters (Trace.next pins respond) (traceAt start inputs last) (passes start inputs) last :=
  ⟨fun _ later stops => attended.keeps later stops,
    fun _ later boundary => attended.moves later boundary⟩

/-! ## Progress -/

/-- A clock advances the phase. -/
def advancesAt (start : State) (inputs : ℕ → Inputs) (clock : ℕ) : Bool :=
  phaseAdvance (stateAt start inputs clock) (inputs clock)

/-- There is no request in phase 0. -/
theorem callbackAt_first (inactive : resetAt start inputs now = false)
    (first : phase (stateAt start inputs now) = 0) : callbackAt start inputs now = none := by
  have silent : Slice.strobing (stateAt start inputs now).pipeline = false := by
    have zero : (stateAt start inputs now).pipeline.bus.phase = 0 := first
    unfold Slice.strobing
    rw [zero]
    exact Bool.and_false _
  have shown : callbackAt start inputs now = _ := (running_at inactive).callback?
  rw [shown]
  unfold Slice.request?
  rw [silent]
  rfl

/-- What a run keeps over a clock that does not advance the phase. -/
theorem Attended.still_step (attended : Attended start inputs pins respond last)
    (later : last < now) (still : advancesAt start inputs now = false) :
    phase (stateAt start inputs (now + 1)) = phase (stateAt start inputs now) ∧
      Slice.parked (stateAt start inputs (now + 1)).pipeline =
        Slice.parked (stateAt start inputs now).pipeline ∧
      callbackAt start inputs (now + 1) = callbackAt start inputs now := by
  have inactive := attended.running now later
  have inactive' := attended.running (now + 1) (Nat.lt_succ_of_lt later)
  have running := running_at inactive
  have still' : phaseAdvance (stateAt start inputs now) (inputs now) = false := still
  have stops : passes start inputs now = false := by
    unfold passes
    rw [still', Bool.false_and]
  have same : phase (stateAt start inputs (now + 1)) = phase (stateAt start inputs now) := by
    rw [stateAt_succ, phase_within running, still', if_neg Bool.false_ne_true]
  refine ⟨same, ?_, ?_⟩
  · rw [stateAt_succ, running.held stops]
    rfl
  · by_cases first : phase (stateAt start inputs now) = 0
    · rw [callbackAt_first inactive first, callbackAt_first inactive' (same.trans first)]
    · exact callbackAt_succ attended.toSession (Nat.zero_lt_of_lt later) inactive inactive' first
        stops

/-- What a run keeps while the phase does not advance. -/
theorem Attended.still (attended : Attended start inputs pins respond last)
    (later : last < now) {clock : ℕ} (after : now ≤ clock)
    (quiet : ∀ earlier, now ≤ earlier → earlier < clock →
      advancesAt start inputs earlier = false) :
    phase (stateAt start inputs clock) = phase (stateAt start inputs now) ∧
      Slice.parked (stateAt start inputs clock).pipeline =
        Slice.parked (stateAt start inputs now).pipeline ∧
      callbackAt start inputs clock = callbackAt start inputs now := by
  induction clock, after using Nat.le_induction with
  | base => exact ⟨rfl, rfl, rfl⟩
  | succ clock after ih =>
      rcases ih fun earlier begins before => quiet earlier begins (Nat.lt_succ_of_lt before) with
        ⟨phases, parked, callbacks⟩
      rcases attended.still_step (Nat.lt_of_lt_of_le later after)
        (quiet clock after (Nat.lt_succ_self clock)) with ⟨phases', parked', callbacks'⟩
      exact ⟨phases'.trans phases, parked'.trans parked, callbacks'.trans callbacks⟩

/-- After its ready a request that stays active is not held. -/
theorem Attended.unheld (attended : Attended start inputs pins respond last)
    (later : last < now) {request : Request}
    (shown : callbackAt start inputs now = some request)
    (answered : ready (inputs now) request = true) :
    (stateAt start inputs (now + 1)).memoryWait = false := by
  have running := running_at (attended.running now later)
  have here : callback? (stateAt start inputs now) (inputs now) = some request := shown
  have responds' : responds (stateAt start inputs now) (inputs now) = true := by
    rw [(responds_eq _ _).2, here]
    exact answered
  have waits' : waits (stateAt start inputs now) (inputs now) = false := by
    rw [(responds_eq _ _).1, here]
    change (!ready (inputs now) request) = false
    rw [answered]
    rfl
  rw [stateAt_succ, memoryWait_running running, responds', waits', ite_self]
  exact ite_self false

/-- Where nothing advances the hold ends. -/
theorem Attended.settles (attended : Attended start inputs pins respond last)
    (later : last < now)
    (never : ∀ clock, now ≤ clock → advancesAt start inputs clock = false) :
    ∃ settled, now ≤ settled ∧ ∀ clock, settled < clock →
      (stateAt start inputs clock).memoryWait = false := by
  have same (clock : ℕ) (after : now ≤ clock) :
      callbackAt start inputs clock = callbackAt start inputs now :=
    (attended.still later after fun earlier begins _ => never earlier begins).2.2
  cases shown : callbackAt start inputs now with
  | none =>
      refine ⟨now, Nat.le_refl now, ?_⟩
      intro clock after
      by_contra held
      rw [Bool.not_eq_false] at held
      have beyond : last < clock := Nat.lt_trans later after
      have steady := steady attended.toSession (Nat.zero_lt_of_lt beyond)
      have some := (steady.hold held).2
      have here : callbackAt start inputs clock = _ :=
        (running_at (attended.running clock beyond)).callback?
      rw [← here, same clock (Nat.le_of_lt after), shown] at some
      exact absurd some Bool.false_ne_true
  | some request =>
      rcases attended.responsive now request shown with ⟨answered, after, granted⟩
      have first := granted ((same answered after).trans shown)
      have always (clock : ℕ) (begins : answered ≤ clock) : ready (inputs clock) request = true := by
        apply attended.toSession.ready_kept first begins
        intro between_ after' _
        exact (same between_ (Nat.le_trans after after')).trans shown
      refine ⟨answered, after, ?_⟩
      intro clock beyond
      rcases Nat.exists_eq_add_of_lt beyond with ⟨more, rfl⟩
      have still : callbackAt start inputs (answered + more) = some request :=
        (same _ (by omega)).trans shown
      exact attended.unheld (by omega) still (always _ (by omega))

/-- A slice that is not parked advances its phase. -/
theorem Attended.advances (attended : Attended start inputs pins respond last)
    (later : last < now) (free : Slice.parked (stateAt start inputs now).pipeline = false) :
    ∃ tick, now ≤ tick ∧ advancesAt start inputs tick = true := by
  by_contra never
  push Not at never
  have quiet (clock : ℕ) (after : now ≤ clock) : advancesAt start inputs clock = false :=
    Bool.eq_false_iff.mpr (never clock after)
  rcases attended.settles later quiet with ⟨settled, after, unheld⟩
  rcases attended.enabled (settled + 1) with ⟨tick, beyond, enabled⟩
  have within : now ≤ tick := by omega
  have parked := (attended.still later within fun earlier begins _ => quiet earlier begins).2.1
  have advance := (running_at (attended.running tick (by omega))).busClockEnable.2
  unfold wrapperClockEnable at advance
  rw [enabled, unheld tick (by omega), parked, free] at advance
  exact absurd (advance.symm.trans (quiet tick within)) (by decide)

/-- A slice that is not parked ends its machine cycle. -/
theorem Attended.ends (attended : Attended start inputs pins respond last)
    (later : last < now) (free : Slice.parked (stateAt start inputs now).pipeline = false) :
    ∃ tick, now ≤ tick ∧ passes start inputs tick = true := by
  induction left : 3 - (phase (stateAt start inputs now)).toNat using Nat.strong_induction_on
    generalizing now with
  | _ left_ ih =>
      rcases attended.advances later free with ⟨any, after, advancing⟩
      rcases next_tick after advancing with ⟨tick, begins, advances, quiet⟩
      rcases attended.still later begins quiet with ⟨same, parked, -⟩
      have beyond := Nat.lt_of_lt_of_le later begins
      by_cases third : phase (stateAt start inputs tick) = 3
      · refine ⟨tick, begins, ?_⟩
        unfold passes
        rw [third, Bool.and_eq_true]
        exact ⟨advances, rfl⟩
      · have stops : passes start inputs tick = false := by
          unfold passes
          rw [beq_eq_false_iff_ne.mpr third, Bool.and_false]
        have running := running_at (attended.running tick beyond)
        have moved : phase (stateAt start inputs (tick + 1)) =
            phase (stateAt start inputs tick) + 1 := by
          have advance : phaseAdvance (stateAt start inputs tick) (inputs tick) = true := advances
          rw [stateAt_succ, phase_within running, advance, if_pos rfl]
        have goes : Slice.parked (stateAt start inputs (tick + 1)).pipeline = false := by
          rw [stateAt_succ, running.held stops]
          exact parked.trans free
        have fewer : 3 - (phase (stateAt start inputs (tick + 1))).toNat < left_ := by
          rw [← left, moved, ← same]
          bv_omega
        rcases ih _ fewer (Nat.lt_succ_of_lt beyond) goes rfl with ⟨boundary, bound, passing⟩
        exact ⟨boundary, by omega, passing⟩

/-- A run passes the ends of its machine cycles until it is parked. -/
theorem Attended.ticking (attended : Attended start inputs pins respond last) :
    Ticking Trace.Parked (traceAt start inputs last) (passes start inputs) last := by
  constructor
  · intro clock later boundary parked
    have advance := (running_at (attended.running clock later)).busClockEnable.2
    have blocked : Slice.parked (stateAt start inputs clock).pipeline = true := parked
    unfold passes at boundary
    rw [advance, blocked, Bool.not_true, Bool.and_false, Bool.false_and] at boundary
    exact absurd boundary Bool.false_ne_true
  · intro clock later free
    have flowing : Slice.parked (stateAt start inputs clock).pipeline = false :=
      Bool.eq_false_iff.mpr free
    exact attended.ends later flowing

/-! ## The first trace -/

/-- What the wrapper holds from its initialisation to the end of the reset. -/
theorem Attended.resetView (attended : Attended start inputs pins respond last) (later : 0 < now)
    (within : now ≤ last + 1) : (stateAt start inputs now).pipeline.view =
      Slice.initialView start.pipeline.core.dataRam.memory := by
  induction now, later using Nat.le_induction with
  | base => exact Slice.view_initialized attended.initialized (attended.noDebug 0)
  | succ now later ih =>
      have before := ih (by omega)
      have noDebug := attended.noDebug now
      have active := attended.active now (by omega)
      rw [stateAt_succ]
      change (Slice.step (stateAt start inputs now).pipeline
        (sliceInputs (stateAt start inputs now) (inputs now))).view = _
      rcases Bool.eq_false_or_eq_true (inputs now).resetI with asserted | noInitialize
      · rw [Slice.view_initialized asserted noDebug]
        have memory := congrArg (fun view : Slice.State => view.core.dataRam.memory) before
        change (stateAt start inputs now).pipeline.core.dataRam.memory = _ at memory
        rw [memory]
        rfl
      · rcases Bool.eq_false_or_eq_true (Slice.pipelineBoundary (stateAt start inputs now).pipeline
          (sliceInputs (stateAt start inputs now) (inputs now))) with boundary | inside
        · exact Slice.view_flush noInitialize noDebug boundary active before
        · rw [Slice.view_within noInitialize noDebug inside]
          exact before

/-- The first trace depends on the data RAM alone. -/
theorem Attended.first (attended : Attended start inputs pins respond last) :
    traceAt start inputs last (last + 1) =
      ⟨Slice.initialView start.pipeline.core.dataRam.memory, 0, []⟩ := by
  unfold traceAt logAt
  rw [attended.resetView (Nat.succ_pos last) (Nat.le_refl _), between_succ_self, Nat.sub_self]
  rfl

/-! ## Acceptance -/

/-- Every request is accepted once. -/
theorem Attended.acceptedOnce (attended : Attended start inputs pins respond last) :
    AcceptedOnce start inputs last := by
  intro clock request later shown
  have inactive := attended.running clock later
  have started : phase (stateAt start inputs clock) ≠ 0 := by
    intro first
    rw [callbackAt_first inactive first] at shown
    cases shown
  have free : Slice.parked (stateAt start inputs clock).pipeline = false :=
    (steady attended.toSession (Nat.zero_lt_of_lt later)).flows (running_at inactive).remaining
      started
  rcases attended.ends later free with ⟨any, after, passing⟩
  rcases next_tick after passing with ⟨boundary, begins, ends, quiet⟩
  have kept (active : ℕ) (from_ : clock ≤ active) (to_ : active ≤ boundary) :
      phase (stateAt start inputs active) ≠ 0 ∧ callbackAt start inputs active = some request := by
    induction active, from_ using Nat.le_induction with
    | base => exact ⟨started, shown⟩
    | succ active from_ ih =>
        rcases ih (by omega) with ⟨started, shown⟩
        have stops := quiet active from_ (by omega)
        have here := attended.running active (by omega)
        refine ⟨phase_started here started stops, ?_⟩
        rw [callbackAt_succ attended.toSession (by omega) here
          (attended.running (active + 1) (by omega)) started stops]
        exact shown
  refine ⟨boundary, begins, ?_, fun active from_ to_ => (kept active from_ to_).2, ?_, ?_⟩
  · unfold accepted
    rw [← passes_eq, ends, if_pos rfl]
    exact (kept boundary begins (Nat.le_refl boundary)).2
  · intro earlier from_ before
    unfold accepted
    rw [← passes_eq, quiet earlier from_ before, if_neg Bool.false_ne_true]
  · exact callbackAt_first (attended.running (boundary + 1) (by omega)) (phase_boundary ends)

end Law

/-! ## Latency independence -/

/-- Every log of a run is a log of another one. -/
def Follows (start : State) (inputs : ℕ → Inputs) (last : ℕ) (other : State)
    (otherInputs : ℕ → Inputs) (otherLast : ℕ) : Prop :=
  ∀ now, last < now → ∃ meeting, otherLast < meeting ∧
    logAt other otherInputs otherLast meeting = logAt start inputs last now

/-- Runs from one reset with the same data RAM, in environments that differ in their clock
pauses and ready latencies only, retire the same instructions with the same states and
make the same transactions, each once. -/
theorem latency_independence (pins : ℕ → Levels) (respond : List Request → Request → BitVec 16)
    (start : State) (inputs : ℕ → Inputs) (last : ℕ) (other : State) (otherInputs : ℕ → Inputs)
    (otherLast : ℕ) (attended : Attended start inputs pins respond last)
    (otherAttended : Attended other otherInputs pins respond otherLast)
    (memory : start.pipeline.core.dataRam.memory = other.pipeline.core.dataRam.memory) :
    Follows start inputs last other otherInputs otherLast ∧
      Follows other otherInputs otherLast start inputs last ∧
      AcceptedOnce start inputs last ∧ AcceptedOnce other otherInputs otherLast := by
  have same : traceAt start inputs last (last + 1) =
      traceAt other otherInputs otherLast (otherLast + 1) := by
    rw [attended.first, otherAttended.first, memory]
  refine ⟨?_, ?_, attended.acceptedOnce, otherAttended.acceptedOnce⟩
  · intro now later
    rcases attended.ticking.meets attended.stutters otherAttended.ticking
      otherAttended.stutters same later with ⟨meeting, after, met⟩
    exact ⟨meeting, after, congrArg Trace.log met⟩
  · intro now later
    rcases otherAttended.ticking.meets otherAttended.stutters attended.ticking
      attended.stutters same.symm later with ⟨meeting, after, met⟩
    exact ⟨meeting, after, congrArg Trace.log met⟩

/-- The environment that answers every program read with `NOP`. -/
def nopRespond (_ : List Request) : Request → BitVec 16
  | .programRead _ => 0x7f80
  | _ => 0

theorem pacedRun_attended {enable answers : ℕ → Bool} {last : ℕ}
    (session : Session clearState (pacedRun enable answers))
    (active : ∀ clock, clock ≤ last → resetAt clearState (pacedRun enable answers) clock = true)
    (ended : (stateAt clearState (pacedRun enable answers) (last + 1)).resetCyclesRemaining = 0)
    (fair : ∀ clock, ∃ later, clock ≤ later ∧ enable later = true)
    (served : ∀ clock, ∃ later, clock ≤ later ∧ answers later = true) :
    Attended clearState (pacedRun enable answers) (fun _ => ⟨true, true⟩) nopRespond last where
  toSession := session
  active := active
  running clock later := by
    have quiet (clock : ℕ) (later : last < clock) :
        resetRequest (pacedRun enable answers clock) = false := by
      have positive : (clock == 0) = false := beq_eq_false_iff_ne.mpr (by omega)
      unfold resetRequest pacedRun
      dsimp only
      rw [positive]
      rfl
    have elapsed :
        (stateAt clearState (pacedRun enable answers) clock).resetCyclesRemaining = 0 := by
      induction clock, later using Nat.le_induction with
      | base => exact ended
      | succ clock later ih => exact resetCyclesRemaining_over (quiet clock later) ih
    unfold resetAt resetActive
    rw [quiet clock later, elapsed]
    rfl
  levels _ _ _ := rfl
  answers _ request _ _ _ := by
    cases request with
    | programRead address => exact rfl
    | ioRead port => exact rfl
    | programWrite address data => trivial
    | ioWrite port data => trivial
  enabled := fair
  responsive clock request _ := by
    rcases served clock with ⟨later, after, answered⟩
    refine ⟨later, after, fun _ => ?_⟩
    cases request with
    | programRead address => exact answered
    | programWrite address data => exact answered
    | ioRead port => rfl
    | ioWrite port data => rfl

/-- A run without pauses whose memory is always ready. -/
def promptRun : ℕ → Inputs := pacedRun (fun _ => true) fun _ => true

/-- A run in which every other clock is enabled and the memory answers the second fetch
late. -/
def tardyRun : ℕ → Inputs := pacedRun (fun clock => clock % 2 == 1) (readyBut 65 80)

theorem latency_independence_tardy :
    (stateAt clearState tardyRun 79).memoryWait = true ∧
      Follows clearState promptRun 20 clearState tardyRun 39 ∧
      Follows clearState tardyRun 39 clearState promptRun 20 ∧
      AcceptedOnce clearState promptRun 20 ∧ AcceptedOnce clearState tardyRun 39 := by
  refine ⟨by decide +kernel, ?_⟩
  apply latency_independence (fun _ => ⟨true, true⟩) nopRespond
  · apply pacedRun_attended
    · exact pacedRun_session fun clock _ turned => absurd turned Bool.noConfusion
    · have checked : ∀ clock < 21, resetAt clearState promptRun clock = true := by
        decide +kernel
      exact fun clock within => checked clock (Nat.lt_succ_of_le within)
    · decide +kernel
    · exact fun clock => ⟨clock, Nat.le_refl clock, rfl⟩
    · exact fun clock => ⟨clock, Nat.le_refl clock, rfl⟩
  · apply pacedRun_attended
    · apply pacedRun_session
      intro clock before after
      have first : clock + 1 = 65 := (readyBut_drops before after).resolve_right (by decide)
      rw [first]
      decide +kernel
    · have checked : ∀ clock < 40, resetAt clearState tardyRun clock = true := by
        decide +kernel
      exact fun clock within => checked clock (Nat.lt_succ_of_le within)
    · decide +kernel
    · exact fun clock => ⟨2 * clock + 1, by omega, beq_iff_eq.mpr (by omega)⟩
    · intro clock
      refine ⟨clock + 80, by omega, ?_⟩
      rw [readyBut, decide_eq_true (show 80 ≤ clock + 80 by omega), Bool.or_true]
  · rfl

end Tms32010.Rtl.Mister
