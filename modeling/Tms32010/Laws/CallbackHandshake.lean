import Tms32010.Rtl.Callback

/-!
# The callback handshake

In every run without debug writes a request stays as it is until the phase-3
boundary that ends its machine cycle, the boundary is passed only once the ready
of the request was seen, and a hold ends with the first enabled clock after that.
The hold is registered on every clock of phase 2, also where the phase does not
advance; what carries over is that the request does not change meanwhile.
-/

namespace Tms32010.Rtl.Mister

open Timeline

section Run

variable (start : State) (inputs : ℕ → Inputs)

/-- The request in a clock of the run. -/
def callbackAt (clock : ℕ) : Option Request :=
  callback? (stateAt start inputs clock) (inputs clock)

/-- The reset in a clock of the run. -/
def resetAt (clock : ℕ) : Bool := resetActive (stateAt start inputs clock) (inputs clock)

/-- A clock passes the boundary that ends a machine cycle. -/
def passes (clock : ℕ) : Bool :=
  phaseAdvance (stateAt start inputs clock) (inputs clock) &&
    phase (stateAt start inputs clock) == 3

/-- A run from an initialisation, without debug writes, whose environment keeps ready
asserted while the request it answered persists. -/
structure Session : Prop where
  initialized : (inputs 0).resetI = true
  noDebug : ∀ clock, (inputs clock).debugDataWrite = false
  holds : ∀ clock request, callbackAt start inputs clock = some request →
    ready (inputs clock) request = true → callbackAt start inputs (clock + 1) = some request →
      ready (inputs (clock + 1)) request = true

/-- The handshake of a run. -/
structure Handshake : Prop where
  stays : ∀ first now request, phase (stateAt start inputs first) = 1 →
    callbackAt start inputs first = some request → first ≤ now →
      (∀ clock, first ≤ clock → clock ≤ now → resetAt start inputs clock = false) →
        (∀ clock, first ≤ clock → clock < now → passes start inputs clock = false) →
          callbackAt start inputs now = some request
  answered : ∀ now request, 0 < now → resetAt start inputs now = false →
    passes start inputs now = true → callbackAt start inputs now = some request →
      ready (inputs now) request = true ∧
        ∃ seen, seen < now ∧ ready (inputs seen) request = true ∧
          ∀ clock, seen ≤ clock → clock ≤ now →
            callbackAt start inputs clock = some request
  apart : ∀ now,
    (programRead (stateAt start inputs now) (inputs now) &&
        programWrite (stateAt start inputs now) (inputs now)) = false ∧
      (ioRead (stateAt start inputs now) (inputs now) &&
        ioWrite (stateAt start inputs now) (inputs now)) = false ∧
      ((programRead (stateAt start inputs now) (inputs now) ||
          programWrite (stateAt start inputs now) (inputs now)) &&
        (ioRead (stateAt start inputs now) (inputs now) ||
          ioWrite (stateAt start inputs now) (inputs now))) = false
  holding : ∀ now, 0 < now → resetAt start inputs now = false →
    (stateAt start inputs now).memoryWait = true → (callbackAt start inputs now).isSome = true
  released : ∀ seen now request, 0 < seen → (stateAt start inputs seen).memoryWait = true →
    callbackAt start inputs seen = some request → ready (inputs seen) request = true →
      seen < now → (∀ clock, seen ≤ clock → clock ≤ now → resetAt start inputs clock = false) →
        (∀ clock, seen < clock → clock < now → (inputs clock).clockEnable = false) →
          (inputs now).clockEnable = true →
            phaseAdvance (stateAt start inputs now) (inputs now) = true

end Run

section Law

variable {start : State} {inputs : ℕ → Inputs} {now : ℕ}

theorem running_at (inactive : resetAt start inputs now = false) :
    Running (stateAt start inputs now) (inputs now) :=
  running_iff.mpr inactive

/-- What holds in every clock after the initialisation. -/
structure Steady (start : State) (inputs : ℕ → Inputs) (now : ℕ) : Prop where
  flows : Flows (stateAt start inputs now)
  fresh : phase (stateAt start inputs now) ≠ 0 → Slice.Fresh (stateAt start inputs now).pipeline
  hold : (stateAt start inputs now).memoryWait = true →
    (phase (stateAt start inputs now) = 2 ∨ phase (stateAt start inputs now) = 3) ∧
      (Slice.request? (stateAt start inputs now).pipeline).isSome = true
  seen : phase (stateAt start inputs now) = 3 →
    (stateAt start inputs now).memoryWait = false →
      (stateAt start inputs now).resetCyclesRemaining = 0 →
        ∀ request, Slice.request? (stateAt start inputs now).pipeline = some request →
          ∃ seen, seen < now ∧ ready (inputs seen) request = true ∧
            ∀ clock, seen ≤ clock → clock < now →
              callbackAt start inputs clock = some request

/-- A clock within a machine cycle outside reset keeps its request. -/
theorem request_within {s : State} {i : Inputs} (running : Running s i)
    (noDebug : i.debugDataWrite = false)
    (within : Slice.pipelineBoundary s.pipeline (sliceInputs s i) = false)
    (started : phase s ≠ 0) (fresh : Slice.Fresh s.pipeline) :
    Slice.request? (step s i).pipeline = Slice.request? s.pipeline :=
  Slice.request?_within running.noInitialize within noDebug started fresh

/-- A clock that leaves a hold keeps the phase, or advances it from 2, and the request. -/
theorem hold_step {s : State} {i : Inputs} (noDebug : i.debugDataWrite = false)
    (fresh : phase s ≠ 0 → Slice.Fresh s.pipeline)
    (hold : s.memoryWait = true → (phase s = 2 ∨ phase s = 3) ∧
      (Slice.request? s.pipeline).isSome = true)
    (holds : (step s i).memoryWait = true) :
    (phase (step s i) = 2 ∨ phase (step s i) = 3) ∧
      (Slice.request? (step s i).pipeline).isSome = true := by
  have inactive : resetActive s i = false := by
    by_contra active
    rw [Bool.not_eq_false] at active
    rw [memoryWait_active active] at holds
    exact absurd holds Bool.false_ne_true
  have running := running_iff.mpr inactive
  rw [memoryWait_running running] at holds
  cases held : s.memoryWait
  · rw [held, if_neg Bool.false_ne_true] at holds
    have second : phase s = 2 := by
      by_contra other
      rw [beq_eq_false_iff_ne.mpr other, if_neg Bool.false_ne_true] at holds
      exact absurd holds Bool.false_ne_true
    have started : phase s ≠ 0 := by
      rw [second]
      decide
    have within : Slice.pipelineBoundary s.pipeline (sliceInputs s i) = false := by
      rw [pipelineBoundary_eq, second]
      exact Bool.and_false _
    rw [second, beq_self_eq_true, if_pos rfl, (responds_eq s i).1, running.callback?] at holds
    constructor
    · rw [phase_within running, second]
      cases phaseAdvance s i
      · exact Or.inl rfl
      · exact Or.inr rfl
    · rw [request_within running noDebug within started (fresh started)]
      cases request : Slice.request? s.pipeline with
      | none => rw [request] at holds; exact absurd holds Bool.false_ne_true
      | some request => rfl
  · rcases hold held with ⟨phases, request⟩
    have still := phaseAdvance_held (i := i) held
    have within : Slice.pipelineBoundary s.pipeline (sliceInputs s i) = false := by
      rw [pipelineBoundary_eq, still, Bool.false_and]
    have started := started_of_phases phases
    rw [phase_within running, still, if_neg Bool.false_ne_true,
      request_within running noDebug within started (fresh started)]
    exact ⟨phases, request⟩

theorem Steady.initialized (session : Session start inputs) : Steady start inputs 1 := by
  have request : resetRequest (inputs 0) = true := by
    unfold resetRequest
    rw [session.initialized, Bool.true_or]
  have first : phase (stateAt start inputs 1) = 0 := by
    change phase (step start (inputs 0)) = 0
    rw [phase_step, session.initialized, if_pos rfl]
  have reload : (stateAt start inputs 1).resetCyclesRemaining = 5 :=
    resetCyclesRemaining_request (s := start) request
  have free : (stateAt start inputs 1).memoryWait = false :=
    memoryWait_active (s := start) (resetActive_of_request request)
  refine ⟨?_, ?_, ?_, ?_⟩
  · intro ended
    rw [reload] at ended
    exact absurd ended (by decide)
  · intro started
    exact absurd first started
  · intro held
    rw [free] at held
    exact absurd held Bool.false_ne_true
  · intro last
    rw [first] at last
    exact absurd last (by decide)

theorem Steady.succ (session : Session start inputs) (steady : Steady start inputs now) :
    Steady start inputs (now + 1) := by
  have noDebug := session.noDebug now
  have fresh' : phase (stateAt start inputs (now + 1)) ≠ 0 →
      Slice.Fresh (stateAt start inputs (now + 1)).pipeline :=
    Slice.fresh_step steady.fresh noDebug
  refine ⟨flows_step steady.flows (inputs now), fresh',
    hold_step noDebug steady.fresh steady.hold, ?_⟩
  intro last free ended request shown
  rw [stateAt_succ] at last free ended shown
  rcases before_last last ended with ⟨running, within, phases⟩
  have started := started_of_phases phases
  rw [request_within running noDebug within started (steady.fresh started)] at shown
  have here : callbackAt start inputs now = some request := running.callback?.trans shown
  rcases running.free phases free with ⟨third, unheld⟩ | answered
  · rcases steady.seen third unheld running.remaining request shown with
      ⟨seen, earlier, answer, kept⟩
    refine ⟨seen, Nat.lt_succ_of_lt earlier, answer, ?_⟩
    intro clock after before
    rcases Nat.lt_succ_iff_lt_or_eq.mp before with before | rfl
    · exact kept clock after before
    · exact here
  · have answer : ready (inputs now) request = true := by
      rw [(responds_eq _ _).1, (responds_eq _ _).2, running.callback?, shown] at answered
      simpa using answered
    refine ⟨now, Nat.lt_succ_self now, answer, ?_⟩
    intro clock after before
    obtain rfl : clock = now := by omega
    exact here

/-- The invariant in every clock after the initialisation. -/
theorem steady (session : Session start inputs) (later : 0 < now) : Steady start inputs now := by
  induction now, later using Nat.le_induction with
  | base => exact Steady.initialized session
  | succ now later ih => exact ih.succ session

/-- Ready stays asserted as long as the request. -/
theorem Session.ready_kept (session : Session start inputs) {request : Request} {seen : ℕ}
    (answer : ready (inputs seen) request = true) (later : seen ≤ now)
    (kept : ∀ clock, seen ≤ clock → clock ≤ now → callbackAt start inputs clock = some request) :
    ready (inputs now) request = true := by
  induction now, later using Nat.le_induction with
  | base => exact answer
  | succ now later ih =>
      have before := ih fun clock after until_ => kept clock after (Nat.le_succ_of_le until_)
      exact session.holds now request (kept now later (Nat.le_succ now)) before
        (kept (now + 1) (Nat.le_succ_of_le later) (Nat.le_refl _))

/-- A clock of the run within a machine cycle keeps its request. -/
theorem callbackAt_succ (session : Session start inputs) (later : 0 < now)
    (inactive : resetAt start inputs now = false)
    (inactive' : resetAt start inputs (now + 1) = false)
    (started : phase (stateAt start inputs now) ≠ 0) (stops : passes start inputs now = false) :
    callbackAt start inputs (now + 1) = callbackAt start inputs now := by
  have fresh := (steady session later).fresh started
  have kept := request_within (running_at inactive) (session.noDebug now) stops started fresh
  have before : callbackAt start inputs now = _ := (running_at inactive).callback?
  have after : callbackAt start inputs (now + 1) = _ := (running_at inactive').callback?
  rw [after, before]
  exact kept

theorem phase_started (inactive : resetAt start inputs now = false)
    (started : phase (stateAt start inputs now) ≠ 0) (stops : passes start inputs now = false) :
    phase (stateAt start inputs (now + 1)) ≠ 0 := by
  have next := phase_within (running_at inactive)
  unfold passes at stops
  rw [stateAt_succ, next]
  cases advance : phaseAdvance (stateAt start inputs now) (inputs now)
  · exact started
  · rw [advance, Bool.true_and, beq_eq_false_iff_ne] at stops
    rw [if_pos rfl]
    bv_omega

/-- A request of phase 1 lasts until its machine cycle ends. -/
theorem callback_stays (session : Session start inputs) {first : ℕ} {request : Request}
    (opens : phase (stateAt start inputs first) = 1)
    (shown : callbackAt start inputs first = some request) (later : first ≤ now)
    (inactive : ∀ clock, first ≤ clock → clock ≤ now → resetAt start inputs clock = false)
    (stops : ∀ clock, first ≤ clock → clock < now → passes start inputs clock = false) :
    phase (stateAt start inputs now) ≠ 0 ∧ callbackAt start inputs now = some request := by
  have positive : 0 < first := by
    rcases Nat.eq_zero_or_pos first with rfl | positive
    · have request : resetRequest (inputs 0) = true := by
        unfold resetRequest
        rw [session.initialized, Bool.true_or]
      have active : resetAt start inputs 0 = true := resetActive_of_request request
      rw [inactive 0 (Nat.le_refl 0) later] at active
      exact absurd active Bool.false_ne_true
    · exact positive
  induction now, later using Nat.le_induction with
  | base =>
      rw [opens]
      exact ⟨by decide, shown⟩
  | succ now later ih =>
      have earlier := ih (fun clock after before => inactive clock after (Nat.le_succ_of_le before))
        (fun clock after before => stops clock after (Nat.lt_succ_of_lt before))
      have here := inactive now later (Nat.le_succ now)
      have stop := stops now later (Nat.lt_succ_self now)
      constructor
      · exact phase_started here earlier.1 stop
      · rw [callbackAt_succ session (Nat.lt_of_lt_of_le positive later) here
          (inactive (now + 1) (Nat.le_succ_of_le later) (Nat.le_refl _)) earlier.1 stop]
        exact earlier.2

/-- The boundary of a machine cycle is passed after the ready of its request. -/
theorem callback_answered (session : Session start inputs) {request : Request}
    (later : 0 < now) (inactive : resetAt start inputs now = false)
    (boundary : passes start inputs now = true)
    (shown : callbackAt start inputs now = some request) :
    ready (inputs now) request = true ∧
      ∃ seen, seen < now ∧ ready (inputs seen) request = true ∧
        ∀ clock, seen ≤ clock → clock ≤ now → callbackAt start inputs clock = some request := by
  have steady := steady session later
  have running := running_at inactive
  unfold passes at boundary
  rw [Bool.and_eq_true, beq_iff_eq] at boundary
  have free : (stateAt start inputs now).memoryWait = false := by
    by_contra held
    rw [Bool.not_eq_false] at held
    rw [phaseAdvance_held held] at boundary
    exact absurd boundary.1 Bool.false_ne_true
  have slice := shown
  rw [callbackAt, running.callback?] at slice
  rcases steady.seen boundary.2 free running.remaining request slice with
    ⟨seen, earlier, answer, kept⟩
  have kept' : ∀ clock, seen ≤ clock → clock ≤ now →
      callbackAt start inputs clock = some request := by
    intro clock after before
    rcases Nat.lt_or_eq_of_le before with before | rfl
    · exact kept clock after before
    · exact shown
  exact ⟨session.ready_kept answer (Nat.le_of_lt earlier) kept', seen, earlier, answer, kept'⟩

/-- Once a hold has seen its ready nothing changes until the next enabled clock. -/
theorem hold_released (session : Session start inputs) {seen : ℕ} {request : Request}
    (positive : 0 < seen) (held : (stateAt start inputs seen).memoryWait = true)
    (shown : callbackAt start inputs seen = some request)
    (answer : ready (inputs seen) request = true) (later : seen < now)
    (inactive : ∀ clock, seen ≤ clock → clock ≤ now → resetAt start inputs clock = false)
    (paused : ∀ clock, seen < clock → clock < now → (inputs clock).clockEnable = false) :
    (stateAt start inputs now).memoryWait = false ∧
      phase (stateAt start inputs now) = phase (stateAt start inputs seen) ∧
        callbackAt start inputs now = some request ∧ ready (inputs now) request = true := by
  have holding := (steady session positive).hold held
  have started := started_of_phases holding.1
  induction now, later using Nat.le_induction with
  | base =>
      have running := running_at (inactive seen (Nat.le_refl _) (Nat.le_succ _))
      have still := phaseAdvance_held (i := inputs seen) held
      have stop : passes start inputs seen = false := by
        unfold passes
        rw [still, Bool.false_and]
      have kept := callbackAt_succ session positive (inactive seen (Nat.le_refl _) (Nat.le_succ _))
        (inactive (seen + 1) (Nat.le_succ _) (Nat.le_refl _)) started stop
      rw [shown] at kept
      have responded : responds (stateAt start inputs seen) (inputs seen) = true := by
        have here : callback? (stateAt start inputs seen) (inputs seen) = some request := shown
        rw [(responds_eq _ _).2, here]
        exact answer
      refine ⟨?_, ?_, kept, session.holds seen request shown answer kept⟩
      · rw [stateAt_succ, memoryWait_running running, if_pos held, responded]
        rfl
      · rw [stateAt_succ, phase_within running, still, if_neg Bool.false_ne_true]
  | succ now later ih =>
      rcases ih (fun clock after before => inactive clock after (Nat.le_succ_of_le before))
        (fun clock after before => paused clock after (Nat.lt_succ_of_lt before)) with
        ⟨free, same, here, answered⟩
      have after : seen ≤ now := Nat.le_of_lt later
      have quiet := inactive now after (Nat.le_succ now)
      have running := running_at quiet
      have still : phaseAdvance (stateAt start inputs now) (inputs now) = false := by
        unfold phaseAdvance wrapperClockEnable
        rw [paused now later (Nat.lt_succ_self now), Bool.false_and, Bool.false_and]
      have stop : passes start inputs now = false := by
        unfold passes
        rw [still, Bool.false_and]
      have kept := callbackAt_succ session (Nat.lt_trans positive later) quiet
        (inactive (now + 1) (Nat.le_succ_of_le after) (Nat.le_refl _)) (same ▸ started) stop
      rw [here] at kept
      have waiting : waits (stateAt start inputs now) (inputs now) = false := by
        have shown : callback? (stateAt start inputs now) (inputs now) = some request := here
        rw [(responds_eq _ _).1, shown]
        change (!ready (inputs now) request) = false
        rw [answered]
        rfl
      refine ⟨?_, ?_, kept, session.holds now request here answered kept⟩
      · rw [stateAt_succ, memoryWait_running running, free, if_neg Bool.false_ne_true, waiting,
          ite_self]
      · rw [stateAt_succ, phase_within running, still, if_neg Bool.false_ne_true, same]

/-- A hold ends with the first enabled clock after its ready. -/
theorem callback_released (session : Session start inputs) {seen : ℕ} {request : Request}
    (positive : 0 < seen) (held : (stateAt start inputs seen).memoryWait = true)
    (shown : callbackAt start inputs seen = some request)
    (answer : ready (inputs seen) request = true) (later : seen < now)
    (inactive : ∀ clock, seen ≤ clock → clock ≤ now → resetAt start inputs clock = false)
    (paused : ∀ clock, seen < clock → clock < now → (inputs clock).clockEnable = false)
    (enabled : (inputs now).clockEnable = true) :
    phaseAdvance (stateAt start inputs now) (inputs now) = true := by
  rcases hold_released session positive held shown answer later inactive paused with
    ⟨free, same, -, -⟩
  have holding := (steady session positive).hold held
  have steady := steady session (Nat.lt_trans positive later)
  have running := running_at (inactive now (Nat.le_of_lt later) (Nat.le_refl _))
  have started : phase (stateAt start inputs now) ≠ 0 := by
    rw [same]
    exact started_of_phases holding.1
  rw [running.advances steady.flows started]
  unfold wrapperClockEnable
  rw [enabled, free]
  rfl

/-- The callback handshake. -/
theorem callback_handshake (session : Session start inputs) : Handshake start inputs where
  stays _ _ _ opens shown later inactive stops :=
    (callback_stays session opens shown later inactive stops).2
  answered _ _ later inactive boundary shown :=
    callback_answered session later inactive boundary shown
  apart now := callbacks_apart (stateAt start inputs now) (inputs now)
  holding now later inactive held := by
    have shown := ((steady session later).hold held).2
    rw [callbackAt, (running_at inactive).callback?]
    exact shown
  released _ _ _ positive held shown answer later inactive paused enabled :=
    callback_released session positive held shown answer later inactive paused enabled

/-! ## A late ready -/

/-- A run of `NOP` from an initialisation, with its enabled clocks and those in which the
program memory is ready. -/
def pacedRun (enable answers : ℕ → Bool) (clock : ℕ) : Inputs :=
  { enabledInputs with
    resetI := clock == 0
    clockEnable := enable clock
    programReady := answers clock }

/-- The memory is ready but for the clocks from one to before another. -/
def readyBut (first last clock : ℕ) : Bool := clock < first || last ≤ clock

theorem readyBut_drops {first last clock : ℕ} (before : readyBut first last clock = true)
    (after : readyBut first last (clock + 1) = false) : clock + 1 = first ∨ last ≤ first := by
  simp only [readyBut, Bool.or_eq_true, Bool.or_eq_false_iff, decide_eq_true_eq,
    decide_eq_false_iff_not] at before after
  omega

/-- A memory that turns away where no request is active keeps its answers. -/
theorem pacedRun_session {enable answers : ℕ → Bool}
    (drops : ∀ clock, answers clock = true → answers (clock + 1) = false →
      callbackAt clearState (pacedRun enable answers) (clock + 1) = none) :
    Session clearState (pacedRun enable answers) where
  initialized := rfl
  noDebug _ := rfl
  holds clock request _ answered kept := by
    have stays (before : answers clock = true) : answers (clock + 1) = true := by
      by_contra turned
      rw [drops clock before (eq_false_of_ne_true turned)] at kept
      cases kept
    cases request with
    | programRead address => exact stays answered
    | programWrite address data => exact stays answered
    | ioRead port => rfl
    | ioWrite port data => rfl

/-- The memory answers the second fetch of this run late. -/
theorem callback_handshake_late :
    (stateAt clearState (pacedRun (fun _ => true) (readyBut 33 41)) 40).memoryWait = true ∧
      Handshake clearState (pacedRun (fun _ => true) (readyBut 33 41)) := by
  refine ⟨by decide +kernel, callback_handshake (pacedRun_session ?_)⟩
  intro clock before after
  have first : clock + 1 = 33 := (readyBut_drops before after).resolve_right (by decide)
  rw [first]
  decide +kernel

end Law

end Tms32010.Rtl.Mister
