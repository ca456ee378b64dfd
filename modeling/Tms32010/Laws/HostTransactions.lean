import Tms32010.Laws.HostCycles
import Tms32010.Lib.OnePlace
import Tms32010.Lib.Timeline

/-!
# Host transactions

Over an orderly run the timing of the local 68000 is a channel with one place: an ordinary
strobe puts its bus cycle in, and the completion event takes it out with the address, the
direction and the data strobes it was asserted with.
-/

namespace Tms32010.Board.HostTiming

open OnePlace

/-! ## Bus cycles -/

/-- What a strobe of the local 68000 latches. -/
structure BusCycle where
  address : BitVec 23
  readNotWrite : Bool
  upperDataStrobeN : Bool
  lowerDataStrobeN : Bool
  deriving DecidableEq, Repr

/-- The bus cycle a strobe starts. -/
def Inputs.busCycle (i : Inputs) : BusCycle :=
  ⟨i.address, i.readNotWrite, i.upperDataStrobeN, i.lowerDataStrobeN⟩

/-- The latched bus cycle. -/
def State.busCycle (s : State) : BusCycle :=
  ⟨s.latchedAddress, s.readNotWrite, s.upperDataStrobeN, s.lowerDataStrobeN⟩

/-- The strobe of an ordinary cycle; an interrupt acknowledge has function code 7. -/
def strobes (i : Inputs) : Bool := i.addressStrobeAssert && i.functionCode != 7

/-- The ordinary cycle that has yet to complete. -/
def pending (s : State) : Option BusCycle :=
  if s.cycleActive && vpaN s && !s.normalCompletionSeen then some s.busCycle else none

/-- What a clock does to the channel of bus cycles. -/
def action (s : State) (i : Inputs) : Action BusCycle :=
  if strobes i then .put i.busCycle else if cycleCompleteEvent s i then .take else .rest

section Clock

variable {last : Option Bool} {s : State} {i : Inputs}

theorem pending_inactive (inactive : s.cycleActive = false) : pending s = none := by
  unfold pending
  rw [inactive]
  rfl

theorem pending_acknowledge (functionCode : s.functionCode = 7) : pending s = none := by
  unfold pending vpaN
  rw [functionCode]
  cases s.cycleActive <;> rfl

/-- A completion event is the one of the pending cycle. -/
theorem event_vpaN (event : cycleCompleteEvent s i = true) :
    s.cycleActive = true ∧ vpaN s = true ∧ i.host8mhzFall = true := by
  unfold cycleCompleteEvent normalCompletionCondition at event
  simp only [Bool.and_eq_true] at event
  exact ⟨event.2.1.1.1, event.2.1.1.2, event.1⟩

theorem Settled.pending_event (settled : Settled last s) (clock : legalClock last s i = true)
    (event : cycleCompleteEvent s i = true) : pending s = some s.busCycle := by
  rcases event_vpaN event with ⟨active, vpa, -⟩
  have seen : s.normalCompletionSeen = false := by
    cases settled with
    | idle inactive => exact absurd (inactive.symm.trans active) (by decide)
    | ordinary strobe progress ordinary carries stands =>
        have place := (stands.event carries ordinary (proceeds_of_legal active clock)).mp event
        rw [place.2] at stands
        exact stands.2.2.1
    | acknowledge _ functionCode =>
        unfold vpaN at vpa
        rw [active, functionCode] at vpa
        exact absurd vpa (by decide)
  unfold pending
  rw [active, vpa, seen]
  rfl

/-- A clock of an active ordinary cycle takes it at its event and keeps it otherwise. -/
theorem pending_ordinary {strobe : Inputs} (ordinary : strobe.functionCode ≠ 7)
    (carries : Carries strobe s) (clock : legalClock last s i = true) :
    pending (step s i) = if cycleCompleteEvent s i then none else pending s := by
  have proceeds := proceeds_of_legal carries.active clock
  have vpa := carries.vpaN ordinary
  cases released : i.addressStrobeDeassert
  · have next := carries.next proceeds released
    have vpa' := next.vpaN ordinary
    have seen : (step s i).normalCompletionSeen =
        (cycleCompleteEvent s i || s.normalCompletionSeen) := by
      unfold step
      simp only [proceeds.noInitialize, proceeds.noAssert, released, Bool.false_eq_true, if_false]
      cases cycleCompleteEvent s i <;> rfl
    have same : (step s i).busCycle = s.busCycle := by
      unfold State.busCycle
      rw [next.address, next.readNotWrite, next.upper, next.lower, carries.address,
        carries.readNotWrite, carries.upper, carries.lower]
    unfold pending
    rw [next.active, vpa', seen, same, carries.active, vpa]
    cases cycleCompleteEvent s i <;> rfl
  · have inactive : (step s i).cycleActive = false := by
      unfold step
      simp only [proceeds.noInitialize, released, Bool.false_eq_true, if_false, if_true]
    rw [pending_inactive inactive]
    rcases proceeds.releases released vpa with event | seen
    · rw [event, if_pos rfl]
    · have none : pending s = none := by
        unfold pending
        rw [seen, Bool.not_true, Bool.and_false]
        rfl
      rw [none, ite_self]

/-- A legal clock with a settled release does to the pending cycle what the channel does. -/
theorem Settled.pending_step (settled : Settled last s) (clock : legalClock last s i = true) :
    (action s i).Allowed (pending s) ∧ pending (step s i) = (action s i).apply (pending s) := by
  unfold action
  cases asserted : i.addressStrobeAssert
  · have noStrobe : strobes i = false := by
      unfold strobes
      rw [asserted, Bool.false_and]
    rw [noStrobe, if_neg Bool.false_ne_true]
    constructor
    · cases event : cycleCompleteEvent s i
      · exact trivial
      · rw [if_pos rfl]
        change (pending s).isSome = true
        rw [settled.pending_event clock event]
        rfl
    · have kept : pending (step s i) = if cycleCompleteEvent s i then none else pending s := by
        cases settled with
        | ordinary strobe progress ordinary carries stands =>
            exact pending_ordinary ordinary carries clock
        | idle inactive =>
            have still : (step s i).cycleActive = false := by
              unfold step
              rw [asserted, inactive]
              cases i.initializeI <;> cases i.addressStrobeDeassert <;> rfl
            rw [pending_inactive still, pending_inactive inactive, ite_self]
        | acknowledge active functionCode =>
            have still : (step s i).functionCode = 7 := by
              have proceeds := proceeds_of_legal active clock
              unfold step
              simp only [proceeds.noInitialize, asserted, Bool.false_eq_true, if_false]
              exact functionCode
            rw [pending_acknowledge still, pending_acknowledge functionCode, ite_self]
      rw [kept]
      cases cycleCompleteEvent s i <;> rfl
  · rcases strobe_quiet asserted clock with ⟨-, -, fall, -, idle⟩
    have carries := carries_of_strobe asserted clock
    have quiet : cycleCompleteEvent s i = false := by
      unfold cycleCompleteEvent
      rw [fall, Bool.false_and]
    rw [pending_inactive idle, quiet, if_neg Bool.false_ne_true]
    by_cases acknowledge : i.functionCode = 7
    · have noStrobe : strobes i = false := by
        unfold strobes
        rw [acknowledge, bne_self_eq_false, Bool.and_false]
      rw [noStrobe, if_neg Bool.false_ne_true,
        pending_acknowledge (carries.functionCode.trans acknowledge)]
      exact ⟨trivial, rfl⟩
    · have strobe : strobes i = true := by
        unfold strobes
        rw [asserted, Bool.true_and]
        exact bne_iff_ne.mpr acknowledge
      have seen : (step s i).normalCompletionSeen = false := by
        rcases strobe_quiet asserted clock with ⟨initializing, -, -, release, -⟩
        unfold step
        simp only [initializing, asserted, release, quiet, Bool.false_eq_true, if_false, if_true]
      have same : (step s i).busCycle = i.busCycle := by
        unfold State.busCycle Inputs.busCycle
        rw [carries.address, carries.readNotWrite, carries.upper, carries.lower]
      rw [strobe, if_pos rfl]
      refine ⟨rfl, ?_⟩
      unfold pending
      rw [carries.active, carries.vpaN acknowledge, seen, same]
      rfl

end Clock

/-! ## What a completion commits -/

/-- The bank of `A23` and `A16:A14` a cycle addresses. -/
def BusCycle.bank (c : BusCycle) (bank : BitVec 3) : Bool :=
  c.address.getLsbD 22 && c.address.extractLsb' 13 3 == bank

/-- The quadrant of `A13:A12` a cycle addresses. -/
def BusCycle.quadrant (c : BusCycle) : BitVec 2 := c.address.extractLsb' 11 2

/-- The strobe that latched a state. -/
def State.strobe (s : State) : Inputs :=
  ⟨false, false, false, true, false, s.functionCode, s.latchedAddress, s.readNotWrite,
    s.upperDataStrobeN, s.lowerDataStrobeN⟩

section Commits

variable {s : State} {i : Inputs}

theorem carries_self (active : s.cycleActive = true) : Carries s.strobe s :=
  ⟨active, rfl, rfl, rfl, rfl, rfl⟩

/-- What is committed under the completion event is committed for the latched cycle. -/
theorem commit_of_event {commit selected : Bool}
    (under : commit = true → cycleCompleteEvent s i = true)
    (carried : Carries s.strobe s → commit = (cycleCompleteEvent s i && selected)) :
    commit = (cycleCompleteEvent s i && selected) := by
  cases event : cycleCompleteEvent s i
  · rw [Bool.false_and]
    by_contra commits
    rw [Bool.not_eq_false] at commits
    exact absurd (event.symm.trans (under commits)) (by decide)
  · rw [event] at carried
    exact carried (carries_self (event_vpaN event).1)

theorem localRamUpperWriteCommit_eq :
    localRamUpperWriteCommit s i = (cycleCompleteEvent s i &&
      (s.busCycle.bank 7 && !s.busCycle.readNotWrite && !s.busCycle.upperDataStrobeN)) :=
  commit_of_event (fun commits => (Bool.and_eq_true _ _ ▸ commits).1)
    fun carries => carries.localRamUpperWriteCommit

theorem localRamLowerWriteCommit_eq :
    localRamLowerWriteCommit s i = (cycleCompleteEvent s i &&
      (s.busCycle.bank 7 && !s.busCycle.readNotWrite && !s.busCycle.lowerDataStrobeN)) :=
  commit_of_event (fun commits => (Bool.and_eq_true _ _ ▸ commits).1)
    fun carries => carries.localRamLowerWriteCommit

theorem hostProgramRamWriteCommit_eq :
    hostProgramRamWriteCommit s i = (cycleCompleteEvent s i &&
      (s.busCycle.bank 5 && !s.busCycle.readNotWrite && !s.busCycle.address.getLsbD 12)) :=
  commit_of_event (fun commits => (Bool.and_eq_true _ _ ▸ commits).1)
    fun carries => carries.hostProgramRamWriteCommit

theorem writeCompleteEvent_eq :
    writeCompleteEvent s i =
      (cycleCompleteEvent s i && (s.busCycle.bank 4 && !s.busCycle.readNotWrite)) :=
  commit_of_event
    (fun commits => (Bool.and_eq_true _ _ ▸ (Bool.and_eq_true _ _ ▸ commits).1).1)
    fun carries => carries.writeCompleteEvent

theorem readCompleteEvent_eq :
    readCompleteEvent s i =
      (cycleCompleteEvent s i && (s.busCycle.bank 4 && s.busCycle.readNotWrite)) := by
  unfold readCompleteEvent
  rw [Bool.and_assoc]
  rfl

end Commits

/-! ## Clocks of a legal run -/

theorem run_append (s : State) (first second : List Inputs) :
    run s (first ++ second) = run (run s first) second := by
  induction first generalizing s with
  | nil => rfl
  | cons i first ih => exact ih (step s i)

theorem lastEdges_append (last : Option Bool) (first second : List Inputs) :
    lastEdges last (first ++ second) = lastEdges (lastEdges last first) second := by
  induction first generalizing last with
  | nil => rfl
  | cons i first ih => exact ih (lastEdge last i)

/-- Every clock of a legal run is legal where the run has come to. -/
theorem legal_at {rule : State → Inputs → Bool} {last : Option Bool} {s : State}
    {inputs : List Inputs} (runs : legal rule last s inputs = true) {place : ℕ} {i : Inputs}
    (there : inputs[place]? = some i) :
    legalClock (lastEdges last (inputs.take place)) (run s (inputs.take place)) i = true ∧
      rule (run s (inputs.take place)) i = true := by
  rcases List.getElem?_eq_some_iff.mp there with ⟨within, here⟩
  have split : inputs = inputs.take place ++ i :: inputs.drop (place + 1) := by
    rw [← here, ← List.drop_eq_getElem_cons within, List.take_append_drop]
  rw [split] at runs
  have tail := (legal_append last s _ _ runs).2
  rw [legal, Bool.and_eq_true, Bool.and_eq_true] at tail
  exact tail.1

/-! ## Orderly runs -/

/-- The last 8 MHz edge before a clock. -/
def edgeAt (wires : ℕ → Inputs) : ℕ → Option Bool
  | 0 => none
  | clock + 1 =>
      if (wires clock).initializeI then none else lastEdge (edgeAt wires clock) (wires clock)

/-- The states of a run of the timing. -/
def Runs (timing : ℕ → State) (wires : ℕ → Inputs) : Prop :=
  ∀ clock, timing (clock + 1) = step (timing clock) (wires clock)

/-- After an initialising clock every clock is legal, and every cycle is released no earlier
than it has settled. -/
structure Orderly (timing : ℕ → State) (wires : ℕ → Inputs) : Prop where
  initialized : (wires 0).initializeI = true
  legal : ∀ clock, 0 < clock →
    legalClock (edgeAt wires clock) (timing clock) (wires clock) = true
  settles : ∀ clock, 0 < clock → settledRelease (timing clock) (wires clock) = true

/-- The bus cycle whose strobe a clock asserts. -/
def strobedAt (wires : ℕ → Inputs) (clock : ℕ) : Option BusCycle :=
  if !(wires clock).initializeI && strobes (wires clock) then some (wires clock).busCycle else none

/-- The bus cycle a clock completes. -/
def completedAt (timing : ℕ → State) (wires : ℕ → Inputs) (clock : ℕ) : Option BusCycle :=
  if !(wires clock).initializeI && cycleCompleteEvent (timing clock) (wires clock) then
    some (timing clock).busCycle
  else none

/-- What the clocks before `now` have. -/
def before {α : Type*} (event : ℕ → Option α) (now : ℕ) : List α :=
  (List.range now).filterMap event

theorem before_succ {α : Type*} (event : ℕ → Option α) (now : ℕ) :
    before event (now + 1) = before event now ++ (event now).toList := by
  unfold before
  rw [List.range_succ, List.filterMap_append]
  cases value : event now <;> simp [value]

section Orderly

variable {timing : ℕ → State} {wires : ℕ → Inputs} {clock : ℕ}

theorem Orderly.quiet (orderly : Orderly timing wires) (later : 0 < clock) :
    (wires clock).initializeI = false := by
  have clean := orderly.legal clock later
  unfold legalClock at clean
  simp only [Bool.and_eq_true, Bool.not_eq_true'] at clean
  exact clean.1.1.1.1

theorem Orderly.cleared (orderly : Orderly timing wires) (runs : Runs timing wires) :
    timing 1 = idle := by
  rw [runs 0]
  unfold step
  rw [orderly.initialized, if_pos rfl]

theorem Orderly.settled (orderly : Orderly timing wires) (runs : Runs timing wires)
    (later : 0 < clock) : Settled (edgeAt wires clock) (timing clock) := by
  induction clock, later using Nat.le_induction with
  | base =>
      rw [orderly.cleared runs]
      exact .idle rfl rfl rfl rfl
  | succ clock later ih =>
      have edge : edgeAt wires (clock + 1) = lastEdge (edgeAt wires clock) (wires clock) := by
        rw [edgeAt, orderly.quiet later, if_neg Bool.false_ne_true]
      rw [runs clock, edge]
      exact ih.next (orderly.legal clock later) (orderly.settles clock later)

/-- The strobes and completions of a clock are the puts and takes of the channel. -/
theorem Orderly.puts_takes (orderly : Orderly timing wires) (runs : Runs timing wires)
    (later : 0 < clock) :
    (strobedAt wires clock).toList = (action (timing clock) (wires clock)).puts ∧
      (completedAt timing wires clock).toList =
        (action (timing clock) (wires clock)).takes (pending (timing clock)) := by
  unfold strobedAt completedAt action
  rw [orderly.quiet later, Bool.not_false, Bool.true_and, Bool.true_and]
  cases event : cycleCompleteEvent (timing clock) (wires clock)
  · rw [if_neg Bool.false_ne_true, if_neg Bool.false_ne_true]
    constructor <;> split_ifs <;> rfl
  · have legal := orderly.legal clock later
    have noStrobe : strobes (wires clock) = false := by
      by_contra strobe
      rw [Bool.not_eq_false] at strobe
      unfold strobes at strobe
      rw [Bool.and_eq_true] at strobe
      have fall := (event_vpaN event).2.2
      rw [(strobe_quiet strobe.1 legal).2.2.1] at fall
      exact absurd fall (by decide)
    rw [noStrobe, if_neg Bool.false_ne_true, if_neg Bool.false_ne_true, if_pos rfl, if_pos rfl,
      (orderly.settled runs later).pending_event legal event]
    exact ⟨rfl, rfl⟩

/-- The strobes of a run are its completions and the cycle that is still pending. -/
theorem Orderly.channel (orderly : Orderly timing wires) (runs : Runs timing wires)
    (later : 0 < clock) :
    before (strobedAt wires) clock =
      before (completedAt timing wires) clock ++ (pending (timing clock)).toList := by
  induction clock, later using Nat.le_induction with
  | base =>
      unfold before strobedAt completedAt
      simp [orderly.initialized, orderly.cleared runs]
      rfl
  | succ clock later ih =>
      rcases (orderly.settled runs later).pending_step (orderly.legal clock later) with
        ⟨allowed, next⟩
      rcases orderly.puts_takes runs later with ⟨puts, takes⟩
      calc before (strobedAt wires) (clock + 1)
          = before (completedAt timing wires) clock ++
              ((pending (timing clock)).toList ++ (strobedAt wires clock).toList) := by
            rw [before_succ, ih, List.append_assoc]
        _ = before (completedAt timing wires) clock ++
              ((completedAt timing wires clock).toList ++ (pending (timing (clock + 1))).toList) := by
            rw [puts, Action.conserves allowed, takes, runs clock, next]
        _ = before (completedAt timing wires) (clock + 1) ++
              (pending (timing (clock + 1))).toList := by
            rw [before_succ, List.append_assoc]

end Orderly

/-! ## Scripts -/

/-- A clock without an event. -/
def quietWires : Inputs := ⟨false, false, false, false, false, 5, 0, true, false, false⟩

/-- The clocks of a cycle: its strobe, and its edges up to the one that completes and
releases it. -/
def BusCycle.wires (cycle : BusCycle) : List Inputs :=
  [⟨false, false, false, true, false, 5, cycle.address, cycle.readNotWrite,
      cycle.upperDataStrobeN, cycle.lowerDataStrobeN⟩,
    { quietWires with host8mhzRise := true }, { quietWires with host8mhzFall := true },
    { quietWires with host8mhzRise := true },
    { quietWires with host8mhzFall := true, addressStrobeDeassert := true }]

/-- The wires that initialize in clock 0 and follow a script from a clock on. -/
def scriptedWire (first : ℕ) (script : List Inputs) (clock : ℕ) : Inputs :=
  if clock = 0 then { quietWires with initializeI := true }
  else if first ≤ clock then (script[clock - first]?).getD quietWires
  else quietWires

section Script

variable {first clock : ℕ} {script : List Inputs} {timing : ℕ → State}

theorem scriptedWire_quiet (later : 0 < clock)
    (outside : clock < first ∨ first + script.length ≤ clock) :
    scriptedWire first script clock = quietWires := by
  unfold scriptedWire
  rw [if_neg (Nat.ne_of_gt later)]
  rcases outside with before | after
  · rw [if_neg (Nat.not_le_of_lt before)]
  · have beyond : script[clock - first]? = none := by
      rw [List.getElem?_eq_none_iff]
      omega
    rw [if_pos (by omega), beyond]
    rfl

theorem scriptedWire_cycle (positive : 0 < first) {place : ℕ} {i : Inputs}
    (there : script[place]? = some i) : scriptedWire first script (first + place) = i := by
  unfold scriptedWire
  rw [if_neg (by omega), if_pos (Nat.le_add_right first place), Nat.add_sub_cancel_left, there]
  rfl

theorem legalClock_quiet (last : Option Bool) (s : State) :
    legalClock last s quietWires = true ∧ settledRelease s quietWires = true := by
  unfold legalClock contract settledRelease
  simp [quietWires]

theorem legal_running {rule : State → Inputs → Bool} {last : Option Bool} {s : State}
    {inputs : List Inputs} (runs : legal rule last s inputs = true) {place : ℕ} {i : Inputs}
    (there : inputs[place]? = some i) : i.initializeI = false := by
  have clean := (legal_at runs there).1
  unfold legalClock at clean
  simp only [Bool.and_eq_true, Bool.not_eq_true'] at clean
  exact clean.1.1.1.1

/-- Before a script the timing is idle. -/
theorem idle_before_script (runs : Runs timing (scriptedWire first script)) (later : 0 < clock)
    (early : clock ≤ first) :
    edgeAt (scriptedWire first script) clock = none ∧ timing clock = idle := by
  induction clock, later using Nat.le_induction with
  | base => exact ⟨rfl, runs 0⟩
  | succ clock later ih =>
      have quiet : scriptedWire first script clock = quietWires :=
        scriptedWire_quiet later (Or.inl early)
      rcases ih (Nat.le_of_succ_le early) with ⟨edge, still⟩
      rw [edgeAt, runs clock, quiet, edge, still]
      exact ⟨rfl, rfl⟩

/-- In a script the timing is where the clocks of the script take it. -/
theorem timing_in_script (runs : Runs timing (scriptedWire first script)) (positive : 0 < first)
    (legal : legal settledRelease none idle script = true) {place : ℕ}
    (within : place ≤ script.length) :
    edgeAt (scriptedWire first script) (first + place) = lastEdges none (script.take place) ∧
      timing (first + place) = run idle (script.take place) := by
  induction place with
  | zero => exact idle_before_script runs positive (Nat.le_refl first)
  | succ place ih =>
      rcases ih (Nat.le_of_succ_le within) with ⟨edge, there⟩
      have wire : script[place]? = some script[place] := List.getElem?_eq_getElem within
      have taken : script.take (place + 1) = script.take place ++ [script[place]] :=
        (List.take_concat_get' script place within).symm
      rw [← Nat.add_assoc, edgeAt, runs, scriptedWire_cycle positive wire,
        legal_running legal wire, if_neg Bool.false_ne_true, edge, there, taken, run_append,
        lastEdges_append]
      exact ⟨rfl, rfl⟩

/-- A legal script makes an orderly run. -/
theorem orderly_of_script (runs : Runs timing (scriptedWire first script)) (positive : 0 < first)
    (legal : legal settledRelease none idle script = true) :
    Orderly timing (scriptedWire first script) := by
  have clocks (clock : ℕ) (later : 0 < clock) :
      legalClock (edgeAt (scriptedWire first script) clock) (timing clock)
          (scriptedWire first script clock) = true ∧
        settledRelease (timing clock) (scriptedWire first script clock) = true := by
    by_cases outside : clock < first ∨ first + script.length ≤ clock
    · rw [scriptedWire_quiet later outside]
      exact legalClock_quiet _ _
    · obtain ⟨place, rfl⟩ : ∃ place, clock = first + place := ⟨clock - first, by omega⟩
      have within : place < script.length := by omega
      have wire : script[place]? = some script[place] := List.getElem?_eq_getElem within
      rcases timing_in_script runs positive legal (Nat.le_of_lt within) with ⟨edge, there⟩
      rw [edge, there, scriptedWire_cycle positive wire]
      exact legal_at legal wire
  exact ⟨rfl, fun clock later => (clocks clock later).1, fun clock later => (clocks clock later).2⟩

end Script

end Tms32010.Board.HostTiming
