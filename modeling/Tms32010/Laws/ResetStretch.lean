import Tms32010.Rtl.Mister

/-!
# The reset stretch

After the last clock of a reset request the wrapper counts five enabled phase-3
boundaries. They are the ends of five whole machine cycles if the request ends
together with a machine cycle. Otherwise the first of them ends a cycle that
began before the release.
-/

namespace Tms32010.Rtl.Mister

open Timeline

/-! ## Machine cycles since a request -/

section Run

variable (start : State) (inputs : ℕ → Inputs)

/-- The enabled phase advances of a run. -/
def advances (clock : ℕ) : Bool := phaseAdvance (stateAt start inputs clock) (inputs clock)

/-- A machine cycle has begun after clock zero. -/
def began : ℕ → Bool
  | 0 => false
  | clock + 1 => began clock || phase (stateAt start inputs (clock + 1)) == 0

/-- A clock ends a machine cycle that began after clock zero. -/
def completesCycle (clock : ℕ) : Bool :=
  advances start inputs clock && phase (stateAt start inputs clock) == 3 &&
    began start inputs clock

/-- The machine cycles that began after clock zero and ended before a clock. -/
def completeCycles (now : ℕ) : ℕ := between (completesCycle start inputs) 0 now

end Run

/-- The run makes no request after clock zero. -/
def Released (inputs : ℕ → Inputs) : Prop := ∀ clock, 0 < clock → resetRequest (inputs clock) = false

/-- However the run goes on after the last clock of a request, the reset is active until
five machine cycles have begun and ended, and no longer. -/
def Stretches (s : State) (i : Inputs) : Prop :=
  ∀ inputs : ℕ → Inputs, inputs 0 = i → Released inputs → ∀ now, 0 < now →
    (resetActive (stateAt s inputs now) (inputs now) = true ↔
      completeCycles s inputs now < 5)

/-- The clock ends a machine cycle, or stops before the next one. -/
def EndsCycle (s : State) (i : Inputs) : Prop :=
  i.resetI = true ∨ phase s = if wrapperClockEnable s i then 3 else 0

section Law

variable {s : State} {i : Inputs} {inputs : ℕ → Inputs} {now : ℕ}

/-- The phase after the last clock of a request. -/
theorem endsCycle_iff (request : resetRequest i = true) :
    EndsCycle s i ↔ phase (step s i) = 0 := by
  rw [phase_step, (busClockEnable_active (resetActive_of_request request)).1]
  unfold EndsCycle
  cases i.resetI
  · rw [if_neg Bool.false_ne_true]
    cases wrapperClockEnable s i
    · simp
    · simp only [Bool.false_eq_true, false_or, if_true]
      constructor
      · intro last
        rw [last]
        rfl
      · intro first
        bv_omega
  · simp

/-- The cycle that was underway when the request ended, if any. -/
def underway (first : ℕ) : ℕ := if first = 0 then 0 else 1

/-- Where the stretch stands after some advances, from the phase after the request. -/
inductive Stretched (s : State) (inputs : ℕ → Inputs) (first now : ℕ) : Prop where
  | active (early : first + between (advances s inputs) 0 now < 20)
      (remaining : (stateAt s inputs now).resetCyclesRemaining.toNat =
        5 - (first + between (advances s inputs) 0 now) / 4)
      (released : (stateAt s inputs now).memoryWait = false)
      (position : (phase (stateAt s inputs now)).toNat =
        (first + between (advances s inputs) 0 now) % 4)
      (cycles : completeCycles s inputs now =
        (first + between (advances s inputs) 0 now) / 4 - underway first)
      (seen : began s inputs now = true ↔
        first = 0 ∨ 4 ≤ first + between (advances s inputs) 0 now)
  | ended (late : 20 ≤ first + between (advances s inputs) 0 now)
      (remaining : (stateAt s inputs now).resetCyclesRemaining = 0)
      (cycles : 5 - underway first ≤ completeCycles s inputs now)
      (exact : first + between (advances s inputs) 0 now = 20 →
        completeCycles s inputs now = 5 - underway first)

theorem Stretched.start (request : resetRequest (inputs 0) = true) :
    Stretched s inputs (phase (step s (inputs 0))).toNat 1 := by
  have small := (phase (step s (inputs 0))).isLt
  have none : between (advances s inputs) 0 1 = 0 := between_succ_self _ 0
  have cycles : completeCycles s inputs 1 = 0 := between_succ_self _ 0
  apply Stretched.active
  · omega
  · change (step s (inputs 0)).resetCyclesRemaining.toNat = _
    rw [resetCyclesRemaining_request request, none]
    change 5 = _
    omega
  · exact memoryWait_active (resetActive_of_request request)
  · change (phase (step s (inputs 0))).toNat = _
    omega
  · rw [cycles, none]
    omega
  · rw [none]
    change (false || phase (step s (inputs 0)) == 0) = true ↔ _
    rw [Bool.false_or, beq_iff_eq, ← BitVec.toNat_inj]
    change (phase (step s (inputs 0))).toNat = 0 ↔ _
    omega

theorem completeCycles_succ (positive : 0 < now) :
    completeCycles s inputs (now + 1) =
      completeCycles s inputs now + (completesCycle s inputs now).toNat :=
  between_succ positive

theorem Stretched.succ {first : ℕ} (stretched : Stretched s inputs first now)
    (positive : 0 < now) (noRequest : resetRequest (inputs now) = false) :
    Stretched s inputs first (now + 1) := by
  have counted : between (advances s inputs) 0 (now + 1) = _ := between_succ positive
  have completed : completeCycles s inputs (now + 1) = _ := completeCycles_succ positive
  cases stretched with
  | active early remaining released position cycles seen =>
      have active : resetActive (stateAt s inputs now) (inputs now) = true := by
        rw [resetActive_iff noRequest]
        omega
      rcases step_active noRequest active with ⟨advance, next, counter⟩
      have advanced : advances s inputs now =
          wrapperClockEnable (stateAt s inputs now) (inputs now) := advance
      have free := memoryWait_active active
      unfold completesCycle at completed
      rw [← stateAt_succ] at next counter free
      cases enabled : wrapperClockEnable (stateAt s inputs now) (inputs now)
      · rw [enabled] at advanced next counter
        simp only [advanced, Bool.toNat_false, Nat.add_zero] at counted
        simp only [advanced, Bool.false_and, Bool.toNat_false, Nat.add_zero] at completed
        apply Stretched.active
        · rwa [counted]
        · rw [counter, counted]
          exact remaining
        · exact free
        · rw [next, counted]
          exact position
        · rw [completed, counted]
          exact cycles
        · rw [counted, ← seen]
          change (began s inputs now || phase (stateAt s inputs (now + 1)) == 0) = true ↔ _
          rw [next, if_neg Bool.false_ne_true, Bool.or_eq_true, beq_iff_eq, ← BitVec.toNat_inj,
            position, seen]
          change _ ∨ _ = 0 ↔ _
          omega
      · rw [enabled, if_pos rfl] at next
        rw [enabled, Bool.true_and] at counter
        rw [enabled] at advanced
        rw [advanced, Bool.toNat_true] at counted
        rw [advanced, Bool.true_and] at completed
        have moved : (phase (stateAt s inputs (now + 1))).toNat =
            ((phase (stateAt s inputs now)).toNat + 1) % 4 := by
          rw [next]
          bv_omega
        by_cases last : (phase (stateAt s inputs now)).toNat = 3
        · have boundary : (phase (stateAt s inputs now) == 3) = true := by
            rw [beq_iff_eq]
            exact BitVec.eq_of_toNat_eq last
          rw [boundary, if_pos rfl] at counter
          have fewer : (stateAt s inputs (now + 1)).resetCyclesRemaining.toNat =
              (stateAt s inputs now).resetCyclesRemaining.toNat - 1 := by
            rw [counter]
            have counting : (stateAt s inputs now).resetCyclesRemaining.toNat ≠ 0 := by omega
            bv_omega
          rw [boundary, Bool.true_and] at completed
          have more : (began s inputs now).toNat =
              if first = 0 ∨ 4 ≤ first + between (advances s inputs) 0 now then 1 else 0 := by
            cases started : began s inputs now
            · have absent : ¬(first = 0 ∨ 4 ≤ first + between (advances s inputs) 0 now) := by
                rw [← seen, started]
                exact Bool.false_ne_true
              rw [if_neg absent]
              rfl
            · rw [if_pos (seen.mp started)]
              rfl
          have total : completeCycles s inputs (now + 1) =
              (first + between (advances s inputs) 0 (now + 1)) / 4 - underway first := by
            rw [completed, more, cycles, counted]
            unfold underway
            split_ifs <;> omega
          by_cases end_ : first + between (advances s inputs) 0 (now + 1) = 20
          · apply Stretched.ended
            · omega
            · apply BitVec.eq_of_toNat_eq
              change _ = 0
              omega
            · rw [total, end_]
            · intro _
              rw [total, end_]
          · apply Stretched.active
            · omega
            · omega
            · exact free
            · omega
            · exact total
            · change (began s inputs now || phase (stateAt s inputs (now + 1)) == 0) = true ↔ _
              rw [Bool.or_eq_true, beq_iff_eq, ← BitVec.toNat_inj, moved, seen]
              change _ ∨ _ = 0 ↔ _
              omega
        · have inside : (phase (stateAt s inputs now) == 3) = false := by
            rw [beq_eq_false_iff_ne]
            intro same
            apply last
            rw [same]
            rfl
          rw [inside, if_neg Bool.false_ne_true] at counter
          simp only [inside, Bool.false_and, Bool.toNat_false, Nat.add_zero] at completed
          have small := (phase (stateAt s inputs now)).isLt
          apply Stretched.active
          · omega
          · rw [counter]
            omega
          · exact free
          · omega
          · rw [completed, cycles]
            omega
          · change (began s inputs now || phase (stateAt s inputs (now + 1)) == 0) = true ↔ _
            rw [Bool.or_eq_true, beq_iff_eq, ← BitVec.toNat_inj, moved, seen]
            change _ ∨ _ = 0 ↔ _
            omega
  | ended late remaining cycles total =>
      apply Stretched.ended
      · omega
      · rw [stateAt_succ]
        exact resetCyclesRemaining_over noRequest remaining
      · omega
      · intro same
        have still : advances s inputs now = false := by
          by_contra advanced
          rw [Bool.not_eq_false] at advanced
          rw [advanced, Bool.toNat_true] at counted
          omega
        simp only [still, Bool.toNat_false, Nat.add_zero] at counted
        have quiet : completesCycle s inputs now = false := by
          unfold completesCycle
          rw [still]
          rfl
        simp only [completed, quiet, Bool.toNat_false, Nat.add_zero]
        exact total (by omega)

/-- Every clock after the last one of a request. -/
theorem stretched (request : resetRequest (inputs 0) = true) (released : Released inputs)
    (later : 0 < now) : Stretched s inputs (phase (step s (inputs 0))).toNat now := by
  induction now, later using Nat.le_induction with
  | base => exact Stretched.start request
  | succ now later ih => exact ih.succ later (released now later)

/-- The reset is active for twenty enabled phase advances less those of the machine cycle
underway when the request ended. -/
theorem resetActive_advances (request : resetRequest (inputs 0) = true)
    (released : Released inputs) (later : 0 < now) :
    resetActive (stateAt s inputs now) (inputs now) = true ↔
      (phase (step s (inputs 0))).toNat + between (advances s inputs) 0 now < 20 := by
  rw [resetActive_iff (released now later)]
  cases stretched (s := s) request released later with
  | active early remaining _ _ _ _ => omega
  | ended late remaining _ _ =>
      rw [remaining]
      change 0 ≠ 0 ↔ _
      omega

/-- A released run with an enabled clock in every clock. -/
def enabledRun (i : Inputs) (clock : ℕ) : Inputs :=
  if clock = 0 then i
  else { i with resetI := false, processorReset := false, clockEnable := true }

theorem enabledRun_released (i : Inputs) : Released (enabledRun i) := by
  intro clock later
  unfold enabledRun
  rw [if_neg (by omega)]
  rfl

/-- An enabled run advances in every clock of the stretch. -/
theorem enabledRun_advances (now : ℕ) (request : resetRequest i = true) (early : now ≤ 20) :
    (phase (step s i)).toNat + now ≤ 20 → between (advances s (enabledRun i)) 0 (now + 1) = now := by
  induction now with
  | zero =>
      intro _
      exact between_succ_self _ 0
  | succ now ih =>
      intro within
      have before := ih (by omega) (by omega)
      have requested : resetRequest (enabledRun i 0) = true := request
      have active := (resetActive_advances (s := s) requested
        (enabledRun_released i) (Nat.succ_pos now)).mpr (by
          rw [before]
          change (phase (step s i)).toNat + now < 20
          omega)
      have free : (stateAt s (enabledRun i) (now + 1)).memoryWait = false := by
        cases stretched (s := s) requested (enabledRun_released i) (Nat.succ_pos now) with
        | active _ _ free _ _ _ => exact free
        | ended late _ _ _ =>
            rw [before] at late
            change 20 ≤ (phase (step s i)).toNat + now at late
            omega
      have advanced : advances s (enabledRun i) (now + 1) = true := by
        unfold advances
        rw [(busClockEnable_active active).2]
        unfold wrapperClockEnable
        rw [free]
        rfl
      rw [between_succ (Nat.succ_pos now), before, advanced]
      rfl

end Law

/-! ## The stretch -/

/-- The reset stretch covers five whole machine cycles after the last clock of a request
exactly when that clock ends a machine cycle. -/
theorem resetStretch_iff (s : State) (i : Inputs) (request : resetRequest i = true) :
    Stretches s i ↔ EndsCycle s i := by
  rw [endsCycle_iff request]
  constructor
  · intro stretches
    by_contra differs
    have first : (phase (step s i)).toNat ≠ 0 := fun zero => differs (BitVec.eq_of_toNat_eq zero)
    have small := (phase (step s i)).isLt
    have requested : resetRequest (enabledRun i 0) = true := request
    -- an enabled run whose last advance of the stretch was the one before this clock
    let now := 21 - (phase (step s i)).toNat
    have passed : between (advances s (enabledRun i)) 0 now = 20 - (phase (step s i)).toNat := by
      have counted := enabledRun_advances (s := s) (20 - (phase (step s i)).toNat) request
        (by omega) (by omega)
      rwa [show 20 - (phase (step s i)).toNat + 1 = now by omega] at counted
    have later : 0 < now := by omega
    have law := stretches (enabledRun i) rfl (enabledRun_released i) now later
    have advanced := resetActive_advances (s := s) requested (enabledRun_released i) later
    change _ ↔ (phase (step s i)).toNat + _ < 20 at advanced
    rw [law, passed] at advanced
    have total : completeCycles s (enabledRun i) now = 5 - underway (phase (step s i)).toNat := by
      cases stretched (s := s) requested (enabledRun_released i) later with
      | active early _ _ _ _ _ =>
          change (phase (step s i)).toNat + _ < 20 at early
          omega
      | ended _ _ _ exact =>
          apply exact
          change (phase (step s i)).toNat + _ = 20
          omega
    unfold underway at total
    rw [if_neg first] at total
    omega
  · intro ends inputs same released now later
    have requested : resetRequest (inputs 0) = true := by rw [same, request]
    have begins : (phase (step s (inputs 0))).toNat = 0 := by
      rw [same, ends]
      rfl
    have advanced := resetActive_advances (s := s) requested released later
    have place := stretched (s := s) requested released later
    rw [begins] at advanced place
    rw [advanced]
    cases place with
    | active early _ _ _ cycles _ =>
        unfold underway at cycles
        rw [if_pos rfl] at cycles
        omega
    | ended late _ cycles _ =>
        unfold underway at cycles
        rw [if_pos rfl] at cycles
        omega

theorem resetStretch_iff_initialized :
    Stretches clearState { enabledInputs with resetI := true } ↔
      EndsCycle clearState { enabledInputs with resetI := true } :=
  resetStretch_iff clearState { enabledInputs with resetI := true } rfl

/-- A run that is initialized in clock zero and requests a reset in clock 22, the second
clock of a machine cycle. -/
def briefRequest (clock : ℕ) : Inputs :=
  { enabledInputs with resetI := clock == 0, processorReset := clock == 22 }

/-- A request of one clock in phase 1 gets four whole machine cycles. -/
theorem briefRequest_short :
    resetRequest (briefRequest 22) = true ∧
      ¬Stretches (stateAt clearState briefRequest 22) (briefRequest 22) := by
  refine ⟨rfl, ?_⟩
  intro stretches
  have released : Released fun clock => briefRequest (22 + clock) := by
    intro clock later
    have first : (22 + clock == 0) = false := by rw [beq_eq_false_iff_ne]; omega
    have again : (22 + clock == 22) = false := by rw [beq_eq_false_iff_ne]; omega
    unfold resetRequest briefRequest
    dsimp only
    rw [first, again]
    rfl
  have law := stretches _ rfl released 19 (by omega)
  have ended : resetActive (stateAt (stateAt clearState briefRequest 22)
      (fun clock => briefRequest (22 + clock)) 19) (briefRequest (22 + 19)) = false := by
    decide +kernel
  have cycles : completeCycles (stateAt clearState briefRequest 22)
      (fun clock => briefRequest (22 + clock)) 19 = 4 := by
    decide +kernel
  rw [ended, cycles] at law
  exact absurd (law.mpr (by omega)) Bool.false_ne_true

end Tms32010.Rtl.Mister
