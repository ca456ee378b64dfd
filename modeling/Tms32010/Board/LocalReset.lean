import Mathlib.Data.BitVec
import Mathlib.Data.Nat.Log
import Tms32010.Lib.Timeline

/-!
# Local reset source

`hard_drivin_sound_local_reset_source`: a monostable that a falling edge of the
combined trigger starts. It holds the board reset for `MONOSTABLE_HOLD_TICKS`
ticks and ignores further edges for `MONOSTABLE_RETRIGGER_INHIBIT_TICKS`.
-/

namespace Tms32010.Board.LocalReset

open Timeline

/-! ## The module -/

/-- `$clog2` of a 32-bit value. -/
def clog2 (value : BitVec 32) : ℕ := Nat.clog 2 value.toNat

/-- `HOLD_WIDTH` and `INHIBIT_WIDTH` for a number of ticks. -/
def tickWidth (ticks : BitVec 32) : ℕ := if 1 < ticks.toNat then clog2 (ticks + 1) else 1

/-- The parameters, `int unsigned`. -/
structure Params where
  monostableHoldTicks : BitVec 32
  monostableRetriggerInhibitTicks : BitVec 32

namespace Params

variable (p : Params)

/-- `HOLD_WIDTH`. -/
def holdWidth : ℕ := tickWidth p.monostableHoldTicks

/-- `HOLD_TICKS_VALUE`. -/
def holdTicksValue : BitVec p.holdWidth := p.monostableHoldTicks.setWidth p.holdWidth

/-- `INHIBIT_WIDTH`. -/
def inhibitWidth : ℕ := tickWidth p.monostableRetriggerInhibitTicks

/-- `INHIBIT_TICKS_VALUE`. -/
def inhibitTicksValue : BitVec p.inhibitWidth :=
  p.monostableRetriggerInhibitTicks.setWidth p.inhibitWidth

end Params

/-- The registers. -/
structure State (p : Params) where
  combinedTriggerN : Bool
  holdRemaining : BitVec p.holdWidth
  inhibitRemaining : BitVec p.inhibitWidth
  monostableTriggerEvent : Bool
  monostableTriggerIgnored : Bool

/-- The inputs of one clock. -/
structure Inputs where
  initializeI : Bool
  holdTick : Bool
  masterResetN : Bool
  soundResetAccessN : Bool
  soundResetTestN : Bool
  deriving DecidableEq, Repr

/-- `combined_trigger_n`. -/
def combinedTriggerN (i : Inputs) : Bool := i.masterResetN && i.soundResetAccessN

section Signals

variable {p : Params} (s : State p) (i : Inputs)

/-- `trigger_falling`. -/
def triggerFalling : Bool := s.combinedTriggerN && !combinedTriggerN i

/-- `retrigger_inhibited`. -/
def retriggerInhibited : Bool := s.inhibitRemaining != 0

/-- `monostable_hold_active_o`. -/
def monostableHoldActive : Bool := s.holdRemaining != 0

/-- `monostable_trigger_event_o`. -/
def monostableTriggerEvent : Bool := !i.initializeI && s.monostableTriggerEvent

/-- `monostable_trigger_ignored_o`. -/
def monostableTriggerIgnored : Bool := !i.initializeI && s.monostableTriggerIgnored

/-- `board_reset_n_o`. -/
def boardResetN : Bool := i.soundResetTestN && !monostableHoldActive s

/-- A falling edge that starts the monostable. -/
def triggerAccepted : Bool := triggerFalling s i && !retriggerInhibited s

/-- One clock edge. -/
def step : State p :=
  if i.initializeI then
    { combinedTriggerN := combinedTriggerN i
      holdRemaining := p.holdTicksValue
      inhibitRemaining := p.inhibitTicksValue
      monostableTriggerEvent := false
      monostableTriggerIgnored := false }
  else
    { combinedTriggerN := combinedTriggerN i
      holdRemaining :=
        if triggerFalling s i && !retriggerInhibited s then p.holdTicksValue
        else if i.holdTick && monostableHoldActive s then s.holdRemaining - 1
        else s.holdRemaining
      inhibitRemaining :=
        if triggerFalling s i && !retriggerInhibited s then p.inhibitTicksValue
        else if i.holdTick && retriggerInhibited s then s.inhibitRemaining - 1
        else s.inhibitRemaining
      monostableTriggerEvent := triggerFalling s i && !retriggerInhibited s
      monostableTriggerIgnored := triggerFalling s i && retriggerInhibited s }

end Signals

/-! ## Counters -/

/-- A counter as wide as its ticks need holds them. -/
theorem lt_two_pow_tickWidth {ticks : BitVec 32} (bounded : ticks.toNat < 2 ^ 32 - 1) :
    ticks.toNat < 2 ^ tickWidth ticks := by
  have next : (ticks + 1).toNat = ticks.toNat + 1 := by
    bv_omega
  unfold tickWidth clog2
  split_ifs with several
  · rw [next]
    exact Nat.lt_of_succ_le (Nat.le_pow_clog Nat.one_lt_two (ticks.toNat + 1))
  · omega

/-- The value of a counter of that width is not truncated. -/
theorem toNat_setWidth_tickWidth {ticks : BitVec 32} (bounded : ticks.toNat < 2 ^ 32 - 1) :
    (ticks.setWidth (tickWidth ticks)).toNat = ticks.toNat := by
  rw [BitVec.toNat_setWidth]
  exact Nat.mod_eq_of_lt (lt_two_pow_tickWidth bounded)

/-- A down counter that stops at zero. -/
theorem countdown {width : ℕ} {counter : BitVec width} (tick : Bool) :
    (if tick && counter != 0 then counter - 1 else counter).toNat =
      counter.toNat - tick.toNat := by
  cases tick
  · rfl
  · by_cases empty : counter = 0
    · subst empty
      simp
    · have positive : counter.toNat ≠ 0 := fun zero => empty (BitVec.eq_of_toNat_eq zero)
      have small := counter.isLt
      have room : 1 < 2 ^ width := by omega
      have one : (1 : BitVec width).toNat = 1 := by
        change (BitVec.ofNat width 1).toNat = 1
        rw [BitVec.toNat_ofNat]
        exact Nat.mod_eq_of_lt room
      have borrow : (1 : BitVec width) ≤ counter := by
        rw [BitVec.le_def, one]
        omega
      rw [Bool.true_and, if_pos (bne_iff_ne.mpr empty), BitVec.toNat_sub_of_le borrow, one]
      rfl

/-! ## Runs -/

section Run

variable {p : Params} (start : State p) (inputs : ℕ → Inputs)

/-- The state before a clock. -/
def stateAt : ℕ → State p := state step start inputs

/-- A clock that loads the counters: an initialisation or an accepted trigger. -/
def starts (clock : ℕ) : Prop :=
  (inputs clock).initializeI = true ∨
    triggerAccepted (stateAt start inputs clock) (inputs clock) = true

/-- The ticks of a run. -/
def ticks (clock : ℕ) : Bool := (inputs clock).holdTick

variable {start inputs} {last now : ℕ}

theorem stateAt_succ (clock : ℕ) :
    stateAt start inputs (clock + 1) = step (stateAt start inputs clock) (inputs clock) :=
  rfl

/-- The counters after a clock that loads them. -/
theorem loaded (happened : starts start inputs last) :
    (stateAt start inputs (last + 1)).holdRemaining = p.holdTicksValue ∧
      (stateAt start inputs (last + 1)).inhibitRemaining = p.inhibitTicksValue := by
  rw [stateAt_succ, step]
  rcases happened with asserted | accepted
  · rw [asserted, if_pos rfl]
    exact ⟨rfl, rfl⟩
  · unfold triggerAccepted at accepted
    split_ifs
    · exact ⟨rfl, rfl⟩
    · rw [accepted]
      exact ⟨rfl, rfl⟩

/-- The counters after any other clock. -/
theorem counted (absent : ¬starts start inputs now) :
    (stateAt start inputs (now + 1)).holdRemaining.toNat =
        (stateAt start inputs now).holdRemaining.toNat - (ticks inputs now).toNat ∧
      (stateAt start inputs (now + 1)).inhibitRemaining.toNat =
        (stateAt start inputs now).inhibitRemaining.toNat - (ticks inputs now).toNat := by
  unfold starts at absent
  rw [not_or, Bool.not_eq_true, Bool.not_eq_true] at absent
  rcases absent with ⟨running, unaccepted⟩
  unfold triggerAccepted at unaccepted
  rw [stateAt_succ, step, running, if_neg Bool.false_ne_true, unaccepted]
  exact ⟨countdown _, countdown _⟩

/-- The counters hold what the ticks since they were loaded have left, without wrapping. -/
theorem remaining_since (holdBound : p.monostableHoldTicks.toNat < 2 ^ 32 - 1)
    (inhibitBound : p.monostableRetriggerInhibitTicks.toNat < 2 ^ 32 - 1)
    (since : Last (starts start inputs) last now) :
    (stateAt start inputs now).holdRemaining.toNat =
        p.monostableHoldTicks.toNat - between (ticks inputs) last now ∧
      (stateAt start inputs now).inhibitRemaining.toNat =
        p.monostableRetriggerInhibitTicks.toNat - between (ticks inputs) last now := by
  induction since using Last.induction with
  | starts happened =>
      rcases loaded happened with ⟨hold, inhibit⟩
      rw [hold, inhibit, between_succ_self]
      exact ⟨toNat_setWidth_tickWidth holdBound, toNat_setWidth_tickWidth inhibitBound⟩
  | persists clock since absent ih =>
      rcases counted absent with ⟨hold, inhibit⟩
      rw [hold, inhibit, between_succ since.before, ih.1, ih.2]
      exact ⟨Nat.sub_sub _ _ _, Nat.sub_sub _ _ _⟩

/-! ## The law -/

/-- What the module does `now`, after the counters were last loaded in clock `last`. -/
structure ResetLaw (start : State p) (inputs : ℕ → Inputs) (last now : ℕ) : Prop where
  edge : triggerFalling (stateAt start inputs now) (inputs now) =
    (combinedTriggerN (inputs (now - 1)) && !combinedTriggerN (inputs now))
  accepts : triggerFalling (stateAt start inputs now) (inputs now) = true →
    (triggerAccepted (stateAt start inputs now) (inputs now) = true ↔
      p.monostableRetriggerInhibitTicks.toNat ≤ between (ticks inputs) last now)
  reports : (inputs now).initializeI = false →
    monostableTriggerEvent (stateAt start inputs (now + 1)) (inputs (now + 1)) =
        (!(inputs (now + 1)).initializeI &&
          triggerAccepted (stateAt start inputs now) (inputs now)) ∧
      monostableTriggerIgnored (stateAt start inputs (now + 1)) (inputs (now + 1)) =
        (!(inputs (now + 1)).initializeI &&
          (triggerFalling (stateAt start inputs now) (inputs now) &&
            !triggerAccepted (stateAt start inputs now) (inputs now)))
  releases : boardResetN (stateAt start inputs now) (inputs now) = true ↔
    (inputs now).soundResetTestN = true ∧
      p.monostableHoldTicks.toNat ≤ between (ticks inputs) last now
  hold : p.holdTicksValue.toNat = p.monostableHoldTicks.toNat ∧
    (stateAt start inputs now).holdRemaining.toNat =
      p.monostableHoldTicks.toNat - between (ticks inputs) last now
  inhibit : p.inhibitTicksValue.toNat = p.monostableRetriggerInhibitTicks.toNat ∧
    (stateAt start inputs now).inhibitRemaining.toNat =
      p.monostableRetriggerInhibitTicks.toNat - between (ticks inputs) last now

/-- An edge is one between the trigger of two clocks. -/
theorem triggerFalling_succ (start : State p) (inputs : ℕ → Inputs) (clock : ℕ) :
    triggerFalling (stateAt start inputs (clock + 1)) (inputs (clock + 1)) =
      (combinedTriggerN (inputs clock) && !combinedTriggerN (inputs (clock + 1))) := by
  have before : (stateAt start inputs (clock + 1)).combinedTriggerN =
      combinedTriggerN (inputs clock) := by
    rw [stateAt_succ, step]
    split_ifs <;> rfl
  unfold triggerFalling
  rw [before]

/-- The reports of a clock are those of the clock before it. -/
theorem reports_succ {clock : ℕ} (running : (inputs clock).initializeI = false) :
    monostableTriggerEvent (stateAt start inputs (clock + 1)) (inputs (clock + 1)) =
        (!(inputs (clock + 1)).initializeI &&
          triggerAccepted (stateAt start inputs clock) (inputs clock)) ∧
      monostableTriggerIgnored (stateAt start inputs (clock + 1)) (inputs (clock + 1)) =
        (!(inputs (clock + 1)).initializeI &&
          (triggerFalling (stateAt start inputs clock) (inputs clock) &&
            !triggerAccepted (stateAt start inputs clock) (inputs clock))) := by
  unfold monostableTriggerEvent monostableTriggerIgnored triggerAccepted
  rw [stateAt_succ, step, running, if_neg Bool.false_ne_true]
  refine ⟨rfl, ?_⟩
  cases triggerFalling (stateAt start inputs clock) (inputs clock) <;>
    cases retriggerInhibited (stateAt start inputs clock) <;> rfl

/-- A counter is empty when its ticks have passed. -/
theorem remaining_zero {width : ℕ} {counter : BitVec width} {total passed : ℕ}
    (remaining : counter.toNat = total - passed) : (counter != 0) = false ↔ total ≤ passed := by
  rw [bne_eq_false_iff_eq, ← BitVec.toNat_inj, remaining]
  change total - passed = (BitVec.ofNat width 0).toNat ↔ _
  rw [BitVec.toNat_ofNat, Nat.zero_mod]
  omega

/-- For all hold and inhibit times: an edge is accepted and the board is released by the
ticks between the clock that last loaded the counters and the clock itself, every edge is
reported once, and no counter wraps or is truncated. -/
theorem localReset_law (holdBound : p.monostableHoldTicks.toNat < 2 ^ 32 - 1)
    (inhibitBound : p.monostableRetriggerInhibitTicks.toNat ≤ p.monostableHoldTicks.toNat)
    (start : State p) (inputs : ℕ → Inputs) {last now : ℕ}
    (since : Last (starts start inputs) last now) : ResetLaw start inputs last now := by
  have small : p.monostableRetriggerInhibitTicks.toNat < 2 ^ 32 - 1 :=
    Nat.lt_of_le_of_lt inhibitBound holdBound
  rcases remaining_since holdBound small since with ⟨hold, inhibit⟩
  refine ⟨?_, ?_, reports_succ, ?_, ⟨toNat_setWidth_tickWidth holdBound, hold⟩,
    ⟨toNat_setWidth_tickWidth small, inhibit⟩⟩
  · have positive := since.before
    have shifted : now - 1 + 1 = now := by omega
    have edge := triggerFalling_succ start inputs (now - 1)
    rwa [shifted] at edge
  · intro falling
    unfold triggerAccepted retriggerInhibited
    rw [falling, Bool.true_and, Bool.not_eq_true']
    exact remaining_zero inhibit
  · unfold boardResetN monostableHoldActive
    rw [Bool.and_eq_true, Bool.not_eq_true', remaining_zero hold]

/-- A hold of one tick and no inhibition. -/
def briefParams : Params := ⟨1, 0⟩

/-- A module initialized in clock zero and triggered in every fourth clock. -/
def triggeredInputs (clock : ℕ) : Inputs where
  initializeI := clock == 0
  holdTick := clock % 3 == 0
  masterResetN := clock % 4 != 2
  soundResetAccessN := true
  soundResetTestN := true

/-- A power-up state. -/
def clearState : State briefParams := ⟨true, 0, 0, false, false⟩

theorem localReset_law_triggered : ResetLaw clearState triggeredInputs 2 5 := by
  refine localReset_law (p := briefParams) (by decide) (by decide) clearState triggeredInputs
    ⟨by omega, Or.inr (by decide +kernel), ?_⟩
  intro clock after before
  have inside : clock = 3 ∨ clock = 4 := by omega
  rintro (asserted | accepted)
  · rcases inside with rfl | rfl <;> exact absurd asserted (by decide)
  · rcases inside with rfl | rfl <;> exact absurd accepted (by decide +kernel)

end Run

end Tms32010.Board.LocalReset
