import Mathlib.Data.BitVec
import Mathlib.Tactic.SplitIfs
import Tms32010.Lib.Timeline

/-!
# BIO generator

`hard_drivin_sound_bio_generator`: a divider of the 1 MHz clock that reloads every
fifty ticks, the raw flip-flop its terminal count clears, and the flip-flop that
samples it on the rising edge of `CLKOUT`.
-/

namespace Tms32010.Board.BioGenerator

open Timeline

/-! ## The module -/

/-- The registers behind the outputs. -/
structure State where
  dividerState : BitVec 8
  dividerPhaseValid : Bool
  raw320BioN : Bool
  raw320BioValid : Bool
  bioN : Bool
  bioValid : Bool
  deriving DecidableEq, Repr

/-- The inputs of one clock. -/
structure Inputs where
  initializeI : Bool
  boardResetN : Bool
  oneMhzRise : Bool
  clkoutRise : Bool
  counterSeed : BitVec 8
  counterSeedValid : Bool
  deriving DecidableEq, Repr

/-- `DIVIDER_PRELOAD`. -/
def dividerPreload : BitVec 8 := 0xce

section Step

variable (s : State) (i : Inputs)

/-- `terminal_count`. -/
def terminalCount : Bool := s.dividerState == 0xff

/-- The registers after an initialisation. -/
def initial : State where
  dividerState := i.counterSeed
  dividerPhaseValid := i.counterSeedValid
  raw320BioN := true
  raw320BioValid := !i.boardResetN
  bioN := true
  bioValid := false

/-- The raw flip-flop and its validity after a clock. -/
def nextRaw : Bool × Bool :=
  if !i.boardResetN then (true, true)
  else if i.oneMhzRise then (!terminalCount s, s.dividerPhaseValid || terminalCount s)
  else (s.raw320BioN, s.raw320BioValid)

/-- The divider and its validity after a clock. -/
def nextDivider : BitVec 8 × Bool :=
  if i.oneMhzRise then
    if terminalCount s then (dividerPreload, true) else (s.dividerState + 1, s.dividerPhaseValid)
  else (s.dividerState, s.dividerPhaseValid)

/-- The resampled flip-flop and its validity after a clock. -/
def nextBio : Bool × Bool :=
  if i.clkoutRise then (s.raw320BioN, s.raw320BioValid) else (s.bioN, s.bioValid)

/-- One clock edge. -/
def step : State :=
  if i.initializeI then initial i
  else
    { dividerState := (nextDivider s i).1
      dividerPhaseValid := (nextDivider s i).2
      raw320BioN := (nextRaw s i).1
      raw320BioValid := (nextRaw s i).2
      bioN := (nextBio s i).1
      bioValid := (nextBio s i).2 }

/-- A clock without an initialisation. -/
theorem step_running {s : State} {i : Inputs} (running : i.initializeI = false) :
    step s i =
      { dividerState := (nextDivider s i).1
        dividerPhaseValid := (nextDivider s i).2
        raw320BioN := (nextRaw s i).1
        raw320BioValid := (nextRaw s i).2
        bioN := (nextBio s i).1
        bioValid := (nextBio s i).2 } := by
  rw [step, running, if_neg Bool.false_ne_true]

theorem terminalCount_iff : terminalCount s = true ↔ s.dividerState.toNat = 255 := by
  unfold terminalCount
  rw [beq_iff_eq, ← BitVec.toNat_inj]
  rfl

/-- A tick counts up, or reloads the divider at its terminal count. -/
theorem nextDivider_toNat : (nextDivider s i).1.toNat =
    if i.oneMhzRise then
      if s.dividerState.toNat = 255 then 206 else s.dividerState.toNat + 1
    else s.dividerState.toNat := by
  unfold nextDivider
  cases i.oneMhzRise
  · rfl
  · rw [if_pos rfl, if_pos rfl]
    by_cases last : s.dividerState.toNat = 255
    · rw [(terminalCount_iff s).mpr last, if_pos rfl, if_pos last]
      rfl
    · have within : ¬terminalCount s = true := fun reached => last ((terminalCount_iff s).mp reached)
      rw [if_neg within, if_neg last]
      have small := s.dividerState.isLt
      bv_omega

end Step

/-! ## Runs -/

section Run

variable (start : State) (inputs : ℕ → Inputs)

/-- The state before a clock. -/
def stateAt : ℕ → State := state step start inputs

/-- A clock initializes the module. -/
def initializes (clock : ℕ) : Prop := (inputs clock).initializeI = true

/-- The 1 MHz ticks. -/
def ticks (clock : ℕ) : Bool := (inputs clock).oneMhzRise

/-- A rise of `CLKOUT` that the module samples on. -/
def samples (clock : ℕ) : Prop :=
  (inputs clock).initializeI = false ∧ (inputs clock).clkoutRise = true

/-- A tick that the board reset lets through to the raw flip-flop. -/
def updatesRaw (clock : ℕ) : Prop :=
  (inputs clock).boardResetN = true ∧ (inputs clock).oneMhzRise = true

variable {start inputs} {first now : ℕ}

theorem stateAt_succ (clock : ℕ) :
    stateAt start inputs (clock + 1) = step (stateAt start inputs clock) (inputs clock) :=
  rfl

/-- The position of the divider after some ticks from a seed: it counts up to 255 once
and then goes round the fifty values from 206. -/
def position (seed count : ℕ) : ℕ :=
  if seed + count ≤ 255 then seed + count else 206 + (seed + count - 256) % 50

theorem position_first {seed count : ℕ} (early : seed + count ≤ 255) :
    position seed count = seed + count :=
  if_pos early

theorem position_round {seed count : ℕ} (late : 256 ≤ seed + count) :
    position seed count = 206 + (seed + count - 256) % 50 :=
  if_neg (by omega)

theorem position_succ (seed count : ℕ) :
    position seed (count + 1) =
      if position seed count = 255 then 206 else position seed count + 1 := by
  rcases Nat.lt_trichotomy (seed + count) 255 with below | here | above
  · have next := position_first (show seed + (count + 1) ≤ 255 by omega)
    have same := position_first (show seed + count ≤ 255 by omega)
    rw [next, same, if_neg (by omega)]
    omega
  · have next := position_round (show 256 ≤ seed + (count + 1) by omega)
    have same := position_first (show seed + count ≤ 255 by omega)
    have zero : seed + (count + 1) - 256 = 0 := by omega
    rw [next, same, if_pos here, zero]
  · have next := position_round (show 256 ≤ seed + (count + 1) by omega)
    have same := position_round (show 256 ≤ seed + count by omega)
    have more : seed + (count + 1) - 256 = (seed + count - 256) + 1 := by omega
    rw [next, same, more]
    generalize seed + count - 256 = turns
    split_ifs <;> omega

/-- The divider stands where the ticks since the initialisation have brought it. -/
theorem divider_since (start : State) (since : Last (initializes inputs) first now) :
    (stateAt start inputs now).dividerState.toNat =
      position (inputs first).counterSeed.toNat (between (ticks inputs) first now) := by
  induction since using Last.induction with
  | starts happened =>
      have asserted : (inputs first).initializeI = true := happened
      have small := (inputs first).counterSeed.isLt
      rw [stateAt_succ, step, asserted, if_pos rfl, between_succ_self]
      unfold initial position
      rw [if_pos (by omega), Nat.add_zero]
  | persists clock since absent ih =>
      have running : (inputs clock).initializeI = false := by
        simpa [initializes] using absent
      rw [stateAt_succ, step_running running, between_succ since.before]
      have divided := nextDivider_toNat (stateAt start inputs clock) (inputs clock)
      cases tick : (inputs clock).oneMhzRise
      · have quiet : ticks inputs clock = false := tick
        rw [tick, if_neg Bool.false_ne_true] at divided
        rw [quiet, Bool.toNat_false, Nat.add_zero, ← ih]
        exact divided
      · have counted : ticks inputs clock = true := tick
        rw [tick, if_pos rfl, ih] at divided
        rw [counted, Bool.toNat_true, position_succ]
        exact divided

/-- The ticks with a terminal count: the first within 256, then every fiftieth. -/
theorem terminalCount_since (since : Last (initializes inputs) first now) :
    terminalCount (stateAt start inputs now) = true ↔
      255 ≤ (inputs first).counterSeed.toNat + between (ticks inputs) first now ∧
        50 ∣ (inputs first).counterSeed.toNat + between (ticks inputs) first now - 255 := by
  have divider := divider_since start since
  rw [terminalCount_iff, divider]
  unfold position
  split_ifs <;> omega

/-! ## The two flip-flops -/

/-- Nothing but an initialisation makes the phase of the divider invalid again. -/
theorem phaseValid_kept {clock : ℕ} (running : (inputs clock).initializeI = false)
    (valid : (stateAt start inputs clock).dividerPhaseValid = true) :
    (stateAt start inputs (clock + 1)).dividerPhaseValid = true := by
  rw [stateAt_succ, step_running running]
  change (nextDivider _ _).2 = true
  unfold nextDivider
  split_ifs
  · rfl
  · exact valid
  · exact valid

/-- A tick outside the board reset clears the raw flip-flop at the terminal count. -/
theorem raw_tick {clock : ℕ} (running : (inputs clock).initializeI = false)
    (update : updatesRaw inputs clock) :
    (stateAt start inputs (clock + 1)).raw320BioN =
      !terminalCount (stateAt start inputs clock) := by
  rw [stateAt_succ, step_running running]
  change (nextRaw _ _).1 = _
  unfold nextRaw
  rw [update.1, update.2]
  rfl

/-- The board reset holds the raw flip-flop high until the next tick it lets through. -/
theorem raw_reset {held : ℕ} (before : held < now) (reset : (inputs held).boardResetN = false)
    (quiet : ∀ clock, held < clock → clock < now → ¬updatesRaw inputs clock) :
    (stateAt start inputs now).raw320BioN = true := by
  induction now, before using Nat.le_induction with
  | base =>
      rw [stateAt_succ, step]
      split_ifs
      · rfl
      · unfold nextRaw
        rw [reset]
        rfl
  | succ now before ih =>
      have raw : (stateAt start inputs now).raw320BioN = true := by
        apply ih
        intro clock after earlier
        exact quiet clock after (Nat.lt_succ_of_lt earlier)
      have blocked := quiet now before (Nat.lt_succ_self now)
      rw [stateAt_succ, step]
      split_ifs
      · rfl
      · change (nextRaw _ _).1 = true
        unfold nextRaw
        unfold updatesRaw at blocked
        cases released : (inputs now).boardResetN
        · rfl
        · cases tick : (inputs now).oneMhzRise
          · exact raw
          · exact absurd ⟨released, tick⟩ blocked

/-- The outputs are the raw flip-flop and its validity as the last rise of `CLKOUT`
since the initialisation found them. -/
theorem bio_since {last : ℕ} (since : Last (initializes inputs) first now)
    (sampled : Last (samples inputs) last now) (later : first < last) :
    (stateAt start inputs now).bioN = (stateAt start inputs last).raw320BioN ∧
      (stateAt start inputs now).bioValid = (stateAt start inputs last).raw320BioValid := by
  have quiet := since.quiet
  induction sampled using Last.induction with
  | starts happened =>
      rw [stateAt_succ, step_running happened.1]
      unfold nextBio
      rw [happened.2]
      exact ⟨rfl, rfl⟩
  | persists clock sampled absent ih =>
      have running : (inputs clock).initializeI = false := by
        simpa [initializes] using
          quiet clock (Nat.lt_trans later sampled.before) (Nat.lt_succ_self clock)
      have still : (inputs clock).clkoutRise = false := by
        simpa [samples, running] using absent
      have since' : Last (initializes inputs) first clock := by
        refine ⟨Nat.lt_trans later sampled.before, since.happened, ?_⟩
        intro earlier after before
        exact quiet earlier after (Nat.lt_succ_of_lt before)
      rw [stateAt_succ, step_running running]
      unfold nextBio
      rw [still]
      exact ih since' since'.quiet

/-- Before the first rise of `CLKOUT` since the initialisation the outputs are not valid. -/
theorem bio_unsampled (since : Last (initializes inputs) first now)
    (unsampled : ∀ clock, first < clock → clock < now → ¬samples inputs clock) :
    (stateAt start inputs now).bioValid = false := by
  induction since using Last.induction with
  | starts happened =>
      have asserted : (inputs first).initializeI = true := happened
      rw [stateAt_succ, step, asserted]
      rfl
  | persists clock since absent ih =>
      have running : (inputs clock).initializeI = false := by
        simpa [initializes] using absent
      have still : (inputs clock).clkoutRise = false := by
        simpa [samples, running] using
          unsampled clock since.before (Nat.lt_succ_self clock)
      rw [stateAt_succ, step_running running]
      unfold nextBio
      rw [still]
      apply ih
      intro earlier after before
      exact unsampled earlier after (Nat.lt_succ_of_lt before)

/-! ## The law -/

/-- What the outputs show `now`, after the last initialisation in clock `first`. -/
structure BioLaw (start : State) (inputs : ℕ → Inputs) (first now : ℕ) : Prop where
  terminal : terminalCount (stateAt start inputs now) = true ↔
    ∃ round, between (ticks inputs) first now + 1 =
      256 - (inputs first).counterSeed.toNat + 50 * round
  raw : (inputs now).initializeI = false → updatesRaw inputs now →
    ((stateAt start inputs (now + 1)).raw320BioN = false ↔
      terminalCount (stateAt start inputs now) = true)
  held : ∀ reset, reset < now → (inputs reset).boardResetN = false →
    (∀ clock, reset < clock → clock < now → ¬updatesRaw inputs clock) →
      (stateAt start inputs now).raw320BioN = true
  phase : ∀ valid, first < valid → valid ≤ now →
    (stateAt start inputs valid).dividerPhaseValid = true →
      (stateAt start inputs now).dividerPhaseValid = true
  sampled : ∀ last, first < last → Last (samples inputs) last now →
    (stateAt start inputs now).bioN = (stateAt start inputs last).raw320BioN ∧
      (stateAt start inputs now).bioValid = (stateAt start inputs last).raw320BioValid
  unsampled : (∀ clock, first < clock → clock < now → ¬samples inputs clock) →
    (stateAt start inputs now).bioValid = false

/-- In every clock after an initialisation: the tick with number `256 - seed` is the first
terminal count and every fiftieth after it is one, whatever the board reset does; the raw
output, the validity of the divider and the sampled output are as `BioLaw` says. -/
theorem bioGenerator_law (start : State) (inputs : ℕ → Inputs) {first now : ℕ}
    (since : Last (initializes inputs) first now) : BioLaw start inputs first now := by
  refine ⟨?_, ?_, ?_, ?_, ?_, bio_unsampled since⟩
  · have small := (inputs first).counterSeed.isLt
    rw [terminalCount_since since]
    constructor
    · rintro ⟨reached, round, multiple⟩
      refine ⟨round, ?_⟩
      omega
    · rintro ⟨round, reached⟩
      refine ⟨by omega, round, ?_⟩
      omega
  · intro running update
    rw [raw_tick running update, Bool.not_eq_false']
  · intro reset before low quiet
    exact raw_reset before low quiet
  · intro valid after early phase
    induction now, early using Nat.le_induction with
    | base => exact phase
    | succ now early ih =>
        have since' : Last (initializes inputs) first now := by
          refine ⟨Nat.lt_of_lt_of_le after early, since.happened, ?_⟩
          intro clock later before
          exact since.quiet clock later (Nat.lt_succ_of_lt before)
        have running : (inputs now).initializeI = false := by
          simpa [initializes] using
            since.quiet now since'.before (Nat.lt_succ_self now)
        exact phaseValid_kept running (ih since')
  · intro last later sampled
    exact bio_since since sampled later

/-- A module initialized in clock zero, with a tick in every even clock and a rise of
`CLKOUT` in every third odd one. -/
def dividedInputs (clock : ℕ) : Inputs where
  initializeI := clock == 0
  boardResetN := clock % 7 != 0
  oneMhzRise := clock % 2 == 0
  clkoutRise := clock % 6 == 1
  counterSeed := 0x10
  counterSeedValid := false

/-- A power-up state. -/
def clearState : State := ⟨0, false, false, false, false, false⟩

theorem bioGenerator_law_divided : BioLaw clearState dividedInputs 0 600 := by
  refine bioGenerator_law clearState dividedInputs ⟨by omega, rfl, ?_⟩
  intro clock after _ happened
  have zero : clock = 0 := by
    simpa [initializes, dividedInputs] using happened
  omega

end Run

end Tms32010.Board.BioGenerator
