import Tms32010.Board.LocalReset
import Tms32010.Laws.MainCycles

/-!
# Sound reset from the main bus

A write of the sound reset addresses by the main 68000 pulls `/SRES` once, whatever else the
main bus does, and nothing else pulls it. While `/MRES` is inactive, each pull is one falling
edge for the monostable of the sound board.
-/

namespace Tms32010.Board.MainBus

open MainRvasTiming (State)

/-! ## What a clock does to `/SRES` -/

section SoundReset

variable {b : Bus} {s : State} {i : Inputs} {triggerN : Bool}

/-- `/SRES` is low in a strobed write of its addresses, under the held strobe. -/
theorem soundResetN_eq (s : State) (i : Inputs) :
    soundResetN s i = (i.addressStrobeN || !(i.cycle.resetsSound && s.rvasActive)) := by
  unfold soundResetN SoundReset.soundResetN SoundReset.externalBusSelectN Cycle.resetsSound
    SoundReset.soundResetN SoundReset.externalBusSelectN MainRvasTiming.rvasN Inputs.cycle
  cases i.addressStrobeN <;> cases s.rvasActive <;> simp

/-- A sound reset is an ordinary cycle. -/
theorem Cycle.ordinary_of_resetsSound {c : Cycle} (plain : c.plain = true)
    (resets : c.resetsSound = true) : c.kind = .ordinary := by
  unfold Cycle.resetsSound SoundReset.soundResetN SoundReset.externalBusSelectN at resets
  simp only [Bool.false_or, Bool.or_false, Bool.not_eq_true', Bool.or_eq_false_iff,
    bne_eq_false_iff_eq] at resets
  rcases resets with ⟨⟨region, write⟩, -⟩
  have highSpeed : MainAddressDecode.highSpeedBusSelectN c.address false = true := by
    rw [highSpeedBusSelectN_eq, region]
    rfl
  have duart : MainAddressDecode.duartSelectN c.address false = true := by
    apply duartSelectN_disabled
    rw [ramEnableN_eq, region]
    rfl
  unfold Cycle.plain at plain
  rw [write, Bool.and_false, Bool.or_false, bne_iff_ne] at plain
  unfold Cycle.kind
  rw [highSpeed, duart, beq_false_of_ne plain]
  rfl

/-- A strobed sound reset that has yet to pull `/SRES`. -/
def Bus.pulls (b : Bus) (s : State) (triggerN : Bool) : Bool :=
  b.cycle.resetsSound && (s.asSeen || s.rva) && triggerN

/-- What the last clock showed of `/SRES`. -/
def Bus.Showed (b : Bus) (s : State) (triggerN : Bool) : Prop :=
  match b.stage with
  | .free _ => triggerN = true
  | .s2 | .s3 => b.cycle.resetsSound = true → triggerN = !s.rvasActive
  | .s6 => b.cycle.resetsSound = true → triggerN = false
  | _ => True

/-- A strobe that is kept pulls `/SRES` once. -/
theorem Tracks.pulls_keeps (tracks : Tracks s b.cycle.kind b.high b.held b.stage)
    (initializing : i.initializeI = false) (edge : Edge b.high i) (busy : b.isFree = false)
    (asserted : i.addressStrobeAssert = false) (plain : b.cycle.plain = true)
    (showed : b.Showed s triggerN) (resets : b.cycle.resetsSound = true) :
    ((s.asSeen || s.rva) && triggerN).toNat =
        (triggerN && s.rvasActive).toNat +
          (((step s i).asSeen || (step s i).rva) && !s.rvasActive).toNat ∧
      (match b.advance s i with
        | .s2 | .s3 => (!s.rvasActive) = !(step s i).rvasActive
        | .s6 => (!s.rvasActive) = false
        | _ => True) := by
  have ordinary := Cycle.ordinary_of_resetsSound plain resets
  rw [ordinary] at tracks
  unfold Bus.Showed at showed
  unfold Bus.isFree at busy
  unfold Bus.advance
  generalize b.stage = stage at tracks busy showed
  cases tracks with
  | free => exact absurd busy Bool.false_ne_true.symm
  | s2 asSeen rva still sampled level =>
      have shown := showed resets
      cases edge with
      | rise _ _ _ before => exact absurd (before.symm.trans level) Bool.false_ne_true
      | level rise fall _ =>
          have levels := step_quiet (s := s) initializing rise fall asserted
          rw [levels.asSeen, levels.rvas, shown, asSeen]
          dsimp only
          rw [fall, if_neg Bool.false_ne_true]
          cases s.rvasActive <;> simp
      | fall rise fall =>
          have levels := step_fall (s := s) initializing rise fall asserted
          rw [levels.asSeen, levels.rvas, shown, asSeen, sampled]
          dsimp only
          rw [fall, if_pos rfl]
          cases s.rvasActive <;> simp
  | s3 asSeen rva early sampled level =>
      have shown := showed resets
      cases edge with
      | fall _ _ _ before => exact absurd (level.symm.trans before) Bool.false_ne_true
      | level rise fall _ =>
          have levels := step_quiet (s := s) initializing rise fall asserted
          rw [levels.asSeen, levels.rvas, shown, asSeen]
          dsimp only
          rw [rise, if_neg Bool.false_ne_true]
          cases s.rvasActive <;> simp
      | rise rise fall =>
          have levels := step_rise (s := s) initializing rise fall asserted
          rw [levels.asSeen, levels.rva, shown, asSeen]
          dsimp only
          rw [rise, if_pos rfl]
          cases s.rvasActive <;> simp
  | @s4 first asSeen rva early valid sampled level accessed waited =>
      have prompt : first = true := by
        by_contra later
        exact waited (Bool.eq_false_of_not_eq_true later) rfl
      rw [asSeen, rva, valid, prompt]
      refine ⟨by simp, ?_⟩
      dsimp only
      split_ifs <;> trivial
  | waits _ _ _ _ _ _ _ waited => exact absurd rfl waited
  | @s5 first asSeen rva early valid sampled level ready prompt =>
      rw [asSeen, rva, valid, prompt rfl]
      refine ⟨by simp, ?_⟩
      dsimp only
      split_ifs <;> trivial
  | s6 asSeen rva early valid sampled level ready =>
      rw [asSeen, rva, valid, showed resets]
      refine ⟨by simp, ?_⟩
      dsimp only
      split_ifs <;> trivial
  | ended asSeen rva early valid sampled =>
      refine ⟨?_, trivial⟩
      cases edge with
      | level rise fall _ =>
          have levels := step_quiet (s := s) initializing rise fall asserted
          rw [levels.asSeen, levels.rva, asSeen, rva, valid]
          simp
      | rise rise fall =>
          have levels := step_rise (s := s) initializing rise fall asserted
          rw [levels.asSeen, levels.rva, asSeen, rva, valid]
          simp
      | fall rise fall =>
          have levels := step_fall (s := s) initializing rise fall asserted
          rw [levels.asSeen, levels.rva, asSeen, rva, valid]
          simp
  | held _ _ _ _ _ ready => exact ready.2.elim

/-- A kept strobe does not leave the processor free. -/
theorem advance_busy (busy : b.isFree = false) (rested : Bool) :
    b.advance s i ≠ .free rested := by
  unfold Bus.isFree at busy
  unfold Bus.advance
  cases stage : b.stage with
  | free =>
      rw [stage] at busy
      exact absurd busy Bool.false_ne_true.symm
  | s2 | s3 | s4 | waits | s5 | s6 =>
      intro free
      dsimp only at free
      split_ifs at free
  | s7 =>
      intro free
      cases free

theorem Tracks.free_levels {kind : Kind} {high held rested : Bool}
    (tracks : Tracks s kind high held (.free rested)) : s.asSeen = false ∧ s.rva = false := by
  cases tracks with
  | free asSeen rva => exact ⟨asSeen, rva⟩

/-- A clock with the strobe released does not pull. -/
theorem Tracks.pulls_freed (tracks : Tracks s b.cycle.kind b.high b.held b.stage)
    (legal : b.legal s i = true) (strobeN : i.addressStrobeN = true)
    (asserted : i.addressStrobeAssert = false) (ended : s.asSeen = false ∧ s.rva = false) :
    (i.addressStrobeAssert && i.cycle.resetsSound).toNat + (b.pulls s triggerN).toNat =
        (triggerN && !soundResetN s i).toNat +
          ((b.next s i).pulls (step s i) (soundResetN s i)).toNat ∧
      (b.next s i).Showed (step s i) (soundResetN s i) := by
  rcases next_free (b := b) (s := s) strobeN with ⟨rested, stage⟩
  have next := tracks.next legal
  rw [stage] at next
  rcases next.free_levels with ⟨asSeen, rva⟩
  unfold Bus.pulls Bus.Showed
  rw [soundResetN_eq, strobeN, asserted, ended.1, ended.2, asSeen, rva, stage]
  simp

/-- A clock pulls `/SRES` for a strobed write of its addresses, once. -/
theorem Tracks.pulls (tracks : Tracks s b.cycle.kind b.high b.held b.stage)
    (legal : b.legal s i = true) (plain : b.isFree = false → b.cycle.plain = true)
    (showed : b.Showed s triggerN) :
    (i.addressStrobeAssert && i.cycle.resetsSound).toNat + (b.pulls s triggerN).toNat =
        (triggerN && !soundResetN s i).toNat +
          ((b.next s i).pulls (step s i) (soundResetN s i)).toNat ∧
      (b.next s i).Showed (step s i) (soundResetN s i) := by
  rcases legal_cases legal with ⟨initializing, edge, move⟩
  cases move with
  | idles free strobeN asserted =>
      apply tracks.pulls_freed legal strobeN asserted
      unfold Bus.isFree at free
      generalize b.stage = stage at tracks free
      cases tracks with
      | free asSeen rva => exact ⟨asSeen, rva⟩
      | s2 | s3 | s4 | waits | s5 | s6 | ended | held => exact absurd free Bool.false_ne_true
  | releases may strobeN asserted =>
      apply tracks.pulls_freed legal strobeN asserted
      unfold Bus.mayRelease at may
      generalize b.stage = stage at tracks may
      cases tracks with
      | free | s2 | s3 | s4 | s5 | s6 => exact absurd may Bool.false_ne_true
      | waits asSeen rva =>
          simp only [Bool.and_eq_true, Bool.not_eq_true'] at may
          exact ⟨asSeen, rva.trans may.1⟩
      | ended asSeen rva | held asSeen rva => exact ⟨asSeen, rva⟩
  | strobes stage strobeN asserted high _ =>
      cases edge with
      | rise _ _ absent | fall _ _ absent =>
          exact absurd (absent.symm.trans asserted) Bool.false_ne_true
      | level rise fall _ =>
          have levels := step_strobe (s := s) initializing rise fall asserted high
          unfold Bus.Showed at showed ⊢
          rw [stage] at tracks showed
          rcases tracks.free_levels with ⟨asSeen, rva⟩
          have after : (b.next s i).stage = .s2 := by
            unfold Bus.next Bus.advance
            rw [strobeN, if_neg Bool.false_ne_true, stage]
          have lines : (b.next s i).cycle = i.cycle := if_pos asserted
          have shown : triggerN = true := showed
          unfold Bus.pulls
          rw [after, soundResetN_eq, strobeN, asserted, asSeen, rva, levels.asSeen, levels.rvas,
            shown, lines]
          cases i.cycle.resetsSound <;> cases s.rvasActive <;> simp
  | keeps busy strobeN asserted same stays =>
      have lines : (b.next s i).cycle = b.cycle := by
        unfold Bus.next
        rw [asserted, if_neg Bool.false_ne_true]
      have after : (b.next s i).stage = b.advance s i := by
        unfold Bus.next
        rw [strobeN, if_neg Bool.false_ne_true]
      unfold Bus.pulls
      rw [soundResetN_eq, strobeN, asserted, same, lines, Bool.false_or]
      cases resets : b.cycle.resetsSound
      · refine ⟨by simp, ?_⟩
        unfold Bus.Showed
        rw [after, lines, resets]
        cases stage : b.advance s i with
        | free rested => exact absurd stage (advance_busy busy rested)
        | s2 | s3 | s6 => exact fun absent => absurd absent Bool.false_ne_true
        | s4 | waits | s5 | s7 => trivial
      · rcases tracks.pulls_keeps initializing edge busy asserted (plain busy) showed resets with
          ⟨conserved, shows⟩
        refine ⟨by simpa using conserved, ?_⟩
        unfold Bus.Showed
        rw [after]
        cases stage : b.advance s i with
        | free rested => exact absurd stage (advance_busy busy rested)
        | s2 | s3 | s6 =>
            intro _
            rw [stage] at shows
            simpa using shows
        | s4 | waits | s5 | s7 => trivial

end SoundReset

/-! ## Runs -/

section Run

variable {p : LocalReset.Params} (start : State) (inputs : ℕ → Inputs)
  (reset : LocalReset.State p) (holdTick masterResetN soundResetTestN : ℕ → Bool)

/-- `/SRES` in the clock before. -/
def lastResetN : ℕ → Bool
  | 0 => true
  | clock + 1 => soundResetN (stateAt start inputs clock) (inputs clock)

/-- `/SRES` falls in a clock. -/
def pullsAt (clock : ℕ) : Bool :=
  !(inputs clock).initializeI &&
    (lastResetN start inputs clock && !soundResetN (stateAt start inputs clock) (inputs clock))

/-- `/MRES` falls in a clock. -/
def masterFallsAt : ℕ → Bool
  | 0 => false
  | clock + 1 => masterResetN clock && !masterResetN (clock + 1)

/-- The inputs of the monostable. -/
def resetInputs (clock : ℕ) : LocalReset.Inputs where
  initializeI := (inputs clock).initializeI
  holdTick := holdTick clock
  masterResetN := masterResetN clock
  soundResetAccessN := soundResetN (stateAt start inputs clock) (inputs clock)
  soundResetTestN := soundResetTestN clock

/-- The monostable before a clock. -/
def resetAt : ℕ → LocalReset.State p :=
  LocalReset.stateAt reset (resetInputs start inputs holdTick masterResetN soundResetTestN)

/-- The monostable sees a falling edge in a clock. -/
def triggersAt (clock : ℕ) : Bool :=
  !(inputs clock).initializeI &&
    LocalReset.triggerFalling
      (resetAt start inputs reset holdTick masterResetN soundResetTestN clock)
      (resetInputs start inputs holdTick masterResetN soundResetTestN clock)

/-- The board reset in a clock. -/
def boardResetN (clock : ℕ) : Bool :=
  LocalReset.boardResetN (resetAt start inputs reset holdTick masterResetN soundResetTestN clock)
    (resetInputs start inputs holdTick masterResetN soundResetTestN clock)

/-- Every strobed write of the sound reset addresses pulls `/SRES` once, before the next
strobe, and nothing else does. The monostable sees these edges, and those of `/MRES`. -/
structure ResetsSound : Prop where
  once : ∀ clock, 0 < clock → (inputs clock).addressStrobeAssert = true →
    count (strobesAt inputs Cycle.resetsSound) clock = count (pullsAt start inputs) clock
  atMost : ∀ clock, 0 < clock →
    count (pullsAt start inputs) clock ≤ count (strobesAt inputs Cycle.resetsSound) clock ∧
      count (strobesAt inputs Cycle.resetsSound) clock ≤ count (pullsAt start inputs) clock + 1
  /-- A pull is in a strobed write of the addresses. -/
  own : ∀ clock, pullsAt start inputs clock = true →
    (inputs clock).addressStrobeN = false ∧ (inputs clock).cycle.resetsSound = true
  /-- A pull after a clock without `/MRES` is an edge for the monostable. -/
  edge : ∀ clock, pullsAt start inputs (clock + 1) = true → masterResetN clock = true →
    triggersAt start inputs reset holdTick masterResetN soundResetTestN (clock + 1) = true
  other : ∀ clock,
    triggersAt start inputs reset holdTick masterResetN soundResetTestN clock = true →
      pullsAt start inputs clock = true ∨ masterFallsAt masterResetN clock = true
  /-- Without `/MRES` the edges are the pulls. -/
  alone : (∀ clock, masterResetN clock = true) →
    triggersAt start inputs reset holdTick masterResetN soundResetTestN = pullsAt start inputs
  /-- An edge that is not inhibited resets the sound board. -/
  resets : ∀ clock,
    triggersAt start inputs reset holdTick masterResetN soundResetTestN clock = true →
      LocalReset.retriggerInhibited
          (resetAt start inputs reset holdTick masterResetN soundResetTestN clock) = false →
        boardResetN start inputs reset holdTick masterResetN soundResetTestN (clock + 1) = false

variable {start inputs} {clock : ℕ}

/-- The lines of a strobe that is asserted are those of a processor's cycle. -/
theorem Legal.plain (legal : Legal start inputs) (later : 0 < clock)
    (busy : (busAt start inputs clock).isFree = false) :
    (busAt start inputs clock).cycle.plain = true := by
  induction clock, later using Nat.le_induction with
  | base =>
      rw [legal.idle.2] at busy
      exact absurd busy Bool.false_ne_true.symm
  | succ clock later ih =>
      rw [legal.busAt_succ later] at busy ⊢
      rcases legal_cases (legal.legal clock later) with ⟨-, -, move⟩
      cases move with
      | idles _ strobeN | releases _ strobeN =>
          rcases next_free (b := busAt start inputs clock) (s := stateAt start inputs clock)
            strobeN with ⟨rested, stage⟩
          unfold Bus.isFree at busy
          rw [stage] at busy
          exact absurd busy Bool.false_ne_true.symm
      | strobes _ _ asserted _ plain =>
          unfold Bus.next
          rw [asserted, if_pos rfl]
          exact plain
      | keeps before _ asserted =>
          unfold Bus.next
          rw [asserted, if_neg Bool.false_ne_true]
          exact ih before

/-- Strobed writes of the addresses are the pulls so far and the one that is pending. -/
theorem Legal.pulled (legal : Legal start inputs) (later : 0 < clock) :
    count (strobesAt inputs Cycle.resetsSound) clock =
        count (pullsAt start inputs) clock +
          ((busAt start inputs clock).pulls (stateAt start inputs clock)
            (lastResetN start inputs clock)).toNat ∧
      (busAt start inputs clock).Showed (stateAt start inputs clock)
        (lastResetN start inputs clock) := by
  induction clock, later using Nat.le_induction with
  | base =>
      have idle : lastResetN start inputs (0 + 1) = true := by
        change soundResetN (stateAt start inputs 0) (inputs 0) = true
        rw [soundResetN_eq, legal.released, Bool.true_or]
      rw [idle, legal.idle.1, legal.idle.2,
        legal.count_one fun initializes => by simp [strobesAt, initializes],
        legal.count_one fun initializes => by simp [pullsAt, initializes]]
      exact ⟨rfl, rfl⟩
  | succ clock later ih =>
      rcases (legal.tracks later).pulls (legal.legal clock later) (legal.plain later) ih.2 with
        ⟨conserved, shows⟩
      have pull : pullsAt start inputs clock = (lastResetN start inputs clock &&
          !soundResetN (stateAt start inputs clock) (inputs clock)) :=
        legal.and_quiet later
      rw [legal.busAt_succ later]
      refine ⟨?_, shows⟩
      rw [count_succ, count_succ, ih.1, legal.strobesAt_eq later, pull]
      change _ = _ + _ + (((busAt start inputs clock).next _ _).pulls
        (step (stateAt start inputs clock) (inputs clock))
        (soundResetN (stateAt start inputs clock) (inputs clock))).toNat
      omega

/-- The monostable keeps the last level of its trigger. -/
theorem combinedTriggerN_succ (clock : ℕ) :
    (resetAt start inputs reset holdTick masterResetN soundResetTestN
      (clock + 1)).combinedTriggerN =
        (masterResetN clock && lastResetN start inputs (clock + 1)) := by
  change (LocalReset.step (resetAt start inputs reset holdTick masterResetN soundResetTestN clock)
    (resetInputs start inputs holdTick masterResetN soundResetTestN clock)).combinedTriggerN = _
  unfold LocalReset.step
  split_ifs <;> rfl

/-- The edges of the monostable are those of `/SRES` and `/MRES` together. -/
theorem triggersAt_succ (clock : ℕ) :
    triggersAt start inputs reset holdTick masterResetN soundResetTestN (clock + 1) =
      (!(inputs (clock + 1)).initializeI &&
        (masterResetN clock && lastResetN start inputs (clock + 1) &&
          !(masterResetN (clock + 1) &&
            soundResetN (stateAt start inputs (clock + 1)) (inputs (clock + 1))))) := by
  unfold triggersAt LocalReset.triggerFalling
  rw [combinedTriggerN_succ]
  rfl

theorem Legal.triggersAt_zero (legal : Legal start inputs) :
    triggersAt start inputs reset holdTick masterResetN soundResetTestN 0 = false := by
  unfold triggersAt
  rw [legal.initialized]
  rfl

theorem Legal.pullsAt_zero (legal : Legal start inputs) : pullsAt start inputs 0 = false := by
  unfold pullsAt
  rw [legal.initialized]
  rfl

/-- An edge that is not inhibited starts the hold time. -/
theorem resets_of_triggers (holds : 0 < p.monostableHoldTicks.toNat)
    (bounded : p.monostableHoldTicks.toNat < 2 ^ 32 - 1)
    (triggers : triggersAt start inputs reset holdTick masterResetN soundResetTestN clock = true)
    (free : LocalReset.retriggerInhibited
      (resetAt start inputs reset holdTick masterResetN soundResetTestN clock) = false) :
    boardResetN start inputs reset holdTick masterResetN soundResetTestN (clock + 1) = false := by
  unfold triggersAt at triggers
  rw [Bool.and_eq_true] at triggers
  have accepted : LocalReset.triggerAccepted
      (resetAt start inputs reset holdTick masterResetN soundResetTestN clock)
      (resetInputs start inputs holdTick masterResetN soundResetTestN clock) = true := by
    unfold LocalReset.triggerAccepted
    rw [triggers.2, free]
    rfl
  have happened : LocalReset.starts reset
      (resetInputs start inputs holdTick masterResetN soundResetTestN) clock := Or.inr accepted
  have loaded := (LocalReset.loaded happened).1
  have value : p.holdTicksValue.toNat = p.monostableHoldTicks.toNat :=
    LocalReset.toNat_setWidth_tickWidth bounded
  unfold boardResetN LocalReset.boardResetN LocalReset.monostableHoldActive
  have active : (resetAt start inputs reset holdTick masterResetN soundResetTestN
      (clock + 1)).holdRemaining ≠ 0 := by
    intro zero
    have none : p.holdTicksValue = 0 := loaded.symm.trans zero
    rw [none] at value
    simp at value
    omega
  rw [bne_iff_ne.mpr active, Bool.not_true, Bool.and_false]

/-- A write of the sound reset addresses pulls `/SRES` once, and so resets the sound board. -/
theorem mainBus_resetsSound (start : State) (inputs : ℕ → Inputs) (reset : LocalReset.State p)
    (holdTick masterResetN soundResetTestN : ℕ → Bool) (legal : Legal start inputs)
    (holds : 0 < p.monostableHoldTicks.toNat) (bounded : p.monostableHoldTicks.toNat < 2 ^ 32 - 1) :
    ResetsSound start inputs reset holdTick masterResetN soundResetTestN := by
  refine ⟨?_, ?_, ?_, ?_, ?_, ?_, ?_⟩
  · intro clock later asserted
    rw [(legal.pulled later).1]
    have tracks := legal.tracks later
    rcases legal_cases (legal.legal clock later) with ⟨-, -, move⟩
    cases move with
    | idles _ _ absent | releases _ _ absent | keeps _ _ absent =>
        exact absurd (absent.symm.trans asserted) Bool.false_ne_true
    | strobes stage =>
        rw [stage] at tracks
        rcases tracks.free_levels with ⟨asSeen, rva⟩
        unfold Bus.pulls
        rw [asSeen, rva, Bool.or_self, Bool.and_false, Bool.false_and]
        rfl
  · intro clock later
    have pulled := (legal.pulled later).1
    have small := Bool.toNat_le ((busAt start inputs clock).pulls (stateAt start inputs clock)
      (lastResetN start inputs clock))
    omega
  · intro clock pulls
    unfold pullsAt at pulls
    rw [soundResetN_eq] at pulls
    simp only [Bool.and_eq_true, Bool.not_eq_true', Bool.or_eq_false_iff,
      Bool.not_eq_false'] at pulls
    exact ⟨pulls.2.2.1, pulls.2.2.2.1⟩
  · intro clock pulls quiet
    unfold pullsAt at pulls
    simp only [Bool.and_eq_true, Bool.not_eq_true'] at pulls
    rw [triggersAt_succ, quiet, pulls.1, pulls.2.1, pulls.2.2, Bool.and_false]
    rfl
  · intro clock triggers
    cases clock with
    | zero =>
        rw [legal.triggersAt_zero] at triggers
        exact absurd triggers Bool.false_ne_true
    | succ clock =>
        rw [triggersAt_succ] at triggers
        simp only [Bool.and_eq_true, Bool.not_eq_true', Bool.and_eq_false_iff] at triggers
        rcases triggers with ⟨running, ⟨quiet, high⟩, fell | pulled⟩
        · right
          change (masterResetN clock && !masterResetN (clock + 1)) = true
          rw [quiet, fell]
          rfl
        · left
          unfold pullsAt
          rw [running, high, pulled]
          rfl
  · intro quiet
    funext clock
    cases clock with
    | zero => rw [legal.triggersAt_zero, legal.pullsAt_zero]
    | succ clock =>
        rw [triggersAt_succ, quiet, quiet, Bool.true_and, Bool.true_and]
        rfl
  · intro clock triggers free
    exact resets_of_triggers reset holdTick masterResetN soundResetTestN holds bounded triggers free

/-- A monostable of three ticks. -/
def threeTicks : LocalReset.Params := ⟨3, 1⟩

theorem mainBus_resetsSound_scripted :
    ResetsSound MainRvasTiming.idle scriptedInputs
      (⟨true, 0, 0, false, false⟩ : LocalReset.State threeTicks) (fun _ => true)
      (fun clock => clock ≠ 12) fun _ => true :=
  mainBus_resetsSound MainRvasTiming.idle scriptedInputs ⟨true, 0, 0, false, false⟩ (fun _ => true)
    (fun clock => clock ≠ 12) (fun _ => true) scripted_legal (by decide) (by decide)

end Run

end Tms32010.Board.MainBus
