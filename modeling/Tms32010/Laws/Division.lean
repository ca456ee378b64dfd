import Tms32010.Lib.Division
import Tms32010.Model.Arithmetic
import Tms32010.Rtl.Retire

/-!
# `SUBC` divides

Sixteen `SUBC` of one data word divide the accumulator by it, in the reference
model and in the core alike: each is a conditional subtraction step, and the
accumulator stays nonnegative until the last of them.
-/

namespace Tms32010

open Model

/-! ## One step -/

/-- The accumulator `SUBC` leaves. -/
def subcAccumulator (acc : BitVec 32) (word : BitVec 16) : BitVec 32 :=
  if (acc - word.setWidth 32 <<< 15).msb then acc <<< 1
  else (acc - word.setWidth 32 <<< 15) <<< 1 ||| 1

/-- Whether `SUBC` sets the overflow flag. -/
def subcFlag (acc : BitVec 32) (word : BitVec 16) : Bool :=
  acc.ssubOverflow (word.setWidth 32 <<< 15)

section Step

variable {acc : BitVec 32} {word : BitVec 16}

theorem scaled_toNat (word : BitVec 16) :
    (word.setWidth 32 <<< 15).toNat = word.toNat * 2 ^ 15 := by
  rw [BitVec.toNat_shiftLeft, BitVec.toNat_setWidth, Nat.shiftLeft_eq]
  omega

/-- On a nonnegative accumulator the borrow decides the step. -/
theorem subcAccumulator_toNat (nonnegative : acc.toNat < 2 ^ 31) :
    (subcAccumulator acc word).toNat = Division.step 16 word.toNat acc.toNat := by
  have operand := scaled_toNat word
  have bound := word.isLt
  have difference : (acc - word.setWidth 32 <<< 15).toNat =
      if word.toNat * 2 ^ 15 ≤ acc.toNat then acc.toNat - word.toNat * 2 ^ 15
      else 2 ^ 32 + acc.toNat - word.toNat * 2 ^ 15 := by
    rw [BitVec.toNat_sub, operand]
    split <;> omega
  have borrow : (acc - word.setWidth 32 <<< 15).msb =
      !decide (word.toNat * 2 ^ 15 ≤ acc.toNat) := by
    rw [BitVec.msb_eq_decide, difference]
    by_cases reaches : word.toNat * 2 ^ 15 ≤ acc.toNat
    · simp only [reaches, if_true, decide_true, Bool.not_true, decide_eq_false_iff_not]
      omega
    · simp only [reaches, if_false, decide_false, Bool.not_false, decide_eq_true_eq]
      omega
  unfold subcAccumulator Division.step
  rw [borrow]
  by_cases reaches : word.toNat * 2 ^ 15 ≤ acc.toNat
  · rw [if_pos reaches] at difference
    have bit : ((acc - word.setWidth 32 <<< 15) <<< 1 ||| 1).toNat =
        2 * (acc - word.setWidth 32 <<< 15).toNat + 1 := by
      have disjoint : (acc - word.setWidth 32 <<< 15) <<< 1 &&& 1 = 0 := by
        apply BitVec.eq_of_getLsbD_eq
        intro k _
        rcases k with _ | k <;> simp
      rw [← BitVec.add_eq_or_of_and_eq_zero _ _ disjoint, BitVec.toNat_add,
        BitVec.toNat_shiftLeft, Nat.shiftLeft_eq]
      have one : (1 : BitVec 32).toNat = 1 := rfl
      omega
    simp only [reaches, decide_true, Bool.not_true, Bool.false_eq_true, if_false, if_true, bit]
    omega
  · have doubled : (acc <<< 1).toNat = 2 * acc.toNat := by
      rw [BitVec.toNat_shiftLeft, Nat.shiftLeft_eq]
      omega
    simp only [reaches, decide_false, Bool.not_false, if_true, if_false, doubled]

/-- A nonnegative accumulator cannot overflow, the operand being nonnegative. -/
theorem subcFlag_nonnegative (nonnegative : acc.toNat < 2 ^ 31) :
    subcFlag acc word = false := by
  have operand := scaled_toNat word
  have bound := word.isLt
  have left : acc.toInt = acc.toNat := by
    rw [BitVec.toInt_eq_toNat_of_lt (by omega)]
  have right : (word.setWidth 32 <<< 15).toInt = word.toNat * 2 ^ 15 := by
    rw [BitVec.toInt_eq_toNat_of_lt (by omega), operand]
    rfl
  unfold subcFlag BitVec.ssubOverflow
  rw [left, right]
  simp
  omega

end Step

/-! ## Sixteen steps -/

section Steps

variable {dividend divisor : BitVec 16}

/-- The accumulator after `k` steps from a dividend. -/
def subcIterate (dividend divisor : BitVec 16) (k : ℕ) : BitVec 32 :=
  (subcAccumulator · divisor)^[k] (dividend.setWidth 32)

theorem subcIterate_succ (k : ℕ) :
    subcIterate dividend divisor (k + 1) =
      subcAccumulator (subcIterate dividend divisor k) divisor :=
  Function.iterate_succ_apply' ..

theorem positive_of_ne (nonzero : divisor ≠ 0) : 0 < divisor.toNat := by
  rcases Nat.eq_zero_or_pos divisor.toNat with zero | positive
  · exact absurd (BitVec.eq_of_toNat_eq zero) nonzero
  · exact positive

/-- Within sixteen steps the accumulator is the partial result. -/
theorem subcIterate_toNat (nonzero : divisor ≠ 0) {k : ℕ} (within : k ≤ 16) :
    (subcIterate dividend divisor k).toNat =
        Division.partialResult 16 divisor.toNat dividend.toNat k ∧
      (k < 16 → (subcIterate dividend divisor k).toNat < 2 ^ 31) := by
  have positive := positive_of_ne nonzero
  have early {k : ℕ} (before : k < 16) :
      Division.partialResult 16 divisor.toNat dividend.toNat k < 2 ^ 31 := by
    have upper : Division.partialResult 16 divisor.toNat dividend.toNat k ≤
        2 ^ k * dividend.toNat := Division.partialResult_le positive
    have scale : 2 ^ k ≤ 2 ^ 15 := Nat.pow_le_pow_right (by decide) (by omega)
    have product : 2 ^ k * dividend.toNat ≤ 2 ^ 15 * dividend.toNat :=
      Nat.mul_le_mul_right _ scale
    have small := dividend.isLt
    omega
  suffices value : (subcIterate dividend divisor k).toNat =
      Division.partialResult 16 divisor.toNat dividend.toNat k by
    exact ⟨value, fun before => value ▸ early before⟩
  induction k with
  | zero =>
      rw [← Division.iterate_step dividend.isLt positive (Nat.zero_le 16)]
      change (dividend.setWidth 32).toNat = dividend.toNat
      rw [BitVec.toNat_setWidth]
      omega
  | succ k ih =>
      have held := ih (by omega)
      have nonnegative : (subcIterate dividend divisor k).toNat < 2 ^ 31 := by
        rw [held]
        exact early (by omega)
      rw [subcIterate_succ, subcAccumulator_toNat nonnegative, held,
        Division.step_partialResult dividend.isLt positive (by omega)]

/-- Sixteen steps leave remainder and quotient. -/
theorem subcIterate_complete (nonzero : divisor ≠ 0) :
    (subcIterate dividend divisor 16).toNat =
      dividend.toNat % divisor.toNat * 65536 + dividend.toNat / divisor.toNat := by
  rw [(subcIterate_toNat nonzero le_rfl).1,
    ← Division.iterate_step dividend.isLt (positive_of_ne nonzero) le_rfl]
  exact Division.iterate_step_complete dividend.isLt (positive_of_ne nonzero)

end Steps

/-! ## The reference model -/

namespace Model

/-- Consecutive calls of `_conditional_subtract` with one data word. -/
def repeatConditionalSubtract (dataWord : ℕ) : ℕ → Exec Unit
  | 0 => pure ()
  | k + 1 => do
      repeatConditionalSubtract dataWord k
      conditionalSubtract dataWord

theorem repeatConditionalSubtract_run {dividend divisor : BitVec 16} (nonzero : divisor ≠ 0)
    (self : Tms32010Model) (held : self.state.acc = dividend.toNat) {k : ℕ} (within : k ≤ 16) :
    repeatConditionalSubtract divisor.toNat k self =
      EStateM.Result.ok ()
        { self with
          state := { self.state with acc := (subcIterate dividend divisor k).toNat } } := by
  induction k with
  | zero =>
      have start : (subcIterate dividend divisor 0).toNat = self.state.acc := by
        rw [held]
        change (dividend.setWidth 32).toNat = dividend.toNat
        rw [BitVec.toNat_setWidth]
        omega
      rw [start]
      rfl
  | succ k ih =>
      have nonnegative : (subcIterate dividend divisor k).toNat < 2 ^ 31 :=
        (subcIterate_toNat nonzero (show k ≤ 16 by omega)).2 (by omega)
      have unset : (subcIterate dividend divisor k).ssubOverflow
          (divisor.setWidth 32 <<< 15) = false := subcFlag_nonnegative nonnegative
      unfold repeatConditionalSubtract
      rw [bind_run, ih (by omega)]
      simp only
      have held : (subcIterate dividend divisor k).toNat =
          (subcIterate dividend divisor k).toNat := rfl
      rw [conditionalSubtract_apply _ held]
      simp only [unset, Bool.or_false]
      rw [subcIterate_succ]
      rfl

end Model

/-! ## The core -/

namespace Rtl.Core

/-- The clock of a core that issues a supported `SUBC` of `word`. -/
structure IssuesSubc (p : Params) (word : BitVec 16) (s : State) (i : Inputs) : Prop where
  running : Running i
  idle : Idle s
  entry : s.interruptEntryPending = false
  valid : instructionValid p s i = true
  operation : (decoded i).operation = .subc
  operand : ramReadData p s i = word

section Subc

variable {p : Params} {s : State} {i : Inputs} {word : BitVec 16}

theorem issueModify_accumulator (registers : Registers) :
    (issueModify s i registers).accumulator = registers.accumulator ∧
      (issueModify s i registers).overflowFlag = registers.overflowFlag := by
  unfold issueModify
  dsimp only
  split_ifs <;> exact ⟨rfl, rfl⟩

/-- A `SUBC` clock of the core makes one step. -/
theorem subc_step (issues : IssuesSubc p word s i) :
    (step p s i).accumulator = subcAccumulator s.accumulator word ∧
      (step p s i).overflowFlag = (s.overflowFlag || subcFlag s.accumulator word) := by
  rcases issues with ⟨running, idle, entry, valid, operation, operand⟩
  rcases step_running (p := p) (s := s) running with ⟨_, _, _, _, stepped⟩
  have cycle : enabledCycle p s i = issueCycle p s i := by
    unfold enabledCycle
    rw [entry, idle.control, idle.computed, idle.io, idle.table, valid]
    rfl
  have modified := issueModify_accumulator (s := s) (i := i)
    (executeOperation p s i { s.toRegisters with pc := s.pc + 1 })
  have executed : executeOperation p s i { s.toRegisters with pc := s.pc + 1 } =
      { s.toRegisters with
        pc := s.pc + 1
        accumulator := subcAccumulator s.accumulator word
        overflowFlag := s.overflowFlag || subcFlag s.accumulator word } := by
    unfold executeOperation
    simp only [operation, subcResult, subcOverflow, subcIntermediate, subcOperand, widen_eq,
      operand, subc_overflow]
    unfold subcAccumulator subcFlag
    cases s.accumulator.ssubOverflow (word.setWidth 32 <<< 15)
    · rw [Bool.or_false]
      rfl
    · rw [Bool.or_true]
      rfl
  rw [stepped, cycle]
  unfold issueCycle
  refine ⟨modified.1.trans ?_, modified.2.trans ?_⟩ <;> rw [executed]

/-- Sixteen such clocks in succession. -/
theorem subc_steps {dividend divisor : BitVec 16} (nonzero : divisor ≠ 0)
    {states : ℕ → State} {inputs : ℕ → Inputs}
    (steps : ∀ k < 16, IssuesSubc p divisor (states k) (inputs k) ∧
      states (k + 1) = step p (states k) (inputs k))
    (start : (states 0).accumulator.toNat = dividend.toNat) {k : ℕ} (within : k ≤ 16) :
    (states k).accumulator = subcIterate dividend divisor k ∧
      (states k).overflowFlag = (states 0).overflowFlag := by
  induction k with
  | zero =>
      refine ⟨?_, rfl⟩
      apply BitVec.eq_of_toNat_eq
      rw [start]
      change dividend.toNat = (dividend.setWidth 32).toNat
      rw [BitVec.toNat_setWidth]
      omega
  | succ k ih =>
      rcases ih (by omega) with ⟨accumulator, flag⟩
      rcases steps k (by omega) with ⟨issues, next⟩
      have nonnegative : (subcIterate dividend divisor k).toNat < 2 ^ 31 :=
        (subcIterate_toNat nonzero (show k ≤ 16 by omega)).2 (by omega)
      have made := subc_step issues
      rw [next, made.1, made.2, accumulator, flag, subcIterate_succ,
        subcFlag_nonnegative nonnegative, Bool.or_false]
      exact ⟨rfl, rfl⟩

end Subc

end Rtl.Core

/-! ## The law -/

/-- Sixteen `SUBC` of a nonzero word divide, in the model and in the core, and leave the
overflow flag alone; a single one gives the same accumulator and flag in both. -/
theorem subc_divides (dividend divisor : BitVec 16) (nonzero : divisor ≠ 0) :
    (∀ self : Tms32010Model, self.state.acc = dividend.toNat →
      repeatConditionalSubtract divisor.toNat 16 self =
        EStateM.Result.ok ()
          { self with
            state :=
              { self.state with
                acc := dividend.toNat % divisor.toNat * 65536 +
                  dividend.toNat / divisor.toNat } }) ∧
      (∀ (p : Rtl.Core.Params) (states : ℕ → Rtl.Core.State) (inputs : ℕ → Rtl.Core.Inputs),
        (states 0).accumulator.toNat = dividend.toNat →
        (∀ k < 16, Rtl.Core.IssuesSubc p divisor (states k) (inputs k) ∧
          states (k + 1) = Rtl.Core.step p (states k) (inputs k)) →
        (states 16).accumulator.toNat =
            dividend.toNat % divisor.toNat * 65536 + dividend.toNat / divisor.toNat ∧
          (states 16).overflowFlag = (states 0).overflowFlag) ∧
      ∀ (p : Rtl.Core.Params) (word : BitVec 16) (s : Rtl.Core.State) (i : Rtl.Core.Inputs)
          (self : Tms32010Model),
        Rtl.Core.IssuesSubc p word s i → self.state.acc = s.accumulator.toNat →
        self.state.status.ov = s.overflowFlag →
        ∃ self', conditionalSubtract word.toNat self = EStateM.Result.ok () self' ∧
          self'.state.acc = (Rtl.Core.step p s i).accumulator.toNat ∧
          self'.state.status.ov = (Rtl.Core.step p s i).overflowFlag := by
  refine ⟨?_, ?_, ?_⟩
  · intro self held
    rw [repeatConditionalSubtract_run nonzero self held le_rfl, subcIterate_complete nonzero]
  · intro p states inputs start steps
    rcases Rtl.Core.subc_steps nonzero steps start le_rfl with ⟨accumulator, flag⟩
    rw [accumulator, flag, subcIterate_complete nonzero]
    exact ⟨rfl, rfl⟩
  · intro p word s i self issues held flag
    rcases Rtl.Core.subc_step issues with ⟨accumulator, overflow⟩
    refine ⟨_, conditionalSubtract_apply self held word, ?_, ?_⟩
    · rw [accumulator]
      rfl
    · rw [overflow, ← flag]
      rfl

/-- A core with the dividend 100 in its accumulator and the divisor 7 in its data RAM. -/
def Rtl.Core.dividing : Rtl.Core.State :=
  { Rtl.Core.blank with
    accumulator := 100, dataRam := { Rtl.Core.blankRam with memory := fun _ => 7 } }

/-- A clock that issues `SUBC` of the first data word. -/
def Rtl.Core.subcClock : Rtl.Core.Inputs :=
  { Rtl.Core.restingInputs with clockEnable := true, programData := 0x6400 }

/-- The core after some of these clocks. -/
def Rtl.Core.dividingAt (k : ℕ) : Rtl.Core.State :=
  (fun s => Rtl.Core.step Rtl.Core.Params.default s Rtl.Core.subcClock)^[k] Rtl.Core.dividing

theorem Rtl.Core.dividingAt_issues {k : ℕ} (within : k < 16) :
    Rtl.Core.IssuesSubc Rtl.Core.Params.default 7 (Rtl.Core.dividingAt k)
      Rtl.Core.subcClock := by
  have checked : ∀ k < 16,
      ((dividingAt k).controlOperandPending = false ∧
        (dividingAt k).computedControlPending = false ∧
        (dividingAt k).ioPending = false ∧ (dividingAt k).tablePending = false) ∧
      (dividingAt k).interruptEntryPending = false ∧
      instructionValid Params.default (dividingAt k) subcClock = true ∧
      ramReadData Params.default (dividingAt k) subcClock = 7 := by
    decide +kernel
  rcases checked k within with ⟨⟨control, computed, io, table⟩, entry, valid, operand⟩
  exact ⟨⟨rfl, rfl, rfl, rfl⟩, ⟨control, computed, io, table⟩, entry, valid, rfl, operand⟩

/-- 100 = 14 · 7 + 2, in the model and in the core. -/
theorem subc_divides_hundred :
    repeatConditionalSubtract 7 16 { state := { acc := 100 } } =
        EStateM.Result.ok () { state := { acc := 2 * 65536 + 14 } } ∧
      (Rtl.Core.dividingAt 16).accumulator.toNat = 2 * 65536 + 14 ∧
      ∃ self', conditionalSubtract 7 { state := { acc := 100 } } = EStateM.Result.ok () self' ∧
        self'.state.acc = (Rtl.Core.dividingAt 1).accumulator.toNat ∧
        self'.state.status.ov = (Rtl.Core.dividingAt 1).overflowFlag := by
  rcases subc_divides 100 7 (by decide) with ⟨model, core, agree⟩
  refine ⟨model { state := { acc := 100 } } rfl, ?_, ?_⟩
  · refine (core Rtl.Core.Params.default Rtl.Core.dividingAt (fun _ => Rtl.Core.subcClock) rfl
      fun k within => ⟨Rtl.Core.dividingAt_issues within, ?_⟩).1
    exact Function.iterate_succ_apply' _ k Rtl.Core.dividing
  · exact agree Rtl.Core.Params.default 7 Rtl.Core.dividing Rtl.Core.subcClock
      { state := { acc := 100 } } (Rtl.Core.dividingAt_issues (k := 0) (by decide)) rfl rfl

end Tms32010
