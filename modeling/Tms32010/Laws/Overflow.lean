import Tms32010.Lib.Saturating
import Tms32010.Model.Run
import Tms32010.Rtl.Units
import Mathlib.Tactic.Linarith

/-!
# The overflow flag and saturation

When the overflow flag changes along a run of the reference model, and what the
adding and subtracting instructions leave in the accumulator, against the exact
integer result of each. The core's accumulator unit and its `ADDS` and `SUBS`
paths compute the same.
-/

namespace Tms32010

open Saturating Model

/-! ## Exact results -/

/-- The exact result of an adding or subtracting instruction. -/
def exactResult (m : Mnemonic) (r : Registers) (word operand : BitVec 16) : Option ℤ :=
  match m with
  | .add => some (r.accumulator.toInt + operand.toInt * 2 ^ (Instruction.shift word).toNat)
  | .adds => some (r.accumulator.toInt + operand.toNat)
  | .sub => some (r.accumulator.toInt - operand.toInt * 2 ^ (Instruction.shift word).toNat)
  | .subh => some (r.accumulator.toInt - operand.toInt * 2 ^ 16)
  | .subs => some (r.accumulator.toInt - operand.toNat)
  | .apac | .lta | .ltd => some (r.accumulator.toInt + r.productRegister.toInt)
  | .spac => some (r.accumulator.toInt - r.productRegister.toInt)
  | _ => none

/-- The exact intermediate difference of `SUBC`. -/
def exactIntermediate (r : Registers) (operand : BitVec 16) : ℤ :=
  r.accumulator.toInt - operand.toNat * 2 ^ 15

/-- The accumulator an adding or subtracting instruction leaves, as an unsigned word:
the exact result, or the nearest bound of a saturated one, modulo `2 ^ 32`. -/
def roundedResult (mode : Bool) (exact : ℤ) : ℤ :=
  (if mode && !decide (Fits 32 exact) then clamp 32 exact else exact) % 2 ^ 32

/-- The overflow flag after an instruction. -/
def flagAfter (m : Mnemonic) (r : Registers) (word operand : BitVec 16) : Bool :=
  match exactResult m r word operand with
  | some exact => r.overflowFlag || !decide (Fits 32 exact)
  | none =>
      if m = .subc then r.overflowFlag || !decide (Fits 32 (exactIntermediate r operand))
      else if m = .lst then operand.getLsbD 15
      else if m = .bv then false
      else r.overflowFlag

/-! ## Operands -/

section Operands

variable (operand : BitVec 16)

theorem signExtend_shift_toInt {k : ℕ} (bound : k < 16) :
    (operand.signExtend 32 <<< k).toInt = operand.toInt * 2 ^ k := by
  have lower : -32768 ≤ operand.toInt := BitVec.le_toInt operand
  have upper : operand.toInt < 32768 := BitVec.toInt_lt
  have scale : (2 : ℤ) ^ k ≤ 2 ^ 15 := pow_le_pow_right₀ (by decide) (by omega)
  have positive : (0 : ℤ) < 2 ^ k := Int.pow_pos (by decide)
  have power : BitVec.ofInt 32 ((2 : ℤ) ^ k) = BitVec.twoPow 32 k := by
    apply BitVec.eq_of_toNat_eq
    have cast : ((2 : ℤ) ^ k) = ((2 ^ k : ℕ) : ℤ) := by push_cast; rfl
    rw [cast, BitVec.ofInt_natCast, BitVec.toNat_ofNat, BitVec.toNat_twoPow]
  have whole : operand.signExtend 32 <<< k = BitVec.ofInt 32 (operand.toInt * 2 ^ k) := by
    rw [BitVec.shiftLeft_eq_mul_twoPow, BitVec.ofInt_mul, power]
    rfl
  have low := mul_le_mul_of_nonneg_right lower positive.le
  have high := mul_lt_mul_of_pos_right upper positive
  norm_num at scale
  rw [whole]
  apply BitVec.toInt_ofInt_eq_self (by decide)
  · change -2147483648 ≤ operand.toInt * 2 ^ k
    linarith
  · change operand.toInt * 2 ^ k < 2147483648
    linarith

theorem widened_toInt : (operand.setWidth 32).toInt = operand.toNat := by
  rw [BitVec.toInt_eq_toNat_of_lt (by rw [BitVec.toNat_setWidth]; omega), BitVec.toNat_setWidth]
  omega

theorem scaled_toInt : (operand.setWidth 32 <<< 15).toInt = operand.toNat * 2 ^ 15 := by
  have bound := operand.isLt
  have value : (operand.setWidth 32 <<< 15).toNat = operand.toNat * 2 ^ 15 := by
    rw [BitVec.toNat_shiftLeft, BitVec.toNat_setWidth, Nat.shiftLeft_eq]
    omega
  rw [BitVec.toInt_eq_toNat_of_lt (by omega), value]
  rfl

theorem high_toInt : (operand ++ 0#16).toInt = operand.toInt * 2 ^ 16 := by
  rw [BitVec.toInt_append]
  simp [Int.mul_comm]

end Operands

/-! ## Register transfers -/

section Transfers

variable (r : Registers)

/-- The overflow test and the saturating choice, against the exact result. -/
theorem rounded_of_overflow {x wrapped : BitVec 32} {overflow mode flag : Bool} {exact : ℤ}
    (test : overflow = true ↔ ¬Fits 32 exact) (sum : (wrapped.toNat : ℤ) = exact % 2 ^ 32)
    (side : ¬Fits 32 exact → (x.msb = true ↔ exact < 0)) :
    (if overflow then true else flag) = (flag || !decide (Fits 32 exact)) ∧
      (((if overflow && mode then signBound x else wrapped).toNat : ℕ) : ℤ) =
        roundedResult mode exact := by
  unfold roundedResult
  by_cases fits : Fits 32 exact
  · have none : overflow = false := by
      simpa [fits] using test
    simp only [none, fits, decide_true, Bool.not_true, Bool.or_false, Bool.and_false,
      Bool.false_and, Bool.false_eq_true, if_false, sum, and_self]
  · have bound := signBound_toInt x (by decide) fits (side fits)
    have some : overflow = true := test.mpr fits
    simp only [some, fits, decide_false, Bool.not_false, Bool.or_true, Bool.and_true,
      Bool.true_and, if_true, true_and]
    cases mode
    · simpa only [Bool.false_eq_true, if_false] using sum
    · simp only [if_true]
      rw [toNat_eq_emod, bound]

theorem addAccumulator_rounded (addend : BitVec 32) :
    (r.addAccumulator addend).overflowFlag =
        (r.overflowFlag || !decide (Fits 32 (r.accumulator.toInt + addend.toInt))) ∧
      ((r.addAccumulator addend).accumulator.toNat : ℤ) =
        roundedResult r.overflowMode (r.accumulator.toInt + addend.toInt) := by
  rw [Rtl.addAccumulator_eq]
  exact rounded_of_overflow (saddOverflow_iff r.accumulator addend)
    (add_toNat r.accumulator addend) (msb_iff_add_negative r.accumulator addend)

theorem subtractAccumulator_rounded (subtrahend : BitVec 32) :
    (r.subtractAccumulator subtrahend).overflowFlag =
        (r.overflowFlag || !decide (Fits 32 (r.accumulator.toInt - subtrahend.toInt))) ∧
      ((r.subtractAccumulator subtrahend).accumulator.toNat : ℤ) =
        roundedResult r.overflowMode (r.accumulator.toInt - subtrahend.toInt) := by
  rw [Rtl.subtractAccumulator_eq]
  exact rounded_of_overflow (ssubOverflow_iff r.accumulator subtrahend)
    (sub_toNat r.accumulator subtrahend) (msb_iff_sub_negative r.accumulator subtrahend)

variable (m : Mnemonic) (word operand : BitVec 16)

/-- The adding and subtracting instructions add or subtract their exact operand. -/
theorem execute_exact {exact : ℤ} (adds : exactResult m r word operand = some exact) :
    (r.execute m word operand).overflowFlag = (r.overflowFlag || !decide (Fits 32 exact)) ∧
      ((r.execute m word operand).accumulator.toNat : ℤ) =
        roundedResult r.overflowMode exact := by
  have shifted := signExtend_shift_toInt operand (Instruction.shift word).isLt
  have widened := widened_toInt operand
  have high := high_toInt operand
  cases m with
  | add =>
      cases adds
      rw [← shifted]
      exact addAccumulator_rounded r _
  | adds =>
      cases adds
      rw [← widened]
      exact addAccumulator_rounded r _
  | sub =>
      cases adds
      rw [← shifted]
      exact subtractAccumulator_rounded r _
  | subh =>
      cases adds
      rw [← high]
      exact subtractAccumulator_rounded r _
  | subs =>
      cases adds
      rw [← widened]
      exact subtractAccumulator_rounded r _
  | apac =>
      cases adds
      exact addAccumulator_rounded r _
  | spac =>
      cases adds
      exact subtractAccumulator_rounded r _
  | lta | ltd =>
      cases adds
      have rounded := addAccumulator_rounded r r.productRegister
      simp only [Registers.execute]
      exact rounded
  | _ => exact absurd adds (by simp [exactResult])

/-- The flag every instruction of one word leaves. -/
theorem execute_flag (branch : m ≠ .bv) :
    (r.execute m word operand).overflowFlag = flagAfter m r word operand := by
  cases adds : exactResult m r word operand with
  | some exact =>
      unfold flagAfter
      rw [adds]
      exact (execute_exact r m word operand adds).1
  | none =>
      unfold flagAfter
      rw [adds]
      cases m with
      | subc =>
          have overflow := ssubOverflow_iff r.accumulator (operand.setWidth 32 <<< 15)
          rw [scaled_toInt] at overflow
          have test : r.accumulator.ssubOverflow (operand.setWidth 32 <<< 15) =
              !decide (Fits 32 (exactIntermediate r operand)) := by
            rw [Bool.eq_iff_iff, overflow, Bool.not_eq_true', decide_eq_false_iff_not]
            rfl
          simp only [Registers.execute, Registers.conditionalSubtract, test, if_true]
      | bv => exact absurd rfl branch
      | lar | lark =>
          simp only [Registers.execute, Registers.setAuxiliaryRegister]
          split <;> rfl
      | abs =>
          simp only [Registers.execute, Registers.absolute]
          split <;> rfl
      | add | adds | sub | subh | subs | apac | spac | lta | ltd =>
          exact absurd adds (by simp [exactResult])
      | _ => rfl

end Transfers

/-! ## One transition -/

theorem Registers.postModify_flag (r : Registers) (m : Mnemonic) (word : BitVec 16)
    (selected : Bool) :
    (r.postModify m word selected).overflowFlag = r.overflowFlag ∧
      (r.postModify m word selected).accumulator = r.accumulator := by
  unfold Registers.postModify Registers.setAuxiliaryRegister
  dsimp only
  split_ifs <;> exact ⟨rfl, rfl⟩

theorem Registers.branch_flag (r : Registers) (m : Mnemonic) (bio : Bool)
    (target : BitVec 12) :
    (r.branch m bio target).overflowFlag = if m = .bv then false else r.overflowFlag := by
  cases m with
  | banz =>
      unfold Registers.branch Registers.setAuxiliaryRegister
      dsimp only
      split <;> rfl
  | _ => rfl

namespace Isa

theorem advanceInterrupt_registers (m : Mnemonic) (s : State) :
    (advanceInterrupt m s).toRegisters = s.toRegisters := by
  unfold advanceInterrupt
  split_ifs <;> rfl

/-- What a transition makes of the overflow flag, and of the accumulator where it adds or
subtracts. -/
structure Rounded (s : State) (outcome : Outcome) : Prop where
  entry : outcome.executed = none → outcome.state.overflowFlag = s.overflowFlag
  flag : ∀ m, outcome.executed = some m → outcome.state.overflowFlag =
    flagAfter m s.toRegisters (s.program s.pc) (operand m (s.program s.pc) s)
  accumulator : ∀ m exact, outcome.executed = some m →
    exactResult m s.toRegisters (s.program s.pc) (operand m (s.program s.pc) s) = some exact →
    (outcome.state.accumulator.toNat : ℤ) = roundedResult s.overflowMode exact
  taken : outcome.executed = some .bv → s.overflowFlag = true →
    outcome.state.pc = (s.program (s.pc + 1)).extractLsb' 0 12

section Families

variable {m : Mnemonic} {i : Input} {s : State} {outcome : Outcome}

theorem flagAfter_plain (r : Registers) (word operand : BitVec 16)
    (family : (m.computedControlFlow || m.stackAccess || m.twoWordControlFlow) = true) :
    exactResult m r word operand = none ∧
      flagAfter m r word operand = if m = .bv then false else r.overflowFlag := by
  cases m <;> first | exact ⟨rfl, rfl⟩ | exact absurd family (by decide)

theorem stepStack_rounded (family : (m.computedControlFlow || m.stackAccess) = true) :
    Rounded s (stepStack m (s.program s.pc) s) := by
  have plain (operand : BitVec 16) := flagAfter_plain (m := m) s.toRegisters (s.program s.pc)
    operand (by rw [family]; rfl)
  have held : (stepStack m (s.program s.pc) s).state.overflowFlag = s.overflowFlag := by
    unfold stepStack retire
    dsimp only
    rw [advanceInterrupt_registers]
    cases m <;> rfl
  refine ⟨fun entered => absurd entered (by simp [stepStack, retire]), ?_, ?_, ?_⟩
  · intro executed same
    cases same
    rw [held, (plain _).2, if_neg (by rintro rfl; exact absurd family (by decide))]
  · intro executed exact same adds
    cases same
    exact absurd ((plain _).1.symm.trans adds) (by simp)
  · intro same
    cases same
    exact absurd family (by decide)

theorem stepControl_rounded (control : m.twoWordControlFlow = true)
    (made : stepControl m (s.program s.pc) i s = .ok outcome) : Rounded s outcome := by
  have plain (operand : BitVec 16) := flagAfter_plain (m := m) s.toRegisters (s.program s.pc)
    operand (by rw [control, Bool.or_true])
  unfold stepControl at made
  dsimp only at made
  split_ifs at made
  rw [Except.ok.injEq] at made
  subst made
  refine ⟨fun entered => absurd entered (by simp [retire]), ?_, ?_, ?_⟩
  · intro executed same
    cases same
    unfold retire
    dsimp only
    rw [advanceInterrupt_registers, (plain _).2]
    exact Registers.branch_flag ..
  · intro executed exact same adds
    cases same
    exact absurd ((plain _).1.symm.trans adds) (by simp)
  · intro same set
    cases same
    unfold retire
    dsimp only
    rw [advanceInterrupt_registers]
    simp only [Registers.branch, Registers.branchTaken, set, if_true]

theorem stepStraight_rounded (control : m.twoWordControlFlow = false)
    (made : stepStraight m (s.program s.pc) i s = .ok outcome) : Rounded s outcome := by
  have modified := Registers.postModify_flag
    ((fetched s).execute m (s.program s.pc) (operand m (s.program s.pc) s)) m (s.program s.pc)
    s.auxiliaryRegisterPointer
  have branch : m ≠ .bv := by
    rintro rfl
    exact absurd control (by decide)
  unfold stepStraight at made
  split at made
  · exact absurd made (by simp)
  rw [Except.ok.injEq] at made
  subst made
  refine ⟨fun entered => absurd entered (by simp [retire]), ?_, ?_,
    fun same => absurd (Option.some.inj same) branch⟩
  · intro executed same
    cases same
    unfold retire
    dsimp only
    rw [advanceInterrupt_registers]
    exact modified.1.trans (execute_flag (fetched s) m _ _ branch)
  · intro executed exact same adds
    cases same
    unfold retire
    dsimp only
    rw [advanceInterrupt_registers]
    have rounded := (execute_exact (fetched s) m _ _ adds).2
    rw [← modified.2] at rounded
    exact rounded

/-- Every transition keeps the flag and rounds its result by the law. -/
theorem step_rounded (made : step i s = .ok outcome) : Rounded s outcome := by
  unfold step at made
  split_ifs at made with entry
  · rw [Except.ok.injEq] at made
    subst made
    exact ⟨fun _ => rfl, fun m same => absurd same (by simp [enterInterrupt]),
      fun m exact same => absurd same (by simp [enterInterrupt]),
      fun same => absurd same (by simp [enterInterrupt])⟩
  · split at made
    · exact absurd made (by simp)
    · rename_i m found
      unfold stepInstruction at made
      split_ifs at made with stack control
      · rw [Except.ok.injEq] at made
        subst made
        rcases stepStack_rounded (s := latchRequest i s) stack with
          ⟨entered, flag, accumulator, taken⟩
        exact ⟨entered, flag, accumulator, taken⟩
      · rcases stepControl_rounded (s := latchRequest i s) control made with
          ⟨entered, flag, accumulator, taken⟩
        exact ⟨entered, flag, accumulator, taken⟩
      · rcases stepStraight_rounded (s := latchRequest i s) (by simpa using control) made with
          ⟨entered, flag, accumulator, taken⟩
        exact ⟨entered, flag, accumulator, taken⟩

end Families

end Isa

/-! ## Runs of the model -/

namespace Model

/-- The law for one call of `step` on the model that holds `s` and observes `i`. -/
structure OverflowLaw (s : Isa.State) (trace : StepTrace) (after : Tms32010Model) : Prop where
  sets : s.overflowFlag = false → after.state.status.ov = true →
    ∃ m, trace.mnemonic = .instruction m ∧
      ((∃ exact, exactResult m s.toRegisters (s.program s.pc)
          (Isa.operand m (s.program s.pc) s) = some exact ∧ ¬Fits 32 exact) ∨
        (m = .subc ∧
          ¬Fits 32 (exactIntermediate s.toRegisters (Isa.operand m (s.program s.pc) s))) ∨
        (m = .lst ∧ (Isa.operand m (s.program s.pc) s).getLsbD 15 = true))
  clears : s.overflowFlag = true → after.state.status.ov = false →
    trace.mnemonic = .instruction .lst ∨
      (trace.mnemonic = .instruction .bv ∧
        after.state.pc = ((s.program (s.pc + 1)).extractLsb' 0 12).toNat)
  rounds : ∀ m exact, trace.mnemonic = .instruction m →
    exactResult m s.toRegisters (s.program s.pc) (Isa.operand m (s.program s.pc) s) =
      some exact →
    (after.state.acc : ℤ) = roundedResult s.overflowMode exact
  keeps : (trace.mnemonic = .interrupt ∨
      ∃ m ∈ [Mnemonic.addh, .abs, .sacl, .sach, .lac, .mpy, .mpyk],
        trace.mnemonic = .instruction m) →
    after.state.status.ov = s.overflowFlag

theorem overflowLaw_of_rounded {i : Isa.Input} {s : Isa.State} {outcome : Isa.Outcome}
    {trace : StepTrace} (rounded : Isa.Rounded s outcome)
    (label : trace.mnemonic = executedLabel outcome.executed) :
    OverflowLaw s trace (embed i outcome.state) := by
  have executed {m : Mnemonic} (named : trace.mnemonic = .instruction m) :
      outcome.executed = some m := by
    rw [label] at named
    cases found : outcome.executed with
    | none => rw [found] at named; exact absurd named (by simp [executedLabel])
    | some m' =>
        rw [found] at named
        rw [Label.instruction.inj named]
  refine ⟨?_, ?_, ?_, ?_⟩
  · intro clear set
    change outcome.state.overflowFlag = true at set
    cases found : outcome.executed with
    | none => exact absurd (clear.symm.trans ((rounded.entry found).symm.trans set)) (by decide)
    | some m =>
        refine ⟨m, by rw [label, found]; rfl, ?_⟩
        rw [rounded.flag m found] at set
        unfold flagAfter at set
        split at set
        · rename_i exact adds
          exact Or.inl ⟨exact, adds, by simpa [clear] using set⟩
        · split_ifs at set with division load branch
          · exact Or.inr (Or.inl ⟨division, by simpa [clear] using set⟩)
          · exact Or.inr (Or.inr ⟨load, set⟩)
          · exact absurd (clear.symm.trans set) (by decide)
  · intro set clear
    change outcome.state.overflowFlag = false at clear
    cases found : outcome.executed with
    | none => exact absurd (set.symm.trans ((rounded.entry found).symm.trans clear)) (by decide)
    | some m =>
        rw [rounded.flag m found] at clear
        unfold flagAfter at clear
        split at clear
        · exact absurd clear (by simp [set])
        · split_ifs at clear with division load branch
          · exact absurd clear (by simp [set])
          · exact Or.inl (by rw [label, found, load]; rfl)
          · refine Or.inr ⟨by rw [label, found, branch]; rfl, ?_⟩
            rw [branch] at found
            exact congrArg BitVec.toNat (rounded.taken found set)
          · exact absurd (set.symm.trans clear) (by decide)
  · intro m exact named adds
    exact rounded.accumulator m exact (executed named) adds
  · rintro (named | ⟨m, listed, named⟩)
    · refine rounded.entry ?_
      cases found : outcome.executed with
      | none => rfl
      | some m => rw [label, found] at named; exact absurd named (by simp [executedLabel])
    · refine (rounded.flag m (executed named)).trans ?_
      simp only [List.mem_cons, List.not_mem_nil, or_false] at listed
      rcases listed with rfl | rfl | rfl | rfl | rfl | rfl | rfl <;> rfl

/-- Every call of an exception-free run obeys the law. -/
theorem trajectory_overflowLaw {inputs : List Isa.Input} {calls : List (StepTrace × Tms32010Model)}
    (i : Isa.Input) (s : Isa.State) (run : trajectory (embed i s) inputs = .ok calls) :
    Along (fun before call => ∃ pins t, before = embed pins t ∧ OverflowLaw t call.1 call.2)
      (embed i s) inputs calls := by
  induction inputs generalizing i s calls with
  | nil =>
      cases run
      exact trivial
  | cons pins rest ih =>
      have called := step_embed pins s
      cases made : Isa.step pins s with
      | error fault =>
          rw [made] at called
          simp only [trajectory, drive_embed, called] at run
          exact absurd run (by simp)
      | ok outcome =>
          rw [made] at called
          rcases called with ⟨trace, called, label, -⟩
          simp only [trajectory, drive_embed, called] at run
          cases tail : trajectory (embed pins outcome.state) rest with
          | error error =>
              rw [tail] at run
              exact absurd run (by simp)
          | ok later =>
              rw [tail] at run
              cases run
              refine ⟨⟨pins, s, drive_embed i pins s,
                overflowLaw_of_rounded (Isa.step_rounded made) label⟩, ?_⟩
              exact ih pins outcome.state tail

end Model

/-! ## The core -/

namespace Rtl.Core

section Shortcuts

variable (p : Params) (s : State) (i : Inputs)

/-- The `ADDS` shortcut is the signed addition of the widened word. -/
theorem executeOperation_adds (operation : (decoded i).operation = .adds) :
    executeOperation p s i { s.toRegisters with pc := s.pc + 1 } =
      Registers.addAccumulator { s.toRegisters with pc := s.pc + 1 }
        ((ramReadData p s i).setWidth 32) := by
  unfold executeOperation
  simp only [operation, addsOverflow, addsWrappedResult, widen_eq, Registers.addAccumulator]
  rw [adds_overflow]
  cases overflow : s.accumulator.saddOverflow ((ramReadData p s i).setWidth 32)
  · rfl
  · have positive : s.accumulator.msb = false := by
      rw [← adds_overflow, Bool.and_eq_true, Bool.not_eq_true'] at overflow
      exact overflow.1
    simp only [if_true, positive, Bool.false_eq_true, if_false]
    rfl

/-- The `SUBS` shortcut is the signed subtraction of the widened word. -/
theorem executeOperation_subs (operation : (decoded i).operation = .subs) :
    executeOperation p s i { s.toRegisters with pc := s.pc + 1 } =
      Registers.subtractAccumulator { s.toRegisters with pc := s.pc + 1 }
        ((ramReadData p s i).setWidth 32) := by
  unfold executeOperation
  simp only [operation, subsOverflow, subsWrappedResult, widen_eq, Registers.subtractAccumulator]
  rw [subs_overflow]
  cases overflow : s.accumulator.ssubOverflow ((ramReadData p s i).setWidth 32)
  · rfl
  · have negative : s.accumulator.msb = true := by
      rw [← subs_overflow, Bool.and_eq_true] at overflow
      exact overflow.1
    simp only [if_true, negative]
    rfl

end Shortcuts

end Rtl.Core

/-- The accumulator and the flag a core register file holds are the model's. -/
def Model.Accumulates (result : EStateM.Result Model.Error Model.Tms32010Model Unit)
    (accumulator : BitVec 32) (overflowFlag : Bool) : Prop :=
  ∃ self, result = .ok () self ∧ self.state.acc = accumulator.toNat ∧
    self.state.status.ov = overflowFlag

/-- The accumulator unit and the two shortcuts compute what the model's helpers do, for
every operand and mode. -/
structure Rtl.AccumulatorAgrees (p : Rtl.Core.Params) : Prop where
  add : ∀ (self : Tms32010Model) (r : Registers) (operand : BitVec 32),
    Accumulates (addAccumulator operand.toNat (withRegisters self r))
      (Rtl.accumulatorUnit r.accumulator operand false r.overflowMode).result
      (r.overflowFlag ||
        (Rtl.accumulatorUnit r.accumulator operand false r.overflowMode).overflow)
  subtract : ∀ (self : Tms32010Model) (r : Registers) (operand : BitVec 32),
    Accumulates (subtractAccumulator operand.toNat (withRegisters self r))
      (Rtl.accumulatorUnit r.accumulator operand true r.overflowMode).result
      (r.overflowFlag ||
        (Rtl.accumulatorUnit r.accumulator operand true r.overflowMode).overflow)
  adds : ∀ (self : Tms32010Model) (s : Rtl.Core.State) (i : Rtl.Core.Inputs),
    (Rtl.Core.decoded i).operation = .adds →
    Accumulates
      (addAccumulator (Rtl.Core.ramReadData p s i).toNat (withRegisters self s.toRegisters))
      (Rtl.Core.executeOperation p s i { s.toRegisters with pc := s.pc + 1 }).accumulator
      (Rtl.Core.executeOperation p s i { s.toRegisters with pc := s.pc + 1 }).overflowFlag
  subs : ∀ (self : Tms32010Model) (s : Rtl.Core.State) (i : Rtl.Core.Inputs),
    (Rtl.Core.decoded i).operation = .subs →
    Accumulates
      (subtractAccumulator (Rtl.Core.ramReadData p s i).toNat (withRegisters self s.toRegisters))
      (Rtl.Core.executeOperation p s i { s.toRegisters with pc := s.pc + 1 }).accumulator
      (Rtl.Core.executeOperation p s i { s.toRegisters with pc := s.pc + 1 }).overflowFlag

theorem Rtl.accumulatorAgrees (p : Rtl.Core.Params) : Rtl.AccumulatorAgrees p where
  add self r operand := by
    refine ⟨_, addAccumulator_run self r operand, ?_⟩
    rw [Rtl.addAccumulator_eq, Rtl.accumulatorUnit_add]
    refine ⟨rfl, ?_⟩
    cases overflow : r.accumulator.saddOverflow operand <;>
      simp [withRegisters, embedRegisters]
  subtract self r operand := by
    refine ⟨_, subtractAccumulator_run self r operand, ?_⟩
    rw [Rtl.subtractAccumulator_eq, Rtl.accumulatorUnit_subtract]
    refine ⟨rfl, ?_⟩
    cases overflow : r.accumulator.ssubOverflow operand <;>
      simp [withRegisters, embedRegisters]
  adds self s i operation := by
    have widened := addAccumulator_run self s.toRegisters ((Rtl.Core.ramReadData p s i).setWidth 32)
    rw [BitVec.toNat_setWidth, word_mod_acc] at widened
    refine ⟨_, widened, ?_⟩
    rw [Rtl.Core.executeOperation_adds p s i operation, Rtl.addAccumulator_eq,
      Rtl.addAccumulator_eq]
    exact ⟨rfl, rfl⟩
  subs self s i operation := by
    have widened :=
      subtractAccumulator_run self s.toRegisters ((Rtl.Core.ramReadData p s i).setWidth 32)
    rw [BitVec.toNat_setWidth, word_mod_acc] at widened
    refine ⟨_, widened, ?_⟩
    rw [Rtl.Core.executeOperation_subs p s i operation, Rtl.subtractAccumulator_eq,
      Rtl.subtractAccumulator_eq]
    exact ⟨rfl, rfl⟩

/-- Along every exception-free run of a model within its widths, the overflow flag and
the accumulator obey the law, and the core computes the same sums and differences. -/
theorem overflow_law (p : Rtl.Core.Params) (self : Tms32010Model) (wellFormed : self.WellFormed)
    (inputs : List Isa.Input) (calls : List (StepTrace × Tms32010Model))
    (run : trajectory self inputs = .ok calls) :
    Along (fun before call => ∃ i s, before = embed i s ∧ OverflowLaw s call.1 call.2)
        self inputs calls ∧
      Rtl.AccumulatorAgrees p := by
  rcases wellFormed.exists_embed with ⟨i, s, rfl⟩
  exact ⟨trajectory_overflowLaw i s run, Rtl.accumulatorAgrees p⟩

/-- A model that adds one to the largest accumulator, and then sets the overflow mode and
subtracts one from the smallest. -/
def overflowing : Tms32010Model :=
  { state := { acc := 0x7fffffff },
    program := [0x0000, 0x7f8b, 0x1000] ++ (List.replicate programWords 0).drop 3,
    data := List.replicate dataWords 1 }

theorem overflowing_wellFormed : overflowing.WellFormed :=
  { @Tms32010Model.WellFormed.loaded {} constructed_wellFormed [0x0000, 0x7f8b, 0x1000] (by decide)
      (by decide) with
    state := { constructed_wellFormed.state with acc := by decide }
    dataLength := List.length_replicate
    data := by simp [overflowing] }

/-- The sum wraps and the difference saturates. -/
theorem overflow_law_overflowing :
    ∃ calls, trajectory overflowing (List.replicate 3 ⟨true, true, fun _ => 0⟩) = .ok calls ∧
      calls.map (fun call => (call.2.state.acc, call.2.state.status.ov)) =
        [(0x80000000, true), (0x80000000, true), (0x80000000, true)] ∧
      Along (fun before call => ∃ i s, before = embed i s ∧ OverflowLaw s call.1 call.2)
        overflowing (List.replicate 3 ⟨true, true, fun _ => 0⟩) calls ∧
      Rtl.AccumulatorAgrees Rtl.Core.Params.default :=
  ⟨_, rfl, rfl, overflow_law Rtl.Core.Params.default overflowing overflowing_wellFormed
    (List.replicate 3 ⟨true, true, fun _ => 0⟩) _ rfl⟩

end Tms32010
