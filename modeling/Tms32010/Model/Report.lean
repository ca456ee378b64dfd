import Tms32010.Lib.Returning
import Tms32010.Model.Refinement

/-!
# What a trace reports

The trace of an executed instruction names the program counter, the word found there, the
mnemonic `_decode` makes of it, and in its `operands` every entry of the decoded
dictionary.
-/

namespace Tms32010.Model

open Returning

/-- Every key of one dictionary has the same entry in another. -/
structure Operands.Within (first second : Operands) : Prop where
  constant : ∀ x ∈ first.constant, x ∈ second.constant
  indirect : ∀ x ∈ first.indirect, x ∈ second.indirect
  addressingField : ∀ x ∈ first.addressingField, x ∈ second.addressingField
  shift : ∀ x ∈ first.shift, x ∈ second.shift
  port : ∀ x ∈ first.port, x ∈ second.port
  auxiliaryRegister : ∀ x ∈ first.auxiliaryRegister, x ∈ second.auxiliaryRegister
  programAddress : ∀ x ∈ first.programAddress, x ∈ second.programAddress
  branchTaken : ∀ x ∈ first.branchTaken, x ∈ second.branchTaken
  effectiveAddress : ∀ x ∈ first.effectiveAddress, x ∈ second.effectiveAddress
  moveAddress : ∀ x ∈ first.moveAddress, x ∈ second.moveAddress
  returnAddress : ∀ x ∈ first.returnAddress, x ∈ second.returnAddress
  vector : ∀ x ∈ first.vector, x ∈ second.vector

/-- The dictionary `_decode` returns, which later code only adds to. -/
structure Operands.Decoded (operands : Operands) : Prop where
  programAddress : operands.programAddress = none
  branchTaken : operands.branchTaken = none
  effectiveAddress : operands.effectiveAddress = none
  moveAddress : operands.moveAddress = none
  returnAddress : operands.returnAddress = none
  vector : operands.vector = none

/-- What a trace says of the instruction it is about. -/
structure Reports (pc opcode : ℕ) (m : Mnemonic) (operands : Operands) (trace : StepTrace) :
    Prop where
  pc : trace.pc = pc
  opcode : trace.opcode = opcode
  mnemonic : trace.mnemonic = .instruction m
  operands : operands.Within trace.operands

section Reports

variable {self : Tms32010Model} {pc opcode : ℕ} {m : Mnemonic} {operands : Operands}
  {transactions : List Transaction}

theorem Operands.Within.refl (operands : Operands) : operands.Within operands := by
  constructor <;> exact fun _ present => present

theorem Operands.Within.trans {first second third : Operands} (one : first.Within second)
    (two : second.Within third) : first.Within third := by
  constructor
  · exact fun x present => two.constant x (one.constant x present)
  · exact fun x present => two.indirect x (one.indirect x present)
  · exact fun x present => two.addressingField x (one.addressingField x present)
  · exact fun x present => two.shift x (one.shift x present)
  · exact fun x present => two.port x (one.port x present)
  · exact fun x present => two.auxiliaryRegister x (one.auxiliaryRegister x present)
  · exact fun x present => two.programAddress x (one.programAddress x present)
  · exact fun x present => two.branchTaken x (one.branchTaken x present)
  · exact fun x present => two.effectiveAddress x (one.effectiveAddress x present)
  · exact fun x present => two.moveAddress x (one.moveAddress x present)
  · exact fun x present => two.returnAddress x (one.returnAddress x present)
  · exact fun x present => two.vector x (one.vector x present)

theorem finish_reports {later : Operands} (cycles : ℕ) (within : operands.Within later) :
    Returns self (Reports pc opcode m operands)
      (finish pc opcode m later cycles transactions) := by
  unfold finish
  refine returns_bind fun _ _ _ => ?_
  refine returns_bind fun _ _ _ => ?_
  refine returns_bind fun stateAfter _ _ => ?_
  exact returns_pure ⟨rfl, rfl, rfl, within⟩

/-- The handlers of the branches add to a dictionary without a register. -/
theorem executeControl_within (target : ℕ) (register : operands.auxiliaryRegister = none)
    (taken : operands.branchTaken = none) :
    Returns self (operands.Within ·) (executeControl pc m target operands) := by
  have kept : operands.Within operands := .refl operands
  have branched (branchTaken : Bool) :
      operands.Within { operands with branchTaken := some branchTaken.toNat } :=
    { kept with branchTaken := by simp [taken] }
  unfold executeControl
  apply returns_get
  apply returns_ite
  · intro _
    refine returns_bind fun value _ _ => ?_
    refine returns_bind fun ar _ _ => ?_
    refine returns_bind fun _ _ _ => ?_
    refine returns_bind fun _ _ _ => ?_
    exact returns_pure { kept with
      branchTaken := by simp [taken]
      auxiliaryRegister := by simp [register] }
  · intro _
    apply returns_ite
    · intro _
      refine returns_bind fun _ _ _ => ?_
      exact returns_pure kept
    · intro _
      apply returns_ite
      · intro _
        refine returns_bind fun _ _ _ => ?_
        apply returns_ite
        · intro _
          refine returns_bind fun _ _ _ => ?_
          exact returns_pure (branched _)
        · intro _
          exact returns_pure (branched _)
      · intro _
        apply returns_ite
        · intro _
          refine returns_bind fun level0 _ _ => ?_
          refine returns_bind fun level1 _ _ => ?_
          refine returns_bind fun level2 _ _ => ?_
          refine returns_bind fun _ _ _ => ?_
          refine returns_bind fun _ _ _ => ?_
          exact returns_pure kept
        · intro _
          refine returns_bind fun branchTaken _ _ => ?_
          refine returns_bind fun _ _ _ => ?_
          exact returns_pure (branched branchTaken)

/-- A branch reports the target that its second word holds. -/
theorem stepControl_reports (decoded : operands.Decoded)
    (register : operands.auxiliaryRegister = none) :
    Returns self
      (fun trace => Reports pc opcode m operands trace ∧
        ∃ target, self.program[(pc + 1) &&& pcMask]? = some target ∧
          trace.operands.programAddress = some (target &&& wordMask &&& pcMask))
      (stepControl pc opcode m operands transactions) := by
  unfold stepControl
  apply returns_get
  refine returns_bind fun target _ ran => ?_
  have found : self.program[(pc + 1) &&& pcMask]? = some target := by
    unfold index at ran
    cases entry : self.program[(pc + 1) &&& pcMask]? with
    | none =>
        rw [entry] at ran
        cases ran
    | some word =>
        rw [entry] at ran
        cases ran
        rfl
  apply returns_ite
  · exact fun _ => returns_throw _
  · intro _
    have within : operands.Within
        { operands with programAddress := some (target &&& wordMask &&& pcMask) } :=
      { Operands.Within.refl operands with
        programAddress := by simp [decoded.programAddress] }
    refine Returns.bind (executeControl_within (target &&& wordMask &&& pcMask) register
      decoded.branchTaken) fun later _ kept => ?_
    refine Returns.mono (finish_reports 2 kept) fun trace reports => ?_
    refine ⟨⟨reports.pc, reports.opcode, reports.mnemonic, within.trans reports.operands⟩,
      target, found, ?_⟩
    exact reports.operands.programAddress _ rfl

/-- The data block adds the addresses it computes. -/
theorem prepare_within (decoded : operands.Decoded) :
    Returns self (fun access => operands.Within access.operands)
      (prepare pc opcode m operands transactions) := by
  have kept : operands.Within operands := .refl operands
  unfold prepare accessData
  apply returns_ite
  · intro _
    apply returns_get
    refine returns_bind fun indirect _ _ => ?_
    refine returns_bind fun address _ _ => ?_
    refine returns_bind fun _ _ _ => ?_
    refine returns_bind fun data _ _ => ?_
    refine returns_bind fun block _ _ => ?_
    exact returns_pure { kept with
      effectiveAddress := by simp [decoded.effectiveAddress]
      moveAddress := by simp [decoded.moveAddress]
      programAddress := by simp [decoded.programAddress] }
  · intro _
    apply returns_ite
    · intro _
      apply returns_get
      refine returns_bind fun indirect _ _ => ?_
      exact returns_pure kept
    · exact fun _ => returns_pure kept

theorem stepStraight_reports (decoded : operands.Decoded) :
    Returns self (Reports pc opcode m operands)
      (stepStraight pc opcode m operands transactions) := by
  unfold stepStraight
  refine Returns.bind (prepare_within decoded) fun access _ within => ?_
  refine returns_bind fun _ _ _ => ?_
  refine returns_bind fun _ _ _ => ?_
  refine returns_bind fun _ _ _ => ?_
  exact finish_reports _ within

theorem stepCala_reports :
    Returns self (Reports pc opcode .cala operands) (stepCala pc opcode operands transactions) := by
  unfold stepCala
  refine returns_bind fun _ _ _ => ?_
  refine returns_bind fun _ _ _ => ?_
  exact finish_reports 2 (.refl operands)

theorem stepStack_reports :
    Returns self (Reports pc opcode m operands)
      (stepStack pc opcode m operands transactions) := by
  have ends (later : Tms32010Model) : Returns later (Reports pc opcode m operands)
      (finish pc opcode m operands 2 transactions) := finish_reports 2 (.refl operands)
  unfold stepStack
  apply returns_ite
  · intro _
    apply returns_get
    refine returns_bind fun oldTop _ _ => ?_
    refine returns_bind fun oldBottom _ _ => ?_
    refine returns_bind fun level1 _ _ => ?_
    refine returns_bind fun level2 _ _ => ?_
    refine returns_bind fun _ _ _ => ?_
    apply returns_ite
    · intro _
      refine returns_bind fun _ _ _ => ?_
      refine returns_bind fun _ _ _ => ?_
      exact ends _
    · intro _
      refine returns_bind fun _ _ _ => ?_
      exact ends _
  · intro _
    apply returns_get
    refine returns_bind fun _ _ _ => ?_
    refine returns_bind fun _ _ _ => ?_
    exact ends _

/-- The report of an instruction, and the target of a branch. -/
theorem stepInstruction_reports (decoded : operands.Decoded)
    (register : m.twoWordControlFlow = true → operands.auxiliaryRegister = none) :
    Returns self
      (fun trace => Reports pc opcode m operands trace ∧
        (m.twoWordControlFlow = true → ∃ target,
          self.program[(pc + 1) &&& pcMask]? = some target ∧
            trace.operands.programAddress = some (target &&& wordMask &&& pcMask)))
      (stepInstruction pc opcode m operands transactions) := by
  have apart {trace : StepTrace} (straight : m.twoWordControlFlow = false)
      (reports : Reports pc opcode m operands trace) : Reports pc opcode m operands trace ∧
        (m.twoWordControlFlow = true → ∃ target,
          self.program[(pc + 1) &&& pcMask]? = some target ∧
            trace.operands.programAddress = some (target &&& wordMask &&& pcMask)) :=
    ⟨reports, fun control => absurd (straight.symm.trans control) Bool.false_ne_true⟩
  unfold stepInstruction
  apply returns_ite
  · rintro rfl
    exact stepCala_reports.mono fun _ reports => apart rfl reports
  · intro _
    apply returns_ite
    · intro stack
      have straight : m.twoWordControlFlow = false := by
        rcases stack with rfl | rfl | rfl <;> rfl
      exact stepStack_reports.mono fun _ reports => apart straight reports
    · intro _
      apply returns_ite
      · intro control
        refine Returns.mono (stepControl_reports decoded (register control)) ?_
        exact fun _ reports => ⟨reports.1, fun _ => reports.2⟩
      · intro straight
        rw [Bool.not_eq_true] at straight
        refine Returns.mono (stepStraight_reports decoded) ?_
        exact fun _ reports => apart straight reports

end Reports

theorem decodedOperands_decoded (m : Mnemonic) (word : BitVec 16) :
    (decodedOperands m word).Decoded := by
  unfold decodedOperands
  cases m <;> exact ⟨rfl, rfl, rfl, rfl, rfl, rfl⟩

/-- The trace of an instruction reports the decoded word at the program counter. -/
theorem step_reports {i : Isa.Input} {s : Isa.State} {trace : StepTrace} {self : Tms32010Model}
    {m : Mnemonic} (entry : s.interruptEntryPending = false)
    (found : mnemonic? (s.program s.pc) = some m)
    (called : step (embed i s) = .ok trace self) :
    Reports s.pc.toNat (s.program s.pc).toNat m (decodedOperands m (s.program s.pc)) trace ∧
      (m.twoWordControlFlow = true → trace.operands.programAddress =
        some ((s.program (s.pc + 1)).extractLsb' 0 12).toNat) := by
  have pc : (embed i s).state.pc &&& pcMask = s.pc.toNat := pc_and_mask s.pc
  have pending : (embed i s).interruptEntryPending = s.interruptEntryPending := rfl
  unfold step at called
  simp only [bind_run, get_run, pc, fetch_run, word_and_mask, pending, entry, Bool.false_eq_true,
    if_false, latchInterruptInput_run, stepFetched, decode_eq, found] at called
  have register : m.twoWordControlFlow = true →
      (decodedOperands m (s.program s.pc)).auxiliaryRegister = none := by
    intro control
    rw [decodedOperands_of_control control]
  rcases stepInstruction_reports (decodedOperands_decoded m _) register _ _ called with
    ⟨reports, target⟩
  refine ⟨reports, fun control => ?_⟩
  rcases target control with ⟨word, stored, address⟩
  rw [next_pc] at stored
  have held : (embed i (Isa.latchRequest i s)).program[(s.pc + 1).toNat]? =
      some (s.program (s.pc + 1)).toNat := by
    simp only [embed]
    exact image_getElem? _ (s.pc + 1).isLt
  rw [held, Option.some_inj] at stored
  rw [address, ← stored, word_and_mask, word_and_pcMask]

end Tms32010.Model
