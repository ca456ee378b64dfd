import Tms32010.Isa.Machine

/-!
# Runs of the instruction-level machine

Completed transitions one after the other, and what one transition adds to the
cycle count.
-/

namespace Tms32010.Isa

/-- A run of completed transitions, the pins of each transition beside it. -/
inductive Run : State → List (Input × Outcome) → State → Prop where
  | done (s : State) : Run s [] s
  | step {i : Input} {s t : State} {outcome : Outcome} {rest : List (Input × Outcome)}
      (made : Isa.step i s = .ok outcome) (tail : Run outcome.state rest t) :
      Run s ((i, outcome) :: rest) t

section Step

variable {i : Input} {s : State} {outcome : Outcome}

/-- A step that enters no interrupt is the step of the word at the program counter. -/
theorem step_of_instruction {m : Mnemonic} {word : BitVec 16}
    (entry : s.interruptEntryPending = false) (stored : s.program s.pc = word)
    (found : mnemonic? word = some m)
    (made : stepInstruction m word i (latchRequest i s) = .ok outcome) :
    step i s = .ok outcome := by
  unfold step
  rw [entry, stored, found]
  exact made

/-- A step that enters no interrupt executes the instruction at the program counter. -/
theorem step_eq {m : Mnemonic} (entry : s.interruptEntryPending = false)
    (found : mnemonic? (s.program s.pc) = some m) :
    step i s = stepInstruction m (s.program s.pc) i (latchRequest i s) := by
  unfold step
  rw [entry, found]
  rfl

/-- The bus cycles of a branch. -/
theorem stepControl_bus {m : Mnemonic} {word : BitVec 16}
    (made : stepControl m word i s = .ok outcome) :
    outcome.bus = [.programRead s.pc word, .programRead (s.pc + 1) (s.program (s.pc + 1))] := by
  unfold stepControl at made
  dsimp only at made
  split_ifs at made
  cases made
  rfl

/-- The bus cycles of a straight-line instruction. -/
theorem stepStraight_bus {m : Mnemonic} {word : BitVec 16}
    (made : stepStraight m word i s = .ok outcome) : outcome.bus = straightBus m word i s := by
  unfold stepStraight at made
  split at made
  · exact absurd made (by simp)
  · cases made
    rfl

/-- The step of a two-word branch. -/
theorem stepInstruction_control {m : Mnemonic} (family : m.twoWordControlFlow = true)
    (word : BitVec 16) (i : Input) (s : State) :
    stepInstruction m word i s = stepControl m word i s := by
  have apart : (m.computedControlFlow || m.stackAccess) = false := by
    cases m <;> first | rfl | exact absurd family (by decide)
  unfold stepInstruction
  rw [apart, family]
  rfl

/-- The step of `CALA` and `RET`. -/
theorem stepInstruction_computed {m : Mnemonic} (family : m.computedControlFlow = true)
    (word : BitVec 16) (i : Input) (s : State) :
    stepInstruction m word i s = .ok (stepStack m word s) := by
  unfold stepInstruction
  rw [family]
  rfl

/-- The step of an input, an output or a table access. -/
theorem stepInstruction_transfer {m : Mnemonic}
    (family : (m.tableTransfer || m.ioTransfer) = true) (word : BitVec 16) (i : Input)
    (s : State) : stepInstruction m word i s = stepStraight m word i s := by
  have apart : (m.computedControlFlow || m.stackAccess) = false ∧
      m.twoWordControlFlow = false := by
    cases m <;> first | exact ⟨rfl, rfl⟩ | exact absurd family (by decide)
  unfold stepInstruction
  rw [apart.1, apart.2]
  rfl

/-- Only `IN` reads a port. -/
theorem stepStraight_port {m : Mnemonic} (noInput : m ≠ .in) (word : BitVec 16) (i : Input)
    (port : BitVec 3 → BitVec 16) (s : State) :
    stepStraight m word { i with ioInput := port } s = stepStraight m word i s := by
  have bus : straightBus m word { i with ioInput := port } s = straightBus m word i s := by
    unfold straightBus
    cases m <;> first | rfl | exact absurd rfl noInput
  have data : straightData m word { i with ioInput := port } s = straightData m word i s := by
    unfold straightData
    simp only [noInput, if_false]
  unfold stepStraight
  rw [bus, data]

/-- What a completed instruction shows of its word and of the state it started from. -/
theorem step_supported (made : step i s = .ok outcome) (entry : s.interruptEntryPending = false) :
    ∃ m, mnemonic? (s.program s.pc) = some m ∧ outcome.executed = some m ∧
      dataFault? m (s.program s.pc) s = none ∧
      (m.twoWordControlFlow = true → (s.program (s.pc + 1)).extractLsb' 12 4 = 0) := by
  unfold step at made
  rw [entry, if_neg Bool.false_ne_true] at made
  cases found : mnemonic? (s.program s.pc) with
  | none =>
      rw [found] at made
      exact absurd made (by simp)
  | some m =>
      rw [found] at made
      dsimp only at made
      unfold stepInstruction at made
      refine ⟨m, rfl, ?_⟩
      split_ifs at made with stack control
      · have apart : m.dataAddressed = false ∧ m.twoWordControlFlow = false := by
          cases m <;> first | exact ⟨rfl, rfl⟩ | exact absurd stack (by decide)
        rw [Except.ok.injEq] at made
        refine ⟨by rw [← made]; rfl, ?_, fun two => absurd (apart.2.symm.trans two) (by simp)⟩
        unfold dataFault?
        rw [apart.1]
        rfl
      · have apart : m.dataAddressed = false := by
          cases m <;> first | rfl | exact absurd control (by decide)
        unfold stepControl at made
        dsimp only at made
        split_ifs at made with supported
        rw [Except.ok.injEq] at made
        refine ⟨by rw [← made]; rfl, ?_, fun _ => supported⟩
        unfold dataFault?
        rw [apart]
        rfl
      · unfold stepStraight at made
        cases fault : dataFault? m (s.program s.pc) (latchRequest i s) with
        | some address =>
            rw [fault] at made
            exact absurd made (by simp)
        | none =>
            rw [fault, Except.ok.injEq] at made
            exact ⟨by rw [← made]; rfl, fault, fun two => absurd two control⟩

/-- An instruction whose word, data address and operand are supported completes. -/
theorem step_completes {m : Mnemonic} (entry : s.interruptEntryPending = false)
    (found : mnemonic? (s.program s.pc) = some m)
    (noFault : dataFault? m (s.program s.pc) s = none)
    (operand : m.twoWordControlFlow = true → (s.program (s.pc + 1)).extractLsb' 12 4 = 0)
    (i : Input) : ∃ outcome, step i s = .ok outcome ∧ outcome.executed = some m := by
  unfold step stepInstruction
  rw [entry, if_neg Bool.false_ne_true, found]
  dsimp only
  split_ifs with single control
  · exact ⟨_, rfl, rfl⟩
  · unfold stepControl
    dsimp only
    have supported : ((latchRequest i s).program ((latchRequest i s).pc + 1)).extractLsb' 12 4 =
        0 := operand control
    rw [if_pos supported]
    exact ⟨_, rfl, rfl⟩
  · unfold stepStraight
    have latched : dataFault? m (s.program s.pc) (latchRequest i s) = none := noFault
    rw [latched]
    exact ⟨_, rfl, rfl⟩

/-- An instruction whose word and operand are supported fails on a data address only. -/
theorem step_dataFault {m : Mnemonic} {fault : Fault} (entry : s.interruptEntryPending = false)
    (found : mnemonic? (s.program s.pc) = some m)
    (operand : m.twoWordControlFlow = true → (s.program (s.pc + 1)).extractLsb' 12 4 = 0)
    (raised : step i s = .error fault) :
    ∃ address, fault = .dataAddress s.pc (s.program s.pc) address := by
  cases noFault : dataFault? m (s.program s.pc) s with
  | none =>
      rcases step_completes entry found noFault operand i with ⟨outcome, made, -⟩
      cases made.symm.trans raised
  | some address =>
      have apart : m.computedControlFlow = false ∧ m.stackAccess = false ∧
          m.twoWordControlFlow = false := by
        unfold dataFault? at noFault
        split_ifs at noFault with addressed <;>
          cases m <;> first | exact ⟨rfl, rfl, rfl⟩ | exact absurd addressed (by decide)
      have latched : dataFault? m (s.program s.pc) (latchRequest i s) = some address := noFault
      rw [step_eq entry found] at raised
      unfold stepInstruction stepStraight at raised
      rw [apart.1, apart.2.1, apart.2.2, latched] at raised
      cases raised
      exact ⟨address, rfl⟩

/-- Only `TBLW` stores into program memory, at the word that the accumulator addresses. -/
theorem step_program (made : step i s = .ok outcome) (address : BitVec 12)
    (spared : outcome.executed = some .tblw → s.accumulator.extractLsb' 0 12 ≠ address) :
    outcome.state.program address = s.program address := by
  have kept (m : Mnemonic) (cycles : ℕ) (bus : List BusCycle) (t : State) :
      (retire m cycles bus t).state.program = t.program := by
    unfold retire advanceInterrupt
    split_ifs <;> rfl
  unfold step at made
  split_ifs at made with entry
  · cases made
    rfl
  · split at made
    · cases made
    · rename_i m found
      unfold stepInstruction at made
      split_ifs at made with stack control
      · cases made
        exact congrFun (kept _ _ _ _) address
      · unfold stepControl at made
        dsimp only at made
        split_ifs at made
        cases made
        exact congrFun (kept _ _ _ _) address
      · unfold stepStraight at made
        split at made
        · cases made
        · cases made
          rw [kept]
          change straightProgram _ _ (latchRequest i s) address = _
          unfold straightProgram
          split_ifs with stores
          · exact Function.update_of_ne (Ne.symm (spared (congrArg some stores))) _ _
          · rfl

theorem advanceInterrupt_cycleCount (m : Mnemonic) (s : State) :
    (advanceInterrupt m s).cycleCount = s.cycleCount := by
  unfold advanceInterrupt
  split_ifs <;> rfl

theorem retire_cycleCount (m : Mnemonic) (cycles : Nat) (bus : List BusCycle) (s : State) :
    (retire m cycles bus s).state.cycleCount = s.cycleCount + cycles :=
  advanceInterrupt_cycleCount m _

theorem stepControl_cycleCount {m : Mnemonic} {word : BitVec 16}
    (made : stepControl m word i s = .ok outcome) :
    outcome.state.cycleCount = s.cycleCount + outcome.cycles := by
  unfold stepControl at made
  dsimp only at made
  split_ifs at made
  rw [Except.ok.injEq] at made
  rw [← made, retire_cycleCount]
  rfl

theorem stepStraight_cycleCount {m : Mnemonic} {word : BitVec 16}
    (made : stepStraight m word i s = .ok outcome) :
    outcome.state.cycleCount = s.cycleCount + outcome.cycles := by
  unfold stepStraight at made
  split at made
  · exact absurd made (by simp)
  · rw [Except.ok.injEq] at made
    rw [← made, retire_cycleCount]
    rfl

theorem stepInstruction_cycleCount {m : Mnemonic} {word : BitVec 16}
    (made : stepInstruction m word i s = .ok outcome) :
    outcome.state.cycleCount = s.cycleCount + outcome.cycles := by
  unfold stepInstruction at made
  split_ifs at made
  · rw [Except.ok.injEq] at made
    rw [← made]
    exact retire_cycleCount ..
  · exact stepControl_cycleCount made
  · exact stepStraight_cycleCount made

/-- A transition adds its machine cycles to the count. -/
theorem step_cycleCount (made : step i s = .ok outcome) :
    outcome.state.cycleCount = s.cycleCount + outcome.cycles := by
  unfold step at made
  split_ifs at made
  · cases made
    rfl
  · split at made
    · exact absurd made (by simp)
    · have added := stepInstruction_cycleCount made
      exact added

end Step

end Tms32010.Isa
