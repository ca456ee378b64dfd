import Tms32010.Model.Arithmetic

/-!
# The reference model implements the instruction-level machine

Family by family, a method of the reference model run on an embedded state
returns the embedding of the machine's transition, with the same cycles and the
same external cycles, or raises the exception of the machine's fault and leaves
everything but the request latch unchanged.
-/

namespace Tms32010.Model

/-! ## External cycles of a trace -/

/-- The bus cycle a transaction stands for; data transactions are internal. -/
def Transaction.busCycle? (transaction : Transaction) : Option (Nat × Isa.BusCycle) :=
  match transaction.space, transaction.operation with
  | .data, _ => none
  | .program, .tableWrite =>
      some (transaction.cycle,
        .programWrite (BitVec.ofNat 12 transaction.address) (BitVec.ofNat 16 transaction.data))
  | .program, _ =>
      some (transaction.cycle,
        .programRead (BitVec.ofNat 12 transaction.address) (BitVec.ofNat 16 transaction.data))
  | .io, .write =>
      some (transaction.cycle,
        .ioWrite (BitVec.ofNat 3 transaction.address) (BitVec.ofNat 16 transaction.data))
  | .io, _ =>
      some (transaction.cycle,
        .ioRead (BitVec.ofNat 3 transaction.address) (BitVec.ofNat 16 transaction.data))

/-- The program-space and I/O-space transactions of a trace, with their cycles. -/
def StepTrace.busCycles (trace : StepTrace) : List (Nat × Isa.BusCycle) :=
  trace.transactions.filterMap Transaction.busCycle?

/-- Consecutive cycles numbered from `start`. -/
def stamped (start : Nat) (bus : List Isa.BusCycle) : List (Nat × Isa.BusCycle) :=
  bus.mapIdx fun k cycle => (start + k, cycle)

/-- The exception a fault is raised as. -/
def faultError : Isa.Fault → Error
  | .opcode pc word => .unsupportedOpcode pc.toNat word.toNat
  | .dataAddress pc word address =>
      .unsupportedDataAddress pc.toNat word.toNat address.toNat
  | .programOperand pc word address operand =>
      .unsupportedProgramOperand pc.toNat word.toNat address.toNat operand.toNat

/-- The `mnemonic` of a trace of a transition. -/
def executedLabel : Option Mnemonic → Label
  | some m => .instruction m
  | none => .interrupt

/-- A run of a method on `embed i s` matches a transition of the machine. -/
def Matches (i : Isa.Input) (s : Isa.State) (expected : Except Isa.Fault Isa.Outcome)
    (result : EStateM.Result Error Tms32010Model StepTrace) : Prop :=
  match expected with
  | .ok outcome =>
      ∃ trace, result = .ok trace (embed i outcome.state) ∧
        trace.mnemonic = executedLabel outcome.executed ∧ trace.cycles = outcome.cycles ∧
        trace.busCycles = stamped s.cycleCount outcome.bus
  | .error fault => result = .error (faultError fault) (embed i s)

/-! ## Ends and control families -/

section Families

variable (i : Isa.Input) (s : Isa.State) (m : Mnemonic) (word : BitVec 16)

@[simp]
theorem withRegisters_embed (r : Registers) :
    withRegisters (embed i s) r = embed i { s with toRegisters := r } := by
  simp only [withRegisters, embed]

@[simp]
theorem embed_cycleCount : (embed i s).cycleCount = s.cycleCount := rfl

theorem advanceInterruptPipeline_run :
    advanceInterruptPipeline m (embed i s) =
      EStateM.Result.ok () (embed i (Isa.advanceInterrupt m s)) := by
  have multiplies : (m = .mpy ∨ m = .mpyk) ↔ m.multiplies = true := by
    cases m <;> simp [Mnemonic.multiplies]
  unfold advanceInterruptPipeline Isa.advanceInterrupt
  simp only [multiplies, get_run, bind_run]
  cases delay : s.interruptDelayOne
  · cases pending : s.interruptPending && !s.interruptMask <;>
      simp [embed, embedRegisters, delay, pending]
  · cases mask : s.interruptMask <;> cases m.multiplies <;>
      simp [embed, embedRegisters, delay, mask]

theorem finish_run (pc opcode cycles : Nat) (operands : Operands)
    (transactions : List Transaction) (bus : List Isa.BusCycle) :
    ∃ trace, finish pc opcode m operands cycles transactions (embed i s) =
        EStateM.Result.ok trace (embed i (Isa.retire m cycles bus s).state) ∧
      trace.mnemonic = .instruction m ∧ trace.cycles = cycles ∧
      trace.transactions = transactions := by
  have counted : ({ embed i s with cycleCount := (embed i s).cycleCount + cycles } :
      Tms32010Model) = embed i { s with cycleCount := s.cycleCount + cycles } := by
    simp only [embed]
  simp only [finish, bind_run, modify_run, counted, advanceInterruptPipeline_run,
    architecturalState, get_run, pure_run]
  exact ⟨_, rfl, rfl, rfl, rfl⟩

/-- The instruction fetch every transition starts with. -/
def fetchTransaction : Transaction where
  cycle := s.cycleCount
  space := .program
  operation := .instructionFetch
  address := s.pc.toNat
  data := word.toNat

theorem fetch_busCycle :
    (fetchTransaction s word).busCycle? = some (s.cycleCount, .programRead s.pc word) := by
  simp [Transaction.busCycle?, fetchTransaction]

/-- A family that ends with `finish` matches the machine's `retire`. -/
theorem matches_finish (pc opcode : Nat) (operands : Operands)
    (transactions : List Transaction) {s' : Isa.State} {cycles : Nat} {bus : List Isa.BusCycle}
    {result : EStateM.Result Error Tms32010Model StepTrace}
    (ends : result = finish pc opcode m operands cycles transactions (embed i s'))
    (external : transactions.filterMap Transaction.busCycle? = stamped s.cycleCount bus) :
    Matches i s (.ok (Isa.retire m cycles bus s')) result := by
  rcases finish_run i s' m pc opcode cycles operands transactions bus with
    ⟨trace, run, mnemonicEq, cyclesEq, transactionsEq⟩
  refine ⟨trace, ends.trans run, mnemonicEq, cyclesEq, ?_⟩
  rw [StepTrace.busCycles, transactionsEq]
  exact external

theorem single_fetch :
    [fetchTransaction s word].filterMap Transaction.busCycle? =
      stamped s.cycleCount [.programRead s.pc word] := by
  simp [fetch_busCycle, stamped]

theorem stepCala_matches (operands : Operands) :
    Matches i s (.ok (Isa.stepStack .cala word s))
      (stepCala s.pc.toNat word.toNat operands [fetchTransaction s word] (embed i s)) := by
  refine matches_finish i s .cala s.pc.toNat word.toNat operands _ ?_ (single_fetch s word)
  simp [stepCala, pushStack, index, stackList, embed, embedRegisters, Stack.push]

theorem stepStack_matches (operands : Operands) (stack : m = .pop ∨ m = .push ∨ m = .ret) :
    Matches i s (.ok (Isa.stepStack m word s))
      (stepStack s.pc.toNat word.toNat m operands [fetchTransaction s word] (embed i s)) := by
  refine matches_finish i s m s.pc.toNat word.toNat operands _ ?_ (single_fetch s word)
  rcases stack with rfl | rfl | rfl <;>
    simp [stepStack, pushStack, index, stackList, embed, embedRegisters, Stack.push, Stack.pop]

@[simp]
theorem index_auxiliary (r : Registers) (pointer : Bool) (self : Tms32010Model) :
    index [r.auxiliaryRegister0.toNat, r.auxiliaryRegister1.toNat] pointer.toNat self =
      EStateM.Result.ok (r.auxiliaryRegister pointer).toNat self := by
  cases pointer <;> rfl

@[simp]
theorem setIndex_auxiliary (r : Registers) (pointer : Bool) (value : BitVec 16)
    (self : Tms32010Model) :
    setIndex [r.auxiliaryRegister0.toNat, r.auxiliaryRegister1.toNat] pointer.toNat value.toNat
        self =
      EStateM.Result.ok
        [(r.setAuxiliaryRegister pointer value).auxiliaryRegister0.toNat,
          (r.setAuxiliaryRegister pointer value).auxiliaryRegister1.toNat] self := by
  cases pointer <;> rfl

/-- The registers after a branch that only moves the program counter. -/
theorem branch_plain (r : Registers) (bio : Bool) (target : BitVec 12)
    (plain : m ≠ .banz ∧ m ≠ .bv ∧ m ≠ .call) :
    r.branch m bio target =
      { r with pc := if r.branchTaken m bio then target else r.pc + 2 } := by
  cases m <;> simp_all [Registers.branch]

theorem controlTaken_run (control : m.twoWordControlFlow = true)
    (plain : m ≠ .banz ∧ m ≠ .bv ∧ m ≠ .call ∧ m ≠ .b) :
    controlTaken m (embed i s) =
      EStateM.Result.ok (s.branchTaken m i.bio) (embed i s) := by
  unfold controlTaken
  by_cases bioz : m = .bioz
  · subst bioz
    rfl
  · simp only [bind_run, get_run, bioz, if_false]
    apply accumulatorBranchTaken_run
    cases m <;> simp_all [Mnemonic.twoWordControlFlow]

/-- The handlers of the two-word branches. -/
theorem executeControl_run (control : m.twoWordControlFlow = true) (target : BitVec 12)
    (operands : Operands) :
    ∃ operands', executeControl s.pc.toNat m target.toNat operands (embed i s) =
      EStateM.Result.ok operands'
        (embed i { s with toRegisters := s.branch m i.bio target }) := by
  have target_eq (taken : Bool) :
      (if taken then target.toNat else (s.pc + 2).toNat) =
        (if taken then target else s.pc + 2).toNat := by
    cases taken <;> rfl
  unfold executeControl
  by_cases banz : m = .banz
  · subst banz
    simp only [bind_run, get_run, after_next_pc, target_eq, embed, embedRegisters,
      index_auxiliary, counter_ne_zero, modifyCounter_eq, setIndex_auxiliary, modifyState_run,
      pure_run, if_true, Registers.branch, Registers.branchTaken]
    rcases Bool.eq_false_or_eq_true s.auxiliaryRegisterPointer with pointer | pointer <;>
      simp [Registers.setAuxiliaryRegister, pointer]
  by_cases b : m = .b
  · subst b
    simp [embed, embedRegisters, Registers.branch, Registers.branchTaken]
  by_cases bv : m = .bv
  · subst bv
    cases flag : s.overflowFlag <;>
      simp [embed, embedRegisters, Registers.branch, Registers.branchTaken, flag]
  by_cases call : m = .call
  · subst call
    simp [embed, embedRegisters, Registers.branch, Registers.branchTaken, index, stackList,
      Stack.push]
  · simp only [banz, b, bv, call, if_false, bind_run, get_run, after_next_pc, target_eq,
      controlTaken_run i s m control ⟨banz, bv, call, b⟩]
    rw [branch_plain m _ _ _ ⟨banz, bv, call⟩]
    simp [embed, embedRegisters]

theorem nibble_ne_zero (x : BitVec 16) :
    (x.toNat &&& 0xF000 != 0) = !(x.extractLsb' 12 4 == 0) := by
  have masked := mask_above 12 (x.toNat / 4096) 0xF
    (Nat.mod_lt x.toNat (by decide))
  have split : 2 ^ 12 * (x.toNat / 4096) + x.toNat % 2 ^ 12 = x.toNat := by omega
  rw [split, Nat.and_two_pow_sub_one_eq_mod _ 4] at masked
  rw [Bool.eq_iff_iff, bne_iff_ne, Bool.not_eq_true', beq_eq_false_iff_ne, Ne, Ne,
    BitVec.toNat_eq, BitVec.extractLsb'_toNat, Nat.shiftRight_eq_div_pow, BitVec.ofNat_eq_ofNat,
    BitVec.toNat_ofNat]
  norm_num at masked ⊢
  omega

theorem stepControl_matches (control : m.twoWordControlFlow = true) (operands : Operands) :
    Matches i s (Isa.stepControl m word i s)
      (stepControl s.pc.toNat word.toNat m operands [fetchTransaction s word] (embed i s)) := by
  have fetched : index (embed i s).program (s.pc + 1).toNat (embed i s) =
      EStateM.Result.ok (s.program (s.pc + 1)).toNat (embed i s) := by
    simp only [embed, index_image_address]
  unfold stepControl Isa.stepControl
  simp only [bind_run, get_run, next_pc, fetched, word_and_mask, nibble_ne_zero, word_and_pcMask]
  by_cases nibble : (s.program (s.pc + 1)).extractLsb' 12 4 = 0
  · simp only [nibble, if_true, beq_self_eq_true, Bool.not_true, Bool.false_eq_true, if_false]
    rcases executeControl_run i s m control ((s.program (s.pc + 1)).extractLsb' 0 12)
      { operands with
        programAddress := some ((s.program (s.pc + 1)).extractLsb' 0 12).toNat } with
      ⟨operands', run⟩
    refine matches_finish i s m s.pc.toNat word.toNat operands'
      [fetchTransaction s word,
        { cycle := s.cycleCount + 1, space := .program, operation := .followingWordFetch,
          address := (s.pc + 1).toNat, data := (s.program (s.pc + 1)).toNat }] ?_ ?_
    · simp only [bind_run, run, List.cons_append, List.nil_append, embed_cycleCount]
    · simp only [List.filterMap_cons, List.filterMap_nil, fetchTransaction,
        Transaction.busCycle?, BitVec.ofNat_toNat, BitVec.setWidth_eq]
      rfl
  · have rejected : (!((s.program (s.pc + 1)).extractLsb' 12 4 == 0)) = true := by
      simpa using nibble
    simp only [nibble, rejected, if_true, if_false, throw_run, Matches, faultError]

/-! ## Data access -/

end Families

end Tms32010.Model
