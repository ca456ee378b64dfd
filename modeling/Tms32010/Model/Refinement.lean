import Tms32010.Model.Straight

/-!
# `step` on an embedded state

The families of the reference model assembled: one call of `step` on an
embedded state is one transition of the instruction-level machine.
-/

namespace Tms32010.Model

section Step

variable (i : Isa.Input) (s : Isa.State) (m : Mnemonic) (word : BitVec 16)

/-! ## Auxiliary update -/

theorem preserve_bit :
    ((Instruction.addressingField word).toNat &&& 0x08) = 0 ↔
      Instruction.preserveArp word = false := by
  have bit : ((Instruction.addressingField word).toNat &&& 0x08 != 0) =
      Instruction.preserveArp word := by
    rw [← addressingField_eq, Nat.and_assoc]
    exact bit_test word 3
  rw [← bit]
  simp

theorem nextArp_bit :
    (Instruction.addressingField word).toNat &&& 1 = (Instruction.nextArp word).toNat := by
  rw [← addressingField_eq, Nat.and_assoc]
  exact bit_value word 0

/-- The counter update of a selected auxiliary register. -/
theorem updateCounter_run (selected : Bool) :
    updateCounter (Instruction.addressingField word).toNat selected.toNat (embed i s) =
      EStateM.Result.ok ()
        (embed i { s with
          toRegisters := s.setAuxiliaryRegister selected
            (Registers.counted word (s.auxiliaryRegister selected)) }) := by
  have value : index (embed i s).state.ar selected.toNat (embed i s) =
      EStateM.Result.ok (s.auxiliaryRegister selected).toNat (embed i s) := by
    simp only [embed, embedRegisters, index_auxiliary]
  have unchanged : s.setAuxiliaryRegister selected (s.auxiliaryRegister selected) =
      s.toRegisters := by
    cases selected <;> rfl
  unfold updateCounter Registers.counted
  simp only [bind_run, get_run, increment_bit, decrement_bit]
  cases Instruction.increment word
  · cases Instruction.decrement word
    · simp only [Bool.false_eq_true, if_false, pure_run, unchanged]
    · simp only [Bool.false_eq_true, if_false, if_true, bind_run, value, modifyCounter_eq,
        setAuxiliary_embed]
      rfl
  · simp only [if_true, bind_run, value, modifyCounter_eq, setAuxiliary_embed]
    rfl

theorem setArp_run (pointer : Bool) :
    modifyStatus (fun status => { status with arp := pointer.toNat }) (embed i s) =
      EStateM.Result.ok ()
        (embed i { s with
          toRegisters := { s.toRegisters with auxiliaryRegisterPointer := pointer } }) := by
  simp only [modifyStatus_run, embed, embedRegisters]

/-- The suppression test. -/
theorem suppressCounterUpdate_run {operands : Operands} (selected : Bool)
    (register : m = .lar →
      operands.auxiliaryRegister = some (Instruction.auxiliaryRegister word).toNat) :
    suppressCounterUpdate m operands selected.toNat (embed i s) =
      EStateM.Result.ok (m == .lar && Instruction.auxiliaryRegister word == selected)
        (embed i s) := by
  have bits : ((Instruction.auxiliaryRegister word).toNat == selected.toNat) =
      (Instruction.auxiliaryRegister word == selected) := by
    cases Instruction.auxiliaryRegister word <;> cases selected <;> rfl
  unfold suppressCounterUpdate
  by_cases lar : m = .lar
  · simp only [lar, if_true, bind_run, register lar, key_some_run, bits, pure_run,
      beq_self_eq_true, Bool.true_and]
  · have differs : (m == .lar) = false := by simpa using lar
    simp only [lar, if_false, pure_run, differs, Bool.false_and]

/-- The auxiliary update of an indirect word, on the state the handlers left. -/
theorem modifySelected_run {operands : Operands} (selected : Bool)
    (modifies : m.modifiesAuxiliary = true) (indirect : Instruction.indirect word = true)
    (control : operands.addressingField = some (Instruction.addressingField word).toNat)
    (register : m = .lar →
      operands.auxiliaryRegister = some (Instruction.auxiliaryRegister word).toNat) :
    modifySelected m operands selected.toNat (embed i s) =
      EStateM.Result.ok ()
        (embed i { s with toRegisters := s.postModify m word selected }) := by
  unfold modifySelected Registers.postModify
  simp only [bind_run, control, key_some_run,
    suppressCounterUpdate_run i s m word selected register, modifies, indirect, Bool.and_true,
    if_true, preserve_bit, nextArp_bit]
  have moves : (!Instruction.preserveArp word && m != .lst) =
      decide (Instruction.preserveArp word = false ∧ m ≠ .lst) := by
    cases Instruction.preserveArp word <;> cases m <;> rfl
  rw [moves]
  cases m == .lar && Instruction.auxiliaryRegister word == selected
  · simp only [Bool.false_eq_true, if_false, updateCounter_run, decide_eq_true_eq]
    split
    · exact setArp_run i _ _
    · rfl
  · simp only [if_true, pure_run, decide_eq_true_eq]
    split
    · exact setArp_run i _ _
    · rfl

/-- The auxiliary update after the handlers, on the state they left. -/
theorem postModify_run {access : Access} (prepared : Prepared i s m word access)
    (t : Isa.State) :
    postModify m access (embed i t) =
      EStateM.Result.ok ()
        (embed i { t with
          toRegisters := t.postModify m word s.auxiliaryRegisterPointer }) := by
  have selected := prepared.selectedArp
  unfold postModify
  cases modifies : m.modifiesAuxiliary
  · simp only [Bool.false_eq_true, if_false, pure_run, Registers.postModify, modifies,
      Bool.false_and]
  have indirectKey : access.operands.indirect = some (Instruction.indirect word).toNat := by
    rw [prepared.operands]
    split <;> simp [accessedOperands, decodedOperands, modifies]
  have control : access.operands.addressingField =
      some (Instruction.addressingField word).toNat := by
    rw [prepared.operands]
    split <;> simp [accessedOperands, decodedOperands, modifies]
  have register : m = .lar →
      access.operands.auxiliaryRegister = some (Instruction.auxiliaryRegister word).toNat := by
    rintro rfl
    rw [prepared.operands]
    rfl
  rw [modifies, if_pos rfl] at selected
  simp only [if_true, bind_run, indirectKey, key_some_run, toNat_bne_zero]
  cases indirect : Instruction.indirect word
  · simp only [Bool.false_eq_true, if_false, pure_run, Registers.postModify, indirect,
      Bool.and_false]
  · simp only [selectedRegister, indirect, if_true] at selected
    simp only [if_true, selected]
    exact modifySelected_run i t m word s.auxiliaryRegisterPointer modifies indirect control
      register

/-! ## Straight-line instructions -/

/-- The block before the handlers. -/
theorem prepare_run (found : mnemonic? word = some m)
    (noFault : Isa.dataFault? m word s = none) :
    ∃ access, prepare s.pc.toNat word.toNat m (decodedOperands m word)
        [fetchTransaction s word] (embed i s) = EStateM.Result.ok access (embed i s) ∧
      Prepared i s m word access ∧
      access.transactions.filterMap Transaction.busCycle? =
        stamped s.cycleCount (Isa.straightBus m word i s) := by
  unfold prepare
  cases data : m.dataAddressed
  · have bus : Isa.straightBus m word i s = [.programRead s.pc word] := by
      cases m <;> first | rfl | exact absurd data (by decide)
    rw [bus]
    by_cases mar : m = .mar
    · subst mar
      simp only [Bool.false_eq_true, if_false, if_true, bind_run, get_run, decodedOperands,
        Mnemonic.modifiesAuxiliary, beq_self_eq_true, Bool.or_true, key_some_run, pure_run,
        toNat_bne_zero, EStateM.Result.ok.injEq, and_true, exists_eq_left']
      refine ⟨⟨?_, ?_, ?_⟩, single_fetch s word⟩
      · rfl
      · rfl
      · intro addressed
        exact absurd addressed (by decide)
    · have modifies : m.modifiesAuxiliary = false := by
        simpa [Mnemonic.modifiesAuxiliary, data] using mar
      simp only [mar, Bool.false_eq_true, if_false, pure_run, EStateM.Result.ok.injEq, and_true,
        exists_eq_left']
      refine ⟨⟨?_, ?_, ?_⟩, single_fetch s word⟩
      · simp [data]
      · simp [modifies]
      · simp [data]
  · rcases accessData_run i s m word found data noFault with
      ⟨access, run, operands, selected, transfer, external⟩
    have modifies : m.modifiesAuxiliary = true := by
      simp [Mnemonic.modifiesAuxiliary, data]
    simp only [if_true]
    refine ⟨access, run, ⟨?_, ?_, ?_⟩, external⟩
    · simpa [data] using operands
    · simpa [modifies] using selected
    · exact fun _ => transfer

/-- The handlers of the instructions without control transfer. -/
theorem execute_run {access : Access} (prepared : Prepared i s m word access)
    (control : m.twoWordControlFlow = false) (computed : m.computedControlFlow = false)
    (stack : m.stackAccess = false) (noFault : Isa.dataFault? m word s = none) :
    execute m access (embed i (afterFetch s)) =
      EStateM.Result.ok () (embed i (afterHandler i s m word)) := by
  cases data : m.dataAddressed
  · exact execute_register prepared data control computed stack
  cases moves : m.movesData
  · cases stores : m.storesRegister
    · cases reads : m.readsData
      · apply execute_transfer prepared _ noFault
        simpa [Mnemonic.dataAddressed, stores, reads] using data
      · exact execute_read prepared reads moves noFault
    · exact execute_store prepared stores noFault
  · exact execute_move prepared moves noFault

theorem straight_cycles :
    (if m = .tblr ∨ m = .tblw then 3 else if m = .in ∨ m = .out then 2 else 1) =
      (Isa.straightBus m word i s).length := by
  cases m <;> rfl

theorem stepStraight_matches (found : mnemonic? word = some m)
    (control : m.twoWordControlFlow = false) (computed : m.computedControlFlow = false)
    (stack : m.stackAccess = false) :
    Matches i s (Isa.stepStraight m word i s)
      (stepStraight s.pc.toNat word.toNat m (decodedOperands m word)
        [fetchTransaction s word] (embed i s)) := by
  unfold stepStraight Isa.stepStraight
  cases fault : Isa.dataFault? m word s with
  | some address =>
      have data : m.dataAddressed = true := by
        by_contra absent
        simp [Isa.dataFault?, absent] at fault
      simp only [prepare, data, if_true, bind_run, accessData_fault i s m word found data fault,
        Matches, faultError]
  | none =>
      rcases prepare_run i s m word found fault with ⟨access, run, prepared, external⟩
      have fetchedPc : modifyState (fun state => { state with pc := (s.pc.toNat + 1) &&& pcMask })
          (embed i s) = EStateM.Result.ok () (embed i (afterFetch s)) := by
        simp only [modifyState_run, next_pc, embed, embedRegisters, afterFetch, Isa.fetched]
      refine matches_finish i s m s.pc.toNat word.toNat access.operands access.transactions ?_
        external
      simp only [bind_run, run, fetchedPc, execute_run i s m word prepared control computed stack fault,
        postModify_run i s m word prepared, straight_cycles i s m word]
      rfl

/-! ## One call of `step` -/

theorem stepInstruction_matches (found : mnemonic? word = some m) :
    Matches i s (Isa.stepInstruction m word i s)
      (stepInstruction s.pc.toNat word.toNat m (decodedOperands m word)
        [fetchTransaction s word] (embed i s)) := by
  unfold stepInstruction Isa.stepInstruction
  by_cases cala : m = .cala
  · subst cala
    exact stepCala_matches i s word _
  by_cases stack : m = .pop ∨ m = .push ∨ m = .ret
  · have family : (m.computedControlFlow || m.stackAccess) = true := by
      rcases stack with rfl | rfl | rfl <;> rfl
    simp only [cala, stack, family, if_true, if_false]
    exact stepStack_matches i s m word _ stack
  · have computed : m.computedControlFlow = false := by
      cases m <;> simp_all [Mnemonic.computedControlFlow]
    have access : m.stackAccess = false := by
      cases m <;> simp_all [Mnemonic.stackAccess]
    simp only [cala, stack, computed, access, Bool.or_self, Bool.false_eq_true, if_false]
    cases control : m.twoWordControlFlow
    · exact stepStraight_matches i s m word found control computed access
    · exact stepControl_matches i s m word control _

theorem interruptEntry_matches :
    Matches i s (.ok (Isa.enterInterrupt s))
      (interruptEntry s.pc.toNat (s.program s.pc).toNat (embed i s)) := by
  simp [Matches, interruptEntry, Isa.enterInterrupt, index, stackList, embed, embedRegisters,
    Stack.push, StepTrace.busCycles, executedLabel, Transaction.busCycle?, stamped, architecturalState]

theorem latchInterruptInput_run :
    latchInterruptInput (embed i s) =
      EStateM.Result.ok () (embed i (Isa.latchRequest i s)) := by
  unfold latchInterruptInput
  cases level : i.int <;> simp [embed, embedRegisters, Isa.latchRequest, level]

/-- The fetched word of an embedded state. -/
theorem fetch_run :
    index (embed i s).program s.pc.toNat (embed i s) =
      EStateM.Result.ok (s.program s.pc).toNat (embed i s) := by
  simp only [embed, index_image_address]

/-- A call of `step` on an embedded state: a transition of the machine with the
same cycles and bus cycles, or its fault as an exception after the request is
latched. -/
theorem step_embed :
    match Isa.step i s with
    | .ok outcome =>
        ∃ trace, step (embed i s) = .ok trace (embed i outcome.state) ∧
          trace.mnemonic = executedLabel outcome.executed ∧
          trace.cycles = outcome.cycles ∧
          trace.busCycles = stamped s.cycleCount outcome.bus
    | .error fault =>
        step (embed i s) = .error (faultError fault) (embed i (Isa.latchRequest i s)) := by
  have pc : (embed i s).state.pc &&& pcMask = s.pc.toNat := pc_and_mask s.pc
  have entry : (embed i s).interruptEntryPending = s.interruptEntryPending := rfl
  unfold step Isa.step
  simp only [bind_run, get_run, pc, fetch_run, word_and_mask, entry]
  cases s.interruptEntryPending
  · simp only [Bool.false_eq_true, if_false, bind_run, latchInterruptInput_run, stepFetched,
      decode_eq]
    cases found : mnemonic? (s.program s.pc) with
    | none => rfl
    | some m =>
        exact stepInstruction_matches i (Isa.latchRequest i s) m (s.program s.pc) found
  · exact interruptEntry_matches i s

end Step

end Tms32010.Model
