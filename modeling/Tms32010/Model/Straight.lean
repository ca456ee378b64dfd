import Tms32010.Model.Simulation

/-!
# Straight-line instructions of the reference model

The data block, the handlers and the auxiliary update of `step`, each run on an
embedded state. The block reads and checks addresses and records transactions;
the handlers are the machine's `execute` and memory updates.
-/

namespace Tms32010.Model

section Straight

variable (i : Isa.Input) (s : Isa.State) (m : Mnemonic) (word : BitVec 16)

/-! ## The data block -/

/-- The dictionary after the data block. -/
def accessedOperands : Operands :=
  { decodedOperands m word with
    effectiveAddress := some (s.dataAddress m word).toNat
    moveAddress :=
      if m = .dmov ∨ m = .ltd then some ((s.dataAddress m word).toNat + 1) else none
    programAddress :=
      if m = .tblr ∨ m = .tblw then some (s.accumulator.extractLsb' 0 12).toNat else none }

/-- The auxiliary register a word with an addressing byte selects. -/
def selectedRegister : Option Nat :=
  if Instruction.indirect word then some s.auxiliaryRegisterPointer.toNat else none

/-- The word the data block transfers. -/
def transferWord : BitVec 16 :=
  if m = .in then i.ioInput (Instruction.port word)
  else if m = .tblr then s.program (s.accumulator.extractLsb' 0 12)
  else if readsTransactionData m then Isa.operand m word s
  else s.storeWord m word

@[simp]
theorem toNat_bne_zero (b : Bool) : (b.toNat != 0) = b := by
  cases b <;> rfl

/-- `SST` has a row of its own, in which a direct offset is below sixteen. -/
theorem statusStore_direct (found : mnemonic? word = some .sst)
    (direct : Instruction.indirect word = false) :
    (Instruction.lowByte word).extractLsb' 4 3 = 0 := by
  rcases encoding_rows (Instruction.opcode word) with ⟨consistent, -⟩
  have bit : (Instruction.lowByte word).getLsbD 7 = false := by
    rw [← direct]
    simp
  unfold mnemonic? at found
  cases row : encoding (Instruction.opcode word) <;> rw [row] at found consistent <;>
    simp only [Encoding.mnemonic?] at found
  case statusStore =>
    simp only [bit, Bool.false_or, Option.ite_none_right_eq_some, Bool.and_eq_true,
      beq_iff_eq] at found
    exact found.1.2
  case fixed => exact absurd (fixedMnemonic_plain found).1 (by decide)
  case constant => cases found; exact absurd consistent (by decide)
  case addressed m | branch m =>
    rw [Option.ite_none_right_eq_some] at found
    cases found.2
    exact absurd consistent (by decide)
  case auxiliary | page => split at found <;> simp at found
  case unassigned => cases found

theorem statusStore_offset (found : mnemonic? word = some .sst)
    (direct : Instruction.indirect word = false) :
    0x80 ||| (Instruction.addressingField word).toNat = (0x8#4 ++ word.extractLsb' 0 4).toNat := by
  have zero := congrArg BitVec.toNat (statusStore_direct word found direct)
  have narrow : (Instruction.addressingField word).toNat = (word.extractLsb' 0 4).toNat := by
    simp only [BitVec.extractLsb'_toNat, Nat.shiftRight_eq_div_pow, BitVec.ofNat_eq_ofNat,
      BitVec.toNat_ofNat] at zero ⊢
    norm_num at zero ⊢
    omega
  rw [BitVec.toNat_append, narrow]
  rfl

theorem effectiveAddress_run (found : mnemonic? word = some m)
    (data : m.dataAddressed = true) :
    effectiveAddress m (decodedOperands m word) (embed i s) =
      EStateM.Result.ok (s.dataAddress m word).toNat (embed i s) := by
  have modifies : m.modifiesAuxiliary = true := by
    simp [Mnemonic.modifiesAuxiliary, data]
  unfold effectiveAddress Registers.dataAddress
  simp only [bind_run, get_run, decodedOperands, modifies, if_true, key_some_run,
    toNat_bne_zero]
  cases indirect : Instruction.indirect word
  · by_cases status : m = .sst
    · subst status
      simp only [Bool.false_eq_true, if_false, if_true, bind_run, key_some_run, pure_run,
        beq_self_eq_true, statusStore_offset word found indirect]
    · have status' : (m == Mnemonic.sst) = false := by simpa using status
      simp only [Bool.false_eq_true, if_false, status, status', bind_run, key_some_run,
        pure_run, embed, embedRegisters, direct_address]
  · simp only [embed, embedRegisters, bind_run, index_auxiliary, pure_run, indirect_address,
      if_true]

theorem dataWords_le (address : BitVec 8) :
    dataWords ≤ address.toNat ↔ DataRam.addressValid address = false := by
  rw [← Bool.not_eq_true, DataRam.addressValid_iff]
  exact Nat.not_lt.symm

theorem movesData_iff : (m = .dmov ∨ m = .ltd) ↔ m.movesData = true := by
  cases m <;> simp [Mnemonic.movesData]

/-- The next address of a populated one does not wrap. -/
theorem next_address {address : BitVec 8} (valid : DataRam.addressValid address = true) :
    address.toNat + 1 = (address + 1).toNat := by
  rw [DataRam.addressValid_iff] at valid
  rw [BitVec.toNat_add]
  simp
  omega

theorem checkAddress_run (pc opcode : Nat) (data : m.dataAddressed = true)
    (self : Tms32010Model) :
    checkAddress pc opcode m (s.dataAddress m word).toNat self =
      match Isa.dataFault? m word s with
      | some address =>
          EStateM.Result.error (.unsupportedDataAddress pc opcode address.toNat) self
      | none => EStateM.Result.ok () self := by
  unfold checkAddress Isa.dataFault?
  simp only [data, if_true, dataWords_le, movesData_iff]
  cases valid : DataRam.addressValid (s.dataAddress m word)
  · simp
  · simp only [next_address valid, dataWords_le]
    cases m.movesData <;>
      cases DataRam.addressValid (s.dataAddress m word + 1) <;> simp

/-- The fields an instruction without fault has. -/
theorem dataFault_none {m : Mnemonic} {word : BitVec 16} {s : Isa.State}
    (data : m.dataAddressed = true) (noFault : Isa.dataFault? m word s = none) :
    DataRam.addressValid (s.dataAddress m word) = true ∧
      (m.movesData = true → DataRam.addressValid (s.dataAddress m word + 1) = true) := by
  unfold Isa.dataFault? at noFault
  simp only [data, if_true] at noFault
  split at noFault
  · cases noFault
  · rename_i valid
    refine ⟨by simpa using valid, ?_⟩
    intro moves
    simpa [moves] using noFault

theorem increment_bit :
    ((Instruction.addressingField word).toNat &&& 0x20 != 0) = Instruction.increment word := by
  rw [← addressingField_eq, Nat.and_assoc]
  exact bit_test word 5

theorem decrement_bit :
    ((Instruction.addressingField word).toNat &&& 0x10 != 0) = Instruction.decrement word := by
  rw [← addressingField_eq, Nat.and_assoc]
  exact bit_test word 4

/-- The counter update of the model. -/
theorem counted_eq (value : BitVec 16) :
    (if Instruction.increment word then modifyCounter value.toNat 1
      else if Instruction.decrement word then modifyCounter value.toNat (-1)
      else value.toNat) = (Registers.counted word value).toNat := by
  unfold Registers.counted
  rw [modifyCounter_eq, modifyCounter_eq]
  cases Instruction.increment word <;> cases Instruction.decrement word <;> rfl

theorem selected_beq :
    (some (Instruction.auxiliaryRegister word).toNat == some s.auxiliaryRegisterPointer.toNat) =
      (Instruction.auxiliaryRegister word == s.auxiliaryRegisterPointer) := by
  cases Instruction.auxiliaryRegister word <;> cases s.auxiliaryRegisterPointer <;> rfl

theorem sarWord_run :
    sarWord (accessedOperands s .sar word) (selectedRegister s word) (embed i s) =
      EStateM.Result.ok (s.storeWord .sar word).toNat (embed i s) := by
  unfold sarWord Registers.storeWord selectedRegister
  simp only [bind_run, get_run, accessedOperands, decodedOperands, Mnemonic.modifiesAuxiliary,
    Mnemonic.dataAddressed, Mnemonic.readsData, Mnemonic.storesRegister, Bool.or_true,
    Bool.true_or, if_true, fieldEntries, key_some_run, toNat_bne_zero, embed,
    embedRegisters, index_auxiliary]
  cases Instruction.indirect word
  · simp only [Bool.false_and, Bool.false_eq_true, if_false, pure_run]
  · simp only [Bool.true_and, if_true, selected_beq]
    cases Instruction.auxiliaryRegister word == s.auxiliaryRegisterPointer
    · simp only [Bool.false_eq_true, if_false, pure_run]
    · simp only [if_true, bind_run, key_some_run, increment_bit, decrement_bit, ← counted_eq]
      cases Instruction.increment word <;> cases Instruction.decrement word <;> rfl

theorem sachWord_run :
    sachWord (accessedOperands s .sach word) (embed i s) =
      EStateM.Result.ok (s.storeWord .sach word).toNat (embed i s) := by
  unfold sachWord
  simp only [bind_run, get_run, accessedOperands, decodedOperands, Mnemonic.modifiesAuxiliary,
    Mnemonic.dataAddressed, Mnemonic.readsData, Mnemonic.storesRegister, Bool.or_true,
    Bool.true_or, if_true, fieldEntries, key_some_run, embed, embedRegisters, pure_run,
    sach_eq]
  rfl

theorem transactionData_run (data : m.dataAddressed = true)
    (noFault : Isa.dataFault? m word s = none) :
    transactionData m (accessedOperands s m word) (selectedRegister s word)
        (s.dataAddress m word).toNat (embed i s) =
      EStateM.Result.ok (transferWord i s m word).toNat (embed i s) := by
  rcases dataFault_none data noFault with ⟨valid, -⟩
  unfold transactionData transferWord
  simp only [bind_run, get_run]
  by_cases input : m = .in
  · subst input
    simp only [accessedOperands, decodedOperands, Mnemonic.modifiesAuxiliary, data,
      Bool.true_or, if_true, fieldEntries, key_some_run, bind_run, embed,
      index_image_address, word_and_mask, pure_run]
  by_cases read : m = .tblr
  · subst read
    simp only [accessedOperands, embed, if_true, or_false, reduceCtorEq, if_false, bind_run,
      key_some_run, index_image_address]
  simp only [input, read, if_false]
  by_cases reads : readsTransactionData m = true
  · simp only [reads, if_true, embed, index_image_data valid]
    rfl
  · have stores : m = .sacl ∨ m = .sar ∨ m = .sst ∨ m = .sach := by
      cases m <;> simp_all [readsTransactionData, Mnemonic.dataAddressed, Mnemonic.readsData,
        Mnemonic.storesRegister, Mnemonic.tableTransfer, Mnemonic.ioTransfer]
    rcases stores with rfl | rfl | rfl | rfl
    · simp [reads, embed, embedRegisters, Registers.storeWord, and_wordMask]
    · simp only [reads, if_false, if_true, reduceCtorEq, sarWord_run]
    · have status : (embed i s).state = embedRegisters s.toRegisters := rfl
      simp only [reads, if_false, if_true, reduceCtorEq, pure_run, status, sstWord_eq]
      rfl
    · simp only [reads, if_false, reduceCtorEq, sachWord_run]

/-- The transactions of the data block are the machine's bus cycles after the fetch. -/
theorem dataTransactions_run (data : m.dataAddressed = true) (address : Nat) :
    ∃ block, dataTransactions s.pc.toNat m (accessedOperands s m word) address
        (transferWord i s m word).toNat (embed i s) = EStateM.Result.ok block (embed i s) ∧
      (fetchTransaction s word :: block).filterMap Transaction.busCycle? =
        stamped s.cycleCount (Isa.straightBus m word i s) := by
  have prefetched : index (embed i s).program (s.pc + 1).toNat (embed i s) =
      EStateM.Result.ok (s.program (s.pc + 1)).toNat (embed i s) := by
    simp only [embed, index_image_address]
  unfold dataTransactions
  by_cases input : m = .in
  · subst input
    simp only [bind_run, get_run, if_true, accessedOperands, decodedOperands, fieldEntries,
      Mnemonic.modifiesAuxiliary, data, Bool.true_or, key_some_run, pure_run,
      reduceCtorEq, or_self, if_false, EStateM.Result.ok.injEq, and_true, exists_eq_left']
    simp only [List.filterMap_cons, List.filterMap_nil, fetchTransaction, Transaction.busCycle?,
      BitVec.ofNat_toNat, BitVec.setWidth_eq, embed_cycleCount]
    rfl
  by_cases output : m = .out
  · subst output
    simp only [bind_run, get_run, if_true, accessedOperands, decodedOperands, fieldEntries,
      Mnemonic.modifiesAuxiliary, data, Bool.true_or, key_some_run, pure_run,
      reduceCtorEq, or_self, if_false, EStateM.Result.ok.injEq, and_true, exists_eq_left']
    simp only [List.filterMap_cons, List.filterMap_nil, fetchTransaction, Transaction.busCycle?,
      BitVec.ofNat_toNat, BitVec.setWidth_eq, embed_cycleCount]
    rfl
  by_cases table : m = .tblr ∨ m = .tblw
  · rcases table with rfl | rfl
    all_goals
      simp only [bind_run, get_run, if_true, accessedOperands, true_or, or_true, next_pc,
        prefetched, word_and_mask, key_some_run, pure_run, reduceCtorEq, or_self, if_false,
        EStateM.Result.ok.injEq, and_true, exists_eq_left']
      simp only [List.filterMap_cons, List.filterMap_nil, fetchTransaction,
        Transaction.busCycle?, BitVec.ofNat_toNat, BitVec.setWidth_eq, embed_cycleCount]
      rfl
  have bus : Isa.straightBus m word i s = [.programRead s.pc word] := by
    cases m <;> simp_all [Isa.straightBus]
  rw [bus]
  simp only [input, output, table, if_false, bind_run, get_run, pure_run]
  by_cases moves : m = .dmov ∨ m = .ltd
  · simp only [moves, if_true, pure_run, EStateM.Result.ok.injEq, and_true, exists_eq_left']
    simp only [List.cons_append, List.nil_append, List.filterMap_cons, List.filterMap_nil,
      fetchTransaction, Transaction.busCycle?, BitVec.ofNat_toNat, BitVec.setWidth_eq]
    rfl
  · simp only [moves, if_false, pure_run, EStateM.Result.ok.injEq, and_true, exists_eq_left']
    simp only [List.filterMap_cons, List.filterMap_nil, fetchTransaction,
      Transaction.busCycle?, BitVec.ofNat_toNat, BitVec.setWidth_eq]
    rfl

/-- The data block of a mnemonic that addresses data. -/
theorem accessData_run (found : mnemonic? word = some m) (data : m.dataAddressed = true)
    (noFault : Isa.dataFault? m word s = none) :
    ∃ access, accessData s.pc.toNat word.toNat m (decodedOperands m word)
        [fetchTransaction s word] (embed i s) = EStateM.Result.ok access (embed i s) ∧
      access.operands = accessedOperands s m word ∧
      access.selectedArp = selectedRegister s word ∧
      access.transactionData = some (transferWord i s m word).toNat ∧
      access.transactions.filterMap Transaction.busCycle? =
        stamped s.cycleCount (Isa.straightBus m word i s) := by
  have modifies : m.modifiesAuxiliary = true := by
    simp [Mnemonic.modifiesAuxiliary, data]
  have indirect : (decodedOperands m word).indirect =
      some (Instruction.indirect word).toNat := by
    simp [decodedOperands, modifies]
  have others : (decodedOperands m word).moveAddress = none ∧
      (decodedOperands m word).programAddress = none := by
    cases m <;> exact ⟨rfl, rfl⟩
  have selected : (if Instruction.indirect word then some (embed i s).state.status.arp else none) =
      selectedRegister s word := rfl
  have pcMasked : (embed i s).state.acc &&& pcMask =
      (s.accumulator.extractLsb' 0 12).toNat := acc_and_pcMask s.accumulator
  rcases dataTransactions_run i s m word data (s.dataAddress m word).toNat with
    ⟨block, run, external⟩
  unfold accessData
  simp only [bind_run, get_run, indirect, key_some_run, toNat_bne_zero, selected,
    effectiveAddress_run i s m word found data, checkAddress_run s m word _ _ data, noFault,
    others.1, others.2, pcMasked]
  have operands_eq : ({ decodedOperands m word with
      effectiveAddress := some (s.dataAddress m word).toNat
      moveAddress :=
        if m = .dmov ∨ m = .ltd then some ((s.dataAddress m word).toNat + 1) else none
      programAddress :=
        if m = .tblr ∨ m = .tblw then some (s.accumulator.extractLsb' 0 12).toNat else none } :
      Operands) = accessedOperands s m word := rfl
  simp only [← indirect, operands_eq, transactionData_run i s m word data noFault, run, pure_run,
    EStateM.Result.ok.injEq, and_true, exists_eq_left']
  exact ⟨trivial, trivial, trivial, external⟩

/-- A data address the part lacks raises before anything else changes. -/
theorem accessData_fault (found : mnemonic? word = some m) (data : m.dataAddressed = true)
    {address : BitVec 8} (fault : Isa.dataFault? m word s = some address)
    (transactions : List Transaction) :
    accessData s.pc.toNat word.toNat m (decodedOperands m word) transactions (embed i s) =
      EStateM.Result.error
        (.unsupportedDataAddress s.pc.toNat word.toNat address.toNat) (embed i s) := by
  have indirect : (decodedOperands m word).indirect =
      some (Instruction.indirect word).toNat := by
    simp [decodedOperands, Mnemonic.modifiesAuxiliary, data]
  unfold accessData
  simp only [bind_run, get_run, indirect, key_some_run, effectiveAddress_run i s m word found data,
    checkAddress_run s m word _ _ data, fault]

/-! ## Handlers -/

/-- What the handlers see: the fetched state and the prepared access. -/
structure Prepared (access : Access) : Prop where
  operands : access.operands =
    if m.dataAddressed then accessedOperands s m word else decodedOperands m word
  selectedArp : access.selectedArp =
    if m.modifiesAuxiliary then selectedRegister s word else none
  transactionData : m.dataAddressed = true →
    access.transactionData = some (transferWord i s m word).toNat

/-- The machine state the handlers start from. -/
def afterFetch : Isa.State := { s with toRegisters := Isa.fetched s }

/-- The machine state the handlers end in. -/
def afterHandler : Isa.State :=
  { s with
    toRegisters := (Isa.fetched s).execute m word (Isa.operand m word s)
    data := Isa.straightData m word i s
    program := Isa.straightProgram m word s
    ioOutput := Isa.straightOutput m word s }

theorem addAccumulator_embed (addend : BitVec 32) :
    addAccumulator addend.toNat (embed i s) =
      EStateM.Result.ok ()
        (embed i { s with toRegisters := s.toRegisters.addAccumulator addend }) := by
  simpa only [withRegisters_embed] using
    addAccumulator_run (embed i s) s.toRegisters addend

theorem subtractAccumulator_embed (subtrahend : BitVec 32) :
    subtractAccumulator subtrahend.toNat (embed i s) =
      EStateM.Result.ok ()
        (embed i { s with toRegisters := s.toRegisters.subtractAccumulator subtrahend }) := by
  simpa only [withRegisters_embed] using
    subtractAccumulator_run (embed i s) s.toRegisters subtrahend

theorem conditionalSubtract_embed (operand : BitVec 16) :
    conditionalSubtract operand.toNat (embed i s) =
      EStateM.Result.ok ()
        (embed i { s with toRegisters := s.toRegisters.conditionalSubtract operand }) := by
  simpa only [withRegisters_embed] using
    conditionalSubtract_run (embed i s) s.toRegisters operand

theorem absolute_embed :
    absolute (embed i s) =
      EStateM.Result.ok () (embed i { s with toRegisters := s.toRegisters.absolute }) := by
  simpa only [withRegisters_embed] using absolute_run (embed i s) s.toRegisters

theorem loadT_embed (value : BitVec 16) :
    modifyState (fun state => { state with t := value.toNat }) (embed i s) =
      EStateM.Result.ok ()
        (embed i { s with toRegisters := { s.toRegisters with tRegister := value } }) := by
  simp [embed, embedRegisters]

@[simp]
theorem embed_p : (embed i s).state.p = s.productRegister.toNat := rfl

@[simp]
theorem embed_t : (embed i s).state.t = s.tRegister.toNat := rfl

/-- The addition does not touch the T register. -/
theorem addAccumulator_tRegister (r : Registers) (addend : BitVec 32) (value : BitVec 16) :
    Registers.addAccumulator { r with tRegister := value } addend =
      { r.addAccumulator addend with tRegister := value } := by
  unfold Registers.addAccumulator
  split <;> rfl

/-- A data write at a populated address. -/
theorem setData_embed {address : BitVec 8} (value : BitVec 16)
    (valid : DataRam.addressValid address = true) :
    setData address.toNat value.toNat (embed i s) =
      EStateM.Result.ok () (embed i { s with data := s.data.write address value }) := by
  unfold setData
  simp only [bind_run, get_run, embed, setIndex_image_data value valid, modify_run]

/-- The stack effect of a table transfer. -/
theorem duplicateBottom_embed :
    duplicateBottom (embed i s) =
      EStateM.Result.ok ()
        (embed i { s with toRegisters := { s.toRegisters with stack := s.stack.pushPop } }) := by
  simp [duplicateBottom, embed, embedRegisters, stackList, index, setIndex, Stack.pushPop]

/-- A register write through the list of auxiliary registers. -/
theorem setAuxiliary_embed (register : Bool) (value : BitVec 16) :
    setAuxiliary register.toNat value.toNat (embed i s) =
      EStateM.Result.ok ()
        (embed i { s with toRegisters := s.setAuxiliaryRegister register value }) := by
  unfold setAuxiliary
  cases register <;>
    simp [embed, embedRegisters, setIndex, Registers.setAuxiliaryRegister]

section Handlers

variable {i s m word} {access : Access} (prepared : Prepared i s m word access)

attribute [local simp] execute afterFetch afterHandler Isa.fetched Registers.execute
  Isa.straightData Isa.straightProgram Isa.straightOutput decodedOperands fieldEntries
  Mnemonic.modifiesAuxiliary Mnemonic.dataAddressed Mnemonic.readsData
  Mnemonic.storesRegister Mnemonic.tableTransfer Mnemonic.ioTransfer Mnemonic.movesData constant

include prepared

/-- Handlers that read no data word. -/
theorem execute_register (data : m.dataAddressed = false)
    (control : m.twoWordControlFlow = false) (computed : m.computedControlFlow = false)
    (stack : m.stackAccess = false) :
    execute m access (embed i (afterFetch s)) =
      EStateM.Result.ok () (embed i (afterHandler i s m word)) := by
  have operands := prepared.operands
  rw [data, if_neg Bool.false_ne_true] at operands
  cases m with
  | lack =>
      have narrow : word.toNat % 256 % 4294967296 = word.toNat % 256 :=
        Nat.mod_eq_of_lt (by omega)
      have constant_eq : lowBits 8 ((word.toNat : Int) % 256) = word.toNat % 256 := by
        simp only [lowBits]
        omega
      simp [operands, embed, embedRegisters, narrow, constant_eq]
  | lark =>
      have constant_eq : lowBits 8 ((Instruction.lowByte word).toNat : Int) =
          ((Instruction.lowByte word).setWidth 16).toNat := by
        rw [lowBits_ofNat, BitVec.toNat_setWidth]
        omega
      have found : access.operands.auxiliaryRegister =
          some (Instruction.auxiliaryRegister word).toNat := by
        rw [operands]
        rfl
      have value : access.operands.constant = some ((Instruction.lowByte word).toNat : Int) := by
        rw [operands]
        rfl
      simp only [execute, constant, found, value, bind_run, key_some_run, constant_eq,
        setAuxiliary_embed]
      simp
  | larp | ldpk => simp [operands, embed, embedRegisters]
  | mpyk =>
      have value : access.operands.constant = some (Instruction.constant13 word).toInt := by
        rw [operands]
        rfl
      simp only [execute, constant, value, bind_run, key_some_run, modifyState_run, embed,
        embedRegisters, afterFetch, Isa.fetched, signedWord_eq, product_eq]
      simp
  | apac => exact addAccumulator_embed i (afterFetch s) s.productRegister
  | spac => exact subtractAccumulator_embed i (afterFetch s) s.productRegister
  | zac | rovm | sovm | pac | dint | eint | nop | mar => simp [embed, embedRegisters]
  | abs => exact absolute_embed i (afterFetch s)
  | _ =>
      first
        | exact absurd control (by decide)
        | exact absurd computed (by decide)
        | exact absurd stack (by decide)
        | exact absurd data (by decide)

/-- The data word a reading handler sees. -/
theorem dataWord_run (data : m.dataAddressed = true)
    (noFault : Isa.dataFault? m word s = none) (t : Isa.State) (same : t.data = s.data) :
    dataWord access.operands (embed i t) =
      EStateM.Result.ok (Isa.operand m word s).toNat (embed i t) := by
  have operands := prepared.operands
  rw [data, if_pos rfl] at operands
  have address : access.operands.effectiveAddress = some (s.dataAddress m word).toNat := by
    rw [operands]
    rfl
  rcases dataFault_none data noFault with ⟨valid, -⟩
  unfold dataWord
  simp only [bind_run, get_run, address, key_some_run, embed, same, index_image_data valid]
  rfl

/-- Handlers that read a data word into a register. -/
theorem execute_read (reads : m.readsData = true) (keeps : m.movesData = false)
    (noFault : Isa.dataFault? m word s = none) :
    execute m access (embed i (afterFetch s)) =
      EStateM.Result.ok () (embed i (afterHandler i s m word)) := by
  have data := Mnemonic.dataAddressed_of_readsData reads
  have operands := prepared.operands
  rw [data, if_pos rfl] at operands
  have word_run := dataWord_run prepared data noFault (afterFetch s) rfl
  cases m with
  | lac | add | sub =>
      have shift : access.operands.shift = some (Instruction.shift word).toNat := by
        rw [operands]
        rfl
      simp only [execute, bind_run, word_run, shift, key_some_run, modifyState_run, shifted_eq,
        addAccumulator_embed, subtractAccumulator_embed]
      simp [embed, embedRegisters]
  | lar =>
      have register : access.operands.auxiliaryRegister =
          some (Instruction.auxiliaryRegister word).toNat := by
        rw [operands]
        rfl
      simp only [execute, bind_run, word_run, register, key_some_run, setAuxiliary_embed]
      simp
  | lst =>
      have ov := bit_test (Isa.operand .lst word s) 15
      have ovm := bit_test (Isa.operand .lst word s) 14
      simp only [Nat.reducePow] at ov ovm
      simp only [execute, bind_run, word_run, modifyStatus_run, bit_value, low_bit_field, ov, ovm,
        afterHandler, Registers.execute, Registers.loadStatus]
      simp [embed, embedRegisters]
  | lta =>
      simp only [execute, bind_run, word_run, loadT_embed, get_run, embed_p,
        addAccumulator_embed, addAccumulator_tRegister]
      simp
  | adds | subs =>
      simp only [execute, bind_run, word_run, widened_eq (Isa.operand _ word s),
        addAccumulator_embed, subtractAccumulator_embed]
      simp
  | subh =>
      simp only [execute, bind_run, word_run, high_half_eq, subtractAccumulator_embed]
      simp
  | subc =>
      simp only [execute, bind_run, word_run, conditionalSubtract_embed]
      simp
  | mpy =>
      simp only [execute, bind_run, word_run, modifyState_run, embed_t, mpy_eq]
      simp [embed, embedRegisters]
  | ldp =>
      have bit := low_bit_field (Isa.operand .ldp word s)
      simp only [execute, bind_run, word_run, modifyStatus_run, bit]
      simp [embed, embedRegisters]
  | zalh =>
      simp only [execute, bind_run, word_run, modifyState_run, high_half_eq]
      simp [embed, embedRegisters]
  | lt | zals | or =>
      simp only [execute, bind_run, word_run, modifyState_run]
      simp [embed, embedRegisters]
  | addh =>
      have sum := addh_eq s.accumulator (Isa.operand .addh word s)
      simp only [execute, bind_run, word_run, modifyState_run]
      simpa [embed, embedRegisters] using sum
  | xor =>
      have bits := xor_eq s.accumulator (Isa.operand .xor word s)
      simp only [execute, bind_run, word_run, modifyState_run]
      simpa [embed, embedRegisters] using bits
  | and =>
      have bits := and_eq s.accumulator (Isa.operand .and word s)
      simp only [execute, bind_run, word_run, modifyState_run]
      simpa [embed, embedRegisters] using bits
  | _ =>
      first
        | exact absurd reads (by decide)
        | exact absurd keeps (by decide)

/-- Handlers that copy the addressed word to the next address. -/
theorem execute_move (moves : m.movesData = true) (noFault : Isa.dataFault? m word s = none) :
    execute m access (embed i (afterFetch s)) =
      EStateM.Result.ok () (embed i (afterHandler i s m word)) := by
  have data : m.dataAddressed = true := by
    cases m <;> first | rfl | exact absurd moves (by decide)
  rcases dataFault_none data noFault with ⟨valid, nextValid⟩
  have moveAddress : access.operands.moveAddress =
      some (s.dataAddress m word + 1).toNat := by
    rw [prepared.operands, data, if_pos rfl, ← next_address valid]
    exact if_pos ((movesData_iff m).mpr moves)
  have word_run := dataWord_run prepared data noFault (afterFetch s) rfl
  cases m with
  | dmov =>
      simp only [execute, bind_run, word_run, moveAddress, key_some_run,
        setData_embed _ _ _ (nextValid moves)]
      simp
  | ltd =>
      simp only [execute, bind_run, word_run, moveAddress, key_some_run, loadT_embed,
        setData_embed _ _ _ (nextValid moves), get_run, embed_p, addAccumulator_embed,
        addAccumulator_tRegister]
      simp
  | _ => exact absurd moves (by decide)

/-- Handlers that store a register. -/
theorem execute_store (stores : m.storesRegister = true)
    (noFault : Isa.dataFault? m word s = none) :
    execute m access (embed i (afterFetch s)) =
      EStateM.Result.ok () (embed i (afterHandler i s m word)) := by
  have data : m.dataAddressed = true := by
    cases m <;> first | rfl | exact absurd stores (by decide)
  rcases dataFault_none data noFault with ⟨valid, -⟩
  have operands := prepared.operands
  rw [data, if_pos rfl] at operands
  have address : access.operands.effectiveAddress = some (s.dataAddress m word).toNat := by
    rw [operands]
    rfl
  have selected := prepared.selectedArp
  have transfer := prepared.transactionData data
  cases m with
  | sacl =>
      have masked : (embed i (afterFetch s)).state.acc &&& wordMask =
          (s.accumulator.extractLsb' 0 16).toNat := acc_and_wordMask s.accumulator
      simp only [execute, bind_run, get_run, address, key_some_run, masked,
        setData_embed _ _ _ valid]
      simp [Registers.storeWord]
  | sar =>
      have stored : sarWord (accessedOperands s .sar word) (selectedRegister s word)
          (embed i (afterFetch s)) =
          EStateM.Result.ok (s.storeWord .sar word).toNat (embed i (afterFetch s)) :=
        sarWord_run i (afterFetch s) word
      rw [operands] at address
      simp only [execute, bind_run, address, key_some_run, operands, selected,
        Mnemonic.modifiesAuxiliary, data, Bool.true_or, if_true, stored,
        setData_embed _ _ _ valid]
      simp
  | sst =>
      simp only [execute, bind_run, transfer, assigned_some_run, address, key_some_run,
        setData_embed _ _ _ valid]
      simp [transferWord, readsTransactionData]
  | sach =>
      have stored : sachWord (accessedOperands s .sach word) (embed i (afterFetch s)) =
          EStateM.Result.ok (s.storeWord .sach word).toNat (embed i (afterFetch s)) :=
        sachWord_run i (afterFetch s) word
      rw [operands] at address
      simp only [execute, bind_run, address, key_some_run, operands, stored,
        setData_embed _ _ _ valid]
      simp
  | _ => exact absurd stores (by decide)

/-- Handlers that exchange a word with a port or with program memory. -/
theorem execute_transfer (transfers : m.tableTransfer = true ∨ m.ioTransfer = true)
    (noFault : Isa.dataFault? m word s = none) :
    execute m access (embed i (afterFetch s)) =
      EStateM.Result.ok () (embed i (afterHandler i s m word)) := by
  have data : m.dataAddressed = true := by
    cases m <;> first | rfl | exact absurd transfers (by decide)
  rcases dataFault_none data noFault with ⟨valid, -⟩
  have operands := prepared.operands
  rw [data, if_pos rfl] at operands
  have address : access.operands.effectiveAddress = some (s.dataAddress m word).toNat := by
    rw [operands]
    rfl
  have word_run := dataWord_run prepared data noFault (afterFetch s) rfl
  cases m with
  | «in» =>
      have port : access.operands.port = some (Instruction.port word).toNat := by
        rw [operands]
        rfl
      have input : index (embed i (afterFetch s)).ioInput (Instruction.port word).toNat
          (embed i (afterFetch s)) =
          EStateM.Result.ok (i.ioInput (Instruction.port word)).toNat
            (embed i (afterFetch s)) := by
        simp only [embed, index_image_address]
      simp only [execute, bind_run, get_run, port, address, key_some_run, input, word_and_mask,
        setData_embed _ _ _ valid]
      simp
  | out =>
      have port : access.operands.port = some (Instruction.port word).toNat := by
        rw [operands]
        rfl
      have output (value : BitVec 16) :
          setIndex (embed i (afterFetch s)).ioOutput (Instruction.port word).toNat value.toNat
            (embed i (afterFetch s)) =
          EStateM.Result.ok
            (image (byValue (Function.update s.ioOutput (Instruction.port word) value)))
            (embed i (afterFetch s)) := by
        simp only [embed, setIndex_image_address, afterFetch]
      simp only [execute, bind_run, get_run, word_run, port, key_some_run, word_and_mask, output,
        modify_run]
      simp [embed]
  | tblr =>
      have programAddress : access.operands.programAddress =
          some (s.accumulator.extractLsb' 0 12).toNat := by
        rw [operands]
        rfl
      have read : index (embed i (afterFetch s)).program (s.accumulator.extractLsb' 0 12).toNat
          (embed i (afterFetch s)) =
          EStateM.Result.ok (s.program (s.accumulator.extractLsb' 0 12)).toNat
            (embed i (afterFetch s)) := by
        simp only [embed, index_image_address, afterFetch]
      simp only [execute, bind_run, get_run, programAddress, address, key_some_run, read,
        word_and_mask, setData_embed _ _ _ valid, duplicateBottom_embed]
      simp
  | tblw =>
      have programAddress : access.operands.programAddress =
          some (s.accumulator.extractLsb' 0 12).toNat := by
        rw [operands]
        rfl
      have written (value : BitVec 16) :
          setIndex (embed i (afterFetch s)).program (s.accumulator.extractLsb' 0 12).toNat
            value.toNat (embed i (afterFetch s)) =
          EStateM.Result.ok
            (image (byValue
              (Function.update s.program (s.accumulator.extractLsb' 0 12) value)))
            (embed i (afterFetch s)) := by
        simp only [embed, setIndex_image_address, afterFetch]
      simp only [execute, bind_run, get_run, word_run, programAddress, key_some_run,
        word_and_mask, written, modify_run]
      simp [embed, duplicateBottom, embedRegisters, stackList, index, setIndex, Stack.pushPop]
  | _ => exact absurd transfers (by decide)

end Handlers

end Straight

end Tms32010.Model
