import Tms32010.Rtl.Retire

/-!
# Owners of the core

The core drives its stack, its auxiliary counter and its bus strobes from five
pending flags without a priority among them. Every reachable state has at most
one of them set, so the controls never collide. The invariant holds for every
word on the program bus, with either value of the parameters, and across resets.
-/

namespace Tms32010.Rtl.Core

/-- What the next enabled clock belongs to. -/
inductive Owner where
  | issue | entry | computed | control | table | io
  deriving DecidableEq, Repr

/-- The pending flags are those of one owner. -/
structure OwnedBy (o : Owner) (s : State) : Prop where
  entry : s.interruptEntryPending = (o == .entry)
  computed : s.computedControlPending = (o == .computed)
  control : s.controlOperandPending = (o == .control)
  table : s.tablePending = (o == .table)
  io : s.ioPending = (o == .io)

/-- What the captured operations and the flags say of each other. -/
structure Captured (p : Params) (s : State) : Prop where
  phase : s.tableTransferPhase = true → s.tablePending = true
  computed : isComputedControlFlow s.pendingComputedOperation = true
  enabled : s.computedControlPending = true → p.enableInferredComputedControl = true
  control : isTwoWordControlFlow s.pendingControlOperation = true
  table : s.pendingTableOperation = .tblr ∨ s.pendingTableOperation = .tblw
  tableAddress : s.tablePending = true →
    DataRam.addressValid s.pendingTableDataAddress = true
  tableCounter : (s.pendingTableIndirect && s.pendingTableIncrement &&
    s.pendingTableDecrement) = false
  io : s.pendingIoOperation = .in ∨ s.pendingIoOperation = .out
  ioAddress : s.ioPending = true → DataRam.addressValid s.pendingIoDataAddress = true
  ioCounter : (s.pendingIoIndirect && s.pendingIoIncrement && s.pendingIoDecrement) = false

/-- A deferred entry has a pending, unmasked request. -/
def Deferred (s : State) : Prop :=
  (s.interruptDelayOne || s.interruptEntryPending) = true →
    s.interruptPending = true ∧ s.interruptMask = false

/-- The owner invariant. -/
structure Owned (p : Params) (s : State) : Prop where
  owner : ∃ o, OwnedBy o s
  captured : Captured p s
  deferred : Deferred s
  status : (s.retired && s.illegal) = false

/-- The states the core reaches once it was initialized or reset. -/
inductive Reachable (p : Params) : State → Prop where
  | reset (s : State) (i : Inputs)
      (request : (i.initializeRequest || i.resetRequest) = true) : Reachable p (step p s i)
  | clock {s : State} (reached : Reachable p s) (i : Inputs) : Reachable p (step p s i)

theorem OwnedBy.idle {s : State} (owned : OwnedBy .issue s) :
    Idle s ∧ s.interruptEntryPending = false :=
  ⟨⟨owned.control, owned.computed, owned.io, owned.table⟩, owned.entry⟩

section Signals

variable {p : Params} {s : State} {i : Inputs}

/-- A valid word that counts does not ask for both directions. -/
theorem decoded_counter (valid : (decoded i).valid = true)
    (counts : ((decoded i).dataAddressed || (decoded i).operation == .mar) = true)
    (indirect : (decoded i).indirect = true) :
    ((decoded i).addressingField.getLsbD 5 && (decoded i).addressingField.getLsbD 4) = false := by
  rcases decode_cases i.programData with rejected | ⟨m, found, -, decodes⟩
  · exact absurd (valid.symm.trans rejected) (by decide)
  · change decoded i = encoded i.programData m at decodes
    rw [decodes] at counts indirect ⊢
    have modifies : m.modifiesAuxiliary = true := by
      cases m <;> first | rfl | exact absurd counts (by simp [encoded]; decide)
    have single := single_counter_control found modifies indirect
    simpa only [encoded, addressingField_bit, Nat.reduceLT] using single

/-- The stack sees one control at most. -/
theorem stackValid_of_owned {o : Owner} (owned : OwnedBy o s) : stackValid s = true := by
  unfold stackValid stackPush stackPop stackControlValid
  rw [owned.entry, owned.computed, owned.control, owned.table]
  cases o with
  | computed =>
      cases cala : s.pendingComputedOperation == .cala <;>
        cases ret : s.pendingComputedOperation == .ret
      · rfl
      · rfl
      · rfl
      · rw [beq_iff_eq] at cala ret
        exact absurd (cala.symm.trans ret) (by decide)
  | control => cases s.pendingControlOperation == .call <;> rfl
  | issue | entry | table | io => rfl

/-- The auxiliary counter is asked for one direction at most. -/
theorem auxiliaryCounterValid_of_owned (captured : Captured p s) :
    auxiliaryCounterValid s i = true := by
  unfold auxiliaryCounterValid auxiliaryCounterControl auxiliaryCounterControlValid
  rw [Bool.not_eq_true']
  split
  · rfl
  split
  · have single := captured.tableCounter
    revert single
    cases s.pendingTableIndirect <;> simp
  split
  · have single := captured.ioCounter
    revert single
    cases s.pendingIoIndirect <;> simp
  split
  · rename_i indirect
    rw [Bool.and_eq_true, Bool.and_eq_true] at indirect
    exact decoded_counter indirect.1.1 indirect.1.2 indirect.2
  · rfl

/-- The three transfer strobes exclude each other. -/
theorem strobes_of_owned {o : Owner} (owned : OwnedBy o s) :
    [programWrite s i, ioRead s i, ioWrite s i].count true ≤ 1 := by
  have apart : (s.pendingIoOperation == .in && s.pendingIoOperation == .out) = false := by
    cases s.pendingIoOperation <;> rfl
  revert apart
  unfold programWrite ioRead ioWrite
  rw [owned.entry, owned.table, owned.io]
  generalize (s.pendingIoOperation == .in) = input
  generalize (s.pendingIoOperation == .out) = output
  generalize (s.pendingTableOperation == .tblw) = write
  generalize s.tableTransferPhase = phase
  generalize i.resetRequest = reset
  generalize i.initializeRequest = request
  cases o <;> decide +revert

end Signals

/-! ## One clock -/

section Clock

variable {p : Params} {s : State} {i : Inputs}

/-- What a retiring operation makes of the mask. -/
def maskAfter (operation : Operation) (mask : Bool) : Bool :=
  if operation == .dint then true else if operation == .eint then false else mask

theorem executeOperation_flags (registers : Registers) :
    (executeOperation p s i registers).interruptPending = registers.interruptPending ∧
      (executeOperation p s i registers).interruptMask =
        maskAfter (decoded i).operation registers.interruptMask := by
  unfold executeOperation
  dsimp only
  generalize (decoded i).operation = operation
  cases operation <;> first | exact ⟨rfl, rfl⟩ | (dsimp only; split_ifs <;> exact ⟨rfl, rfl⟩)

theorem issueModify_flags (registers : Registers) :
    (issueModify s i registers).interruptPending = registers.interruptPending ∧
      (issueModify s i registers).interruptMask = registers.interruptMask := by
  unfold issueModify
  dsimp only
  split_ifs <;> exact ⟨rfl, rfl⟩

theorem controlOperandCycle_flags :
    (controlOperandCycle s i).interruptPending = s.interruptPending ∧
      (controlOperandCycle s i).interruptMask = s.interruptMask := by
  unfold controlOperandCycle
  dsimp only
  generalize s.pendingControlOperation = operation
  cases operation <;> first | exact ⟨rfl, rfl⟩ | (dsimp only; split_ifs <;> exact ⟨rfl, rfl⟩)

theorem transferModify_flags (indirect selected increment decrement preserve next : Bool) :
    (transferModify s i indirect selected increment decrement preserve next).interruptPending =
        s.interruptPending ∧
      (transferModify s i indirect selected increment decrement preserve next).interruptMask =
        s.interruptMask := by
  unfold transferModify
  dsimp only
  split_ifs <;> exact ⟨rfl, rfl⟩

theorem issueCapture_flags :
    (issueCapture s i).interruptDelayOne = s.interruptDelayOne ∧
      (issueCapture s i).interruptEntryPending = s.interruptEntryPending := by
  unfold issueCapture
  dsimp only
  split_ifs <;> exact ⟨rfl, rfl⟩

theorem retiringInterruptMask_cases :
    retiringInterruptMask p s i =
      if retirementBoundary p s i then maskAfter (retiringOperation s i) s.interruptMask
      else s.interruptMask := by
  unfold retiringInterruptMask maskAfter
  cases retirementBoundary p s i
  · rfl
  · simp only [Bool.true_and, if_true]

/-- An operation that is neither `DINT` nor `EINT` keeps the mask. -/
theorem maskAfter_of_spans {operation : Operation}
    (spans : retiresOnIssue operation = false) (mask : Bool) :
    maskAfter operation mask = mask := by
  cases operation <;> first | rfl | exact absurd spans (by decide)

/-- Before the tracker, a cycle changes no interrupt flag but the mask of `DINT` and `EINT`. -/
structure KeepsFlags (p : Params) (s : State) (i : Inputs) (next : State) : Prop where
  pending : next.interruptPending = s.interruptPending
  delay : next.interruptDelayOne = s.interruptDelayOne
  entry : next.interruptEntryPending = s.interruptEntryPending
  mask : next.interruptMask = retiringInterruptMask p s i

theorem illegalCycle_keepsFlags (boundary : retirementBoundary p s i = false) :
    KeepsFlags p s i (illegalCycle s) := by
  refine ⟨rfl, rfl, rfl, ?_⟩
  rw [retiringInterruptMask_cases, boundary]
  rfl

theorem enabledCycle_keepsFlags {o : Owner} (owned : OwnedBy o s) (captured : Captured p s)
    (entry : s.interruptEntryPending = false) : KeepsFlags p s i (enabledCycle p s i) := by
  have boundary : retirementBoundary p s i =
      (instructionValid p s i &&
        match o with
        | .issue => retiresOnIssue (decoded i).operation
        | .table => s.tableTransferPhase
        | _ => true) := by
    have noEntry : (o == .entry) = false := by rw [← owned.entry, entry]
    unfold retirementBoundary
    rw [entry, owned.computed, owned.control, owned.table, owned.io]
    cases o with
    | entry => exact absurd noEntry (by decide)
    | table => exact Bool.and_comm _ _
    | issue => rfl
    | computed | control | io => exact (Bool.and_true _).symm
  have keeps {operation : Operation} (retiring : retiringOperation s i = operation)
      (spans : retiresOnIssue operation = false) :
      retiringInterruptMask p s i = s.interruptMask := by
    rw [retiringInterruptMask_cases, retiring, maskAfter_of_spans spans]
    split <;> rfl
  unfold enabledCycle
  rw [entry, owned.computed, owned.control, owned.table, owned.io]
  cases valid : instructionValid p s i
  · have parked : retirementBoundary p s i = false := by
      rw [boundary, valid, Bool.false_and]
    simp only [Bool.false_eq_true, if_false, ite_self]
    exact illegalCycle_keepsFlags parked
  · simp only [Bool.false_eq_true, if_false, if_true]
    cases o with
    | entry => exact absurd (owned.entry.symm.trans entry) (by decide)
    | computed =>
        have retiring : retiringOperation s i = s.pendingComputedOperation := by
          unfold retiringOperation
          rw [entry, owned.computed]
          rfl
        have spans : retiresOnIssue s.pendingComputedOperation = false := by
          unfold retiresOnIssue
          rw [captured.computed]
          simp
        exact ⟨rfl, rfl, rfl, (keeps retiring spans).symm⟩
    | control =>
        have retiring : retiringOperation s i = s.pendingControlOperation := by
          unfold retiringOperation
          rw [entry, owned.computed, owned.control]
          rfl
        have spans : retiresOnIssue s.pendingControlOperation = false := by
          unfold retiresOnIssue
          rw [captured.control]
          simp
        exact ⟨controlOperandCycle_flags.1, rfl, rfl,
          controlOperandCycle_flags.2.trans (keeps retiring spans).symm⟩
    | table =>
        have retiring : retiringOperation s i = s.pendingTableOperation := by
          unfold retiringOperation
          rw [entry, owned.computed, owned.control, owned.table]
          rfl
        have spans : retiresOnIssue s.pendingTableOperation = false := by
          rcases captured.table with read | write
          · rw [read]
            rfl
          · rw [write]
            rfl
        have mask := (keeps retiring spans).symm
        cases phase : s.tableTransferPhase
        · exact ⟨rfl, rfl, rfl, mask⟩
        · exact ⟨(transferModify_flags ..).1, rfl, rfl, (transferModify_flags ..).2.trans mask⟩
    | io =>
        have retiring : retiringOperation s i = s.pendingIoOperation := by
          unfold retiringOperation
          rw [entry, owned.computed, owned.control, owned.table, owned.io]
          rfl
        have spans : retiresOnIssue s.pendingIoOperation = false := by
          rcases captured.io with input | output
          · rw [input]
            rfl
          · rw [output]
            rfl
        have mask := (keeps retiring spans).symm
        exact ⟨(transferModify_flags ..).1, rfl, rfl, (transferModify_flags ..).2.trans mask⟩
    | issue =>
        have retiring : retiringOperation s i = (decoded i).operation := by
          unfold retiringOperation
          rw [entry, owned.computed, owned.control, owned.table, owned.io]
          rfl
        have executed := executeOperation_flags (p := p) (s := s) (i := i)
          { s.toRegisters with pc := s.pc + 1 }
        have modified := issueModify_flags (s := s) (i := i)
          (executeOperation p s i { s.toRegisters with pc := s.pc + 1 })
        refine ⟨modified.1.trans executed.1, issueCapture_flags.1, issueCapture_flags.2, ?_⟩
        refine (modified.2.trans executed.2).trans ?_
        rw [retiringInterruptMask_cases, retiring, boundary, valid, Bool.true_and]
        cases onIssue : retiresOnIssue (decoded i).operation
        · exact maskAfter_of_spans onIssue _
        · rfl

/-- What the core checks before it issues a word. -/
theorem instructionValid_issued (owned : OwnedBy .issue s) (valid : instructionValid p s i = true) :
    (decoded i).valid = true ∧
      (isComputedControlFlow (decoded i).operation = true →
        p.enableInferredComputedControl = true) ∧
      ((decoded i).dataAddressed = true → DataRam.addressValid (dataAddress s i) = true) := by
  rcases owned.idle with ⟨idle, entry⟩
  unfold instructionValid at valid
  rw [entry, idle.computed, idle.control, idle.table, idle.io] at valid
  split at valid
  · exact absurd valid (by decide)
  · simp only [Bool.false_eq_true, if_false, Bool.and_eq_true, Bool.or_eq_true,
      Bool.not_eq_true'] at valid
    rcases valid with ⟨⟨decodes, computed⟩, address⟩
    refine ⟨decodes, ?_, ?_⟩
    · intro family
      simpa [family] using computed
    · intro addressed
      simp only [addressed, Bool.true_eq_false, false_or] at address
      exact address.1

/-- A transfer operation addresses data. -/
theorem decoded_transfer (valid : (decoded i).valid = true)
    (transfer : (decoded i).operation = .in ∨ (decoded i).operation = .out ∨
      (decoded i).operation = .tblr ∨ (decoded i).operation = .tblw) :
    (decoded i).dataAddressed = true := by
  rcases decode_cases i.programData with rejected | ⟨m, -, -, decodes⟩
  · exact absurd (valid.symm.trans rejected) (by decide)
  · change decoded i = encoded i.programData m at decodes
    rw [decodes] at transfer ⊢
    cases m <;> first | rfl | exact absurd transfer (by simp [encoded]; decide)

/-- The fields the owner invariant reads, without the interrupt flags. -/
structure SameCapture (s t : State) : Prop where
  computed : t.computedControlPending = s.computedControlPending
  control : t.controlOperandPending = s.controlOperandPending
  table : t.tablePending = s.tablePending
  io : t.ioPending = s.ioPending
  phase : t.tableTransferPhase = s.tableTransferPhase
  computedOperation : t.pendingComputedOperation = s.pendingComputedOperation
  controlOperation : t.pendingControlOperation = s.pendingControlOperation
  tableOperation : t.pendingTableOperation = s.pendingTableOperation
  tableAddress : t.pendingTableDataAddress = s.pendingTableDataAddress
  tableIndirect : t.pendingTableIndirect = s.pendingTableIndirect
  tableIncrement : t.pendingTableIncrement = s.pendingTableIncrement
  tableDecrement : t.pendingTableDecrement = s.pendingTableDecrement
  ioOperation : t.pendingIoOperation = s.pendingIoOperation
  ioAddress : t.pendingIoDataAddress = s.pendingIoDataAddress
  ioIndirect : t.pendingIoIndirect = s.pendingIoIndirect
  ioIncrement : t.pendingIoIncrement = s.pendingIoIncrement
  ioDecrement : t.pendingIoDecrement = s.pendingIoDecrement

theorem Captured.of_same {t : State} (captured : Captured p s) (same : SameCapture s t) :
    Captured p t where
  phase := by rw [same.phase, same.table]; exact captured.phase
  computed := by rw [same.computedOperation]; exact captured.computed
  enabled := by rw [same.computed]; exact captured.enabled
  control := by rw [same.controlOperation]; exact captured.control
  table := by rw [same.tableOperation]; exact captured.table
  tableAddress := by rw [same.table, same.tableAddress]; exact captured.tableAddress
  tableCounter := by
    rw [same.tableIndirect, same.tableIncrement, same.tableDecrement]
    exact captured.tableCounter
  io := by rw [same.ioOperation]; exact captured.io
  ioAddress := by rw [same.io, same.ioAddress]; exact captured.ioAddress
  ioCounter := by
    rw [same.ioIndirect, same.ioIncrement, same.ioDecrement]
    exact captured.ioCounter

/-- The capture of an issued word. -/
theorem issueCapture_owner (owned : OwnedBy .issue s) (captured : Captured p s)
    (valid : instructionValid p s i = true) :
    ∃ o, OwnedBy o (issueCapture s i) ∧ Captured p (issueCapture s i) ∧
      (retiresOnIssue (decoded i).operation = true → o = .issue) := by
  rcases instructionValid_issued owned valid with ⟨decodes, enabled, address⟩
  rcases owned.idle with ⟨idle, entry⟩
  have counter (addressed : (decoded i).dataAddressed = true) :
      ((decoded i).indirect && (decoded i).addressingField.getLsbD 5 &&
        (decoded i).addressingField.getLsbD 4) = false := by
    cases indirect : (decoded i).indirect
    · rfl
    · rw [Bool.true_and]
      exact decoded_counter decodes (by rw [addressed]; rfl) indirect
  unfold issueCapture
  dsimp only
  cases computed : isComputedControlFlow (decoded i).operation
  · cases control : isTwoWordControlFlow (decoded i).operation
    · cases io : ((decoded i).operation == .in || (decoded i).operation == .out)
      · cases table : ((decoded i).operation == .tblr || (decoded i).operation == .tblw)
        · exact ⟨.issue, ⟨owned.entry, owned.computed, owned.control, owned.table, owned.io⟩,
            captured.of_same ⟨rfl, rfl, rfl, rfl, rfl, rfl, rfl, rfl, rfl, rfl, rfl, rfl, rfl, rfl,
              rfl, rfl, rfl⟩, fun _ => rfl⟩
        · rw [Bool.or_eq_true, beq_iff_eq, beq_iff_eq] at table
          have addressed := decoded_transfer decodes (Or.inr (Or.inr table))
          refine ⟨.table, ⟨owned.entry, owned.computed, owned.control, rfl, owned.io⟩, ?_, ?_⟩
          · exact ⟨fun phase => absurd phase Bool.false_ne_true, captured.computed, captured.enabled,
              captured.control, table, fun _ => address addressed, counter addressed,
              captured.io, captured.ioAddress, captured.ioCounter⟩
          · intro onIssue
            rcases table with read | write
            · rw [read] at onIssue
              exact absurd onIssue (by decide)
            · rw [write] at onIssue
              exact absurd onIssue (by decide)
      · rw [Bool.or_eq_true, beq_iff_eq, beq_iff_eq] at io
        have transfer := io.imp_right (Or.inl (b := (decoded i).operation = .tblr ∨
          (decoded i).operation = .tblw))
        have addressed := decoded_transfer decodes transfer
        refine ⟨.io, ⟨owned.entry, owned.computed, owned.control, owned.table, rfl⟩, ?_, ?_⟩
        · exact ⟨captured.phase, captured.computed, captured.enabled, captured.control,
            captured.table, captured.tableAddress, captured.tableCounter, io,
            fun _ => address addressed, counter addressed⟩
        · intro onIssue
          rcases io with input | output
          · rw [input] at onIssue
            exact absurd onIssue (by decide)
          · rw [output] at onIssue
            exact absurd onIssue (by decide)
    · refine ⟨.control, ⟨owned.entry, owned.computed, rfl, owned.table, owned.io⟩, ?_, ?_⟩
      · exact ⟨captured.phase, captured.computed, captured.enabled, control, captured.table,
          captured.tableAddress, captured.tableCounter, captured.io, captured.ioAddress,
          captured.ioCounter⟩
      · intro onIssue
        unfold retiresOnIssue at onIssue
        rw [control] at onIssue
        exact absurd onIssue (by simp)
  · refine ⟨.computed, ⟨owned.entry, rfl, owned.control, owned.table, owned.io⟩, ?_, ?_⟩
    · exact ⟨captured.phase, computed, fun _ => enabled computed, captured.control,
        captured.table, captured.tableAddress, captured.tableCounter, captured.io,
        captured.ioAddress, captured.ioCounter⟩
    · intro onIssue
      unfold retiresOnIssue at onIssue
      rw [computed] at onIssue
      exact absurd onIssue (by simp)

/-- Only a valid clock retires. -/
theorem valid_of_retirementBoundary (boundary : retirementBoundary p s i = true) :
    instructionValid p s i = true := by
  unfold retirementBoundary at boundary
  split_ifs at boundary
  · exact boundary
  · exact (Bool.and_eq_true _ _ ▸ boundary).2
  · exact boundary
  · exact (Bool.and_eq_true _ _ ▸ boundary).1

/-- A cycle hands over to one owner, and to none when it retires. -/
theorem enabledCycle_owned {o : Owner} (owned : OwnedBy o s) (captured : Captured p s) :
    ∃ o', OwnedBy o' (enabledCycle p s i) ∧ Captured p (enabledCycle p s i) ∧
      ((enabledCycle p s i).retired && (enabledCycle p s i).illegal) = false ∧
      (retirementBoundary p s i = true → o' = .issue) := by
  have parked (invalid : instructionValid p s i = false) :
      ∃ o', OwnedBy o' (illegalCycle s) ∧ Captured p (illegalCycle s) ∧
        ((illegalCycle s).retired && (illegalCycle s).illegal) = false ∧
        (retirementBoundary p s i = true → o' = .issue) := by
    refine ⟨o, ⟨owned.entry, owned.computed, owned.control, owned.table, owned.io⟩,
      captured.of_same ⟨rfl, rfl, rfl, rfl, rfl, rfl, rfl, rfl, rfl, rfl, rfl, rfl, rfl, rfl, rfl,
        rfl, rfl⟩, rfl, ?_⟩
    intro boundary
    exact absurd (invalid.symm.trans (valid_of_retirementBoundary boundary)) (by decide)
  have entry := owned.entry
  unfold enabledCycle
  rw [owned.entry, owned.computed, owned.control, owned.table, owned.io]
  cases valid : instructionValid p s i
  · cases o with
    | entry =>
        exact ⟨.issue, ⟨rfl, owned.computed, owned.control, owned.table, owned.io⟩,
          captured.of_same ⟨rfl, rfl, rfl, rfl, rfl, rfl, rfl, rfl, rfl, rfl, rfl, rfl, rfl, rfl,
            rfl, rfl, rfl⟩, rfl, fun _ => rfl⟩
    | issue | computed | control | table | io => exact parked valid
  cases o with
  | entry =>
      exact ⟨.issue, ⟨rfl, owned.computed, owned.control, owned.table, owned.io⟩,
        captured.of_same ⟨rfl, rfl, rfl, rfl, rfl, rfl, rfl, rfl, rfl, rfl, rfl, rfl, rfl, rfl,
          rfl, rfl, rfl⟩, rfl, fun _ => rfl⟩
  | computed =>
      exact ⟨.issue, ⟨entry, rfl, owned.control, owned.table, owned.io⟩,
        ⟨captured.phase, captured.computed, fun pending => absurd pending Bool.false_ne_true,
          captured.control, captured.table, captured.tableAddress, captured.tableCounter,
          captured.io, captured.ioAddress, captured.ioCounter⟩, rfl, fun _ => rfl⟩
  | control =>
      exact ⟨.issue, ⟨entry, owned.computed, rfl, owned.table, owned.io⟩,
        ⟨captured.phase, captured.computed, captured.enabled, captured.control, captured.table,
          captured.tableAddress, captured.tableCounter, captured.io, captured.ioAddress,
          captured.ioCounter⟩, rfl, fun _ => rfl⟩
  | table =>
      cases phase : s.tableTransferPhase
      · refine ⟨.table, ⟨entry, owned.computed, owned.control, owned.table, owned.io⟩, ?_, rfl,
          ?_⟩
        · exact ⟨fun _ => owned.table, captured.computed, captured.enabled, captured.control,
            captured.table, captured.tableAddress, captured.tableCounter, captured.io,
            captured.ioAddress, captured.ioCounter⟩
        · intro boundary
          unfold retirementBoundary at boundary
          rw [owned.entry, owned.computed, owned.control, owned.table, phase] at boundary
          exact absurd boundary Bool.false_ne_true
      · exact ⟨.issue, ⟨entry, owned.computed, owned.control, rfl, owned.io⟩,
          ⟨fun phase => absurd phase Bool.false_ne_true, captured.computed, captured.enabled,
            captured.control, captured.table, fun pending => absurd pending Bool.false_ne_true,
            captured.tableCounter, captured.io, captured.ioAddress, captured.ioCounter⟩, rfl,
          fun _ => rfl⟩
  | io =>
      exact ⟨.issue, ⟨entry, owned.computed, owned.control, owned.table, rfl⟩,
        ⟨captured.phase, captured.computed, captured.enabled, captured.control, captured.table,
          captured.tableAddress, captured.tableCounter, captured.io,
          fun pending => absurd pending Bool.false_ne_true, captured.ioCounter⟩, rfl,
        fun _ => rfl⟩
  | issue =>
      rcases issueCapture_owner owned captured valid with ⟨o', handed, capture, single⟩
      refine ⟨o', ⟨handed.entry, handed.computed, handed.control, handed.table, handed.io⟩,
        capture.of_same ⟨rfl, rfl, rfl, rfl, rfl, rfl, rfl, rfl, rfl, rfl, rfl, rfl, rfl, rfl, rfl,
          rfl, rfl⟩, Bool.and_false _, ?_⟩
      intro boundary
      apply single
      unfold retirementBoundary at boundary
      rw [owned.entry, owned.computed, owned.control, owned.table, owned.io, valid] at boundary
      exact boundary

/-- The tracker defers an entry for a pending, unmasked request only. -/
theorem interruptTracker_deferred {next : State} (keeps : KeepsFlags p s i next)
    (entry : s.interruptEntryPending = false) (deferred : Deferred s) :
    Deferred (interruptTracker p s i next) := by
  have latched : (if !i.int then { next with interruptPending := true } else next) =
      { next with interruptPending := s.interruptPending || !i.int } := by
    rw [← keeps.pending]
    cases i.int
    · simp
    · simp
  have held : s.interruptDelayOne = true → s.interruptPending = true ∧ s.interruptMask = false :=
    fun delay => deferred (by rw [delay]; rfl)
  have unmasked : retirementBoundary p s i = false →
      retiringInterruptMask p s i = s.interruptMask := by
    intro boundary
    rw [retiringInterruptMask_cases, boundary]
    rfl
  intro scheduled
  unfold interruptTracker at scheduled ⊢
  rw [entry] at scheduled ⊢
  dsimp only at scheduled ⊢
  rw [latched] at scheduled ⊢
  simp only [Bool.false_eq_true, if_false] at scheduled ⊢
  have noEntry : next.interruptEntryPending = false := keeps.entry.trans entry
  rcases Bool.eq_false_or_eq_true (retirementBoundary p s i) with boundary | boundary
  · simp only [boundary, if_true] at scheduled ⊢
    rcases Bool.eq_false_or_eq_true s.interruptDelayOne with delay | delay
    · simp only [delay, if_true] at scheduled ⊢
      rcases Bool.eq_false_or_eq_true (retiringInterruptMask p s i) with mask | mask
      · simp only [mask, if_true, noEntry, Bool.or_self] at scheduled
        exact absurd scheduled Bool.false_ne_true
      · simp only [mask, Bool.false_eq_true, if_false] at scheduled ⊢
        split <;> simp [held delay, keeps.mask, mask]
    · simp only [delay, Bool.false_eq_true, if_false] at scheduled ⊢
      rcases Bool.eq_false_or_eq_true
        ((s.interruptPending || !i.int) && !retiringInterruptMask p s i) with request | request
      · simp only [request, if_true]
        rw [Bool.and_eq_true, Bool.not_eq_true'] at request
        exact ⟨request.1, keeps.mask.trans request.2⟩
      · simp only [request, Bool.false_eq_true, if_false, keeps.delay, delay, noEntry,
          Bool.or_self] at scheduled
  · simp only [boundary, Bool.false_eq_true, if_false, noEntry, Bool.or_false,
      keeps.delay] at scheduled ⊢
    rcases held scheduled with ⟨request, mask⟩
    exact ⟨by rw [request]; rfl, (keeps.mask.trans (unmasked boundary)).trans mask⟩

/-- The tracker hands a retired core over to the entry, and changes no other owner. -/
theorem interruptTracker_owner {o : Owner} {next : State} (owned : OwnedBy o next)
    (retires : retirementBoundary p s i = true → o = .issue) :
    ∃ o', OwnedBy o' (interruptTracker p s i next) := by
  have latched : OwnedBy o (if !i.int then { next with interruptPending := true } else next) := by
    split
    · exact ⟨owned.entry, owned.computed, owned.control, owned.table, owned.io⟩
    · exact owned
  unfold interruptTracker
  dsimp only
  revert latched
  generalize (if !i.int then { next with interruptPending := true } else next) = held
  intro latched
  split_ifs with entry boundary
  · exact ⟨o, owned⟩
  · exact ⟨o, latched.entry, latched.computed, latched.control, latched.table, latched.io⟩
  · exact ⟨o, latched.entry, latched.computed, latched.control, latched.table, latched.io⟩
  · cases retires boundary
    exact ⟨.entry, rfl, latched.computed, latched.control, latched.table, latched.io⟩
  · exact ⟨o, latched.entry, latched.computed, latched.control, latched.table, latched.io⟩
  · exact ⟨o, latched⟩
  · exact ⟨o, latched⟩

/-- A reset or an initialization leaves nothing pending. -/
theorem owned_of_reset (request : (i.initializeRequest || i.resetRequest) = true) :
    Owned p (step p s i) := by
  have cleared : Owned p (resetCycle s) :=
    ⟨⟨.issue, rfl, rfl, rfl, rfl, rfl⟩,
      ⟨fun phase => phase, rfl, fun pending => absurd pending Bool.false_ne_true, rfl, Or.inl rfl,
        fun _ => rfl, rfl, Or.inl rfl, fun _ => rfl, rfl⟩,
      fun scheduled => absurd scheduled Bool.false_ne_true, rfl⟩
  unfold step nextRegisters
  split_ifs with starting reset
  · rcases cleared with ⟨⟨o, owned⟩, captured, deferred, status⟩
    exact ⟨⟨o, owned.entry, owned.computed, owned.control, owned.table, owned.io⟩,
      captured.of_same ⟨rfl, rfl, rfl, rfl, rfl, rfl, rfl, rfl, rfl, rfl, rfl, rfl, rfl, rfl, rfl,
        rfl, rfl⟩, deferred, status⟩
  · rcases cleared with ⟨⟨o, owned⟩, captured, deferred, status⟩
    exact ⟨⟨o, owned.entry, owned.computed, owned.control, owned.table, owned.io⟩,
      captured.of_same ⟨rfl, rfl, rfl, rfl, rfl, rfl, rfl, rfl, rfl, rfl, rfl, rfl, rfl, rfl, rfl,
        rfl, rfl⟩, deferred, status⟩
  · rw [Bool.or_eq_true] at request
    exact absurd request (by simp [starting, reset])
  · rw [Bool.or_eq_true] at request
    exact absurd request (by simp [starting, reset])

theorem interruptTracker_status (next : State) :
    (interruptTracker p s i next).retired = next.retired ∧
      (interruptTracker p s i next).illegal = next.illegal := by
  rcases interruptTracker_fields (p := p) (s := s) (i := i) next with ⟨_, _, _, tracked⟩
  rw [tracked]
  exact ⟨rfl, rfl⟩

theorem interruptTracker_captured {next : State} (captured : Captured p next) :
    Captured p (interruptTracker p s i next) := by
  rcases interruptTracker_fields (p := p) (s := s) (i := i) next with ⟨_, _, _, tracked⟩
  rw [tracked]
  exact captured.of_same ⟨rfl, rfl, rfl, rfl, rfl, rfl, rfl, rfl, rfl, rfl, rfl, rfl, rfl, rfl,
    rfl, rfl, rfl⟩

/-- An enabled cycle keeps the owner invariant. -/
theorem tracked_owned (owned : Owned p s) :
    Owned p (interruptTracker p s i (enabledCycle p s i)) := by
  rcases owned with ⟨⟨o, owner⟩, captured, deferred, -⟩
  rcases enabledCycle_owned (i := i) owner captured with ⟨o', handed, capture, status, retires⟩
  have flags := interruptTracker_status (p := p) (s := s) (i := i) (enabledCycle p s i)
  refine ⟨interruptTracker_owner handed retires, interruptTracker_captured capture, ?_, ?_⟩
  · cases entry : s.interruptEntryPending
    · exact interruptTracker_deferred (enabledCycle_keepsFlags owner captured entry) entry deferred
    · have cleared : interruptTracker p s i (enabledCycle p s i) = interruptEntryCycle s := by
        unfold interruptTracker enabledCycle
        rw [entry]
        rfl
      rw [cleared]
      intro scheduled
      exact absurd scheduled Bool.false_ne_true
  · rw [flags.1, flags.2]
    exact status

/-- Every clock keeps the owner invariant. -/
theorem step_owned (owned : Owned p s) (i : Inputs) : Owned p (step p s i) := by
  cases request : i.initializeRequest || i.resetRequest
  · rw [Bool.or_eq_false_iff] at request
    have next : Owned p (nextRegisters p s i) := by
      unfold nextRegisters
      rw [request.1, request.2]
      cases i.clockEnable
      · rcases owned with ⟨⟨o, owner⟩, captured, deferred, -⟩
        exact ⟨⟨o, owner.entry, owner.computed, owner.control, owner.table, owner.io⟩,
          captured.of_same ⟨rfl, rfl, rfl, rfl, rfl, rfl, rfl, rfl, rfl, rfl, rfl, rfl, rfl, rfl,
            rfl, rfl, rfl⟩, deferred, rfl⟩
      · exact tracked_owned owned
    rcases next with ⟨⟨o, owner⟩, captured, deferred, status⟩
    exact ⟨⟨o, owner.entry, owner.computed, owner.control, owner.table, owner.io⟩,
      captured.of_same ⟨rfl, rfl, rfl, rfl, rfl, rfl, rfl, rfl, rfl, rfl, rfl, rfl, rfl, rfl,
        rfl, rfl, rfl⟩, deferred, status⟩
  · exact owned_of_reset request

end Clock

/-! ## Reachable states -/

theorem Reachable.owned {p : Params} {s : State} (reached : Reachable p s) : Owned p s := by
  induction reached with
  | reset s i request => exact owned_of_reset request
  | clock _ i ih => exact step_owned ih i

/-- The pending flags have one owner at most, which belongs to its family; a deferred
entry has an unmasked request; and no control, strobe or status output collides with
another, whatever the inputs. -/
structure SingleOwner (s : State) : Prop where
  pending : [s.interruptEntryPending, s.computedControlPending, s.controlOperandPending,
    s.tablePending, s.ioPending].count true ≤ 1
  phase : s.tableTransferPhase = true → s.tablePending = true
  computed : s.computedControlPending = true →
    isComputedControlFlow s.pendingComputedOperation = true
  control : s.controlOperandPending = true → isTwoWordControlFlow s.pendingControlOperation = true
  table : s.tablePending = true →
    s.pendingTableOperation = .tblr ∨ s.pendingTableOperation = .tblw
  io : s.ioPending = true → s.pendingIoOperation = .in ∨ s.pendingIoOperation = .out
  deferred : (s.interruptDelayOne || s.interruptEntryPending) = true →
    s.interruptPending = true ∧ s.interruptMask = false
  status : ¬(s.retired = true ∧ s.illegal = true)
  stack : stackValid s = true
  counter : ∀ i, auxiliaryCounterValid s i = true
  strobes : ∀ i, [programWrite s i, ioRead s i, ioWrite s i].count true ≤ 1

theorem reachable_singleOwner {p : Params} {s : State} (reached : Reachable p s) :
    SingleOwner s := by
  rcases reached.owned with ⟨⟨o, owner⟩, captured, deferred, status⟩
  refine ⟨?_, captured.phase, fun _ => captured.computed, fun _ => captured.control,
    fun _ => captured.table, fun _ => captured.io, deferred, ?_, stackValid_of_owned owner,
    fun _ => auxiliaryCounterValid_of_owned captured, fun _ => strobes_of_owned owner⟩
  · rw [owner.entry, owner.computed, owner.control, owner.table, owner.io]
    cases o <;> decide
  · rintro ⟨retired, illegal⟩
    rw [retired, illegal] at status
    exact absurd status (by decide)

/-- An enabled clock that issues a word while an interrupt is requested. -/
def requesting (word : BitVec 16) : Inputs :=
  { restingInputs with clockEnable := true, int := false, programData := word }

/-- The core that `EINT` and then `TBLR` were issued to after a reset. -/
def deferringRead : State :=
  step .default
    (step .default (step .default blank { restingInputs with resetRequest := true })
      (requesting 0x7f82))
    (requesting 0x6700)

/-- The table read is pending and defers the interrupt. -/
theorem reachable_singleOwner_deferring :
    deferringRead.tablePending = true ∧ deferringRead.interruptDelayOne = true ∧
      SingleOwner deferringRead :=
  ⟨rfl, rfl, reachable_singleOwner (.clock (.clock (.reset blank _ rfl) _) _)⟩

end Tms32010.Rtl.Core
