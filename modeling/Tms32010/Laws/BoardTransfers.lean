import Tms32010.Board.SoundBus

/-!
# Transfers of the processor on the board

The hold of the processor samples the readiness of a transfer in phase 2, and the commit
is formed in phase 3, where a host direct I/O cycle suppresses it. A transfer is therefore
committed exactly where the bus is still free and its target still ready in the clock that
passes its boundary.
-/

namespace Tms32010.Board.SoundMister

open Tms32010.Rtl

/-! ## Readiness -/

section Ready

variable {s : State} {i : Inputs}

/-- The target of an access is ready. The latches of ports 0, 3, 4 and 5 always are. -/
def targetReady (s : State) (i : Inputs) : PortAccess → Bool
  | .read port =>
    if port == 0 then RomPath.ready s.ports.addressControl i.soundRom true
    else if port == 1 then
      s.ports.addressControl.soundAddressValid && !selectedCommunicationHostEnable s i &&
        s.communicationRam.readResponseValid && !s.communicationRam.readResponseHost
    else i.ioReady
  | .write port _ => port == 0 || port == 3 || port == 4 || port == 5 || i.ioReady

/-- The bus is free for an access and its target is ready. -/
structure Answers (s : State) (i : Inputs) (access : PortAccess) : Prop where
  free : hostDirectIo s i = false
  ready : targetReady s i access = true

/-- The board is ready for an access where the bus is free and the target ready. -/
theorem selectedIoReady_iff {access : PortAccess} (shown : shownAccess? s i = some access) :
    selectedIoReady s i = true ↔ Answers s i access := by
  have conflict := conflict_of_shown shown
  rcases Bool.eq_false_or_eq_true (hostDirectIo s i) with busy | free
  · constructor
    · intro ready
      unfold selectedIoReady at ready
      rw [conflict, busy, if_pos rfl] at ready
      exact absurd ready Bool.false_ne_true
    · intro answers
      exact absurd (busy.symm.trans answers.free) (by decide)
  · rcases physical_free free with ⟨quiet, -, -, port, reads, -, -⟩
    have ready : selectedIoReady s i = targetReady s i access := by
      unfold selectedIoReady
      rw [quiet, if_neg Bool.false_ne_true]
      cases access with
      | read number =>
          rcases shownAccess?_read.mp shown with ⟨reading, rfl⟩
          have writing : ioWrite s i = false := by
            by_contra writes
            exact io_apart ⟨reading, by simpa using writes⟩
          unfold targetReady soundRomPort0Ready communicationPort1Ready CommunicationRam.dspReady
            CommunicationRam.dspReadRequest CommunicationRam.dspAccessPermitted communicationInputs
            dspPort1Read
          dsimp only
          rw [port, reads, reading, writing]
          cases zero : ioPort s i == 0
          · cases one : ioPort s i == 1
            · rfl
            · simp only [Bool.true_and, Bool.false_eq_true, if_true, if_false]
              cases s.ports.addressControl.soundAddressValid <;>
                cases selectedCommunicationHostEnable s i <;> rfl
          · rfl
      | write number data =>
          rcases shownAccess?_write.mp shown with ⟨writing, rfl, -⟩
          have reading : ioRead s i = false := by
            by_contra reads
            exact io_apart ⟨by simpa using reads, writing⟩
          unfold targetReady
          rw [writing, reading]
          simp only [Bool.false_and, Bool.true_and, Bool.false_eq_true, if_false]
          generalize ioPort s i = number
          cases number == 0 || number == 3 || number == 4 || number == 5 <;> rfl
    rw [ready]
    exact ⟨fun target => ⟨free, target⟩, fun answers => answers.ready⟩

end Ready

/-! ## Commits -/

section Commits

variable {s : State} {i : Inputs}

/-- A commit is of the transfer that is passed in its clock. -/
theorem passed_of_committed {access : PortAccess} (committed : committed? s i = some access) :
    passed? s i = some access := by
  unfold committed? at committed
  split_ifs at committed with commits
  rw [ioCommit_eq, Bool.and_eq_true, Bool.and_eq_true] at commits
  rw [passed?_eq, commits.1.1, if_pos rfl]
  exact committed

/-- A transfer that is passed is committed exactly where the board is ready for it. -/
theorem committed_iff {access : PortAccess} (passed : passed? s i = some access) :
    committed? s i = some access ↔ Answers s i access := by
  rw [passed?_eq] at passed
  split_ifs at passed with ends
  rw [← selectedIoReady_iff passed]
  unfold committed?
  rw [ioCommit_eq, ends, passed]
  cases selectedIoReady s i <;> simp

/-- A commit makes its transfer at the targets. -/
theorem consumers_of_committed {access : PortAccess} (committed : committed? s i = some access) :
    (step s i).ports.consumers = s.ports.consumers.transfer access := by
  have passed := passed_of_committed committed
  have running := running_of_passed passed
  have answers := (committed_iff passed).mp committed
  rcases selected_of_running running with ⟨noInitialize, released⟩
  rcases physical_free answers.free with ⟨quiet, -, -, port, reads, writes, data⟩
  have commits : ioCommit s i = true := by
    by_contra none
    unfold committed? at committed
    rw [if_neg none] at committed
    cases committed
  have shown : shownAccess? s i = some access := by
    unfold committed? at committed
    rwa [commits, if_pos rfl] at committed
  have access : (physicalIo s i).access? = some access := by
    rw [← shown]
    unfold PhysicalIo.access? physicalIo physicalIoCommit shownAccess?
    dsimp only
    rw [quiet, commits, port, reads, writes, data]
    rfl
  change (s.ports.step i.initializeI (selectedDspResetN s i) _ _).consumers = _
  rw [noInitialize, released, SoundPorts.step_consumers _ _ _ physical_apart, access]
  rfl

/-- Without a commit the targets keep what they hold. -/
theorem consumers_quiet (noInitialize : i.initializeI = false)
    (released : selectedDspResetN s i = true) (processor : ioCommit s i = false)
    (host : hostCommitted? s i = none) :
    (step s i).ports.consumers = s.ports.consumers := by
  have commits : physicalIoCommit s i = false := by
    unfold hostCommitted? at host
    split_ifs at host with reads writes
    unfold physicalIoCommit
    rw [processor, Bool.eq_false_of_not_eq_true reads, Bool.eq_false_of_not_eq_true writes]
    exact Bool.and_false _
  have access : (physicalIo s i).access? = none := by
    unfold PhysicalIo.access? physicalIo
    dsimp only
    rw [commits]
    rfl
  change (s.ports.step i.initializeI (selectedDspResetN s i) _ _).consumers = _
  rw [noInitialize, released, SoundPorts.step_consumers _ _ _ physical_apart, access]
  rfl

end Commits

/-! ## Runs -/

section Run

variable (start : State) (inputs : ℕ → Inputs)

/-- The transfer the processor passes in a clock. -/
def passedAt (clock : ℕ) : Option PortAccess := passed? (stateAt start inputs clock) (inputs clock)

/-- The transfer `io_commit_o` commits in a clock. -/
def committedAt (clock : ℕ) : Option PortAccess :=
  committed? (stateAt start inputs clock) (inputs clock)

/-- Every transfer the processor passes is committed in that clock, as it is and at its one
target; nothing else is committed, and without a commit of the processor or the host the
targets keep what they hold. -/
structure CommitsOnce : Prop where
  committed : ∀ clock access, passedAt start inputs clock = some access →
    committedAt start inputs clock = some access ∧
      consumersAt start inputs (clock + 1) = (consumersAt start inputs clock).transfer access
  only : ∀ clock access, committedAt start inputs clock = some access →
    passedAt start inputs clock = some access
  quiet : ∀ clock, (inputs clock).initializeI = false →
    selectedDspResetN (stateAt start inputs clock) (inputs clock) = true →
      ioCommit (stateAt start inputs clock) (inputs clock) = false →
        hostCommitted? (stateAt start inputs clock) (inputs clock) = none →
          consumersAt start inputs (clock + 1) = consumersAt start inputs clock

/-- Every transfer the processor passes was shown since an earlier clock that found the bus
free and its target ready. -/
def Held : Prop :=
  ∀ clock access, 0 < clock → passedAt start inputs clock = some access →
    ∃ seen, seen < clock ∧
      Answers (stateAt start inputs seen) (inputs seen) access.blank ∧
        ∀ now, seen ≤ now → now ≤ clock →
          (shownAccess? (stateAt start inputs now) (inputs now)).map PortAccess.blank =
            some access.blank

end Run

section Law

variable {start : State} {inputs : ℕ → Inputs}

theorem access?_kind (request : Request) :
    access? request.kind = (access? request).map PortAccess.blank := by
  cases request with
  | programWrite address data =>
      unfold Request.kind access?
      dsimp only
      split_ifs <;> rfl
  | programRead address => rfl
  | ioRead port => rfl
  | ioWrite port data => rfl

/-- What the board shows of what the processor asks for. -/
theorem shownAccess?_blank (s : State) (i : Inputs) :
    (shownAccess? s i).map PortAccess.blank = ((request? s i).map Request.kind).bind access? := by
  rw [shownAccess?_eq]
  cases request? s i with
  | none => rfl
  | some request => exact (access?_kind request).symm

/-- A request for an access of the I/O bus is answered by the readiness of the board. -/
theorem selectedIoReady_of_ready {s : State} {i : Inputs} {request : Request}
    (shown : request? s i = some request) {access : PortAccess}
    (accesses : access? request = some access)
    (ready : Mister.ready (processorInputs s i) request = true) : selectedIoReady s i = true := by
  cases request with
  | programRead address => cases accesses
  | ioRead port => exact ready
  | ioWrite port data => exact ready
  | programWrite address data =>
      have low : portRegion address = true := by
        by_contra high
        change (if portRegion address then _ else none) = some access at accesses
        rw [if_neg high] at accesses
        cases accesses
      have stores : logicalProgramRead s i = false ∧ logicalProgramWrite s i = true :=
        Mister.programWrite_of shown
      have strobes := (strobes (s := s) (i := i)).2.2
      rcases io_eq (s := s) (i := i) with ⟨-, writes, -, -, stored⟩
      rw [strobes, nativeAddress_of shown, shown] at writes stored
      change logicalProgramReady s i = true at ready
      unfold logicalProgramReady at ready
      rw [stores.1, stores.2, stored, writes] at ready
      simpa [Request.strobesWe, Request.nativeAddress, low] using ready

theorem targetReady_blank (s : State) (i : Inputs) (access : PortAccess) :
    targetReady s i access.blank = targetReady s i access := by
  cases access <;> rfl

theorem Answers.blank {s : State} {i : Inputs} {access other : PortAccess}
    (answers : Answers s i access) (same : access.blank = other.blank) :
    Answers s i other.blank := by
  refine ⟨answers.free, ?_⟩
  rw [← same, targetReady_blank]
  exact answers.ready

/-- What the processor passes it has been asking for since a clock that answered. -/
theorem held (initialized : (inputs 0).initializeI = true) : Held start inputs := by
  intro clock access later passed
  have running := running_of_passed passed
  have shown := passed
  unfold passedAt at shown
  rw [passed?_eq] at shown
  split_ifs at shown with ends
  rw [shownAccess?_eq] at shown
  rcases Option.bind_eq_some_iff.mp shown with ⟨request, asked, accesses⟩
  rw [processor_stateAt] at running
  rcases sampled_of_ends initialized later running ends asked with ⟨seen, earlier, ready, asks⟩
  have target : access? request.kind = some access.blank := by
    rw [access?_kind, accesses]
    rfl
  have shows (now : ℕ) (after : seen ≤ now) (before : now ≤ clock) :
      (shownAccess? (stateAt start inputs now) (inputs now)).map PortAccess.blank =
        some access.blank := by
    rcases asks now after (Nat.lt_succ_of_le before) with ⟨running, kind⟩
    rw [shownAccess?_blank, request?_running running, kind]
    exact target
  refine ⟨seen, earlier, ?_, shows⟩
  have here := shows seen (Nat.le_refl seen) (Nat.le_of_lt earlier)
  rcases Option.map_eq_some_iff.mp here with ⟨access', shown', same⟩
  rcases Option.bind_eq_some_iff.mp (shownAccess?_eq ▸ shown') with ⟨request', asked', accesses'⟩
  have kinds : request'.kind = request.kind := by
    rcases asks seen (Nat.le_refl seen) (Nat.lt_succ_of_lt earlier) with ⟨running, kind⟩
    rw [← request?_running running, asked'] at kind
    exact Option.some.inj kind
  have ready' : Mister.ready (processorInputsAt start inputs seen) request' = true := by
    rw [← Mister.ready_kind, kinds]
    exact ready
  have answers := (selectedIoReady_iff shown').mp (selectedIoReady_of_ready asked' accesses' ready')
  exact answers.blank same

/-- A program whose first word is `OUT 0,PA3`. -/
def outProgram (address : BitVec 12) : BitVec 16 := if address = 0 then 0x4b00 else 0x7f80

/-- A host read of a direct I/O port that takes the bus in clock 36. -/
def overlappingInputs (clock : ℕ) : Inputs :=
  { enabledInputs with
    initializeI := clock == 0
    hostAddressStrobeAssert := clock == 34
    hostBusAddress := 0x40b000
    host8mhzRise := clock == 35 }

/-- The host takes the bus in the clock in which the processor passes its write to port 3,
after the hold was sampled: no commit ever carries the word. -/
theorem commitsOnce_overlapped :
    ¬∀ start inputs, (inputs 0).initializeI = true → CommitsOnce start inputs := by
  intro commits
  have once := commits (clearState outProgram fun _ => 0) overlappingInputs rfl
  have passed : passedAt (clearState outProgram fun _ => 0) overlappingInputs 36 =
      some (.write 3 0) := by decide +kernel
  have lost : committedAt (clearState outProgram fun _ => 0) overlappingInputs 36 = none := by
    decide +kernel
  have committed := (once.committed 36 (.write 3 0) passed).1
  rw [lost] at committed
  cases committed

/-- Every transfer the processor passes is committed once, at its one target, exactly where
the host runs no direct I/O cycle and the target is still ready in the clock that passes
it; in an earlier clock it always was so. -/
theorem commitsOnce_iff (start : State) (inputs : ℕ → Inputs)
    (initialized : (inputs 0).initializeI = true) :
    (CommitsOnce start inputs ↔
        ∀ clock access, passedAt start inputs clock = some access →
          Answers (stateAt start inputs clock) (inputs clock) access) ∧
      Held start inputs := by
  refine ⟨⟨?_, ?_⟩, held initialized⟩
  · intro once clock access passed
    exact (committed_iff passed).mp (once.committed clock access passed).1
  · intro answered
    refine ⟨?_, fun clock access committed => passed_of_committed committed, ?_⟩
    · intro clock access passed
      have committed := (committed_iff passed).mpr (answered clock access passed)
      exact ⟨committed, consumers_of_committed committed⟩
    · intro clock noInitialize released processor host
      exact consumers_quiet noInitialize released processor host

theorem commitsOnce_iff_overlapped :
    (CommitsOnce (clearState outProgram fun _ => 0) overlappingInputs ↔
        ∀ clock access,
          passedAt (clearState outProgram fun _ => 0) overlappingInputs clock = some access →
            Answers (stateAt (clearState outProgram fun _ => 0) overlappingInputs clock)
              (overlappingInputs clock) access) ∧
      Held (clearState outProgram fun _ => 0) overlappingInputs :=
  commitsOnce_iff (clearState outProgram fun _ => 0) overlappingInputs rfl

end Law

end Tms32010.Board.SoundMister
