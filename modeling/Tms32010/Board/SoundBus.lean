import Tms32010.Board.SoundMister
import Tms32010.Rtl.NativeBus

/-!
# Requests of the processor on the board

What the decoders of the board make of a request of the processor: a program read or a
store to the program RAM, or an access of the physical I/O bus, which `IN`, `OUT` and the
table writes to the eight lowest addresses share.
-/

namespace Tms32010.Board.SoundMister

open Tms32010.Rtl

/-! ## Accesses -/

/-- The access of the physical I/O bus that a request makes. -/
def access? : Request → Option PortAccess
  | .programRead _ => none
  | .programWrite address data =>
    if portRegion address then some (.write (address.extractLsb' 0 3) data) else none
  | .ioRead port => some (.read port)
  | .ioWrite port data => some (.write port data)

section Requests

variable (s : State) (i : Inputs)

/-- The request of the processor. -/
def request? : Option Request := Mister.callback? s.processor (processorInputs s i)

/-- The clock ends a machine cycle of the processor. -/
def endsCycle : Bool := Mister.endsCycle s.processor (processorInputs s i)

/-- The access the board shows on `io_port_o`, `io_read_o`, `io_write_o` and
`io_write_data_o`. -/
def shownAccess? : Option PortAccess :=
  if ioRead s i then some (.read (ioPort s i))
  else if ioWrite s i then some (.write (ioPort s i) (nativeWriteData s i))
  else none

/-- The transfer the processor passes. -/
def passed? : Option PortAccess :=
  (Mister.accepted s.processor (processorInputs s i)).bind access?

/-- The transfer `io_commit_o` commits. -/
def committed? : Option PortAccess := if ioCommit s i then shownAccess? s i else none

/-- The transfer a host direct I/O cycle commits. -/
def hostCommitted? : Option PortAccess :=
  if hostDirectIoReadComplete s i then
    some (.read (DirectIo.readPort (hostProgramIoWordAddress s)))
  else if hostDirectIoWriteCommit s i then
    some (.write (DirectIo.writePort (hostProgramIoWordAddress s)) i.hostBusWriteData)
  else none

/-- The host runs a direct I/O cycle. -/
def hostDirectIo : Bool := hostProgramIoRead s i || hostProgramIoWrite s i

end Requests

/-! ## The decoded bus -/

section Bus

variable {s : State} {i : Inputs}

theorem portRegion_port (port : BitVec 3) : portRegion (0#9 ++ port) = true := by
  revert port
  decide

theorem port_address (port : BitVec 3) : (0#9 ++ port : BitVec 12).extractLsb' 0 3 = port := by
  revert port
  decide

/-- The native strobes are those of the request. -/
theorem strobes :
    nativeMenN s i = !(request? s i).any Request.strobesMen ∧
      nativeDenN s i = !(request? s i).any Request.strobesDen ∧
      nativeWeN s i = !(request? s i).any Request.strobesWe :=
  Mister.native_strobes s.processor (processorInputs s i)

theorem nativeAddress_of {request : Request} (shown : request? s i = some request) :
    nativeAddress s i = request.nativeAddress :=
  Mister.programAddress_of shown

theorem nativeWriteData_of {request : Request} (shown : request? s i = some request) :
    (∀ address data, request = .programWrite address data → nativeWriteData s i = data) ∧
      (∀ port data, request = .ioWrite port data → nativeWriteData s i = data) :=
  Mister.writeData_of shown

/-- The I/O outputs of the board. -/
theorem io_eq :
    ioRead s i = (!nativeDenN s i && portRegion (nativeAddress s i)) ∧
      ioWrite s i = (!nativeWeN s i && portRegion (nativeAddress s i)) ∧
      ioPort s i = (nativeAddress s i).extractLsb' 0 3 ∧
      (decode s i).dspProgramRead = !nativeMenN s i ∧
      (decode s i).dspProgramWrite = (!nativeWeN s i && !portRegion (nativeAddress s i)) :=
  ⟨rfl, rfl, rfl, rfl, rfl⟩

/-- The board shows the access of the request. -/
theorem shownAccess?_eq : shownAccess? s i = (request? s i).bind access? := by
  rcases strobes (s := s) (i := i) with ⟨-, den, we⟩
  rcases io_eq (s := s) (i := i) with ⟨reads, writes, port, -, -⟩
  unfold shownAccess?
  rw [reads, writes, port, den, we]
  cases shown : request? s i with
  | none => rfl
  | some request =>
      have data := nativeWriteData_of shown
      rw [nativeAddress_of shown]
      cases request with
      | programRead address => rfl
      | programWrite address word =>
          rw [data.1 address word rfl]
          cases low : portRegion address <;>
            simp [access?, Request.strobesDen, Request.strobesWe, Request.nativeAddress, low]
      | ioRead port =>
          simp [access?, Request.strobesDen, Request.nativeAddress, portRegion_port, port_address]
      | ioWrite port word =>
          rw [data.2 port word rfl]
          simp [access?, Request.strobesDen, Request.strobesWe, Request.nativeAddress,
            portRegion_port, port_address]

/-- The access on the bus, by its direction. -/
theorem ioRead_or_ioWrite : (ioRead s i || ioWrite s i) = (shownAccess? s i).isSome := by
  unfold shownAccess?
  cases ioRead s i <;> cases ioWrite s i <;> rfl

/-- The board never reads and writes at once. -/
theorem io_apart : ¬(ioRead s i = true ∧ ioWrite s i = true) := by
  rintro ⟨reads, writes⟩
  rcases strobes (s := s) (i := i) with ⟨-, den, we⟩
  rcases io_eq (s := s) (i := i) with ⟨read, write, -, -, -⟩
  rw [read, Bool.and_eq_true, den, Bool.not_not] at reads
  rw [write, Bool.and_eq_true, we, Bool.not_not] at writes
  cases shown : request? s i with
  | none =>
      rw [shown] at reads
      exact absurd reads.1 Bool.false_ne_true
  | some request =>
      rw [shown] at reads writes
      cases request with
      | programRead address => exact absurd reads.1 Bool.false_ne_true
      | programWrite address word => exact absurd reads.1 Bool.false_ne_true
      | ioRead port => exact absurd writes.1 Bool.false_ne_true
      | ioWrite port word => exact absurd reads.1 Bool.false_ne_true

theorem shownAccess?_read {port : BitVec 3} :
    shownAccess? s i = some (.read port) ↔ ioRead s i = true ∧ ioPort s i = port := by
  unfold shownAccess?
  split_ifs with reads writes
  · simp [reads]
  · simp [reads]
  · simp [reads]

theorem shownAccess?_write {port : BitVec 3} {data : BitVec 16} :
    shownAccess? s i = some (.write port data) ↔
      ioWrite s i = true ∧ ioPort s i = port ∧ nativeWriteData s i = data := by
  have apart := io_apart (s := s) (i := i)
  unfold shownAccess?
  split_ifs with reads writes
  · have none : ioWrite s i = false := by simpa [reads] using apart
    simp [none]
  · simp [writes]
  · simp [writes]

/-- The processor passes the access the board shows at the end of a machine cycle. -/
theorem passed?_eq : passed? s i = if endsCycle s i then shownAccess? s i else none := by
  unfold passed? Mister.accepted endsCycle
  rw [shownAccess?_eq]
  split_ifs <;> rfl

/-- A transfer that is passed is passed outside reset. -/
theorem running_of_passed {access : PortAccess} (passed : passed? s i = some access) :
    Mister.Running s.processor (processorInputs s i) := by
  apply Mister.running_iff.mpr
  by_contra active
  rw [Bool.not_eq_false] at active
  unfold passed? at passed
  cases taken : Mister.accepted s.processor (processorInputs s i) with
  | none =>
      rw [taken] at passed
      cases passed
  | some request =>
      rcases Mister.accepted_reset active taken with ⟨address, rfl⟩
      rw [taken] at passed
      cases passed

/-- Outside reset of the processor the board is not initialized and the DSP runs. -/
theorem selected_of_running (running : Mister.Running s.processor (processorInputs s i)) :
    i.initializeI = false ∧ selectedDspResetN s i = true := by
  have none : (i.initializeI || !selectedDspResetN s i) = false := running.noRequest
  rw [Bool.or_eq_false_iff, Bool.not_eq_false'] at none
  exact none

end Bus

/-! ## The physical bus -/

section Physical

variable {s : State} {i : Inputs}

theorem ioCommit_eq :
    ioCommit s i = (endsCycle s i && selectedIoReady s i && (shownAccess? s i).isSome) := by
  rw [← ioRead_or_ioWrite]
  rfl

/-- An access of the processor conflicts with every host cycle. -/
theorem conflict_of_shown {access : PortAccess} (shown : shownAccess? s i = some access) :
    directIoOwnershipConflict s i = hostDirectIo s i := by
  unfold directIoOwnershipConflict
  rw [ioRead_or_ioWrite, shown]
  exact Bool.and_true _

/-- Without a host cycle the physical bus is the one of the processor. -/
theorem physical_free (free : hostDirectIo s i = false) :
    directIoOwnershipConflict s i = false ∧ hostDirectIoReadComplete s i = false ∧
      hostDirectIoWriteCommit s i = false ∧ physicalIoPort s i = ioPort s i ∧
      physicalIoRead s i = ioRead s i ∧ physicalIoWrite s i = ioWrite s i ∧
      physicalIoWriteData s i = nativeWriteData s i := by
  unfold hostDirectIo at free
  rw [Bool.or_eq_false_iff] at free
  have conflict : directIoOwnershipConflict s i = false := by
    unfold directIoOwnershipConflict
    rw [free.1, free.2]
    rfl
  have reads : hostDirectIoReadActive s i = false := by
    unfold hostDirectIoReadActive
    rw [free.1, Bool.false_and]
  have writes : hostDirectIoWriteActive s i = false := by
    unfold hostDirectIoWriteActive
    rw [free.2, Bool.false_and, Bool.false_and]
  unfold hostDirectIoReadComplete hostDirectIoWriteCommit physicalIoPort physicalIoRead
    physicalIoWrite physicalIoWriteData
  rw [conflict, reads, writes]
  simp

/-- The physical bus never reads and writes at once. -/
theorem physical_apart : ¬((physicalIo s i).ioRead = true ∧ (physicalIo s i).ioWrite = true) := by
  have apart := io_apart (s := s) (i := i)
  change ¬(physicalIoRead s i = true ∧ physicalIoWrite s i = true)
  unfold physicalIoRead physicalIoWrite
  split_ifs
  · simp
  · simp
  · rintro ⟨reads, writes⟩
    rw [Bool.and_eq_true] at reads writes
    exact apart ⟨reads.1, writes.1⟩

/-- The host reads or writes, not both. -/
theorem host_apart (reads : hostProgramIoRead s i = true) : hostProgramIoWrite s i = false := by
  unfold hostProgramIoRead HostTiming.hostProgramIoRead HostTiming.hostProgramIoDataEnableN at reads
  unfold hostProgramIoWrite HostTiming.hostProgramIoWrite HostTiming.hostProgramIoWriteEnableN
  revert reads
  cases (bridge s i).readNotWrite <;> simp

/-- Without an overlap the bus makes the transfer the processor or the host commits. -/
theorem physical_access (noConflict : directIoOwnershipConflict s i = false) :
    (physicalIo s i).access? = (committed? s i).or (hostCommitted? s i) := by
  rcases Bool.eq_false_or_eq_true (hostDirectIo s i) with busy | free
  · have idle : (ioRead s i || ioWrite s i) = false := by
      have conflict : directIoOwnershipConflict s i =
          (hostDirectIo s i && (ioRead s i || ioWrite s i)) := rfl
      rw [noConflict, busy, Bool.true_and] at conflict
      exact conflict.symm
    have silent : ioCommit s i = false := by
      unfold ioCommit
      rw [idle, Bool.and_false]
    have none : committed? s i = .none := by
      unfold committed?
      rw [silent]
      rfl
    rw [none, Option.none_or]
    rw [Bool.or_eq_false_iff] at idle
    unfold PhysicalIo.access? physicalIo physicalIoCommit hostCommitted? hostDirectIoReadComplete
      hostDirectIoWriteCommit physicalIoPort physicalIoRead physicalIoWrite physicalIoWriteData
    dsimp only
    rw [silent, noConflict, idle.1, idle.2]
    cases reads : hostDirectIoReadActive s i
    · cases hostDirectIoWriteActive s i
      · simp
      · cases HostTiming.hostProgramIoWriteCommit (bridge s i) (hostTimingInputs i) <;> simp
    · have quiet : hostDirectIoWriteActive s i = false := by
        have reading : hostProgramIoRead s i = true := by
          unfold hostDirectIoReadActive at reads
          rw [Bool.and_eq_true] at reads
          exact reads.1
        unfold hostDirectIoWriteActive
        rw [host_apart reading, Bool.false_and, Bool.false_and]
      rw [quiet]
      cases HostTiming.cycleCompleteEvent s.hostTiming (hostTimingInputs i) <;> simp
  · rcases physical_free free with ⟨-, noRead, noWrite, port, reads, writes, data⟩
    have host : hostCommitted? s i = none := by
      unfold hostCommitted?
      rw [noRead, noWrite]
      rfl
    rw [host, Option.or_none]
    unfold PhysicalIo.access? physicalIo physicalIoCommit committed? shownAccess?
    dsimp only
    rw [noConflict, noRead, noWrite, port, reads, writes, data]
    cases ioCommit s i <;> simp

end Physical

/-! ## Runs -/

section Run

variable (start : State) (inputs : ℕ → Inputs)

/-- The state before a clock. -/
def stateAt : ℕ → State := Timeline.state step start inputs

/-- The inputs of the processor in a clock. -/
def processorInputsAt (clock : ℕ) : Mister.Inputs :=
  processorInputs (stateAt start inputs clock) (inputs clock)

/-- What the targets hold before a clock. -/
def consumersAt (clock : ℕ) : Consumers := (stateAt start inputs clock).ports.consumers

/-- The processor runs on what the board gives it. -/
theorem processor_stateAt (clock : ℕ) :
    (stateAt start inputs clock).processor =
      Mister.stateAt start.processor (processorInputsAt start inputs) clock := by
  induction clock with
  | zero => rfl
  | succ clock ih =>
      rw [Mister.stateAt_succ, ← ih]
      rfl

variable {start inputs}

/-- Outside reset the request of the processor is the one of its slice. -/
theorem request?_running {clock : ℕ}
    (running : Mister.Running (Mister.stateAt start.processor (processorInputsAt start inputs) clock)
      (processorInputsAt start inputs clock)) :
    request? (stateAt start inputs clock) (inputs clock) =
      Slice.request? (Mister.stateAt start.processor (processorInputsAt start inputs)
        clock).pipeline := by
  unfold request?
  rw [processor_stateAt]
  exact running.callback?

/-- A machine cycle the processor ends outside reset sampled the ready of its request. -/
theorem sampled_of_ends {clock : ℕ} (initialized : (inputs 0).initializeI = true)
    (later : 0 < clock)
    (running : Mister.Running (Mister.stateAt start.processor (processorInputsAt start inputs) clock)
      (processorInputsAt start inputs clock))
    (ends : endsCycle (stateAt start inputs clock) (inputs clock) = true) {request : Request}
    (shown : request? (stateAt start inputs clock) (inputs clock) = some request) :
    ∃ seen, seen < clock ∧
      Mister.ready (processorInputsAt start inputs seen) request.kind = true ∧
        Mister.Asks start.processor (processorInputsAt start inputs) request.kind seen
          (clock + 1) := by
  have sampled : Mister.Sampled start.processor (processorInputsAt start inputs) clock :=
    Mister.sampled initialized later
  unfold endsCycle Mister.endsCycle at ends
  rw [processor_stateAt, Bool.and_eq_true, beq_iff_eq] at ends
  have free : (Mister.stateAt start.processor (processorInputsAt start inputs) clock).memoryWait =
      false := by
    by_contra held
    rw [Bool.not_eq_false] at held
    have still := Mister.phaseAdvance_held (i := processorInputsAt start inputs clock) held
    exact absurd (ends.1.symm.trans still) (by decide)
  have asked : (Slice.request? (Mister.stateAt start.processor (processorInputsAt start inputs)
      clock).pipeline).map Request.kind = some request.kind := by
    rw [← request?_running running, shown]
    rfl
  rcases sampled ends.2 free running.remaining request.kind asked with
    ⟨seen, earlier, ready, asks⟩
  exact ⟨seen, earlier, ready, asks.succ running asked⟩

end Run

end Tms32010.Board.SoundMister
