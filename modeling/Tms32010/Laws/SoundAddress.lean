import Tms32010.Board.SoundBus

/-!
# Sound address and port-1 reads

The sound address counts the input reads of the processor and of the host from the word
last loaded through port 7, and addresses the communication RAM behind port 1. The
response of that RAM belongs to a held request, not to one read: where a read follows
another one without a clock between them, the response of the first outlives its count.
-/

namespace Tms32010.Board.SoundMister

open Tms32010.Rtl Timeline

/-! ## Transfers -/

section Transfers

variable {c : Consumers} {access : Option PortAccess}

/-- The transfer is a read of some port. -/
def reading : Option PortAccess → Bool
  | some (.read _) => true
  | _ => false

/-- The sound address is loaded by a write to port 7 and counts the reads. -/
theorem transfer?_address (noLoad : ∀ data, access ≠ some (.write 7 data)) :
    (c.transfer? access).soundAddress =
        c.soundAddress + BitVec.ofNat 16 (reading access).toNat ∧
      (c.transfer? access).soundAddressValid = c.soundAddressValid := by
  cases access with
  | none => exact ⟨(BitVec.add_zero _).symm, rfl⟩
  | some access =>
      cases access with
      | read port => exact ⟨rfl, rfl⟩
      | write port data =>
          have other : (port == 7) = false := by
            rw [beq_eq_false_iff_ne]
            rintro rfl
            exact noLoad data rfl
          have still : c.soundAddress + BitVec.ofNat 16 (reading (some (.write port data))).toNat =
              c.soundAddress := BitVec.add_zero _
          rw [still]
          unfold Consumers.transfer? Consumers.transfer
          dsimp only
          rw [other, if_neg Bool.false_ne_true]
          split_ifs <;> exact ⟨rfl, rfl⟩

/-- The block is written through port 6. -/
theorem transfer?_block (noWrite : ∀ data, access ≠ some (.write 6 data)) :
    (c.transfer? access).soundRomBlock = c.soundRomBlock ∧
      (c.transfer? access).soundRomBlockValid = c.soundRomBlockValid := by
  cases access with
  | none => exact ⟨rfl, rfl⟩
  | some access =>
      cases access with
      | read port => exact ⟨rfl, rfl⟩
      | write port data =>
          have other : (port == 6) = false := by
            rw [beq_eq_false_iff_ne]
            rintro rfl
            exact noWrite data rfl
          unfold Consumers.transfer? Consumers.transfer
          dsimp only
          rw [other, if_neg Bool.false_ne_true]
          split_ifs <;> exact ⟨rfl, rfl⟩

end Transfers

/-! ## One clock -/

section Clock

variable {s : State} {i : Inputs}

/-- The transfer of a clock, by the processor or by the host. -/
def transfer? (s : State) (i : Inputs) : Option PortAccess :=
  (committed? s i).or (hostCommitted? s i)

/-- Outside initialisation the sound address and the block make the transfer of the clock,
also under DSP reset. -/
theorem addressControl_step (noInitialize : i.initializeI = false)
    (noConflict : directIoOwnershipConflict s i = false) :
    (step s i).ports.consumers.soundAddress =
        (s.ports.consumers.transfer? (transfer? s i)).soundAddress ∧
      (step s i).ports.consumers.soundAddressValid =
        (s.ports.consumers.transfer? (transfer? s i)).soundAddressValid ∧
      (step s i).ports.consumers.soundRomBlock =
        (s.ports.consumers.transfer? (transfer? s i)).soundRomBlock ∧
      (step s i).ports.consumers.soundRomBlockValid =
        (s.ports.consumers.transfer? (transfer? s i)).soundRomBlockValid := by
  have access : (physicalIo s i).access? = transfer? s i := physical_access noConflict
  have made := SoundPorts.step_consumers s.ports (physicalIo s i)
    (selectedHostIrqClearCommit s i) physical_apart
  have whole : (step s i).ports.consumers = (s.ports.step false (selectedDspResetN s i)
      (physicalIo s i) (selectedHostIrqClearCommit s i)).consumers := by
    change (s.ports.step i.initializeI (selectedDspResetN s i) _ _).consumers = _
    rw [noInitialize]
  rw [access] at made
  rw [← made, whole]
  cases selectedDspResetN s i
  · rw [SoundPorts.step_reset]
    exact ⟨rfl, rfl, rfl, rfl⟩
  · exact ⟨rfl, rfl, rfl, rfl⟩

/-- An initialisation makes the sound address and the block invalid. -/
theorem addressControl_initialized (asserted : i.initializeI = true) :
    (step s i).ports.addressControl = AddressControl.idle := by
  change AddressControl.step s.ports.addressControl i.initializeI _ = _
  rw [asserted]
  rfl

/-! ## Port 1 -/

/-- The communication RAM is asked for a word for port 1. -/
def requestsPort1 (s : State) (i : Inputs) : Bool :=
  CommunicationRam.dspReadRequest (communicationInputs s i)

/-- The word at the sound address. -/
def port1Word (s : State) : BitVec 16 :=
  s.communicationRam.communicationRam (s.ports.addressControl.soundAddress.extractLsb' 0 9)

/-- A response under a request for port 1 is the word at the sound address. -/
def PortFresh (s : State) (i : Inputs) : Prop :=
  requestsPort1 s i = true → s.communicationRam.readResponseValid = true →
    s.communicationRam.readResponseHost = false →
      s.communicationRam.readResponseData = port1Word s

/-- A response that a clock leaves for port 1 is the word at the address before it. -/
theorem response_step (fresh : PortFresh s i)
    (valid : (step s i).communicationRam.readResponseValid = true)
    (dsp : (step s i).communicationRam.readResponseHost = false) :
    i.initializeI = false ∧ requestsPort1 s i = true ∧
      (step s i).communicationRam.readResponseData = port1Word s ∧
      (step s i).communicationRam.communicationRam = s.communicationRam.communicationRam := by
  have view := CommunicationRam.step_view s.communicationRam (communicationInputs s i)
  have valid' : (RegisteredRead.step s.communicationRam.view 0
      (communicationInputs s i).view).valid = true := by
    rw [← view]
    exact valid
  have first : (RegisteredRead.step s.communicationRam.view 0
      (communicationInputs s i).view).first = false := by
    rw [← view]
    exact dsp
  have data : (step s i).communicationRam.readResponseData =
      (RegisteredRead.step s.communicationRam.view 0 (communicationInputs s i).view).data := by
    rw [← view]
    rfl
  have stays : (step s i).communicationRam.communicationRam =
      (RegisteredRead.step s.communicationRam.view 0 (communicationInputs s i).view).memory := by
    rw [← view]
    rfl
  have running : i.initializeI = false := by
    by_contra asserted
    rw [Bool.not_eq_false] at asserted
    have clears : (communicationInputs s i).view.clear = true := asserted
    unfold RegisteredRead.step at valid'
    rw [if_pos clears] at valid'
    exact absurd valid' Bool.false_ne_true
  have quiet (asked : requestsPort1 s i = true) :
      RegisteredRead.nextMemory s.communicationRam.view (communicationInputs s i).view =
        s.communicationRam.communicationRam := by
    have orderly := CommunicationRam.view_orderly (communicationInputs s i)
    unfold RegisteredRead.nextMemory
    rw [orderly.quiet false asked]
    rfl
  rw [data, stays]
  rcases RegisteredRead.step_valid _ 0 _ valid' with
    ⟨old, asked, same, word, memory⟩ | ⟨asked, word, memory⟩
  · have dsp' : s.communicationRam.readResponseHost = false := same.symm.trans first
    have asked' : requestsPort1 s i = true := by
      have owner : s.communicationRam.view.first = false := dsp'
      rw [owner] at asked
      exact asked
    rw [word, memory, quiet asked']
    exact ⟨running, asked', fresh asked' old dsp', rfl⟩
  · have asked' : requestsPort1 s i = true := by
      rw [first] at asked
      exact asked
    rw [word, memory, quiet asked', first]
    exact ⟨running, asked', rfl, rfl⟩

/-- A clock without a commit keeps the sound address. -/
theorem addressControl_quiet (running : i.initializeI = false)
    (quiet : physicalIoCommit s i = false) :
    (step s i).ports.addressControl = s.ports.addressControl := by
  change AddressControl.step s.ports.addressControl i.initializeI (physicalIo s i) = _
  unfold AddressControl.step
  rw [running, if_neg Bool.false_ne_true, if_neg]
  rw [Bool.not_eq_true]
  exact quiet

/-- The response stays the word at the sound address, unless a request for port 1 directly
follows the commit of another one. -/
theorem portFresh_step (fresh : PortFresh s i) {next : Inputs}
    (spaced : requestsPort1 s i = true → physicalIoCommit s i = true →
      requestsPort1 (step s i) next = false) :
    PortFresh (step s i) next := by
  intro asks valid dsp
  rcases response_step fresh valid dsp with ⟨running, asked, data, memory⟩
  have quiet : physicalIoCommit s i = false := by
    by_contra commits
    rw [Bool.not_eq_false] at commits
    exact absurd ((spaced asked commits).symm.trans asks) (by decide)
  rw [data]
  unfold port1Word
  rw [memory, addressControl_quiet running quiet]

/-- A ready read of port 1 is given the word at the sound address. -/
theorem port1_ready (fresh : PortFresh s i) (ready : communicationPort1Ready s i = true) :
    communicationPort1ReadData s = port1Word s := by
  have answered : (requestsPort1 s i && s.communicationRam.readResponseValid &&
      !s.communicationRam.readResponseHost) = true := ready
  rw [Bool.and_eq_true, Bool.and_eq_true, Bool.not_eq_true'] at answered
  exact fresh answered.1.1 answered.1.2 answered.2

/-- A committed `IN` from port 1 is ready, and the processor is given what the RAM presents. -/
theorem port1_committed (committed : committed? s i = some (.read 1)) :
    communicationPort1Ready s i = true ∧
      (processorInputs s i).ioReadData = communicationPort1ReadData s := by
  unfold committed? at committed
  split_ifs at committed with commits
  rcases shownAccess?_read.mp committed with ⟨reads, port⟩
  rw [ioCommit_eq, Bool.and_eq_true, Bool.and_eq_true] at commits
  have ready := commits.1.2
  have data : (processorInputs s i).ioReadData = selectedIoReadData s i := rfl
  rw [data]
  unfold selectedIoReady at ready
  unfold selectedIoReadData
  rw [reads, port] at ready ⊢
  rw [if_neg (by decide), if_pos (by decide)]
  cases conflict : directIoOwnershipConflict s i
  · rw [conflict, if_neg Bool.false_ne_true, if_neg (by decide), if_pos (by decide)] at ready
    exact ⟨ready, rfl⟩
  · rw [conflict, if_pos rfl] at ready
    exact absurd ready Bool.false_ne_true

/-- A host read of port 1 with a valid mask is ready, and shows what the RAM presents. -/
theorem port1_host (valid : (hostPort1Read s i).2 ≠ 0) :
    communicationPort1Ready s i = true ∧
      (hostPort1Read s i).1 = communicationPort1ReadData s := by
  unfold hostPort1Read at valid ⊢
  dsimp only at valid ⊢
  cases ready : communicationPort1Ready s i
  · rw [ready] at valid
    simp at valid
  · cases enabled : selectedCommunicationHostEnable s i
    · refine ⟨rfl, ?_⟩
      have ones : (0xffff : BitVec 16) = BitVec.allOnes 16 := rfl
      rw [if_neg Bool.false_ne_true, if_pos rfl, ones, BitVec.and_allOnes, BitVec.and_allOnes]
    · rw [enabled] at valid
      simp at valid

end Clock

/-! ## Runs -/

section Run

variable (start : State) (inputs : ℕ → Inputs)

/-- The transfer of a clock of the run. -/
def transferAt (clock : ℕ) : Option PortAccess :=
  transfer? (stateAt start inputs clock) (inputs clock)

/-- A clock initializes the board. -/
def initializes (clock : ℕ) : Prop := (inputs clock).initializeI = true

/-- A clock writes a port. -/
def writes (port : BitVec 3) (clock : ℕ) : Prop :=
  ∃ data, transferAt start inputs clock = some (.write port data)

/-- A clock reads some port. -/
def reads (clock : ℕ) : Bool := reading (transferAt start inputs clock)

/-- The cycles of the host and of the processor do not overlap before a clock. -/
def Apart (now : ℕ) : Prop :=
  ∀ clock, clock ≤ now →
    directIoOwnershipConflict (stateAt start inputs clock) (inputs clock) = false

/-- Before a clock no request for port 1 directly follows a clock that commits a read of
port 1. -/
def Spaced (now : ℕ) : Prop :=
  ∀ clock, clock < now → requestsPort1 (stateAt start inputs clock) (inputs clock) = true →
    physicalIoCommit (stateAt start inputs clock) (inputs clock) = true →
      requestsPort1 (stateAt start inputs (clock + 1)) (inputs (clock + 1)) = false

/-- The sound address, the block and the reads of port 1 `now`, after the last
initialisation in clock `first`. -/
structure SoundLaw (first now : ℕ) : Prop where
  address : ∀ load data, Last (writes start inputs 7) load now → first < load →
    transferAt start inputs load = some (.write 7 data) →
      (consumersAt start inputs now).soundAddress =
        data + BitVec.ofNat 16 (between (reads start inputs) load now)
  valid : (consumersAt start inputs now).soundAddressValid = true ↔
    ∃ load, first < load ∧ load < now ∧ writes start inputs 7 load
  block : ∀ last data, Last (writes start inputs 6) last now → first < last →
    transferAt start inputs last = some (.write 6 data) →
      (consumersAt start inputs now).soundRomBlock = data.extractLsb' 0 4 ∧
        (consumersAt start inputs now).soundRomBlockValid = true
  processor : committed? (stateAt start inputs now) (inputs now) = some (.read 1) →
    (processorInputsAt start inputs now).ioReadData = port1Word (stateAt start inputs now)
  host : hostCommitted? (stateAt start inputs now) (inputs now) = some (.read 1) →
    (hostPort1Read (stateAt start inputs now) (inputs now)).2 ≠ 0 →
      (hostPort1Read (stateAt start inputs now) (inputs now)).1 =
        port1Word (stateAt start inputs now)

variable {start inputs} {first now : ℕ}

/-- A clock that loads the sound address. -/
theorem soundAddress_load {clock : ℕ} (running : ¬initializes inputs clock)
    (noConflict : directIoOwnershipConflict (stateAt start inputs clock) (inputs clock) = false)
    {data : BitVec 16} (loads : transferAt start inputs clock = some (.write 7 data)) :
    (consumersAt start inputs (clock + 1)).soundAddress = data ∧
      (consumersAt start inputs (clock + 1)).soundAddressValid = true := by
  rcases addressControl_step (Bool.eq_false_of_not_eq_true running) noConflict with
    ⟨address, valid, -, -⟩
  have loads' : transfer? (stateAt start inputs clock) (inputs clock) = _ := loads
  rw [loads'] at address valid
  exact ⟨address, valid⟩

/-- Another clock counts a read. -/
theorem soundAddress_count {clock : ℕ} (running : ¬initializes inputs clock)
    (noConflict : directIoOwnershipConflict (stateAt start inputs clock) (inputs clock) = false)
    (noLoad : ¬writes start inputs 7 clock) :
    (consumersAt start inputs (clock + 1)).soundAddress =
        (consumersAt start inputs clock).soundAddress +
          BitVec.ofNat 16 (reads start inputs clock).toNat ∧
      (consumersAt start inputs (clock + 1)).soundAddressValid =
        (consumersAt start inputs clock).soundAddressValid := by
  rcases addressControl_step (Bool.eq_false_of_not_eq_true running) noConflict with
    ⟨address, valid, -, -⟩
  have other : ∀ data, transfer? (stateAt start inputs clock) (inputs clock) ≠
      some (.write 7 data) := fun data loads => noLoad ⟨data, loads⟩
  rcases transfer?_address (c := (stateAt start inputs clock).ports.consumers) other with
    ⟨counted, same⟩
  exact ⟨address.trans counted, valid.trans same⟩

/-- A clock that writes the block. -/
theorem soundRomBlock_write {clock : ℕ} (running : ¬initializes inputs clock)
    (noConflict : directIoOwnershipConflict (stateAt start inputs clock) (inputs clock) = false)
    {data : BitVec 16} (made : transferAt start inputs clock = some (.write 6 data)) :
    (consumersAt start inputs (clock + 1)).soundRomBlock = data.extractLsb' 0 4 ∧
      (consumersAt start inputs (clock + 1)).soundRomBlockValid = true := by
  rcases addressControl_step (Bool.eq_false_of_not_eq_true running) noConflict with
    ⟨-, -, block, valid⟩
  have made' : transfer? (stateAt start inputs clock) (inputs clock) = _ := made
  rw [made'] at block valid
  exact ⟨block, valid⟩

/-- Another clock keeps the block. -/
theorem soundRomBlock_kept {clock : ℕ} (running : ¬initializes inputs clock)
    (noConflict : directIoOwnershipConflict (stateAt start inputs clock) (inputs clock) = false)
    (noWrite : ¬writes start inputs 6 clock) :
    (consumersAt start inputs (clock + 1)).soundRomBlock =
        (consumersAt start inputs clock).soundRomBlock ∧
      (consumersAt start inputs (clock + 1)).soundRomBlockValid =
        (consumersAt start inputs clock).soundRomBlockValid := by
  rcases addressControl_step (Bool.eq_false_of_not_eq_true running) noConflict with
    ⟨-, -, block, valid⟩
  have other : ∀ data, transfer? (stateAt start inputs clock) (inputs clock) ≠
      some (.write 6 data) := fun data made => noWrite ⟨data, made⟩
  rcases transfer?_block (c := (stateAt start inputs clock).ports.consumers) other with
    ⟨same, stays⟩
  exact ⟨block.trans same, valid.trans stays⟩

/-- The sound address is the loaded word and the reads since. -/
theorem soundAddress_since (apart : Apart start inputs now)
    (quiet : ∀ clock, first < clock → clock < now → ¬initializes inputs clock) {load : ℕ}
    {data : BitVec 16} (last : Last (writes start inputs 7) load now) (later : first < load)
    (loads : transferAt start inputs load = some (.write 7 data)) :
    (consumersAt start inputs now).soundAddress =
      data + BitVec.ofNat 16 (between (reads start inputs) load now) := by
  induction last using Last.induction with
  | starts happened =>
      have running := quiet load later (Nat.lt_succ_self load)
      rw [(soundAddress_load running (apart load (Nat.le_succ load)) loads).1, between_succ_self]
      exact (BitVec.add_zero data).symm
  | persists clock last absent ih =>
      have running := quiet clock (Nat.lt_trans later last.before) (Nat.lt_succ_self clock)
      have earlier := ih (fun clock' before => apart clock' (Nat.le_succ_of_le before))
        fun clock' after before => quiet clock' after (Nat.lt_succ_of_lt before)
      rw [(soundAddress_count running (apart clock (Nat.le_succ clock)) absent).1, earlier,
        between_succ last.before, BitVec.ofNat_add, BitVec.add_assoc]

/-- The block is the low nibble of the word last written to port 6. -/
theorem soundRomBlock_since (apart : Apart start inputs now)
    (quiet : ∀ clock, first < clock → clock < now → ¬initializes inputs clock) {write : ℕ}
    {data : BitVec 16} (last : Last (writes start inputs 6) write now) (later : first < write)
    (made : transferAt start inputs write = some (.write 6 data)) :
    (consumersAt start inputs now).soundRomBlock = data.extractLsb' 0 4 ∧
      (consumersAt start inputs now).soundRomBlockValid = true := by
  induction last using Last.induction with
  | starts happened =>
      have running := quiet write later (Nat.lt_succ_self write)
      exact soundRomBlock_write running (apart write (Nat.le_succ write)) made
  | persists clock last absent ih =>
      have running := quiet clock (Nat.lt_trans later last.before) (Nat.lt_succ_self clock)
      have earlier := ih (fun clock' before => apart clock' (Nat.le_succ_of_le before))
        fun clock' after before => quiet clock' after (Nat.lt_succ_of_lt before)
      rcases soundRomBlock_kept running (apart clock (Nat.le_succ clock)) absent with
        ⟨same, valid⟩
      rw [same, valid]
      exact earlier

/-- The sound address is valid once a word was loaded since the initialisation. -/
theorem soundAddressValid_since (apart : Apart start inputs now)
    (since : Last (initializes inputs) first now) :
    (consumersAt start inputs now).soundAddressValid = true ↔
      ∃ load, first < load ∧ load < now ∧ writes start inputs 7 load := by
  induction since using Last.induction with
  | starts happened =>
      have idle := addressControl_initialized (s := stateAt start inputs first) happened
      have invalid : (consumersAt start inputs (first + 1)).soundAddressValid = false :=
        congrArg AddressControl.State.soundAddressValid idle
      rw [invalid]
      constructor
      · intro valid
        exact absurd valid Bool.false_ne_true
      · rintro ⟨load, after, before, -⟩
        omega
  | persists clock since absent ih =>
      have noConflict := apart clock (Nat.le_succ clock)
      have earlier := ih fun clock' before => apart clock' (Nat.le_succ_of_le before)
      by_cases loads : writes start inputs 7 clock
      · rcases loads with ⟨data, loaded⟩
        rw [(soundAddress_load absent noConflict loaded).2]
        constructor
        · intro _
          exact ⟨clock, since.before, Nat.lt_succ_self clock, data, loaded⟩
        · intro _
          rfl
      · rw [(soundAddress_count absent noConflict loads).2, earlier]
        constructor
        · rintro ⟨load, after, before, written⟩
          exact ⟨load, after, Nat.lt_succ_of_lt before, written⟩
        · rintro ⟨load, after, before, written⟩
          rcases Nat.lt_succ_iff_lt_or_eq.mp before with before | rfl
          · exact ⟨load, after, before, written⟩
          · exact absurd written loads

/-- Where the reads of port 1 are spaced, a response for it is the word at the sound
address. -/
theorem portFresh_since (spaced : Spaced start inputs now)
    (since : Last (initializes inputs) first now) :
    PortFresh (stateAt start inputs now) (inputs now) := by
  induction since using Last.induction with
  | starts happened =>
      intro asks valid
      have cleared : (stateAt start inputs (first + 1)).communicationRam.readResponseValid =
          false := by
        change (CommunicationRam.step _
          (communicationInputs (stateAt start inputs first) (inputs first))).readResponseValid = _
        have clears : (communicationInputs (stateAt start inputs first)
            (inputs first)).initializeI = true := happened
        unfold CommunicationRam.step
        rw [if_pos clears]
      exact absurd (cleared.symm.trans valid) (by decide)
  | persists clock since absent ih =>
      have fresh := ih fun clock' before => spaced clock' (Nat.lt_succ_of_lt before)
      exact portFresh_step fresh (spaced clock (Nat.lt_succ_self clock))

/-- A host read of port 1 that directly follows an `IN` from port 1. -/
def adjoiningInputs (clock : ℕ) : Inputs :=
  { enabledInputs with
    initializeI := clock == 0
    hostAddressStrobeAssert := clock == 43
    hostBusAddress := 0x40b001
    host8mhzRise := clock == 44 || clock == 46
    host8mhzFall := clock == 45 || clock == 47 }

/-- A program of `OUT 0,PA7` and `IN 1,PA1`, with a communication RAM whose words are their
addresses. -/
def adjoiningStart : State :=
  clearState (fun address => if address = 0 then 0x4f00 else if address = 1 then 0x4101 else 0x7f80)
    fun address => address.setWidth 16

/-- The host is given the word at address 0, which the processor read, instead of the one at
address 1. -/
theorem soundAddress_law_adjoining :
    ¬∀ start inputs first now, Apart start inputs now → Last (initializes inputs) first now →
      SoundLaw start inputs first now := by
  intro law
  have apart : Apart adjoiningStart adjoiningInputs 47 := by
    intro clock before
    revert clock
    decide +kernel
  have since : Last (initializes adjoiningInputs) 0 47 := by
    refine ⟨by decide, rfl, ?_⟩
    intro clock after before
    unfold initializes adjoiningInputs
    dsimp only
    rw [beq_iff_eq]
    omega
  have stale := (law adjoiningStart adjoiningInputs 0 47 apart since).host (by decide +kernel)
    (by decide +kernel)
  revert stale
  decide +kernel

/-- Where the cycles of the host and the processor do not overlap and no request for port 1
directly follows the commit of another one, the sound address, the block and every ready
read of port 1 are as `SoundLaw` says, in every clock after an initialisation. -/
theorem soundAddress_law (start : State) (inputs : ℕ → Inputs) (first now : ℕ)
    (apart : Apart start inputs now) (spaced : Spaced start inputs now)
    (since : Last (initializes inputs) first now) : SoundLaw start inputs first now := by
  have fresh := portFresh_since spaced since
  refine ⟨?_, soundAddressValid_since apart since, ?_, ?_, ?_⟩
  · intro load data last later loads
    exact soundAddress_since apart since.quiet last later loads
  · intro write data last later made
    exact soundRomBlock_since apart since.quiet last later made
  · intro committed
    rcases port1_committed committed with ⟨ready, data⟩
    exact data.trans (port1_ready fresh ready)
  · intro committed valid
    rcases port1_host valid with ⟨ready, data⟩
    exact data.trans (port1_ready fresh ready)

theorem soundAddress_law_adjoined : SoundLaw adjoiningStart adjoiningInputs 0 44 := by
  apply soundAddress_law adjoiningStart adjoiningInputs 0 44
  · intro clock before
    revert clock
    decide +kernel
  · intro clock before
    revert clock
    decide +kernel
  · refine ⟨by decide, rfl, ?_⟩
    intro clock after before
    unfold initializes adjoiningInputs
    dsimp only
    rw [beq_iff_eq]
    omega

end Run

end Tms32010.Board.SoundMister
