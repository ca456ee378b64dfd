import Tms32010.Rtl.Callback

/-!
# The native bus of the wrapper

The address, the three strobes and the write data of the wrapper show the request of its
callbacks. A machine cycle keeps what its request asks for, whatever the debug port
writes meanwhile, and its boundary is passed only after a clock that found the ready.
-/

namespace Tms32010.Rtl

open Timeline

/-! ## What a request asks for -/

namespace Request

/-- The request without its data. -/
def kind : Request → Request
  | programRead address => programRead address
  | programWrite address _ => programWrite address 0
  | ioRead port => ioRead port
  | ioWrite port _ => ioWrite port 0

/-- The address on the native bus. -/
def nativeAddress : Request → BitVec 12
  | programRead address | programWrite address _ => address
  | ioRead port | ioWrite port _ => 0#9 ++ port

/-- The strobe `MEN`. -/
def strobesMen : Request → Bool
  | programRead _ => true
  | _ => false

/-- The strobe `DEN`. -/
def strobesDen : Request → Bool
  | ioRead _ => true
  | _ => false

/-- The strobe `WE`. -/
def strobesWe : Request → Bool
  | programWrite _ _ | ioWrite _ _ => true
  | _ => false

end Request

namespace Slice

variable {s : State} {i : Inputs}

theorem request?_kind_held {phase : BitVec 2} {ram : InternalRam} (started : s.bus.phase ≠ 0)
    (goes : phase ≠ 0) :
    (request? (s.held phase ram)).map Request.kind = (request? s).map Request.kind := by
  have strobes : strobing (s.held phase ram) = strobing s := by
    unfold strobing State.held
    rw [bne_iff_ne.mpr started, bne_iff_ne.mpr goes]
  have io : transfersIo (s.held phase ram) = transfersIo s := rfl
  have table : transfersTable (s.held phase ram) = transfersTable s := rfl
  unfold request?
  rw [strobes, io, table, executeIs_held, executeIs_held]
  split_ifs <;> rfl

/-- A clock within the cycle keeps what the request asks for. -/
theorem request?_kind_within (noInitialize : i.initializeI = false)
    (within : pipelineBoundary s i = false) (started : s.bus.phase ≠ 0) :
    (request? (step s i)).map Request.kind = (request? s).map Request.kind := by
  rw [step_held noInitialize within]
  apply request?_kind_held started
  unfold heldPhase
  unfold pipelineBoundary at within
  cases enabled : busClockEnable s i
  · exact started
  · rw [enabled, Bool.true_and, beq_eq_false_iff_ne] at within
    rw [if_pos rfl]
    bv_omega

end Slice

namespace Mister

/-! ## The bus shows the request -/

section Bus

variable (s : State) (i : Inputs)

theorem native_strobes :
    nativeMenN s i = !(callback? s i).any Request.strobesMen ∧
      nativeDenN s i = !(callback? s i).any Request.strobesDen ∧
      nativeWeN s i = !(callback? s i).any Request.strobesWe := by
  rcases Slice.strobes_eq (s := s.pipeline) (i := sliceInputs s i) with
    ⟨reads, writes, inputs, outputs⟩
  rcases Slice.transfers_apart (s := s.pipeline) (i := sliceInputs s i) with
    ⟨table, input, output⟩
  have read : programRead s i = _ := reads
  have write : programWrite s i = _ := writes
  have input' : ioRead s i = _ := inputs
  have output' : ioWrite s i = _ := outputs
  have men : nativeMenN s i = !programRead s i := (Bool.not_not _).symm
  have den : nativeDenN s i =
      !(Slice.strobing s.pipeline && Slice.ioRead s.pipeline (sliceInputs s i)) := by
    unfold nativeDenN Slice.denN Slice.strobing
    rw [bne]
    cases s.pipeline.bus.active <;> cases s.pipeline.bus.phase == 0 <;>
      cases Slice.ioRead s.pipeline (sliceInputs s i) <;> rfl
  have we : nativeWeN s i =
      !(Slice.strobing s.pipeline && (Slice.ioWrite s.pipeline (sliceInputs s i) ||
        Slice.programWrite s.pipeline (sliceInputs s i))) := by
    unfold nativeWeN Slice.weN Slice.strobing
    rw [bne]
    cases s.pipeline.bus.active <;> cases s.pipeline.bus.phase == 0 <;>
      cases Slice.ioWrite s.pipeline (sliceInputs s i) <;>
      cases Slice.programWrite s.pipeline (sliceInputs s i) <;> rfl
  unfold callback?
  rw [men, den, we, read, write, input', output']
  revert table input output
  generalize Slice.ioTransferActive s.pipeline (sliceInputs s i) = io
  generalize Slice.programWrite s.pipeline (sliceInputs s i) = stores
  generalize Slice.ioRead s.pipeline (sliceInputs s i) = takes
  generalize Slice.ioWrite s.pipeline (sliceInputs s i) = gives
  cases Slice.strobing s.pipeline <;> cases io <;> cases stores <;> cases takes <;>
    cases gives <;> simp [Request.strobesMen, Request.strobesDen, Request.strobesWe]

variable {s i}

/-- The native address is the one of the request. -/
theorem programAddress_of {request : Request} (shown : callback? s i = some request) :
    programAddress s i = request.nativeAddress := by
  rcases Slice.strobes_eq (s := s.pipeline) (i := sliceInputs s i) with
    ⟨reads, writes, inputs, outputs⟩
  rcases Slice.transfers_apart (s := s.pipeline) (i := sliceInputs s i) with ⟨-, input, output⟩
  have read : programRead s i = _ := reads
  have input' : ioRead s i = _ := inputs
  have output' : ioWrite s i = _ := outputs
  have transfers (moves : Slice.ioTransferActive s.pipeline (sliceInputs s i) = true) :
      programAddress s i = 0#9 ++ ioPort s := by
    unfold programAddress Slice.programAddress
    rw [moves]
    rfl
  unfold callback? at shown
  split_ifs at shown with programReads programWrites ioReads ioWrites
  · cases shown
    rfl
  · cases shown
    rfl
  · cases shown
    rw [input', Bool.and_eq_true] at ioReads
    exact transfers (input ioReads.2).1
  · cases shown
    rw [output', Bool.and_eq_true] at ioWrites
    exact transfers (output ioWrites.2)

/-- The write data is the data of the request. -/
theorem writeData_of {request : Request} (shown : callback? s i = some request) :
    (∀ address data, request = .programWrite address data → writeData s i = data) ∧
      (∀ port data, request = .ioWrite port data → writeData s i = data) := by
  unfold callback? at shown
  split_ifs at shown with programReads programWrites ioReads ioWrites
  all_goals
    cases shown
    constructor <;> intro where_ data same <;> cases same
  · rfl
  · rfl

theorem programRead_of {address : BitVec 12}
    (shown : callback? s i = some (.programRead address)) : programRead s i = true := by
  unfold callback? at shown
  split_ifs at shown with reads
  · exact reads
  · cases shown
  · cases shown
  · cases shown

/-- Under `MEN` the wrapper reads the program word at the bus address, past phase 0. -/
theorem programRead_of_men (strobe : nativeMenN s i = false) :
    callback? s i = some (.programRead s.pipeline.bus.address) ∧
      programAddress s i = s.pipeline.bus.address ∧ phase s ≠ 0 := by
  have reads : programRead s i = true := by
    unfold programRead
    rw [strobe]
    rfl
  have strobes : programRead s i = _ :=
    (Slice.strobes_eq (s := s.pipeline) (i := sliceInputs s i)).1
  rw [reads, eq_comm, Bool.and_eq_true, Bool.and_eq_true, Bool.not_eq_true'] at strobes
  have address : programAddress s i = s.pipeline.bus.address := by
    unfold programAddress Slice.programAddress
    rw [strobes.1.2]
    rfl
  have strobing := strobes.1.1
  unfold Slice.strobing at strobing
  rw [Bool.and_eq_true, bne_iff_ne] at strobing
  refine ⟨?_, address, strobing.2⟩
  unfold callback?
  rw [if_pos reads, address]

theorem programWrite_of {address : BitVec 12} {data : BitVec 16}
    (shown : callback? s i = some (.programWrite address data)) :
    programRead s i = false ∧ programWrite s i = true := by
  unfold callback? at shown
  split_ifs at shown with reads writes
  · cases shown
  · exact ⟨Bool.eq_false_of_not_eq_true reads, writes⟩
  · cases shown
  · cases shown

/-- Until phase 0 the bus address stays. -/
theorem bus_address_kept (past : phase (step s i) ≠ 0) :
    (step s i).pipeline.bus.address = s.pipeline.bus.address := by
  have noInitialize : i.resetI = false := by
    by_contra asserted
    rw [Bool.not_eq_false] at asserted
    rw [phase_step, if_pos asserted] at past
    exact past rfl
  have within : Slice.pipelineBoundary s.pipeline (sliceInputs s i) = false := by
    by_contra boundary
    rw [Bool.not_eq_false] at boundary
    exact past (phase_boundary boundary)
  change (Slice.step s.pipeline (sliceInputs s i)).bus.address = _
  rw [Slice.step_held noInitialize within]
  rfl

end Bus

/-! ## Sampled readies -/

section Sampled

variable {start : State} {inputs : ℕ → Inputs} {now : ℕ}

/-- A ready answers what a request asks for. -/
theorem ready_kind (i : Inputs) (request : Request) : ready i request.kind = ready i request := by
  cases request <;> rfl

/-- Every clock from `seen` on is outside reset and asks for the same. -/
def Asks (start : State) (inputs : ℕ → Inputs) (kind : Request) (seen now : ℕ) : Prop :=
  ∀ clock, seen ≤ clock → clock < now →
    Running (stateAt start inputs clock) (inputs clock) ∧
      (Slice.request? (stateAt start inputs clock).pipeline).map Request.kind = some kind

/-- What phase 3 waits for without a hold was ready in an earlier clock of its machine cycle. -/
def Sampled (start : State) (inputs : ℕ → Inputs) (now : ℕ) : Prop :=
  phase (stateAt start inputs now) = 3 → (stateAt start inputs now).memoryWait = false →
    (stateAt start inputs now).resetCyclesRemaining = 0 →
      ∀ kind, (Slice.request? (stateAt start inputs now).pipeline).map Request.kind = some kind →
        ∃ seen, seen < now ∧ ready (inputs seen) kind = true ∧ Asks start inputs kind seen now

theorem Asks.succ {kind : Request} {seen : ℕ} (asks : Asks start inputs kind seen now)
    (running : Running (stateAt start inputs now) (inputs now))
    (shown : (Slice.request? (stateAt start inputs now).pipeline).map Request.kind = some kind) :
    Asks start inputs kind seen (now + 1) := by
  intro clock after before
  rcases Nat.lt_succ_iff_lt_or_eq.mp before with earlier | rfl
  · exact asks clock after earlier
  · exact ⟨running, shown⟩

/-- A clock that waits for nothing finds the ready of its request. -/
theorem ready_of_noWait {s : State} {i : Inputs} (running : Running s i) {kind : Request}
    (shown : (Slice.request? s.pipeline).map Request.kind = some kind)
    (answered : waits s i = false ∨ responds s i = true) : ready i kind = true := by
  rw [(responds_eq s i).1, (responds_eq s i).2, running.callback?] at answered
  cases request : Slice.request? s.pipeline with
  | none =>
      rw [request] at shown
      cases shown
  | some request' =>
      rw [request] at shown answered
      obtain rfl : request'.kind = kind := Option.some.inj shown
      rw [ready_kind]
      simpa using answered

theorem Sampled.succ (sampled : Sampled start inputs now) : Sampled start inputs (now + 1) := by
  intro last free ended kind shown
  rw [stateAt_succ] at last free ended shown
  rcases before_last last ended with ⟨running, within, phases⟩
  have started := started_of_phases phases
  have here := (Slice.request?_kind_within running.noInitialize within started).symm.trans shown
  rcases running.free phases free with ⟨third, unheld⟩ | answered
  · rcases sampled third unheld running.remaining kind here with ⟨seen, earlier, answer, asks⟩
    exact ⟨seen, Nat.lt_succ_of_lt earlier, answer, asks.succ running here⟩
  · refine ⟨now, Nat.lt_succ_self now, ready_of_noWait running here answered, ?_⟩
    intro clock after before
    obtain rfl : clock = now := by omega
    exact ⟨running, here⟩

/-- In every clock after an initialisation phase 3 waits for what was ready. -/
theorem sampled (initialized : (inputs 0).resetI = true) (later : 0 < now) :
    Sampled start inputs now := by
  induction now, later using Nat.le_induction with
  | base =>
      intro last
      have first : phase (stateAt start inputs 1) = 0 := by
        change phase (step start (inputs 0)) = 0
        rw [phase_step, initialized, if_pos rfl]
      rw [first] at last
      exact absurd last (by decide)
  | succ now later ih => exact ih.succ

end Sampled

end Mister

end Tms32010.Rtl
