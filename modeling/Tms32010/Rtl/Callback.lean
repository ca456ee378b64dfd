import Tms32010.Rtl.Held
import Tms32010.Rtl.Mister

/-!
# Callbacks of the wrapper

The requests of the wrapper are four strobes of its slice, at most one of which is
active. Outside reset they are a function of the state of the slice that a machine
cycle holds from phase 1 on, and the slice is never parked past phase 0.
-/

namespace Tms32010.Rtl

/-! ## The transfer of a machine cycle -/

/-- A callback request. -/
inductive Request where
  | programRead (address : BitVec 12)
  | programWrite (address : BitVec 12) (data : BitVec 16)
  | ioRead (port : BitVec 3)
  | ioWrite (port : BitVec 3) (data : BitVec 16)
  deriving DecidableEq, Repr

namespace Slice

section Transfer

variable (s : State)

/-- The strobes of a bus cycle are active. -/
def strobing : Bool := s.bus.active && s.bus.phase != 0

/-- `io_transfer_active` outside reset. -/
def transfersIo : Bool := ioTransferStep s && accepts s

/-- `table_transfer_active` outside reset. -/
def transfersTable : Bool := tableTransferStep s && accepts s

/-- The word the core reads for a transfer. -/
def transferData : BitVec 16 := s.core.dataRam.readData true (operandAddress s)

/-- The request of the slice outside reset. -/
def request? : Option Request :=
  if !strobing s then none
  else if transfersIo s then
    if executeIs s .in then some (.ioRead (ioPort s))
    else some (.ioWrite (ioPort s) (transferData s))
  else if transfersTable s && executeIs s .tblw then
    some (.programWrite s.bus.address (transferData s))
  else some (.programRead s.bus.address)

end Transfer

variable {s : State} {i : Inputs}

/-- The strobes of the slice, by the transfer they make. -/
theorem strobes_eq :
    (!menN s i) = (strobing s && !ioTransferActive s i && !programWrite s i) ∧
      (programWrite s i && !weN s i) = (strobing s && programWrite s i) ∧
      (ioRead s i && !denN s i) = (strobing s && ioRead s i) ∧
      (ioWrite s i && !weN s i) = (strobing s && ioWrite s i) := by
  unfold menN denN weN ProgramBus.menN strobing
  rw [bne]
  generalize programWrite s i = write
  generalize ioRead s i = reads
  generalize ioWrite s i = drives
  cases s.bus.active <;> cases s.bus.phase == 0 <;> cases ioTransferActive s i <;>
    cases write <;> cases reads <;> cases drives <;> exact ⟨rfl, rfl, rfl, rfl⟩

/-- A transfer is made by one family. -/
theorem transfers_apart :
    (ioTransferActive s i = true → programWrite s i = false) ∧
      (ioRead s i = true → ioTransferActive s i = true ∧ ioWrite s i = false) ∧
      (ioWrite s i = true → ioTransferActive s i = true) := by
  refine ⟨?_, ?_, ?_⟩
  · intro io
    unfold ioTransferActive ioTransferStep at io
    unfold programWrite tableTransferActive tableTransferStep
    simp only [Bool.and_eq_true, beq_iff_eq] at io
    rw [io.1.2]
    simp
  · intro reads
    unfold ioRead executeIs at reads
    unfold ioWrite executeIs
    simp only [Bool.and_eq_true, beq_iff_eq] at reads
    rw [reads.2.2]
    refine ⟨reads.1, ?_⟩
    rw [Bool.and_eq_false_iff, Bool.and_eq_false_iff]
    exact Or.inr (Or.inr rfl)
  · intro drives
    unfold ioWrite at drives
    exact (Bool.and_eq_true _ _ ▸ drives).1

theorem request?_held {phase : BitVec 2} {ram : InternalRam}
    (started : s.bus.phase ≠ 0) (goes : phase ≠ 0)
    (data : ram.readData true (operandAddress s) =
      s.core.dataRam.readData true (operandAddress s)) :
    request? (s.held phase ram) = request? s := by
  have strobes : strobing (s.held phase ram) = strobing s := by
    unfold strobing State.held
    rw [bne_iff_ne.mpr started, bne_iff_ne.mpr goes]
  have word : transferData (s.held phase ram) = transferData s := data
  unfold request?
  rw [strobes, word]
  rfl

/-- Without a debug write a clock within the cycle keeps the request. -/
theorem request?_within (noInitialize : i.initializeI = false)
    (within : pipelineBoundary s i = false) (noDebug : i.debugDataWrite = false)
    (started : s.bus.phase ≠ 0) (fresh : Fresh s) : request? (step s i) = request? s := by
  rw [step_held noInitialize within]
  apply request?_held started
  · unfold heldPhase
    unfold pipelineBoundary at within
    cases enabled : busClockEnable s i
    · exact started
    · rw [enabled, Bool.true_and, beq_eq_false_iff_ne] at within
      rw [if_pos rfl]
      bv_omega
  · rcases Bool.eq_false_or_eq_true i.clockEnable with enabled | paused
    · rw [heldRam_enabled enabled, heldRam_memory noDebug]
      exact fresh.symm
    · exact heldRam_paused paused _

end Slice

namespace Mister

section Callback

variable {s : State} {i : Inputs}

/-- The request the callback outputs show. -/
def callback? (s : State) (i : Inputs) : Option Request :=
  if programRead s i then some (.programRead (programAddress s i))
  else if programWrite s i then some (.programWrite (programAddress s i) (writeData s i))
  else if ioRead s i then some (.ioRead (ioPort s))
  else if ioWrite s i then some (.ioWrite (ioPort s) (writeData s i))
  else none

/-- The ready input that answers a request. -/
def ready (i : Inputs) : Request → Bool
  | .programRead _ | .programWrite _ _ => i.programReady
  | .ioRead _ | .ioWrite _ _ => i.ioReady

/-- At most one request is active. -/
theorem callbacks_apart (s : State) (i : Inputs) :
    (programRead s i && programWrite s i) = false ∧ (ioRead s i && ioWrite s i) = false ∧
      ((programRead s i || programWrite s i) && (ioRead s i || ioWrite s i)) = false := by
  rcases Slice.strobes_eq (s := s.pipeline) (i := sliceInputs s i) with
    ⟨reads, writes, inputs, outputs⟩
  rcases Slice.transfers_apart (s := s.pipeline) (i := sliceInputs s i) with
    ⟨table, input, output⟩
  have read : programRead s i = _ := reads
  have write : programWrite s i = _ := writes
  have input' : ioRead s i = _ := inputs
  have output' : ioWrite s i = _ := outputs
  rw [read, write, input', output']
  revert table input output
  generalize Slice.ioTransferActive s.pipeline (sliceInputs s i) = io
  generalize Slice.programWrite s.pipeline (sliceInputs s i) = stores
  generalize Slice.ioRead s.pipeline (sliceInputs s i) = takes
  generalize Slice.ioWrite s.pipeline (sliceInputs s i) = gives
  cases Slice.strobing s.pipeline <;> cases io <;> cases stores <;> cases takes <;>
    cases gives <;> decide

/-- A request waits, or finds its ready. -/
theorem responds_eq (s : State) (i : Inputs) :
    waits s i = (callback? s i).any (fun request => !ready i request) ∧
      responds s i = (callback? s i).any (ready i) := by
  rcases callbacks_apart s i with ⟨program, io, apart⟩
  unfold waits responds callback?
  revert program io apart
  cases programRead s i <;> cases programWrite s i <;> cases ioRead s i <;>
    cases ioWrite s i <;> simp [ready]

/-- The clock neither initializes nor resets. -/
structure Running (s : State) (i : Inputs) : Prop where
  noRequest : resetRequest i = false
  inactive : resetActive s i = false

theorem running_iff : Running s i ↔ resetActive s i = false := by
  constructor
  · exact Running.inactive
  · intro inactive
    have split := inactive
    unfold resetActive at split
    exact ⟨(Bool.or_eq_false_iff.mp split).1, inactive⟩

theorem Running.noInitialize (running : Running s i) : (sliceInputs s i).initializeI = false := by
  have request := running.noRequest
  unfold resetRequest at request
  exact (Bool.or_eq_false_iff.mp request).1

theorem Running.noReset (running : Running s i) : (sliceInputs s i).rs = false := running.inactive

theorem Running.remaining (running : Running s i) : s.resetCyclesRemaining = 0 := by
  have inactive := running.inactive
  unfold resetActive at inactive
  rw [Bool.or_eq_false_iff, bne_eq_false_iff_eq] at inactive
  exact inactive.2

/-- Outside reset the callback outputs show the request of the slice. -/
theorem Running.callback? (running : Running s i) :
    callback? s i = Slice.request? s.pipeline := by
  have noReset := Slice.coreReset_running (s := s.pipeline) running.noReset
  have accepts := Slice.coreInstructionValid_eq running.noInitialize noReset
  have io : Slice.ioTransferActive s.pipeline (sliceInputs s i) = Slice.transfersIo s.pipeline := by
    unfold Slice.ioTransferActive Slice.transfersIo
    rw [accepts]
  have table : Slice.tableTransferActive s.pipeline (sliceInputs s i) =
      Slice.transfersTable s.pipeline := by
    unfold Slice.tableTransferActive Slice.transfersTable
    rw [accepts]
  have data : writeData s i = Slice.transferData s.pipeline := rfl
  have address (other : Slice.transfersIo s.pipeline = false) :
      programAddress s i = s.pipeline.bus.address := by
    unfold programAddress Slice.programAddress
    rw [io, other]
    rfl
  rcases Slice.strobes_eq (s := s.pipeline) (i := sliceInputs s i) with
    ⟨reads, writes, inputs, outputs⟩
  have read : programRead s i = _ := reads
  have write : programWrite s i = _ := writes
  have input : ioRead s i = _ := inputs
  have output : ioWrite s i = _ := outputs
  have apart := (Slice.transfers_apart (s := s.pipeline) (i := sliceInputs s i)).1
  unfold Mister.callback? Slice.request?
  rw [read, write, input, output, data, io]
  rw [io] at apart
  unfold Slice.programWrite at apart ⊢
  unfold Slice.ioRead Slice.ioWrite
  rw [table] at apart ⊢
  rw [io]
  cases strobes : Slice.strobing s.pipeline
  · rfl
  cases moves : Slice.transfersIo s.pipeline
  · rw [address moves]
    cases Slice.transfersTable s.pipeline <;>
      cases Slice.executeIs s.pipeline .tblw <;> rfl
  · rw [apart moves]
    have supported : Slice.executeIs s.pipeline .in = true ∨
        Slice.executeIs s.pipeline .out = true := by
      unfold Slice.transfersIo Slice.ioTransferStep Slice.executeIoSupported at moves
      simp only [Bool.and_eq_true, Bool.or_eq_true] at moves
      exact moves.1.1
    cases reads' : Slice.executeIs s.pipeline .in
    · rw [reads'] at supported
      rw [supported.resolve_left Bool.false_ne_true]
      rfl
    · rfl

/-! ## Clocks within a machine cycle -/

/-- Past phase 0 the slice is not parked. -/
def Flows (s : State) : Prop :=
  s.resetCyclesRemaining = 0 → phase s ≠ 0 → Slice.parked s.pipeline = false

/-- Outside reset the phase advances where the clock is enabled, unless the slice is parked. -/
theorem Running.busClockEnable (running : Running s i) :
    Slice.busClockEnable s.pipeline (sliceInputs s i) =
        (wrapperClockEnable s i && !Slice.parked s.pipeline) ∧
      phaseAdvance s i = (wrapperClockEnable s i && !Slice.parked s.pipeline) := by
  have blocked := Slice.pipelineBlocked_running (s := s.pipeline) running.noInitialize running.noReset
  unfold Slice.busClockEnable phaseAdvance pipelineBlocked
  rw [blocked, running.noReset, running.inactive, Bool.false_or]
  exact ⟨rfl, rfl⟩

/-- A clock that advances the phase from 3 ends the machine cycle. -/
theorem phaseAdvance_eq (s : State) (i : Inputs) :
    Slice.busClockEnable s.pipeline (sliceInputs s i) = phaseAdvance s i :=
  rfl

theorem pipelineBoundary_eq (s : State) (i : Inputs) :
    Slice.pipelineBoundary s.pipeline (sliceInputs s i) =
      (phaseAdvance s i && phase s == 3) :=
  rfl

/-- What a clock within a machine cycle does to the phase. -/
theorem phase_within (running : Running s i) :
    phase (step s i) = if phaseAdvance s i then phase s + 1 else phase s := by
  have noInitialize : i.resetI = false := running.noInitialize
  rw [phase_step, noInitialize, if_neg Bool.false_ne_true, phaseAdvance_eq]

/-- A held clock advances nothing. -/
theorem phaseAdvance_held (held : s.memoryWait = true) :
    phaseAdvance s i = false := by
  unfold phaseAdvance wrapperClockEnable
  rw [held, Bool.not_true, Bool.and_false, Bool.false_and]

/-- The hold after a clock outside reset. -/
theorem memoryWait_running (running : Running s i) :
    (step s i).memoryWait =
      if s.memoryWait then !responds s i else if phase s == 2 then waits s i else false := by
  change nextMemoryWait s i = _
  unfold nextMemoryWait
  rw [running.inactive, if_neg Bool.false_ne_true]

/-- The first clock of a machine cycle follows its last. -/
theorem phase_boundary
    (boundary : Slice.pipelineBoundary s.pipeline (sliceInputs s i) = true) :
    phase (step s i) = 0 := by
  rcases Slice.pipelineBoundary_enabled boundary with ⟨enabled, -, last⟩
  have wraps : phase s + 1 = 0 := by
    have three : phase s = 3 := beq_iff_eq.mp last
    rw [three]
    rfl
  rw [phase_step, enabled, if_pos rfl, wraps, ite_self]

/-- A clock outside reset that ends no machine cycle. -/
theorem Running.held (running : Running s i)
    (within : Slice.pipelineBoundary s.pipeline (sliceInputs s i) = false) :
    (step s i).pipeline = s.pipeline.held (phase (step s i))
      (Slice.heldRam s.pipeline (sliceInputs s i)) := by
  have next : (step s i).pipeline = s.pipeline.held
      (Slice.heldPhase s.pipeline (sliceInputs s i))
      (Slice.heldRam s.pipeline (sliceInputs s i)) :=
    Slice.step_held running.noInitialize within
  have same : phase (step s i) = Slice.heldPhase s.pipeline (sliceInputs s i) := by
    unfold phase
    rw [next]
    rfl
  rw [same, next]

/-- A machine cycle that outlasts a clock was not under reset in it. -/
theorem inactive_of_started (s : State) (i : Inputs)
    (ended : (step s i).resetCyclesRemaining = 0) (started : phase (step s i) ≠ 0) :
    resetActive s i = false := by
  by_contra active
  rw [Bool.not_eq_false] at active
  rcases Bool.eq_false_or_eq_true (resetRequest i) with request | noRequest
  · rw [resetCyclesRemaining_request request] at ended
    exact absurd ended (by decide)
  · rcases step_active noRequest active with ⟨-, next, counter⟩
    rcases Bool.eq_false_or_eq_true (wrapperClockEnable s i && phase s == 3) with last | early
    · rw [Bool.and_eq_true, beq_iff_eq] at last
      rw [last.1, if_pos rfl, last.2] at next
      exact started next
    · rw [early, if_neg Bool.false_ne_true] at counter
      rw [resetActive_iff noRequest, ← counter, ended] at active
      exact active rfl

theorem flows_step (flows : Flows s) (i : Inputs) : Flows (step s i) := by
  intro ended started
  have running := running_iff.mpr (inactive_of_started s i ended started)
  rcases Bool.eq_false_or_eq_true (Slice.pipelineBoundary s.pipeline (sliceInputs s i))
    with boundary | within
  · exact absurd (phase_boundary boundary) started
  · have next := running.held within
    have same : Slice.parked (step s i).pipeline = Slice.parked s.pipeline := by
      rw [next, Slice.parked_held]
    rw [same]
    by_cases first : phase s = 0
    · by_contra blocked
      rw [Bool.not_eq_false] at blocked
      apply started
      rw [phase_step, running.busClockEnable.1, blocked, Bool.not_true, Bool.and_false,
        if_neg Bool.false_ne_true, first, ite_self]
    · exact flows running.remaining first

theorem started_of_phases (phases : phase s = 2 ∨ phase s = 3) : phase s ≠ 0 := by
  rcases phases with second | third
  · rw [second]
    decide
  · rw [third]
    decide

/-- The clock before phase 3 outside reset is one of its machine cycle. -/
theorem before_last (last : phase (step s i) = 3) (ended : (step s i).resetCyclesRemaining = 0) :
    Running s i ∧ Slice.pipelineBoundary s.pipeline (sliceInputs s i) = false ∧
      (phase s = 2 ∨ phase s = 3) := by
  have started : phase (step s i) ≠ 0 := by
    rw [last]
    decide
  have running : Running s i := running_iff.mpr (inactive_of_started s i ended started)
  have next := phase_within running
  rw [last] at next
  refine ⟨running, ?_, ?_⟩
  · by_contra boundary
    rw [Bool.not_eq_false] at boundary
    exact started (phase_boundary boundary)
  · cases advance : phaseAdvance s i
    · rw [advance, if_neg Bool.false_ne_true] at next
      exact Or.inr next.symm
    · rw [advance, if_pos rfl] at next
      left
      bv_omega

/-- A clock of phase 2 or 3 that leaves no hold keeps phase 3 free, or found its ready. -/
theorem Running.free (running : Running s i) (phases : phase s = 2 ∨ phase s = 3)
    (free : (step s i).memoryWait = false) :
    (phase s = 3 ∧ s.memoryWait = false) ∨ waits s i = false ∨ responds s i = true := by
  rw [memoryWait_running running] at free
  cases held : s.memoryWait
  · rw [held, if_neg Bool.false_ne_true] at free
    rcases phases with second | third
    · rw [second, beq_self_eq_true, if_pos rfl] at free
      exact Or.inr (Or.inl free)
    · exact Or.inl ⟨third, rfl⟩
  · rw [held, if_pos rfl, Bool.not_eq_false'] at free
    exact Or.inr (Or.inr free)

/-- Outside reset and past phase 0 every clock the wrapper enables advances the phase. -/
theorem Running.advances (running : Running s i) (flows : Flows s) (started : phase s ≠ 0) :
    phaseAdvance s i = wrapperClockEnable s i := by
  rw [running.busClockEnable.2, flows running.remaining started, Bool.not_false, Bool.and_true]

end Callback

/-! ## Reachable states -/

/-- The states the wrapper reaches once it was initialized. -/
inductive Reachable : State → Prop where
  | initialized (s : State) (i : Inputs) (asserted : i.resetI = true) : Reachable (step s i)
  | clock {s : State} (reached : Reachable s) (i : Inputs) : Reachable (step s i)

theorem Reachable.flows {s : State} (reached : Reachable s) : Flows s := by
  induction reached with
  | initialized s i asserted =>
      have request : resetRequest i = true := by
        unfold resetRequest
        rw [asserted, Bool.true_or]
      intro ended
      rw [resetCyclesRemaining_request request] at ended
      exact absurd ended (by decide)
  | clock reached i ih => exact flows_step ih i

end Mister

end Tms32010.Rtl
