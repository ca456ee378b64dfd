import Tms32010.Rtl.Callback
import Tms32010.Rtl.SliceRun

/-!
# The wrapper with its memories

The wrapper attached to a program memory and to the latches its output ports drive. A
callback is accepted at the phase-3 boundary that ends its machine cycle. What the
wrapper then does is what the slice does that is attached to the same memories and
clocked as the wrapper clocks it.
-/

namespace Tms32010.Rtl.Mister

/-- A clock ends a machine cycle. -/
def endsCycle (s : State) (i : Inputs) : Bool := phaseAdvance s i && phase s == 3

/-- The callback a clock accepts. -/
def accepted (s : State) (i : Inputs) : Option Request :=
  if endsCycle s i then callback? s i else none

/-- A wrapper with its program memory and the latches its output ports drive. -/
structure Hosted where
  wrapper : State
  program : ProgramMemory
  ioOutput : BitVec 3 → BitVec 16

namespace Hosted

variable (σ : Hosted) (i : Inputs)

/-- The slice of the wrapper, with the same memories. -/
def slice : Slice.Attached := ⟨σ.wrapper.pipeline, σ.program, σ.ioOutput⟩

/-- An accepted write stores its word. -/
def step : Hosted where
  wrapper := Mister.step σ.wrapper i
  program :=
    match accepted σ.wrapper i with
    | some (.programWrite address data) => Function.update σ.program address data
    | _ => σ.program
  ioOutput :=
    match accepted σ.wrapper i with
    | some (.ioWrite port data) => Function.update σ.ioOutput port data
    | _ => σ.ioOutput

/-- An accepted program read is given the addressed word. -/
def Served : Prop :=
  ∀ address, accepted σ.wrapper i = some (.programRead address) →
    i.programReadData = σ.program address

end Hosted

/-! ## Accepted callbacks -/

section Accepted

variable {s : State} {i : Inputs}

theorem accepted_iff {request : Request} :
    accepted s i = some request ↔ endsCycle s i = true ∧ callback? s i = some request := by
  unfold accepted
  cases endsCycle s i <;> simp

theorem pipelineBoundary_endsCycle :
    Slice.pipelineBoundary s.pipeline (sliceInputs s i) = endsCycle s i :=
  pipelineBoundary_eq s i

/-- In phase 3 the strobes of an active bus are active. -/
theorem strobing_of_ends (ends : endsCycle s i = true) :
    Slice.strobing s.pipeline = s.pipeline.bus.active := by
  unfold endsCycle at ends
  rw [Bool.and_eq_true, beq_iff_eq] at ends
  have last : s.pipeline.bus.phase = 3 := ends.2
  unfold Slice.strobing
  rw [last]
  exact Bool.and_true _

/-- The end of a machine cycle under reset makes no transfer. -/
theorem transfers_reset (ends : endsCycle s i = true) (active : resetActive s i = true) :
    Slice.ioTransferActive s.pipeline (sliceInputs s i) = false ∧
      Slice.tableTransferActive s.pipeline (sliceInputs s i) = false := by
  rw [← pipelineBoundary_endsCycle] at ends
  rcases Slice.pipelineBoundary_enabled ends with ⟨-, enabled, last⟩
  have reset : Slice.coreReset s.pipeline (sliceInputs s i) = true := by
    unfold Slice.coreReset
    rw [enabled, last]
    exact active
  have refused : Slice.coreInstructionValid s.pipeline (sliceInputs s i) = false := by
    have requested : (Slice.coreInputs s.pipeline (sliceInputs s i) false).resetRequest = true :=
      reset
    unfold Slice.coreInstructionValid Core.instructionValid
    rw [requested, Bool.or_true, Bool.true_or, if_pos rfl]
  unfold Slice.ioTransferActive Slice.tableTransferActive
  rw [refused, Bool.and_false, Bool.and_false]
  exact ⟨rfl, rfl⟩

/-- Under reset only a program read is accepted. -/
theorem accepted_reset (active : resetActive s i = true) {request : Request}
    (taken : accepted s i = some request) : ∃ address, request = .programRead address := by
  unfold accepted at taken
  split_ifs at taken with ends
  rcases transfers_reset ends active with ⟨io, table⟩
  have noWrite : programWrite s i = false := by
    unfold programWrite rawProgramWrite Slice.programWrite
    rw [table, Bool.false_and, Bool.false_and]
  have noRead : ioRead s i = false := by
    unfold ioRead rawIoRead Slice.ioRead
    rw [io, Bool.false_and, Bool.false_and]
  have noOutput : ioWrite s i = false := by
    unfold ioWrite rawIoWrite Slice.ioWrite
    rw [io, Bool.false_and, Bool.false_and]
  unfold callback? at taken
  rw [noWrite, noRead, noOutput] at taken
  simp only [Bool.false_eq_true, if_false] at taken
  split_ifs at taken with reads
  exact ⟨_, (Option.some.inj taken).symm⟩

/-- A fetching boundary is the end of a machine cycle of the active bus outside reset. -/
theorem fetchBoundary_eq :
    Slice.fetchBoundary s.pipeline (sliceInputs s i) =
      (endsCycle s i && s.pipeline.bus.active && !resetActive s i) := by
  unfold Slice.fetchBoundary
  rw [pipelineBoundary_endsCycle]
  rfl

/-- Another clock than a fetching boundary accepts no transfer. -/
theorem accepted_quiet (quiet : Slice.fetchBoundary s.pipeline (sliceInputs s i) = false)
    {request : Request} (taken : accepted s i = some request) :
    ∃ address, request = .programRead address := by
  rcases Bool.eq_false_or_eq_true (resetActive s i) with active | running
  · exact accepted_reset active taken
  unfold accepted at taken
  split_ifs at taken with ends
  have inactive : s.pipeline.bus.active = false := by
    rw [fetchBoundary_eq, ends, running, Bool.true_and, Bool.not_false, Bool.and_true] at quiet
    exact quiet
  have silent := strobing_of_ends ends
  rw [inactive] at silent
  have none : callback? s i = .none := by
    rw [(running_iff.mpr running).callback?]
    unfold Slice.request?
    rw [silent]
    rfl
  rw [none] at taken
  cases taken

/-- What a fetching boundary accepts. -/
theorem accepted_of_fetch (fetch : Slice.fetchBoundary s.pipeline (sliceInputs s i) = true) :
    accepted s i =
      if Slice.programWrite s.pipeline (sliceInputs s i) then
        some (.programWrite (programAddress s i) (writeData s i))
      else if Slice.ioRead s.pipeline (sliceInputs s i) then some (.ioRead (ioPort s))
      else if Slice.ioWrite s.pipeline (sliceInputs s i) then
        some (.ioWrite (ioPort s) (writeData s i))
      else if Slice.ioTransferActive s.pipeline (sliceInputs s i) then none
      else some (.programRead (programAddress s i)) := by
  have whole := fetch
  rw [fetchBoundary_eq, Bool.and_eq_true, Bool.and_eq_true] at whole
  have strobes := strobing_of_ends whole.1.1
  rw [whole.1.2] at strobes
  rcases Slice.strobes_eq (s := s.pipeline) (i := sliceInputs s i) with
    ⟨reads, writes, inputs, outputs⟩
  rcases Slice.transfers_apart (s := s.pipeline) (i := sliceInputs s i) with
    ⟨table, input, output⟩
  have read : programRead s i = _ := reads
  have write : programWrite s i = _ := writes
  have input' : ioRead s i = _ := inputs
  have output' : ioWrite s i = _ := outputs
  unfold accepted callback?
  rw [whole.1.1, read, write, input', output', strobes]
  revert table input output
  generalize Slice.ioTransferActive s.pipeline (sliceInputs s i) = io
  generalize Slice.programWrite s.pipeline (sliceInputs s i) = stores
  generalize Slice.ioRead s.pipeline (sliceInputs s i) = takes
  generalize Slice.ioWrite s.pipeline (sliceInputs s i) = gives
  cases io <;> cases stores <;> cases takes <;> cases gives <;> simp

end Accepted

/-! ## The slice within -/

namespace Hosted

variable (σ : Hosted) (i : Inputs)

/-- The slice runs with the same memories. -/
theorem step_slice : (σ.step i).slice = σ.slice.step (sliceInputs σ.wrapper i) := by
  have memories : (σ.step i).program = (σ.slice.step (sliceInputs σ.wrapper i)).program ∧
      (σ.step i).ioOutput = (σ.slice.step (sliceInputs σ.wrapper i)).ioOutput := by
    unfold Hosted.step Slice.Attached.step slice
    dsimp only
    rcases Bool.eq_false_or_eq_true
      (Slice.fetchBoundary σ.wrapper.pipeline (sliceInputs σ.wrapper i)) with fetch | quiet
    · rcases Slice.transfers_apart (s := σ.wrapper.pipeline) (i := sliceInputs σ.wrapper i) with
        ⟨table, input, output⟩
      rw [accepted_of_fetch fetch, fetch, Bool.true_and, Bool.true_and]
      cases stores : Slice.programWrite σ.wrapper.pipeline (sliceInputs σ.wrapper i)
      · cases takes : Slice.ioRead σ.wrapper.pipeline (sliceInputs σ.wrapper i)
        · cases Slice.ioWrite σ.wrapper.pipeline (sliceInputs σ.wrapper i) <;>
            cases Slice.ioTransferActive σ.wrapper.pipeline (sliceInputs σ.wrapper i) <;>
            exact ⟨rfl, rfl⟩
        · rw [(input takes).2]
          exact ⟨rfl, rfl⟩
      · have idle : Slice.ioWrite σ.wrapper.pipeline (sliceInputs σ.wrapper i) = false := by
          by_contra gives
          rw [Bool.not_eq_false] at gives
          exact absurd ((table (output gives)).symm.trans stores) Bool.false_ne_true
        rw [idle]
        exact ⟨rfl, rfl⟩
    · rw [quiet]
      cases taken : accepted σ.wrapper i with
      | none => exact ⟨rfl, rfl⟩
      | some request =>
          rcases accepted_quiet quiet taken with ⟨address, rfl⟩
          exact ⟨rfl, rfl⟩
  unfold slice
  rw [memories.1, memories.2]
  rfl

/-- A served program read is the read of the slice. -/
theorem served_slice {σ : Hosted} {i : Inputs} (served : σ.Served i) :
    σ.slice.Served (sliceInputs σ.wrapper i) := by
  intro fetch reads
  have taken := accepted_of_fetch fetch
  have low := (Slice.strobes_eq (s := σ.wrapper.pipeline) (i := sliceInputs σ.wrapper i)).1
  have silent : Slice.menN σ.wrapper.pipeline (sliceInputs σ.wrapper i) = false := reads
  rw [silent, Bool.not_false, eq_comm, Bool.and_eq_true, Bool.and_eq_true, Bool.not_eq_true',
    Bool.not_eq_true'] at low
  have input : Slice.ioRead σ.wrapper.pipeline (sliceInputs σ.wrapper i) = false := by
    unfold Slice.ioRead
    rw [low.1.2]
    rfl
  have output : Slice.ioWrite σ.wrapper.pipeline (sliceInputs σ.wrapper i) = false := by
    unfold Slice.ioWrite
    rw [low.1.2]
    rfl
  rw [low.1.2, low.2, input, output] at taken
  exact served _ taken

/-! ## Runs -/

/-- The wrapper and its memories before a clock of a run. -/
def stateAt (start : Hosted) (inputs : ℕ → Inputs) : ℕ → Hosted := Timeline.state step start inputs

theorem stateAt_succ (start : Hosted) (inputs : ℕ → Inputs) (clock : ℕ) :
    stateAt start inputs (clock + 1) = (stateAt start inputs clock).step (inputs clock) :=
  rfl

/-- A clock outside reset, without a debug write. -/
structure Runs (σ : Hosted) (i : Inputs) : Prop where
  inactive : resetActive σ.wrapper i = false
  noDebug : i.debugDataWrite = false
  served : σ.Served i

theorem Runs.slice {σ : Hosted} {i : Inputs} (runs : σ.Runs i) :
    σ.slice.Runs True (sliceInputs σ.wrapper i) := by
  have running := running_iff.mpr runs.inactive
  exact ⟨running.noInitialize, running.noReset, runs.noDebug, fun _ => served_slice runs.served⟩

/-- The clocks of the slice from a clock of a run on. -/
def sliceClocks (start : Hosted) (inputs : ℕ → Inputs) (first count : ℕ) : List Slice.Inputs :=
  (List.range' first count).map fun clock =>
    sliceInputs (stateAt start inputs clock).wrapper (inputs clock)

theorem sliceClocks_succ (start : Hosted) (inputs : ℕ → Inputs) (first count : ℕ) :
    sliceClocks start inputs first (count + 1) =
      sliceInputs (stateAt start inputs first).wrapper (inputs first) ::
        sliceClocks start inputs (first + 1) count := by
  unfold sliceClocks
  rw [List.range'_succ, List.map_cons]

/-- The slice runs through the states of the wrapper. -/
theorem run_sliceClocks (start : Hosted) (inputs : ℕ → Inputs) (first count : ℕ) :
    Slice.Attached.device.run (stateAt start inputs first).slice
      (sliceClocks start inputs first count) = (stateAt start inputs (first + count)).slice := by
  induction count generalizing first with
  | zero => rfl
  | succ count ih =>
      rw [sliceClocks_succ]
      change Slice.Attached.device.run ((stateAt start inputs first).slice.step _) _ = _
      rw [← step_slice, ← stateAt_succ, ih]
      congr 2
      omega

theorem admits_sliceClocks {start : Hosted} {inputs : ℕ → Inputs} {first count : ℕ}
    (runs : ∀ clock, first ≤ clock → clock < first + count →
      (stateAt start inputs clock).Runs (inputs clock)) :
    Slice.Attached.device.Admits (Slice.Attached.Runs True) (stateAt start inputs first).slice
      (sliceClocks start inputs first count) := by
  induction count generalizing first with
  | zero => trivial
  | succ count ih =>
      rw [sliceClocks_succ]
      refine ⟨(runs first (Nat.le_refl first) (by omega)).slice, ?_⟩
      change Slice.Attached.device.Admits _ ((stateAt start inputs first).slice.step _) _
      rw [← step_slice, ← stateAt_succ]
      apply ih
      intro clock after before
      exact runs clock (by omega) (by omega)

end Hosted

end Tms32010.Rtl.Mister
