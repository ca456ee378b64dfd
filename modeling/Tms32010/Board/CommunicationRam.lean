import Tms32010.Lib.RegisteredRead

/-!
# Communication RAM adapter

`hard_drivin_sound_communication_ram`: 512 words that the host reads and writes while
`CRAMEN` gives them to it and the processor side reads otherwise, behind one
registered response.
-/

namespace Tms32010.Board.CommunicationRam

open RegisteredRead (Captured)

/-! ## The module -/

/-- The memory and the read response. -/
structure State where
  communicationRam : BitVec 9 → BitVec 16
  readResponseValid : Bool
  readResponseHost : Bool
  readResponseData : BitVec 16

/-- The inputs of one clock. -/
structure Inputs where
  initializeI : Bool
  communicationHostEnable : Bool
  hostSelectN : Bool
  hostWrite : Bool
  hostCommit : Bool
  hostAddress : BitVec 9
  hostWriteData : BitVec 16
  dspRead : Bool
  dspAddress : BitVec 9
  deriving DecidableEq, Repr

section Signals

variable (s : State) (i : Inputs)

/-- `host_access_permitted_o`. -/
def hostAccessPermitted : Bool := i.communicationHostEnable

/-- `dsp_access_permitted_o`. -/
def dspAccessPermitted : Bool := !i.communicationHostEnable

/-- `host_read_request`. -/
def hostReadRequest : Bool := hostAccessPermitted i && !i.hostSelectN && !i.hostWrite

/-- `dsp_read_request`. -/
def dspReadRequest : Bool := dspAccessPermitted i && i.dspRead

/-- `selected_read_address`. -/
def selectedReadAddress : BitVec 9 :=
  if hostReadRequest i then i.hostAddress else i.dspAddress

/-- `host_read_data_o`. -/
def hostReadData : BitVec 16 := s.readResponseData

/-- `dsp_read_data_o`. -/
def dspReadData : BitVec 16 := s.readResponseData

/-- `host_ready_o`. -/
def hostReady : Bool :=
  hostAccessPermitted i && !i.hostSelectN &&
    (i.hostWrite || (s.readResponseValid && s.readResponseHost))

/-- `dsp_ready_o`. -/
def dspReady : Bool := dspReadRequest i && s.readResponseValid && !s.readResponseHost

/-- `host_write_commit`. -/
def hostWriteCommit : Bool :=
  hostAccessPermitted i && !i.hostSelectN && i.hostWrite && i.hostCommit

/-- The memory after a clock without initialisation. -/
def nextCommunicationRam : BitVec 9 → BitVec 16 :=
  if hostWriteCommit i then
    Function.update s.communicationRam i.hostAddress i.hostWriteData
  else s.communicationRam

/-- One clock edge. -/
def step : State :=
  if i.initializeI then
    { s with readResponseValid := false, readResponseHost := false, readResponseData := 0 }
  else if s.readResponseValid then
    { s with
      readResponseValid :=
        !((s.readResponseHost && !hostReadRequest i) ||
          (!s.readResponseHost && !dspReadRequest i))
      communicationRam := nextCommunicationRam s i }
  else if hostReadRequest i || dspReadRequest i then
    { communicationRam := nextCommunicationRam s i
      readResponseData := s.communicationRam (selectedReadAddress i)
      readResponseHost := hostReadRequest i
      readResponseValid := true }
  else { s with communicationRam := nextCommunicationRam s i }

end Signals

/-- The state after a run. -/
def run (s : State) : List Inputs → State
  | [] => s
  | i :: inputs => run (step s i) inputs

/-! ## The registered read -/

/-- The module as a registered read; the host is the first owner. -/
def State.view (s : State) : RegisteredRead.State (BitVec 9) (BitVec 16) :=
  ⟨s.communicationRam, s.readResponseValid, s.readResponseHost, s.readResponseData⟩

/-- A clock of the module as a clock of the registered read. -/
def Inputs.view (i : Inputs) : RegisteredRead.Inputs (BitVec 9) (BitVec 16) where
  clear := i.initializeI
  firstRequest := hostReadRequest i
  secondRequest := dspReadRequest i
  firstAddress := i.hostAddress
  secondAddress := i.dspAddress
  write := if hostWriteCommit i then some (i.hostAddress, i.hostWriteData) else none

section Views

variable (s : State) (i : Inputs)

theorem nextMemory_view :
    RegisteredRead.nextMemory s.view i.view = nextCommunicationRam s i := by
  unfold RegisteredRead.nextMemory nextCommunicationRam Inputs.view
  dsimp only
  split_ifs <;> rfl

theorem step_view : (step s i).view = RegisteredRead.step s.view 0 i.view := by
  have memory := nextMemory_view s i
  have clear : i.view.clear = i.initializeI := rfl
  have valid : s.view.valid = s.readResponseValid := rfl
  have asked : (i.view.firstRequest || i.view.secondRequest) =
      (hostReadRequest i || dspReadRequest i) := rfl
  unfold step RegisteredRead.step
  rw [memory, clear, valid, asked]
  split_ifs with initializing held asks
  · rfl
  · unfold State.view
    dsimp only
    congr 1
    cases s.readResponseHost
    · simp [RegisteredRead.Inputs.request, Inputs.view]
    · simp [RegisteredRead.Inputs.request, Inputs.view]
  · rfl
  · rfl

theorem run_view (inputs : List Inputs) :
    (run s inputs).view = RegisteredRead.run 0 s.view (inputs.map Inputs.view) := by
  induction inputs generalizing s with
  | nil => rfl
  | cons i inputs ih =>
      rw [List.map_cons, RegisteredRead.run, ← step_view]
      exact ih (step s i)

/-- The host writes only instead of reading, and owns the memory when it does. -/
theorem view_orderly : i.view.Orderly where
  apart := by
    change ¬((i.communicationHostEnable && !i.hostSelectN && !i.hostWrite) = true ∧
      (!i.communicationHostEnable && i.dspRead) = true)
    cases i.communicationHostEnable <;> simp
  quiet first asked := by
    unfold Inputs.view hostWriteCommit hostAccessPermitted
    cases first
    · change (!i.communicationHostEnable && i.dspRead) = true at asked
      rw [Bool.and_eq_true, Bool.not_eq_true'] at asked
      simp [asked.1]
    · change (i.communicationHostEnable && !i.hostSelectN && !i.hostWrite) = true at asked
      rw [Bool.and_eq_true, Bool.not_eq_true'] at asked
      simp [asked.2]

end Views

/-! ## Reads -/

/-- A response is the word stored now at the address its owner presented when its
request, which has held since, was captured. -/
theorem run_captured {start : State} (empty : start.readResponseValid = false)
    {inputs : List Inputs} (valid : (run start inputs).readResponseValid = true) :
    ((run start inputs).readResponseHost = true →
      Captured hostReadRequest Inputs.hostAddress inputs (run start inputs).communicationRam
        (run start inputs).readResponseData) ∧
    ((run start inputs).readResponseHost = false →
      Captured dspReadRequest Inputs.dspAddress inputs (run start inputs).communicationRam
        (run start inputs).readResponseData) := by
  have answers := RegisteredRead.run_answers_of_empty 0 (s := start.view) empty
    (inputs.map Inputs.view) (by
      intro j among
      rcases List.mem_map.mp among with ⟨i, -, rfl⟩
      exact view_orderly i)
  rw [← run_view] at answers
  have captured := (answers valid).of_map
  change Captured (fun i : Inputs => i.view.request (run start inputs).readResponseHost)
    (fun i : Inputs => i.view.address (run start inputs).readResponseHost) inputs
    (run start inputs).communicationRam (run start inputs).readResponseData at captured
  refine ⟨?_, ?_⟩
  · intro host
    rw [host] at captured
    exact captured
  · intro dsp
    rw [dsp] at captured
    exact captured

/-- The host is ready for a read only with a response of its own. -/
theorem hostReady_read {s : State} {i : Inputs} (ready : hostReady s i = true)
    (reads : i.hostWrite = false) :
    s.readResponseValid = true ∧ s.readResponseHost = true ∧ hostReadRequest i = true := by
  unfold hostReady at ready
  unfold hostReadRequest
  simp only [reads, Bool.false_or, Bool.and_eq_true] at ready
  simp [ready, reads]

theorem ready_apart (s : State) (i : Inputs) :
    ¬(hostReady s i = true ∧ dspReady s i = true) := by
  unfold hostReady dspReady dspReadRequest hostAccessPermitted dspAccessPermitted
  cases i.communicationHostEnable <;> simp

end Tms32010.Board.CommunicationRam
