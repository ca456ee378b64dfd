import Tms32010.Lib.RegisteredRead

/-!
# Program RAM adapter

`hard_drivin_sound_bus_decode` and `hard_drivin_sound_program_ram`: the 4K program
memory of the sound board, which the host owns while it selects it under DSP reset
and the processor owns otherwise. One registered response serves both.
-/

namespace Tms32010.Board

/-! ## Bus decode -/

/-- The outputs of `hard_drivin_sound_bus_decode` that the board reads. -/
structure BusDecode where
  dspPathEnable : Bool
  hostPathEnable : Bool
  ioPort : BitVec 3
  ioRead : Bool
  ioWrite : Bool
  dspProgramRead : Bool
  dspProgramWrite : Bool
  deriving DecidableEq, Repr

/-- `port_region_o`: the eight lowest addresses. -/
def portRegion (tmsAddress : BitVec 12) : Bool := tmsAddress.extractLsb' 3 9 == 0

/-- `hard_drivin_sound_bus_decode`. -/
def busDecode (dspResetN hostProgramSelectN : Bool) (tmsAddress : BitVec 12)
    (tmsMenN tmsDenN tmsWeN : Bool) : BusDecode where
  dspPathEnable := dspResetN
  hostPathEnable := !hostProgramSelectN
  ioPort := tmsAddress.extractLsb' 0 3
  ioRead := !tmsDenN && portRegion tmsAddress
  ioWrite := !tmsWeN && portRegion tmsAddress
  dspProgramRead := !tmsMenN
  dspProgramWrite := !tmsWeN && !portRegion tmsAddress

namespace ProgramRam

open RegisteredRead (Captured)

/-! ## The module -/

/-- The memory and the read response. -/
structure State where
  programRam : BitVec 12 → BitVec 16
  readResponseValid : Bool
  readResponseHost : Bool
  readResponseData : BitVec 16

/-- The inputs of one clock. -/
structure Inputs where
  initializeI : Bool
  dspResetN : Bool
  hostProgramSelectN : Bool
  hostWrite : Bool
  hostCommit : Bool
  hostAddress : BitVec 12
  hostWriteData : BitVec 16
  tmsAddress : BitVec 12
  tmsMenN : Bool
  tmsDenN : Bool
  tmsWeN : Bool
  tmsCommit : Bool
  tmsWriteData : BitVec 16
  deriving DecidableEq, Repr

/-- The decoded buses. -/
def Inputs.decode (i : Inputs) : BusDecode :=
  busDecode i.dspResetN i.hostProgramSelectN i.tmsAddress i.tmsMenN i.tmsDenN i.tmsWeN

section Signals

variable (s : State) (i : Inputs)

/-- `tms_access_permitted_o`. -/
def tmsAccessPermitted : Bool := i.decode.dspPathEnable && !i.decode.hostPathEnable

/-- `host_access_permitted_o`. -/
def hostAccessPermitted : Bool := i.decode.hostPathEnable && !i.decode.dspPathEnable

/-- `host_read_request`. -/
def hostReadRequest : Bool := hostAccessPermitted i && !i.hostWrite

/-- `tms_read_request`. -/
def tmsReadRequest : Bool := tmsAccessPermitted i && i.decode.dspProgramRead

/-- `selected_read_address`. -/
def selectedReadAddress : BitVec 12 :=
  if hostReadRequest i then i.hostAddress else i.tmsAddress

/-- `host_read_data_o`. -/
def hostReadData : BitVec 16 := s.readResponseData

/-- `tms_read_data_o`. -/
def tmsReadData : BitVec 16 := s.readResponseData

/-- `host_ready_o`. -/
def hostReady : Bool :=
  hostAccessPermitted i && (i.hostWrite || (s.readResponseValid && s.readResponseHost))

/-- `tms_program_ready_o`. -/
def tmsProgramReady : Bool :=
  tmsAccessPermitted i &&
    (i.decode.dspProgramWrite ||
      (i.decode.dspProgramRead && s.readResponseValid && !s.readResponseHost))

/-- `host_write_commit`. -/
def hostWriteCommit : Bool := hostAccessPermitted i && i.hostWrite && i.hostCommit

/-- `tms_write_commit`. -/
def tmsWriteCommit : Bool :=
  tmsAccessPermitted i && i.decode.dspProgramWrite && i.tmsCommit

/-- The memory after a clock without initialisation. -/
def nextProgramRam : BitVec 12 → BitVec 16 :=
  if hostWriteCommit i then Function.update s.programRam i.hostAddress i.hostWriteData
  else if tmsWriteCommit i then Function.update s.programRam i.tmsAddress i.tmsWriteData
  else s.programRam

/-- One clock edge. -/
def step : State :=
  if i.initializeI then
    { s with readResponseValid := false, readResponseHost := false, readResponseData := 0 }
  else if s.readResponseValid then
    { s with
      readResponseValid :=
        !((s.readResponseHost && !hostReadRequest i) ||
          (!s.readResponseHost && !tmsReadRequest i))
      programRam := nextProgramRam s i }
  else if hostReadRequest i || tmsReadRequest i then
    { programRam := nextProgramRam s i
      readResponseData := s.programRam (selectedReadAddress i)
      readResponseHost := hostReadRequest i
      readResponseValid := true }
  else { s with programRam := nextProgramRam s i }

/-- The memory after a clock. -/
theorem step_programRam :
    (step s i).programRam = if i.initializeI then s.programRam else nextProgramRam s i := by
  unfold step
  split_ifs <;> rfl

end Signals

/-- The state after a run. -/
def run (s : State) : List Inputs → State
  | [] => s
  | i :: inputs => run (step s i) inputs

/-! ## The registered read -/

/-- The module as a registered read; the host is the first owner. -/
def State.view (s : State) : RegisteredRead.State (BitVec 12) (BitVec 16) :=
  ⟨s.programRam, s.readResponseValid, s.readResponseHost, s.readResponseData⟩

/-- A clock of the module as a clock of the registered read. -/
def Inputs.view (i : Inputs) : RegisteredRead.Inputs (BitVec 12) (BitVec 16) where
  clear := i.initializeI
  firstRequest := hostReadRequest i
  secondRequest := tmsReadRequest i
  firstAddress := i.hostAddress
  secondAddress := i.tmsAddress
  write :=
    if hostWriteCommit i then some (i.hostAddress, i.hostWriteData)
    else if tmsWriteCommit i then some (i.tmsAddress, i.tmsWriteData)
    else none

section Views

variable (s : State) (i : Inputs)

theorem nextMemory_view : RegisteredRead.nextMemory s.view i.view = nextProgramRam s i := by
  unfold RegisteredRead.nextMemory nextProgramRam Inputs.view
  dsimp only
  split_ifs <;> rfl

theorem step_view : (step s i).view = RegisteredRead.step s.view 0 i.view := by
  have memory := nextMemory_view s i
  have clear : i.view.clear = i.initializeI := rfl
  have valid : s.view.valid = s.readResponseValid := rfl
  have asked : (i.view.firstRequest || i.view.secondRequest) =
      (hostReadRequest i || tmsReadRequest i) := rfl
  unfold step RegisteredRead.step
  rw [memory, clear, valid, asked]
  split_ifs with initializing held asks
  · rfl
  · unfold State.view
    dsimp only
    congr 1
    cases s.readResponseHost
    · simp [RegisteredRead.Inputs.request, Inputs.view]
    · simp [RegisteredRead.Inputs.request, Inputs.view]
  · rfl
  · rfl

theorem run_view (inputs : List Inputs) :
    (run s inputs).view = RegisteredRead.run 0 s.view (inputs.map Inputs.view) := by
  induction inputs generalizing s with
  | nil => rfl
  | cons i inputs ih =>
      rw [List.map_cons, RegisteredRead.run, ← step_view]
      exact ih (step s i)

/-- The owners are never permitted together. -/
theorem permitted_apart : ¬(hostAccessPermitted i = true ∧ tmsAccessPermitted i = true) := by
  unfold hostAccessPermitted tmsAccessPermitted
  cases i.decode.hostPathEnable <;> cases i.decode.dspPathEnable <;> decide

/-- A clock in which the processor does not strobe a read and a write together is orderly. -/
theorem view_orderly (strobes : ¬(i.tmsMenN = false ∧ i.tmsWeN = false)) :
    i.view.Orderly where
  apart := by
    rintro ⟨host, tms⟩
    change (hostAccessPermitted i && !i.hostWrite) = true at host
    change (tmsAccessPermitted i && i.decode.dspProgramRead) = true at tms
    rw [Bool.and_eq_true] at host tms
    exact permitted_apart i ⟨host.1, tms.1⟩
  quiet first asked := by
    have apart := permitted_apart i
    unfold Inputs.view hostWriteCommit tmsWriteCommit
    cases first
    · change (tmsAccessPermitted i && i.decode.dspProgramRead) = true at asked
      rw [Bool.and_eq_true] at asked
      have host : hostAccessPermitted i = false := by simpa [asked.1] using apart
      have men : i.tmsMenN = false := by simpa [Inputs.decode, busDecode] using asked.2
      have write : i.decode.dspProgramWrite = false := by
        have we : i.tmsWeN = true := by simpa [men] using strobes
        simp [Inputs.decode, busDecode, we]
      simp [host, write]
    · change (hostAccessPermitted i && !i.hostWrite) = true at asked
      rw [Bool.and_eq_true, Bool.not_eq_true'] at asked
      have tms : tmsAccessPermitted i = false := by simpa [asked.1] using apart
      simp [asked.2, tms]

end Views

/-! ## Reads -/

/-- A response is the word stored now at the address its owner presented when its
request, which has held since, was captured. -/
theorem run_captured {start : State} (empty : start.readResponseValid = false)
    {inputs : List Inputs} (strobes : ∀ i ∈ inputs, ¬(i.tmsMenN = false ∧ i.tmsWeN = false))
    (valid : (run start inputs).readResponseValid = true) :
    ((run start inputs).readResponseHost = true →
      Captured hostReadRequest Inputs.hostAddress inputs (run start inputs).programRam
        (run start inputs).readResponseData) ∧
    ((run start inputs).readResponseHost = false →
      Captured tmsReadRequest Inputs.tmsAddress inputs (run start inputs).programRam
        (run start inputs).readResponseData) := by
  have answers := RegisteredRead.run_answers_of_empty 0 (s := start.view) empty
    (inputs.map Inputs.view) (by
      intro j among
      rcases List.mem_map.mp among with ⟨i, listed, rfl⟩
      exact view_orderly i (strobes i listed))
  rw [← run_view] at answers
  have captured := (answers valid).of_map
  change Captured (fun i : Inputs => i.view.request (run start inputs).readResponseHost)
    (fun i : Inputs => i.view.address (run start inputs).readResponseHost) inputs
    (run start inputs).programRam (run start inputs).readResponseData at captured
  refine ⟨?_, ?_⟩
  · intro host
    rw [host] at captured
    exact captured
  · intro tms
    rw [tms] at captured
    exact captured

/-- The host is ready for a read only with a response of its own. -/
theorem hostReady_read {s : State} {i : Inputs} (ready : hostReady s i = true)
    (reads : i.hostWrite = false) :
    s.readResponseValid = true ∧ s.readResponseHost = true ∧ hostReadRequest i = true := by
  unfold hostReady at ready
  unfold hostReadRequest
  simp only [reads, Bool.false_or, Bool.and_eq_true] at ready
  simp [ready, reads]

/-- The processor is ready for a read only with a response of its own. -/
theorem tmsProgramReady_read {s : State} {i : Inputs} (ready : tmsProgramReady s i = true)
    (reads : i.decode.dspProgramWrite = false) :
    s.readResponseValid = true ∧ s.readResponseHost = false ∧ tmsReadRequest i = true := by
  unfold tmsProgramReady at ready
  unfold tmsReadRequest
  simp only [reads, Bool.false_or, Bool.and_eq_true, Bool.not_eq_true'] at ready
  simp [ready]

theorem ready_apart (s : State) (i : Inputs) :
    ¬(hostReady s i = true ∧ tmsProgramReady s i = true) := by
  rintro ⟨host, tms⟩
  unfold hostReady at host
  unfold tmsProgramReady at tms
  rw [Bool.and_eq_true] at host tms
  exact permitted_apart i ⟨host.1, tms.1⟩

end ProgramRam

end Tms32010.Board
