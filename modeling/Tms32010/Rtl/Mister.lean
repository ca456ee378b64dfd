import Tms32010.Lib.Timeline
import Tms32010.Rtl.Boundary

/-!
# MiSTer wrapper

`tms32010_mister`: the pipeline slice behind request and ready callbacks. A hold
registered in phase 2 stops the clock of the slice until the callback is ready,
and a counter stretches every reset request by five machine cycles.
-/

namespace Tms32010.Rtl.Mister

open Timeline

/-! ## The module -/

/-- The inputs of one clock. -/
structure Inputs where
  resetI : Bool
  processorReset : Bool
  clockEnable : Bool
  bio : Bool
  int : Bool
  programReadData : BitVec 16
  programReady : Bool
  ioReadData : BitVec 16
  ioReady : Bool
  debugDataWrite : Bool
  debugDataAddress : BitVec 8
  debugData : BitVec 16

/-- The registers of the wrapper and its slice. -/
structure State where
  pipeline : Slice.State
  resetCyclesRemaining : BitVec 3
  memoryWait : Bool

/-- `RESET_MACHINE_CYCLES`. -/
def resetMachineCycles : BitVec 3 := 5

/-- `reset_request`. -/
def resetRequest (i : Inputs) : Bool := i.resetI || i.processorReset

section Signals

variable (s : State) (i : Inputs)

/-- `reset_active_o`. -/
def resetActive : Bool := resetRequest i || s.resetCyclesRemaining != 0

/-- `wrapper_clock_enable`. -/
def wrapperClockEnable : Bool := i.clockEnable && !s.memoryWait

/-- The inputs of `pipeline`. -/
def sliceInputs : Slice.Inputs where
  initializeI := i.resetI
  rs := resetActive s i
  clockEnable := wrapperClockEnable s i
  bio := i.bio
  int := i.int
  programData := i.programReadData
  ioReadData := i.ioReadData
  debugDataWrite := i.debugDataWrite
  debugDataAddress := i.debugDataAddress
  debugData := i.debugData

/-- `phase_o`. -/
def phase : BitVec 2 := s.pipeline.bus.phase

/-- `program_address_o`. -/
def programAddress : BitVec 12 := Slice.programAddress s.pipeline (sliceInputs s i)

/-- `raw_program_write`. -/
def rawProgramWrite : Bool := Slice.programWrite s.pipeline (sliceInputs s i)

/-- `raw_io_read`. -/
def rawIoRead : Bool := Slice.ioRead s.pipeline (sliceInputs s i)

/-- `raw_io_write`. -/
def rawIoWrite : Bool := Slice.ioWrite s.pipeline (sliceInputs s i)

/-- `native_men_n_o`. -/
def nativeMenN : Bool := Slice.menN s.pipeline (sliceInputs s i)

/-- `native_den_n_o`. -/
def nativeDenN : Bool := Slice.denN s.pipeline (sliceInputs s i)

/-- `native_we_n_o`. -/
def nativeWeN : Bool := Slice.weN s.pipeline (sliceInputs s i)

/-- `program_read_o`. -/
def programRead : Bool := !nativeMenN s i

/-- `program_write_o`. -/
def programWrite : Bool := rawProgramWrite s i && !nativeWeN s i

/-- `io_read_o`. -/
def ioRead : Bool := rawIoRead s i && !nativeDenN s i

/-- `io_write_o`. -/
def ioWrite : Bool := rawIoWrite s i && !nativeWeN s i

/-- `program_write_data_o` and `io_write_data_o`. -/
def writeData : BitVec 16 := Slice.writeData s.pipeline (sliceInputs s i)

/-- `io_port_o`. -/
def ioPort : BitVec 3 := Slice.ioPort s.pipeline

/-- `pipeline_blocked_o`. -/
def pipelineBlocked : Bool := Slice.pipelineBlocked s.pipeline (sliceInputs s i)

/-- `phase_advance_o`. -/
def phaseAdvance : Bool :=
  wrapperClockEnable s i && (resetActive s i || !pipelineBlocked s i)

/-- `debug_data_write_o`. -/
def dataWrite : Bool := Slice.dataWrite s.pipeline (sliceInputs s i)

/-- `raw_data_write_address_valid`. -/
def rawDataWriteAddressValid : Bool := Slice.dataWriteAddressValid s.pipeline (sliceInputs s i)

/-- A callback request waits for its ready. -/
def waits : Bool :=
  (programRead s i || programWrite s i) && !i.programReady ||
    (ioRead s i || ioWrite s i) && !i.ioReady

/-- A callback request finds its ready. -/
def responds : Bool :=
  (programRead s i || programWrite s i) && i.programReady ||
    (ioRead s i || ioWrite s i) && i.ioReady

/-- `reset_cycles_remaining` after a clock. -/
def nextResetCyclesRemaining : BitVec 3 :=
  if resetRequest i then resetMachineCycles
  else if wrapperClockEnable s i && phase s == 3 && s.resetCyclesRemaining != 0 then
    s.resetCyclesRemaining - 1
  else s.resetCyclesRemaining

/-- `memory_wait` after a clock. -/
def nextMemoryWait : Bool :=
  if resetActive s i then false
  else if s.memoryWait then !responds s i
  else if phase s == 2 then waits s i
  else false

/-- One clock edge. -/
def step : State where
  pipeline := Slice.step s.pipeline (sliceInputs s i)
  resetCyclesRemaining := nextResetCyclesRemaining s i
  memoryWait := nextMemoryWait s i

end Signals

/-! ## One clock -/

section Clock

variable {s : State} {i : Inputs}

/-- The phase counts on every clock the bus is enabled. -/
theorem phase_step : phase (step s i) =
    if i.resetI then 0
    else if Slice.busClockEnable s.pipeline (sliceInputs s i) then phase s + 1
    else phase s := by
  unfold phase step
  rw [Slice.step_bus]
  unfold ProgramBus.step ProgramBus.boundary Slice.busInputs
  change (if i.resetI then _ else _ : ProgramBus.State).phase = _
  split_ifs <;> rfl

/-- Under reset only the clock enable and the hold stop the phase. -/
theorem busClockEnable_active (active : resetActive s i = true) :
    Slice.busClockEnable s.pipeline (sliceInputs s i) = wrapperClockEnable s i ∧
      phaseAdvance s i = wrapperClockEnable s i := by
  have reset : (sliceInputs s i).rs = true := active
  have enable : (sliceInputs s i).clockEnable = wrapperClockEnable s i := rfl
  unfold Slice.busClockEnable phaseAdvance
  rw [reset, active, enable, Bool.true_or, Bool.and_true, Bool.true_or, Bool.and_true]
  exact ⟨rfl, rfl⟩

theorem resetActive_of_request (request : resetRequest i = true) : resetActive s i = true := by
  unfold resetActive
  rw [request, Bool.true_or]

theorem resetActive_iff (noRequest : resetRequest i = false) :
    resetActive s i = true ↔ s.resetCyclesRemaining.toNat ≠ 0 := by
  unfold resetActive
  rw [noRequest, Bool.false_or, bne_iff_ne, ne_eq, ← BitVec.toNat_inj]
  rfl

/-- The hold is clear after every clock under reset. -/
theorem memoryWait_active (active : resetActive s i = true) : (step s i).memoryWait = false := by
  change nextMemoryWait s i = false
  unfold nextMemoryWait
  rw [if_pos active]

/-- A request reloads the counter. -/
theorem resetCyclesRemaining_request (request : resetRequest i = true) :
    (step s i).resetCyclesRemaining = 5 := by
  change nextResetCyclesRemaining s i = 5
  unfold nextResetCyclesRemaining
  rw [if_pos request]
  rfl

/-- A clock under reset without a request. -/
theorem step_active (noRequest : resetRequest i = false) (active : resetActive s i = true) :
    phaseAdvance s i = wrapperClockEnable s i ∧
      phase (step s i) = (if wrapperClockEnable s i then phase s + 1 else phase s) ∧
      (step s i).resetCyclesRemaining =
        if wrapperClockEnable s i && phase s == 3 then s.resetCyclesRemaining - 1
        else s.resetCyclesRemaining := by
  rcases busClockEnable_active active with ⟨bus, advance⟩
  have running : i.resetI = false := by
    unfold resetRequest at noRequest
    exact (Bool.or_eq_false_iff.mp noRequest).1
  have counting : (s.resetCyclesRemaining != 0) = true := by
    unfold resetActive at active
    rwa [noRequest, Bool.false_or] at active
  refine ⟨advance, ?_, ?_⟩
  · rw [phase_step, running, if_neg Bool.false_ne_true, bus]
  · change nextResetCyclesRemaining s i = _
    unfold nextResetCyclesRemaining
    rw [noRequest, counting, Bool.and_true, if_neg Bool.false_ne_true]

/-- Once the stretch is over only a request starts another. -/
theorem resetCyclesRemaining_over (noRequest : resetRequest i = false)
    (ended : s.resetCyclesRemaining = 0) : (step s i).resetCyclesRemaining = 0 := by
  change nextResetCyclesRemaining s i = 0
  unfold nextResetCyclesRemaining
  rw [noRequest, ended]
  simp

end Clock

/-! ## Runs -/

/-- The state before a clock of a run. -/
def stateAt (start : State) (inputs : ℕ → Inputs) : ℕ → State := state step start inputs

theorem stateAt_succ {start : State} {inputs : ℕ → Inputs} (clock : ℕ) :
    stateAt start inputs (clock + 1) = step (stateAt start inputs clock) (inputs clock) :=
  rfl

/-! ## A power-up state -/

/-- A wrapper whose registers are all clear. -/
def clearState : State := ⟨Slice.clearState, 0, false⟩

/-- An enabled clock with the pins high and every callback ready. -/
def enabledInputs : Inputs where
  resetI := false
  processorReset := false
  clockEnable := true
  bio := true
  int := true
  programReadData := 0x7f80
  programReady := true
  ioReadData := 0
  ioReady := true
  debugDataWrite := false
  debugDataAddress := 0
  debugData := 0

end Tms32010.Rtl.Mister
