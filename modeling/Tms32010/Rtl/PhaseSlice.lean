import Tms32010.Rtl.CoreRun
import Tms32010.Rtl.Slice

/-!
# Phase slice

`tms32010_phase_slice`: the program bus divides a machine cycle into four subphases,
and the core advances in the last of them. Its core leaves `CALA` and `RET` out and
reads its data RAM combinationally. An enabled phase 3 of an active bus is a bus cycle,
of the kind the three strobes say.
-/

namespace Tms32010.Rtl.PhaseSlice

open Tms32010.Rtl.Core (Hosted)
open Slice (Inputs)

/-- The core of the wrapper: no computed control, and the combinational read. -/
def params : Core.Params := ⟨false, false⟩

/-- The registers of the modules in the wrapper. -/
structure State where
  bus : ProgramBus.State
  core : Core.State

/-! ## Combinational signals -/

section Signals

variable (s : State) (i : Inputs)

/-- `core_reset`. -/
def coreReset : Bool := i.clockEnable && s.bus.phase == 3 && i.rs

/-- The inputs of the core, for a clock that enables it or does not. -/
def coreInputs (executeBoundary : Bool) : Core.Inputs where
  initializeRequest := i.initializeI
  resetRequest := coreReset s i
  clockEnable := executeBoundary
  internalRamReadEnable := i.clockEnable
  bio := i.bio
  int := i.int
  programData := i.programData
  ioReadData := i.ioReadData
  debugDataWrite := i.debugDataWrite
  debugDataAddress := i.debugDataAddress
  debugData := i.debugData

/-- `logical_program_read`; no strobe of the core depends on its enable. -/
def logicalProgramRead : Bool := Core.programRead s.core (coreInputs s i false)

/-- `logical_program_write`. -/
def logicalProgramWrite : Bool := Core.programWrite s.core (coreInputs s i false)

/-- `logical_io_read`. -/
def logicalIoRead : Bool := Core.ioRead s.core (coreInputs s i false)

/-- `logical_io_write`. -/
def logicalIoWrite : Bool := Core.ioWrite s.core (coreInputs s i false)

/-- `execute_boundary`. -/
def executeBoundary : Bool :=
  i.clockEnable && s.bus.active && s.bus.phase == 3 &&
    (logicalProgramRead s i || logicalProgramWrite s i || logicalIoRead s i ||
      logicalIoWrite s i) && !i.rs

/-- `next_program_address`. -/
def nextProgramAddress : BitVec 12 :=
  if s.bus.active then Core.programNextAddress params s.core (coreInputs s i false) else 0

/-- `program_address_o`. -/
def programAddress : BitVec 12 :=
  if logicalIoRead s i || logicalIoWrite s i then 0#9 ++ s.core.pendingIoPort
  else Core.programAddress s.core

/-- `men_n_o`. -/
def menN : Bool := ProgramBus.menN s.bus (logicalProgramRead s i)

/-- `den_n_o`. -/
def denN : Bool := !s.bus.active || !logicalIoRead s i || s.bus.phase == 0

/-- `we_n_o`. -/
def weN : Bool :=
  !s.bus.active || !(logicalIoWrite s i || logicalProgramWrite s i) || s.bus.phase == 0

/-- `program_write_data_o` and `io_write_data_o`. -/
def writeData : BitVec 16 := Core.programWriteData params s.core (coreInputs s i false)

/-- The cycle on the pins at an enabled phase-3 boundary of the active bus. -/
def busCycle? : Option Isa.BusCycle :=
  if i.clockEnable && s.bus.active && s.bus.phase == 3 && !i.rs then
    if !denN s i then some (.ioRead ((programAddress s i).extractLsb' 0 3) i.ioReadData)
    else if !weN s i then
      if logicalIoWrite s i then
        some (.ioWrite ((programAddress s i).extractLsb' 0 3) (writeData s i))
      else some (.programWrite (programAddress s i) (writeData s i))
    else if !menN s i then some (.programRead (programAddress s i) i.programData)
    else none
  else none

/-- One clock edge. -/
def step : State where
  bus := ProgramBus.step s.bus ⟨i.initializeI, i.rs, i.clockEnable, nextProgramAddress s i⟩
  core := Core.step params s.core (coreInputs s i (executeBoundary s i))

end Signals

/-! ## The slice and its memories -/

/-- A slice with its program memory and the latches its output ports drive. -/
structure Attached where
  slice : State
  program : ProgramMemory
  ioOutput : BitVec 3 → BitVec 16

namespace Attached

section Clock

variable (σ : Attached) (i : Inputs)

/-- A boundary stores the word of a table write and latches the word of an output. -/
def step : Attached where
  slice := PhaseSlice.step σ.slice i
  program :=
    if executeBoundary σ.slice i && logicalProgramWrite σ.slice i then
      Function.update σ.program (programAddress σ.slice i) (writeData σ.slice i)
    else σ.program
  ioOutput :=
    if executeBoundary σ.slice i && logicalIoWrite σ.slice i then
      Function.update σ.ioOutput ((programAddress σ.slice i).extractLsb' 0 3)
        (writeData σ.slice i)
    else σ.ioOutput

/-- A clock without a recognized reset and without a debug write, whose program memory
answers a boundary that reads it. -/
structure Runs : Prop where
  noInitialize : i.initializeI = false
  noReset : coreReset σ.slice i = false
  noDebug : i.debugDataWrite = false
  served : executeBoundary σ.slice i = true → logicalProgramRead σ.slice i = true →
    i.programData = σ.program (programAddress σ.slice i)

/-- A clock that initializes the slice, or at whose boundary it recognizes a reset. -/
def Restarts : Prop := (i.initializeI || coreReset σ.slice i) = true

/-- The core and its memories. -/
def hosted : Hosted := ⟨σ.slice.core, σ.program, σ.ioOutput⟩

end Clock

/-- The clocks of the core. -/
def coreClocks (σ : Attached) : List Inputs → List Core.Inputs
  | [] => []
  | i :: clocks => coreInputs σ.slice i (executeBoundary σ.slice i) :: coreClocks (σ.step i) clocks

/-- The bus cycles of a run, in order. -/
def trace (σ : Attached) : List Inputs → List Isa.BusCycle
  | [] => []
  | i :: clocks => (busCycle? σ.slice i).toList ++ trace (σ.step i) clocks

/-- Every clock of a run is one the environment may make. -/
def Admits (σ : Attached) : List Inputs → Prop
  | [] => True
  | i :: clocks => σ.Runs i ∧ Admits (σ.step i) clocks

/-! ## The core in the slice -/

section Clock

variable {σ : Attached} {i : Inputs}

theorem port_address (port : BitVec 3) : (0#9 ++ port).extractLsb' 0 3 = port :=
  BitVec.extractLsb'_append_eq_right

/-- A cycle that is no port transfer addresses program memory. -/
theorem programAddress_eq
    (quiet : logicalIoRead σ.slice i = false ∧ logicalIoWrite σ.slice i = false) :
    programAddress σ.slice i = Core.programAddress σ.slice.core := by
  unfold programAddress
  rw [quiet.1, quiet.2]
  rfl

theorem quiet_of_io (none : σ.slice.core.ioPending = false) :
    logicalIoRead σ.slice i = false ∧ logicalIoWrite σ.slice i = false := by
  unfold logicalIoRead logicalIoWrite Core.ioRead Core.ioWrite
  rw [none]
  simp

/-- The memories follow the strobes of the core, where no port transfer coincides with a
table write. -/
theorem step_hosted (apart : logicalProgramWrite σ.slice i = true →
      logicalIoRead σ.slice i = false ∧ logicalIoWrite σ.slice i = false) :
    (σ.step i).hosted =
      σ.hosted.step params (coreInputs σ.slice i (executeBoundary σ.slice i)) := by
  have program (writes : logicalProgramWrite σ.slice i = true) :
      programAddress σ.slice i = Core.programAddress σ.slice.core :=
    programAddress_eq (apart writes)
  have port (writes : logicalIoWrite σ.slice i = true) :
      (programAddress σ.slice i).extractLsb' 0 3 = σ.slice.core.pendingIoPort := by
    unfold programAddress
    rw [writes, Bool.or_true, if_pos rfl, port_address]
  unfold hosted step Hosted.step
  dsimp only
  congr 1
  · change (if executeBoundary σ.slice i && logicalProgramWrite σ.slice i then
        Function.update σ.program (programAddress σ.slice i) (writeData σ.slice i)
      else σ.program) =
      if executeBoundary σ.slice i && logicalProgramWrite σ.slice i then
        Function.update σ.program (Core.programAddress σ.slice.core) (writeData σ.slice i)
      else σ.program
    rcases Bool.eq_false_or_eq_true (logicalProgramWrite σ.slice i) with writes | none
    · rw [program writes]
    · rw [none, Bool.and_false]
      rfl
  · change (if executeBoundary σ.slice i && logicalIoWrite σ.slice i then
        Function.update σ.ioOutput ((programAddress σ.slice i).extractLsb' 0 3)
          (writeData σ.slice i)
      else σ.ioOutput) =
      if executeBoundary σ.slice i && logicalIoWrite σ.slice i then
        Function.update σ.ioOutput σ.slice.core.pendingIoPort (writeData σ.slice i)
      else σ.ioOutput
    rcases Bool.eq_false_or_eq_true (logicalIoWrite σ.slice i) with writes | none
    · rw [port writes]
    · rw [none, Bool.and_false]
      rfl

/-- A clock of the slice is one of the core. -/
theorem Runs.core (runs : σ.Runs i) :
    σ.hosted.Runs (coreInputs σ.slice i (executeBoundary σ.slice i)) := by
  refine ⟨runs.noInitialize, runs.noReset, runs.noDebug, ?_⟩
  intro boundary reads
  have reads' : logicalProgramRead σ.slice i = true := reads
  have none : σ.slice.core.ioPending = false := by
    unfold Core.programRead at reads
    simp only [Bool.and_eq_true, Bool.not_eq_true'] at reads
    exact reads.1.2
  exact (runs.served boundary reads').trans
    (congrArg σ.program (programAddress_eq (quiet_of_io none)))

/-- A restart is one of the core. -/
theorem Restarts.core (restarts : σ.Restarts i) :
    (σ.step i).hosted =
        σ.hosted.step params (coreInputs σ.slice i (executeBoundary σ.slice i)) ∧
      ((coreInputs σ.slice i (executeBoundary σ.slice i)).initializeRequest ||
        (coreInputs σ.slice i (executeBoundary σ.slice i)).resetRequest) = true := by
  refine ⟨step_hosted ?_, restarts⟩
  intro writes
  unfold Restarts at restarts
  unfold logicalProgramWrite Core.programWrite at writes
  simp only [coreInputs, Bool.and_eq_true, Bool.not_eq_true'] at writes
  rw [writes.1.1.1.1.1, writes.1.1.1.1.2] at restarts
  exact absurd restarts Bool.false_ne_true

end Clock

/-! ### An environment -/

/-- The clock with the answer of the program memory. -/
def answered (σ : Attached) (i : Inputs) : Inputs :=
  { i with programData := σ.program (programAddress σ.slice i) }

/-- A run in which program memory answers every clock. -/
def attended (σ : Attached) : List Inputs → List Inputs
  | [] => []
  | i :: clocks => σ.answered i :: attended (σ.step (σ.answered i)) clocks

/-- The memory can answer every run. -/
theorem admits_attended (σ : Attached) {clocks : List Inputs}
    (quiet : ∀ i ∈ clocks, i.initializeI = false ∧ i.rs = false ∧ i.debugDataWrite = false) :
    σ.Admits (σ.attended clocks) := by
  induction clocks generalizing σ with
  | nil => trivial
  | cons i clocks ih =>
      rcases quiet i List.mem_cons_self with ⟨noInitialize, noReset, noDebug⟩
      refine ⟨⟨noInitialize, ?_, noDebug, fun _ _ => rfl⟩, ?_⟩
      · unfold coreReset answered
        rw [noReset, Bool.and_false]
      · exact ih _ fun j member => quiet j (List.mem_cons_of_mem i member)

end Attached

end Tms32010.Rtl.PhaseSlice
