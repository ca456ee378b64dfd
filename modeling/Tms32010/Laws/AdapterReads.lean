import Tms32010.Board.CommunicationRam
import Tms32010.Board.ProgramRam

/-!
# Ready reads of the storage adapters

What the program RAM adapter and the host side of the communication RAM adapter
present with a ready read, over every run. The registered response outlives a
change of the address under a held request, so it is fresh at the address the
request was captured with.
-/

namespace Tms32010.Board

open RegisteredRead (Captured Steady)

/-! ## Program RAM -/

namespace ProgramRam

/-- A host read whose address changes under the held select. -/
def movedAddress : List Inputs :=
  [⟨false, false, false, false, false, 0, 0, 0, true, true, true, false, 0⟩]

/-- The clock after it, at the next address. -/
def movedAddressNow : Inputs :=
  ⟨false, false, false, false, false, 1, 0, 0, true, true, true, false, 0⟩

end ProgramRam

/-- A ready host read that shows the word of the address before, not of the address
presented. -/
theorem adapterReads_stale :
    ¬∀ (start : ProgramRam.State) (first : ProgramRam.Inputs) (inputs : List ProgramRam.Inputs)
        (i : ProgramRam.Inputs), first.initializeI = true →
      ProgramRam.hostReady (ProgramRam.run (ProgramRam.step start first) inputs) i = true →
      i.hostWrite = false →
      ProgramRam.hostReadData (ProgramRam.run (ProgramRam.step start first) inputs) =
        (ProgramRam.run (ProgramRam.step start first) inputs).programRam i.hostAddress := by
  intro fresh
  have moved := fresh ⟨fun address => address.setWidth 16, false, false, 0⟩
    ⟨true, false, true, false, false, 0, 0, 0, true, true, true, false, 0⟩
    ProgramRam.movedAddress ProgramRam.movedAddressNow rfl rfl rfl
  exact absurd moved (by decide)

/-- What the program RAM adapter presents in a clock after the history. -/
structure ProgramRam.ReadsCaptured (history : List ProgramRam.Inputs) (s : ProgramRam.State)
    (i : ProgramRam.Inputs) : Prop where
  host : ProgramRam.hostReady s i = true → i.hostWrite = false →
    Captured ProgramRam.hostReadRequest ProgramRam.Inputs.hostAddress history s.programRam
        (ProgramRam.hostReadData s) ∧
      (Steady ProgramRam.hostReadRequest ProgramRam.Inputs.hostAddress history i.hostAddress →
        ProgramRam.hostReadData s = s.programRam i.hostAddress)
  tms : ProgramRam.tmsProgramReady s i = true → i.decode.dspProgramRead = true →
    Captured ProgramRam.tmsReadRequest ProgramRam.Inputs.tmsAddress history s.programRam
        (ProgramRam.tmsReadData s) ∧
      (Steady ProgramRam.tmsReadRequest ProgramRam.Inputs.tmsAddress history i.tmsAddress →
        ProgramRam.tmsReadData s = s.programRam i.tmsAddress)
  apart : ¬(ProgramRam.hostReady s i = true ∧ ProgramRam.tmsProgramReady s i = true)

/-- What the communication RAM adapter presents to the host in a clock after the history. -/
structure CommunicationRam.ReadsCaptured (history : List CommunicationRam.Inputs)
    (s : CommunicationRam.State) (i : CommunicationRam.Inputs) : Prop where
  host : CommunicationRam.hostReady s i = true → i.hostWrite = false →
    Captured CommunicationRam.hostReadRequest CommunicationRam.Inputs.hostAddress history
        s.communicationRam (CommunicationRam.hostReadData s) ∧
      (Steady CommunicationRam.hostReadRequest CommunicationRam.Inputs.hostAddress history
          i.hostAddress →
        CommunicationRam.hostReadData s = s.communicationRam i.hostAddress)
  apart : ¬(CommunicationRam.hostReady s i = true ∧ CommunicationRam.dspReady s i = true)

theorem ProgramRam.run_readsCaptured {start : ProgramRam.State}
    (empty : start.readResponseValid = false) {inputs : List ProgramRam.Inputs}
    {i : ProgramRam.Inputs} (strobes : ∀ j ∈ inputs, ¬(j.tmsMenN = false ∧ j.tmsWeN = false))
    (now : ¬(i.tmsMenN = false ∧ i.tmsWeN = false)) :
    ProgramRam.ReadsCaptured inputs (ProgramRam.run start inputs) i where
  host ready reads := by
    rcases hostReady_read ready reads with ⟨valid, host, -⟩
    have captured := (run_captured empty strobes valid).1 host
    exact ⟨captured, captured.fresh⟩
  tms ready reads := by
    have men : i.tmsMenN = false := by simpa [Inputs.decode, busDecode] using reads
    have write : i.decode.dspProgramWrite = false := by
      have we : i.tmsWeN = true := by simpa [men] using now
      simp [Inputs.decode, busDecode, we]
    rcases tmsProgramReady_read ready write with ⟨valid, tms, -⟩
    have captured := (run_captured empty strobes valid).2 tms
    exact ⟨captured, captured.fresh⟩
  apart := ready_apart _ i

theorem CommunicationRam.run_readsCaptured {start : CommunicationRam.State}
    (empty : start.readResponseValid = false) (inputs : List CommunicationRam.Inputs)
    (i : CommunicationRam.Inputs) :
    CommunicationRam.ReadsCaptured inputs (CommunicationRam.run start inputs) i where
  host ready reads := by
    rcases hostReady_read ready reads with ⟨valid, host, -⟩
    have captured := (run_captured empty valid).1 host
    exact ⟨captured, captured.fresh⟩
  apart := ready_apart _ i

/-- After an initialising clock, a ready read presents the word stored now at the address
its owner presented in the clock that captured it, an earlier one of the same held
request, and the owners are never ready together. -/
theorem adapterReads_captured (programStart : ProgramRam.State)
    (programFirst : ProgramRam.Inputs) (programInitializing : programFirst.initializeI = true)
    (programInputs : List ProgramRam.Inputs) (programNow : ProgramRam.Inputs)
    (strobes : ∀ j ∈ programNow :: programInputs, ¬(j.tmsMenN = false ∧ j.tmsWeN = false))
    (start : CommunicationRam.State) (first : CommunicationRam.Inputs)
    (initializing : first.initializeI = true) (inputs : List CommunicationRam.Inputs)
    (now : CommunicationRam.Inputs) :
    ProgramRam.ReadsCaptured programInputs
        (ProgramRam.run (ProgramRam.step programStart programFirst) programInputs) programNow ∧
      CommunicationRam.ReadsCaptured inputs
        (CommunicationRam.run (CommunicationRam.step start first) inputs) now := by
  have programEmpty : (ProgramRam.step programStart programFirst).readResponseValid = false := by
    rw [ProgramRam.step, if_pos programInitializing]
  have empty : (CommunicationRam.step start first).readResponseValid = false := by
    rw [CommunicationRam.step, if_pos initializing]
  refine ⟨ProgramRam.run_readsCaptured programEmpty ?_ ?_,
    CommunicationRam.run_readsCaptured empty inputs now⟩
  · exact fun j among => strobes j (List.mem_cons_of_mem _ among)
  · exact strobes programNow List.mem_cons_self

/-- A host write and a host read of its word. -/
def CommunicationRam.movedAddress : List CommunicationRam.Inputs :=
  [⟨false, true, false, true, true, 3, 0x1234, false, 0⟩,
    ⟨false, true, false, false, false, 3, 0, false, 0⟩]

/-- The clock after them, with the read at the next address. -/
def CommunicationRam.movedAddressNow : CommunicationRam.Inputs :=
  ⟨false, true, false, false, false, 4, 0, false, 0⟩

/-- The moved reads are ready and show the words captured at the addresses before. -/
theorem adapterReads_captured_moved :
    (ProgramRam.ReadsCaptured ProgramRam.movedAddress
        (ProgramRam.run
          (ProgramRam.step ⟨fun address => address.setWidth 16, false, false, 0⟩
            ⟨true, false, true, false, false, 0, 0, 0, true, true, true, false, 0⟩)
          ProgramRam.movedAddress)
        ProgramRam.movedAddressNow ∧
      CommunicationRam.ReadsCaptured CommunicationRam.movedAddress
        (CommunicationRam.run
          (CommunicationRam.step ⟨fun _ => 0, false, false, 0⟩
            ⟨true, true, true, false, false, 0, 0, false, 0⟩)
          CommunicationRam.movedAddress)
        CommunicationRam.movedAddressNow) ∧
      CommunicationRam.hostReady
          (CommunicationRam.run
            (CommunicationRam.step ⟨fun _ => 0, false, false, 0⟩
              ⟨true, true, true, false, false, 0, 0, false, 0⟩)
            CommunicationRam.movedAddress)
          CommunicationRam.movedAddressNow = true ∧
      CommunicationRam.hostReadData
          (CommunicationRam.run
            (CommunicationRam.step ⟨fun _ => 0, false, false, 0⟩
              ⟨true, true, true, false, false, 0, 0, false, 0⟩)
            CommunicationRam.movedAddress) = 0x1234 := by
  refine ⟨?_, by decide, by decide⟩
  exact adapterReads_captured ⟨fun address => address.setWidth 16, false, false, 0⟩
    ⟨true, false, true, false, false, 0, 0, 0, true, true, true, false, 0⟩ rfl
    ProgramRam.movedAddress ProgramRam.movedAddressNow (by decide)
    ⟨fun _ => 0, false, false, 0⟩ ⟨true, true, true, false, false, 0, 0, false, 0⟩ rfl
    CommunicationRam.movedAddress CommunicationRam.movedAddressNow

end Tms32010.Board
