import Mathlib.Data.BitVec

/-!
# Program bus and execute slot

`tms32010_program_bus` counts the four subphases of a machine cycle and holds the
address of the cycle. `tms32010_fetch_execute` is the single slot between a
fetched word and the instruction that executes.
-/

namespace Tms32010.Rtl

namespace ProgramBus

/-- The registers of `tms32010_program_bus`. -/
structure State where
  phase : BitVec 2
  address : BitVec 12
  active : Bool
  sample : Bool
  releaseBoundarySeen : Bool

/-- The inputs of one clock. -/
structure Inputs where
  initializeI : Bool
  rs : Bool
  clockEnable : Bool
  nextAddress : BitVec 12

/-- `men_n_o`, for a cycle that reads program memory or does not. -/
def menN (s : State) (programRead : Bool) : Bool :=
  !s.active || !programRead || s.phase == 0

/-- The registers after an enabled phase 3, the end of a machine cycle. -/
def boundary (s : State) (rs : Bool) (nextAddress : BitVec 12) : State :=
  if rs then { s with address := 0, active := false, releaseBoundarySeen := false }
  else if !s.releaseBoundarySeen then { s with releaseBoundarySeen := true }
  else if !s.active then { s with active := true, address := nextAddress }
  else { s with sample := true, address := nextAddress }

/-- One clock edge. -/
def step (s : State) (i : Inputs) : State :=
  if i.initializeI then
    { phase := 0, address := 0, active := false, sample := false, releaseBoundarySeen := false }
  else if i.clockEnable then
    if s.phase == 3 then
      { boundary { s with sample := false } i.rs i.nextAddress with phase := s.phase + 1 }
    else { s with sample := false, phase := s.phase + 1 }
  else { s with sample := false }

end ProgramBus

namespace FetchExecute

/-- The slot. -/
structure State where
  executeValid : Bool
  executeAddress : BitVec 12
  executeWord : BitVec 16

/-- The inputs of one clock; the slice ties `flush_i` low. -/
structure Inputs where
  initializeI : Bool
  reset : Bool
  cycleBoundary : Bool
  fetchedValid : Bool
  fetchedAddress : BitVec 12
  fetchedWord : BitVec 16
  executeComplete : Bool
  flush : Bool

/-- The empty slot. -/
def empty : State := ⟨false, 0, 0⟩

/-- One clock edge. -/
def step (s : State) (i : Inputs) : State :=
  if i.initializeI then empty
  else if i.cycleBoundary then
    if i.reset || i.flush then empty
    else if !s.executeValid || i.executeComplete then
      if i.fetchedValid then ⟨true, i.fetchedAddress, i.fetchedWord⟩ else empty
    else s
  else s

end FetchExecute

end Tms32010.Rtl
