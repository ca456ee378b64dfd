import Mathlib.Data.BitVec
import Mathlib.Tactic.SplitIfs

/-!
# Host timing and the local memory commits

`hard_drivin_sound_host_timing`, the logical path from the address strobe of the local
68000 to its acknowledgement, and the write commits that
`hard_drivin_sound_local_memory_bridge` derives from it through
`hard_drivin_sound_local_memory_decode`. The two edges of the 8 MHz clock are enables
of the FPGA clock.
-/

namespace Tms32010.Board.HostTiming

/-! ## The timing module -/

/-- The registers of the module. `latchedAddress` is `A23:A1`. -/
structure State where
  cycleActive : Bool
  rva : Bool
  asSeen : Bool
  dtackSeen : Bool
  functionCode : BitVec 3
  latchedAddress : BitVec 23
  readNotWrite : Bool
  upperDataStrobeN : Bool
  lowerDataStrobeN : Bool
  normalCompletionSeen : Bool
  cycleComplete : Bool
  readComplete : Bool
  writeComplete : Bool
  deriving DecidableEq, Repr

/-- The inputs of one clock. -/
structure Inputs where
  initializeI : Bool
  host8mhzRise : Bool
  host8mhzFall : Bool
  addressStrobeAssert : Bool
  addressStrobeDeassert : Bool
  functionCode : BitVec 3
  address : BitVec 23
  readNotWrite : Bool
  upperDataStrobeN : Bool
  lowerDataStrobeN : Bool
  deriving DecidableEq, Repr

/-- The levels initialisation leaves. -/
def idle : State where
  cycleActive := false
  rva := false
  asSeen := false
  dtackSeen := true
  functionCode := 0
  latchedAddress := 0
  readNotWrite := true
  upperDataStrobeN := true
  lowerDataStrobeN := true
  normalCompletionSeen := false
  cycleComplete := false
  readComplete := false
  writeComplete := false

section Signals

variable (s : State) (i : Inputs)

/-- `vpa_n_o`. -/
def vpaN : Bool := !(s.cycleActive && s.functionCode == 7)

/-- `dtack_n_o`. -/
def dtackN : Bool := !(vpaN s && s.rva)

/-- `rvas_n_o`. -/
def rvasN : Bool := s.dtackSeen && !s.rva

/-- `rvf_address_qualified`: `A23` and `A16:A14 = 100`. -/
def rvfAddressQualified : Bool :=
  s.latchedAddress.getLsbD 22 && s.latchedAddress.extractLsb' 13 3 == 4

/-- `rvf_n_o`. -/
def rvfN : Bool := !(s.cycleActive && rvfAddressQualified s)

/-- `read_write_strobe_n_o`. -/
def readWriteStrobeN : Bool := rvasN s || s.readNotWrite

/-- `upper_write_enable_n_o`. -/
def upperWriteEnableN : Bool := s.upperDataStrobeN || readWriteStrobeN s

/-- `lower_write_enable_n_o`. -/
def lowerWriteEnableN : Bool := s.lowerDataStrobeN || readWriteStrobeN s

/-- `io_decode_active`. -/
def ioDecodeActive : Bool := !rvfN s && !rvasN s

/-- `read_select_valid_o`. -/
def readSelectValid : Bool := ioDecodeActive s && s.readNotWrite

/-- `select_quadrant_o`: `A13:A12`. -/
def selectQuadrant : BitVec 2 := s.latchedAddress.extractLsb' 11 2

/-- `normal_completion_condition`. -/
def normalCompletionCondition : Bool := s.cycleActive && vpaN s && !s.rva && !s.dtackSeen

/-- `cycle_complete_event_o`. -/
def cycleCompleteEvent : Bool := i.host8mhzFall && normalCompletionCondition s

/-- `read_complete_event_o`. -/
def readCompleteEvent : Bool :=
  cycleCompleteEvent s i && rvfAddressQualified s && s.readNotWrite

/-- `write_complete_event_o`. -/
def writeCompleteEvent : Bool :=
  cycleCompleteEvent s i && rvfAddressQualified s && !s.readNotWrite

/-- One clock edge. -/
def step : State :=
  if i.initializeI then idle
  else
    { cycleActive :=
        if i.addressStrobeDeassert then false
        else if i.addressStrobeAssert then true
        else s.cycleActive
      rva := if i.host8mhzRise then s.asSeen else s.rva
      asSeen :=
        if i.host8mhzRise && s.asSeen then false
        else if i.addressStrobeAssert then true
        else s.asSeen
      dtackSeen := if i.host8mhzFall then dtackN s else s.dtackSeen
      functionCode := if i.addressStrobeAssert then i.functionCode else s.functionCode
      latchedAddress := if i.addressStrobeAssert then i.address else s.latchedAddress
      readNotWrite := if i.addressStrobeAssert then i.readNotWrite else s.readNotWrite
      upperDataStrobeN :=
        if i.addressStrobeAssert then i.upperDataStrobeN else s.upperDataStrobeN
      lowerDataStrobeN :=
        if i.addressStrobeAssert then i.lowerDataStrobeN else s.lowerDataStrobeN
      normalCompletionSeen :=
        if i.addressStrobeDeassert then false
        else if cycleCompleteEvent s i then true
        else if i.addressStrobeAssert then false
        else s.normalCompletionSeen
      cycleComplete := cycleCompleteEvent s i
      readComplete := readCompleteEvent s i
      writeComplete := writeCompleteEvent s i }

/-- The retained assertions on the inputs of a clock. -/
def contract : Bool :=
  !(i.host8mhzRise && i.host8mhzFall) &&
  !(i.addressStrobeAssert && i.host8mhzRise) &&
  !(i.addressStrobeAssert && i.host8mhzFall) &&
  !(i.addressStrobeAssert && i.addressStrobeDeassert) &&
  !(i.addressStrobeAssert && s.cycleActive) &&
  (!i.addressStrobeDeassert || s.cycleActive) &&
  (!i.addressStrobeDeassert || !vpaN s || normalCompletionCondition s ||
    s.normalCompletionSeen)

end Signals

/-- The state after a run. -/
def run (s : State) : List Inputs → State
  | [] => s
  | i :: inputs => run (step s i) inputs

/-! ## Local memory decode and commits -/

section Decode

variable (s : State) (i : Inputs)

/-- One output of `high_bank_select_n_o`, the LS138 on `A16:A14` under `A23` and the
address strobe. -/
def highBankSelectN (bank : BitVec 3) : Bool :=
  !(s.cycleActive && s.latchedAddress.getLsbD 22 &&
    s.latchedAddress.extractLsb' 13 3 == bank)

/-- `host_program_select_n_o`. -/
def hostProgramSelectN : Bool := highBankSelectN s 5 || rvasN s

/-- `host_communication_select_n_o`. -/
def hostCommunicationSelectN : Bool := highBankSelectN s 6 || rvasN s

/-- `local_ram_select_n_o`. -/
def localRamSelectN : Bool := highBankSelectN s 7

/-- `host_program_ram_chip_enable_n_o`; bit 12 is `A13`. -/
def hostProgramRamChipEnableN : Bool :=
  hostProgramSelectN s || s.latchedAddress.getLsbD 12 || rvasN s

/-- `host_program_ram_write_n_o`. -/
def hostProgramRamWriteN : Bool := hostProgramSelectN s || s.readNotWrite

/-- `host_program_io_write_enable_n_o`. -/
def hostProgramIoWriteEnableN : Bool :=
  hostProgramSelectN s || !(s.rva && !s.readNotWrite && s.latchedAddress.getLsbD 12)

/-- `host_program_io_data_enable_n_o`. -/
def hostProgramIoDataEnableN : Bool :=
  hostProgramSelectN s || !(!rvasN s && s.readNotWrite && s.latchedAddress.getLsbD 12)

/-- `host_program_word_address_o`: `A12:A1`. -/
def hostProgramWordAddress : BitVec 12 := s.latchedAddress.extractLsb' 0 12

/-- `host_communication_word_address_o`: `A9:A1`. -/
def hostCommunicationWordAddress : BitVec 9 := s.latchedAddress.extractLsb' 0 9

/-- `host_program_ram_write_o`. -/
def hostProgramRamWrite : Bool := !hostProgramRamChipEnableN s && !hostProgramRamWriteN s

/-- `host_program_io_read_o`. -/
def hostProgramIoRead : Bool := !hostProgramIoDataEnableN s

/-- `host_program_io_write_o`. -/
def hostProgramIoWrite : Bool := !hostProgramIoWriteEnableN s

/-- `host_communication_write_o`. -/
def hostCommunicationWrite : Bool := !hostCommunicationSelectN s && !s.readNotWrite

/-- `local_ram_upper_write`. -/
def localRamUpperWrite : Bool := !localRamSelectN s && !upperWriteEnableN s

/-- `local_ram_lower_write`. -/
def localRamLowerWrite : Bool := !localRamSelectN s && !lowerWriteEnableN s

/-- `local_ram_upper_write_commit_o`. -/
def localRamUpperWriteCommit : Bool := cycleCompleteEvent s i && localRamUpperWrite s

/-- `local_ram_lower_write_commit_o`. -/
def localRamLowerWriteCommit : Bool := cycleCompleteEvent s i && localRamLowerWrite s

/-- `host_program_ram_write_commit_o`. -/
def hostProgramRamWriteCommit : Bool := cycleCompleteEvent s i && hostProgramRamWrite s

/-- `host_communication_write_commit_o`. -/
def hostCommunicationWriteCommit : Bool :=
  cycleCompleteEvent s i && hostCommunicationWrite s

/-- `host_program_io_write_commit_o`. -/
def hostProgramIoWriteCommit : Bool := i.host8mhzRise && hostProgramIoWrite s

end Decode

end Tms32010.Board.HostTiming
