import Mathlib.Data.BitVec
import Mathlib.Tactic.SplitIfs

/-!
# Main bus

The bus logic of the main board: `hard_drivin_main_address_decode`,
`hard_drivin_main_rvas_timing` and `hard_drivin_main_dtack_decode`, as
`hard_drivin_main_bus_control` composes them, and `hard_drivin_main_sound_reset_decode`.
The two edges of the 8 MHz clock are enables of the FPGA clock.
-/

namespace Tms32010.Board

/-! ## Address decode -/

namespace MainAddressDecode

section Selects

variable (address : BitVec 23) (addressStrobeN : Bool)

/-- `primary_select_n_o`, the LS138 on `A23:A21`. -/
def primarySelectN : BitVec 8 :=
  if addressStrobeN then 0xff else ~~~(1#8 <<< (address.extractLsb' 20 3).toNat)

/-- `high_speed_bus_select_n_o`. -/
def highSpeedBusSelectN : Bool := (primarySelectN address addressStrobeN).getLsbD 6

/-- `ram_enable_n_o`. -/
def ramEnableN : Bool := (primarySelectN address addressStrobeN).getLsbD 7

/-- One half of the LS139 on `A15:A14`. -/
def halfSelectN (enableN : Bool) : BitVec 4 :=
  if enableN then 0xf else ~~~(1#4 <<< (address.extractLsb' 13 2).toNat)

/-- `ram_select_n_o`. -/
def ramSelectN : BitVec 4 := halfSelectN address (ramEnableN address addressStrobeN)

/-- `duart_select_n_o`. -/
def duartSelectN : Bool := (ramSelectN address addressStrobeN).getLsbD 0

end Selects

end MainAddressDecode

/-! ## Acknowledgement -/

namespace MainDtackDecode

/-- The inputs of `hard_drivin_main_dtack_decode`. -/
structure Inputs where
  addressStrobeN : Bool
  functionCode : BitVec 3
  rva : Bool
  highSpeedBusSelectN : Bool
  duartSelectN : Bool
  rvas0N : Bool
  rvasN : Bool
  gspWaitN : Bool
  mspWaitN : Bool
  duartDtackN : Bool
  deriving DecidableEq, Repr

section Terms

variable (i : Inputs)

/-- `vpa_n_o`. -/
def vpaN : Bool := !(i.functionCode == 7 && !i.addressStrobeN)

/-- `default_dtack_term_n_o`. -/
def defaultDtackTermN : Bool := !(vpaN i && i.rva && i.highSpeedBusSelectN && i.duartSelectN)

/-- `read_high_speed_bus_n_o`. -/
def readHighSpeedBusN : Bool := i.highSpeedBusSelectN || i.rvas0N

/-- `read_duart_n_o`. -/
def readDuartN : Bool := i.duartSelectN || i.rvasN

/-- `graphics_sound_wait_nand`. -/
def graphicsSoundWaitNand : Bool := !(i.gspWaitN && i.mspWaitN)

/-- `high_speed_dtack_term_n_o`. -/
def highSpeedDtackTermN : Bool := readHighSpeedBusN i || graphicsSoundWaitNand i

/-- `duart_dtack_term_n_o`. -/
def duartDtackTermN : Bool := readDuartN i || i.duartDtackN

/-- `dtack_n_o`. -/
def dtackN : Bool := defaultDtackTermN i && highSpeedDtackTermN i && duartDtackTermN i

end Terms

end MainDtackDecode

/-! ## Held strobes -/

namespace MainRvasTiming

/-- The registers of `hard_drivin_main_rvas_timing`. -/
structure State where
  asSeen : Bool
  rva : Bool
  sampledDtackN : Bool
  rvas0Active : Bool
  rvasActive : Bool
  rvas0AssertEvent : Bool
  rvas0ReleaseEvent : Bool
  rvasAssertEvent : Bool
  rvasReleaseEvent : Bool
  deriving DecidableEq, Repr

/-- The inputs of one clock. -/
structure Inputs where
  initializeI : Bool
  main8mhzRise : Bool
  main8mhzFall : Bool
  main8mhzHigh : Bool
  addressStrobeAssert : Bool
  dtackN : Bool
  deriving DecidableEq, Repr

/-- The levels initialisation leaves. -/
def idle : State := ⟨false, false, true, false, false, false, false, false, false⟩

section Signals

variable (s : State) (i : Inputs)

/-- `rvas0_n_o`. -/
def rvas0N : Bool := !s.rvas0Active

/-- `rvas_n_o`. -/
def rvasN : Bool := !s.rvasActive

/-- The sampled `/DTACK` rises. -/
def sampledRelease : Bool := i.main8mhzFall && !s.sampledDtackN && i.dtackN

/-- A strobe in the low phase presets `/RVAS0` at once. -/
def lowAssert : Bool := i.addressStrobeAssert && !i.main8mhzHigh

/-- One clock edge. -/
def step : State :=
  if i.initializeI then idle
  else
    { asSeen :=
        if i.main8mhzRise && s.asSeen then false
        else if i.addressStrobeAssert then true
        else s.asSeen
      rva := if i.main8mhzRise then s.asSeen else s.rva
      sampledDtackN := if i.main8mhzFall then i.dtackN else s.sampledDtackN
      rvas0Active :=
        if i.main8mhzFall && s.asSeen then true
        else if sampledRelease s i then false
        else if lowAssert i then true
        else s.rvas0Active
      rvasActive :=
        if sampledRelease s i then false
        else if i.main8mhzRise && s.asSeen then true
        else s.rvasActive
      rvas0AssertEvent := (i.main8mhzFall && s.asSeen || lowAssert i) && !s.rvas0Active
      rvas0ReleaseEvent := sampledRelease s i && !s.asSeen && s.rvas0Active
      rvasAssertEvent := i.main8mhzRise && s.asSeen
      rvasReleaseEvent := sampledRelease s i }

/-- `rvas0_assert_event_o`. -/
def rvas0AssertEventO : Bool := !i.initializeI && s.rvas0AssertEvent

/-- `rvas0_release_event_o`. -/
def rvas0ReleaseEventO : Bool := !i.initializeI && s.rvas0ReleaseEvent

/-- `rvas_assert_event_o`. -/
def rvasAssertEventO : Bool := !i.initializeI && s.rvasAssertEvent

/-- `rvas_release_event_o`. -/
def rvasReleaseEventO : Bool := !i.initializeI && s.rvasReleaseEvent

/-- The retained assertions on the inputs, after the given level of the 8 MHz clock. -/
def contract (previousHigh : Bool) : Bool :=
  !(i.main8mhzRise && i.main8mhzFall) &&
  !(i.addressStrobeAssert && i.main8mhzRise) &&
  !(i.addressStrobeAssert && i.main8mhzFall) &&
  (!i.main8mhzRise || i.main8mhzHigh) &&
  (!i.main8mhzFall || !i.main8mhzHigh) &&
  (!i.main8mhzRise || !previousHigh) &&
  (!i.main8mhzFall || previousHigh) &&
  (i.main8mhzHigh == previousHigh || i.main8mhzHigh && i.main8mhzRise ||
    !i.main8mhzHigh && i.main8mhzFall)

/-- The retained assertions on the outputs; `previous` is the state before the clock with
the inputs `i`, and `next` are the inputs of the current clock. -/
def retained (previous : State) (next : Inputs) : Bool :=
  !(rvas0AssertEventO s next && rvas0ReleaseEventO s next) &&
  !(rvasAssertEventO s next && rvasReleaseEventO s next) &&
  (!(i.addressStrobeAssert && !i.main8mhzHigh) ||
    !rvas0N s && (previous.rvas0Active || rvas0AssertEventO s next)) &&
  (!i.main8mhzRise ||
    s.rva == previous.asSeen &&
      (!previous.asSeen || !s.asSeen && !rvasN s && rvasAssertEventO s next)) &&
  (!i.main8mhzFall ||
    s.sampledDtackN == i.dtackN &&
      (if previous.asSeen then !rvas0N s && (previous.rvas0Active || rvas0AssertEventO s next)
       else if !previous.sampledDtackN && i.dtackN && previous.rvas0Active then
         rvas0N s && rvas0ReleaseEventO s next
       else true) &&
      (!(!previous.sampledDtackN && i.dtackN) || rvasN s && rvasReleaseEventO s next))

end Signals

end MainRvasTiming

/-! ## The composition -/

namespace MainBus

open MainRvasTiming (State)

/-- The inputs of `hard_drivin_main_bus_control`, with the direction the sound reset
decoder sees. -/
structure Inputs where
  initializeI : Bool
  address : BitVec 23
  addressStrobeN : Bool
  functionCode : BitVec 3
  readNotWrite : Bool
  main8mhzRise : Bool
  main8mhzFall : Bool
  main8mhzHigh : Bool
  addressStrobeAssert : Bool
  gspWaitN : Bool
  mspWaitN : Bool
  duartDtackN : Bool
  deriving DecidableEq, Repr

section Signals

variable (s : State) (i : Inputs)

/-- `high_speed_bus_select_n_o`. -/
def highSpeedBusSelectN : Bool :=
  MainAddressDecode.highSpeedBusSelectN i.address i.addressStrobeN

/-- `duart_select_n_o`. -/
def duartSelectN : Bool := MainAddressDecode.duartSelectN i.address i.addressStrobeN

/-- The inputs of `dtack_decode`. -/
def dtackInputs : MainDtackDecode.Inputs where
  addressStrobeN := i.addressStrobeN
  functionCode := i.functionCode
  rva := s.rva
  highSpeedBusSelectN := highSpeedBusSelectN i
  duartSelectN := duartSelectN i
  rvas0N := MainRvasTiming.rvas0N s
  rvasN := MainRvasTiming.rvasN s
  gspWaitN := i.gspWaitN
  mspWaitN := i.mspWaitN
  duartDtackN := i.duartDtackN

/-- `dtack_n_o`. -/
def dtackN : Bool := MainDtackDecode.dtackN (dtackInputs s i)

/-- The inputs of `rvas_timing`. -/
def timingInputs : MainRvasTiming.Inputs where
  initializeI := i.initializeI
  main8mhzRise := i.main8mhzRise
  main8mhzFall := i.main8mhzFall
  main8mhzHigh := i.main8mhzHigh
  addressStrobeAssert := i.addressStrobeAssert
  dtackN := dtackN s i

/-- One clock edge. -/
def step : State := MainRvasTiming.step s (timingInputs s i)

end Signals

/-! ## Sound reset -/

namespace SoundReset

section Decode

variable (addressStrobeN validAddressStrobeN readNotWrite : Bool) (address : BitVec 23)

/-- `external_bus_select_n_o`. -/
def externalBusSelectN : Bool := addressStrobeN || address.extractLsb' 20 3 != 4

/-- `sound_reset_address_match_o`. -/
def soundResetAddressMatch : Bool := address.extractLsb' 13 7 == 0b0010011

/-- `sound_reset_n_o`. -/
def soundResetN : Bool :=
  externalBusSelectN addressStrobeN address || validAddressStrobeN || readNotWrite ||
    !soundResetAddressMatch address

end Decode

end SoundReset

/-- `/SRES` of the main board, under the held strobe `/RVAS`. -/
def soundResetN (s : State) (i : Inputs) : Bool :=
  SoundReset.soundResetN i.addressStrobeN (MainRvasTiming.rvasN s) i.readNotWrite i.address

end MainBus

end Tms32010.Board
