import Mathlib.Data.BitVec
import Mathlib.Tactic.SplitIfs

/-!
# I/O ports of the sound board

The targets on the physical I/O bus of the board: the sound-address counters and the
block latch of `hard_drivin_sound_address_control`, the DAC latch, the port-3 latch and
the output control, with the storage-free `hard_drivin_sound_rom_path` and
`hard_drivin_sound_direct_io`; and the host side of them, `hard_drivin_sound_host_control`
and `hard_drivin_mc68000_write_word`.
-/

namespace Tms32010.Board

/-! ## The physical I/O bus -/

/-- The transfer a commit makes on the physical I/O bus. -/
inductive PortAccess where
  | read (port : BitVec 3)
  | write (port : BitVec 3) (data : BitVec 16)
  deriving DecidableEq, Repr

/-- The transfer without its data. -/
def PortAccess.blank : PortAccess → PortAccess
  | .read port => .read port
  | .write port _ => .write port 0

/-- The signals every target on the bus sees. -/
structure PhysicalIo where
  ioPort : BitVec 3
  ioRead : Bool
  ioWrite : Bool
  ioWriteData : BitVec 16
  ioCommit : Bool
  deriving DecidableEq, Repr

/-- The transfer of a clock with a commit. -/
def PhysicalIo.access? (io : PhysicalIo) : Option PortAccess :=
  if !io.ioCommit then none
  else if io.ioRead then some (.read io.ioPort)
  else if io.ioWrite then some (.write io.ioPort io.ioWriteData)
  else none

/-! ## Sound address and block -/

namespace AddressControl

/-- The counters and the block latch. -/
structure State where
  soundAddress : BitVec 16
  soundAddressValid : Bool
  soundRomBlock : BitVec 4
  soundRomBlockValid : Bool
  deriving DecidableEq, Repr

/-- The state initialisation leaves. -/
def idle : State := ⟨0, false, 0, false⟩

/-- One clock edge. -/
def step (s : State) (initializeI : Bool) (io : PhysicalIo) : State :=
  if initializeI then idle
  else if io.ioCommit then
    if io.ioRead then { s with soundAddress := s.soundAddress + 1 }
    else if io.ioWrite then
      if io.ioPort == 6 then
        { s with soundRomBlock := io.ioWriteData.extractLsb' 0 4, soundRomBlockValid := true }
      else if io.ioPort == 7 then
        { s with soundAddress := io.ioWriteData, soundAddressValid := true }
      else s
    else s
  else s

end AddressControl

/-! ## Output latches -/

namespace DacLatch

/-- The registers of `hard_drivin_sound_dac_latch`. -/
structure State where
  dacCode : BitVec 12
  dacCodeValid : Bool
  dacCommit : Bool
  deriving DecidableEq, Repr

/-- `dac_write_commit`. -/
def dacWriteCommit (io : PhysicalIo) : Bool := io.ioCommit && io.ioWrite && io.ioPort == 0

/-- One clock edge. -/
def step (s : State) (initializeI : Bool) (io : PhysicalIo) : State :=
  if initializeI then ⟨0, false, false⟩
  else if dacWriteCommit io then ⟨io.ioWriteData.extractLsb' 4 12, true, true⟩
  else { s with dacCommit := false }

end DacLatch

namespace CportLatch

/-- The registers of `hard_drivin_sound_320_port_latch`. -/
structure State where
  latchData : BitVec 8
  latchDataValid : Bool
  latchCommit : Bool
  deriving DecidableEq, Repr

/-- `cport_commit`. -/
def cportCommit (io : PhysicalIo) : Bool := io.ioCommit && io.ioWrite && io.ioPort == 3

/-- One clock edge. -/
def step (s : State) (initializeI : Bool) (io : PhysicalIo) : State :=
  if initializeI then ⟨0, false, false⟩
  else if cportCommit io then ⟨io.ioWriteData.extractLsb' 0 8, true, true⟩
  else { s with latchCommit := false }

end CportLatch

namespace OutputControl

/-- The registers of `hard_drivin_sound_output_control`. -/
structure State where
  muteNet : Bool
  muteCommit : Bool
  irq68000 : Bool
  deriving DecidableEq, Repr

/-- `mute_write_commit`. -/
def muteWriteCommit (io : PhysicalIo) : Bool := io.ioCommit && io.ioWrite && io.ioPort == 4

/-- `irq_set_request`. -/
def irqSetRequest (io : PhysicalIo) : Bool := io.ioWrite && io.ioPort == 5

/-- One clock edge. -/
def step (s : State) (initializeI dspResetN : Bool) (io : PhysicalIo)
    (hostIrqClearCommit : Bool) : State :=
  if initializeI || !dspResetN then ⟨true, false, false⟩
  else
    { muteNet := if muteWriteCommit io then !io.ioWriteData.getLsbD 0 else s.muteNet
      muteCommit := muteWriteCommit io
      irq68000 :=
        if irqSetRequest io then true
        else if hostIrqClearCommit then false
        else s.irq68000 }

end OutputControl

/-! ## Sample ROM -/

namespace RomPath

/-- The sample-ROM callback of the board. -/
structure Inputs where
  present : BitVec 12
  byte : BitVec 8
  byteReady : Bool
  deriving DecidableEq, Repr

section Signals

variable (s : AddressControl.State) (i : Inputs)

/-- The block is one of the twelve positions, and populated. -/
def blockPresent : Bool :=
  decide (s.soundRomBlock.toNat < 12) && i.present.getLsbD s.soundRomBlock.toNat

/-- `sound_rom_request_o`, for a port-0 read. -/
def romRequest (port0Read : Bool) : Bool :=
  port0Read && s.soundAddressValid && s.soundRomBlockValid && blockPresent s i

/-- `port_0_read_data_o`: the signed byte, shifted by seven. -/
def readData : BitVec 16 := BitVec.ofBool (i.byte.getLsbD 7) ++ i.byte ++ 0#7

/-- `port_0_ready_o`. -/
def ready (port0Read : Bool) : Bool := romRequest s i port0Read && i.byteReady

end Signals

end RomPath

/-! ## Host side -/

namespace DirectIo

/-- `write_address_selected`. -/
def writeAddressSelected (wordAddress : BitVec 12) : Bool := wordAddress.extractLsb' 3 9 == 0

/-- `read_port_o` on the physical bus. -/
def readPort (wordAddress : BitVec 12) : BitVec 3 := 0#1 ++ wordAddress.extractLsb' 0 2

/-- `write_port_o`. -/
def writePort (wordAddress : BitVec 12) : BitVec 3 := wordAddress.extractLsb' 0 3

end DirectIo

namespace HostControl

/-- The outputs of the LS259. -/
structure State where
  latchQ : BitVec 8
  latchValid : BitVec 8
  deriving DecidableEq, Repr

/-- `write_selected`. -/
def writeSelected (value : BitVec 8) (select : BitVec 3) (data : Bool) : BitVec 8 :=
  if data then value ||| 1#8 <<< select.toNat else value &&& ~~~(1#8 <<< select.toNat)

/-- One clock edge. -/
def step (s : State) (initializeI boardResetN latchWriteCommit : Bool)
    (latchAddress : BitVec 4) : State :=
  if initializeI then ⟨0, 0⟩
  else if !boardResetN then ⟨0, 0xff⟩
  else if latchWriteCommit then
    ⟨writeSelected s.latchQ (latchAddress.extractLsb' 0 3) (latchAddress.getLsbD 3),
      writeSelected s.latchValid (latchAddress.extractLsb' 0 3) true⟩
  else s

end HostControl

namespace WriteWord

/-- `captured_word_o`. -/
def capturedWord (busData : BitVec 16) (upperDataStrobeN lowerDataStrobeN : Bool) : BitVec 16 :=
  match upperDataStrobeN, lowerDataStrobeN with
  | false, false => busData
  | false, true => busData.extractLsb' 8 8 ++ busData.extractLsb' 8 8
  | true, false => busData.extractLsb' 0 8 ++ busData.extractLsb' 0 8
  | true, true => 0

/-- `transfer_valid_o`. -/
def transferValid (upperDataStrobeN lowerDataStrobeN : Bool) : Bool :=
  !(upperDataStrobeN && lowerDataStrobeN)

end WriteWord

/-! ## The targets together -/

/-- The targets on the physical I/O bus. -/
structure SoundPorts where
  addressControl : AddressControl.State
  dacLatch : DacLatch.State
  cportLatch : CportLatch.State
  outputControl : OutputControl.State
  deriving DecidableEq, Repr

/-- One clock edge of the targets. -/
def SoundPorts.step (s : SoundPorts) (initializeI dspResetN : Bool) (io : PhysicalIo)
    (hostIrqClearCommit : Bool) : SoundPorts where
  addressControl := AddressControl.step s.addressControl initializeI io
  dacLatch := DacLatch.step s.dacLatch initializeI io
  cportLatch := CportLatch.step s.cportLatch initializeI io
  outputControl := OutputControl.step s.outputControl initializeI dspResetN io hostIrqClearCommit

/-! ## What a transfer does -/

/-- What the targets keep: the words that transfers leave, without the commit pulses. -/
structure Consumers where
  soundAddress : BitVec 16
  soundAddressValid : Bool
  soundRomBlock : BitVec 4
  soundRomBlockValid : Bool
  dacCode : BitVec 12
  dacCodeValid : Bool
  cportData : BitVec 8
  cportDataValid : Bool
  muteNet : Bool
  deriving DecidableEq, Repr

/-- What the targets hold. -/
def SoundPorts.consumers (s : SoundPorts) : Consumers where
  soundAddress := s.addressControl.soundAddress
  soundAddressValid := s.addressControl.soundAddressValid
  soundRomBlock := s.addressControl.soundRomBlock
  soundRomBlockValid := s.addressControl.soundRomBlockValid
  dacCode := s.dacLatch.dacCode
  dacCodeValid := s.dacLatch.dacCodeValid
  cportData := s.cportLatch.latchData
  cportDataValid := s.cportLatch.latchDataValid
  muteNet := s.outputControl.muteNet

/-- One transfer. A read of any port counts the sound address, and a write goes to the
one target of its port, if it has one. -/
def Consumers.transfer (c : Consumers) : PortAccess → Consumers
  | .read _ => { c with soundAddress := c.soundAddress + 1 }
  | .write port data =>
    if port == 0 then { c with dacCode := data.extractLsb' 4 12, dacCodeValid := true }
    else if port == 3 then { c with cportData := data.extractLsb' 0 8, cportDataValid := true }
    else if port == 4 then { c with muteNet := !data.getLsbD 0 }
    else if port == 6 then
      { c with soundRomBlock := data.extractLsb' 0 4, soundRomBlockValid := true }
    else if port == 7 then { c with soundAddress := data, soundAddressValid := true }
    else c

/-- The transfer of a clock, if it has one. -/
def Consumers.transfer? (c : Consumers) : Option PortAccess → Consumers
  | some access => c.transfer access
  | none => c

section Step

variable (s : SoundPorts) (io : PhysicalIo) (hostIrqClearCommit : Bool)

/-- A clock with a write makes it at the target of its port. -/
theorem SoundPorts.step_write {io : PhysicalIo} (commits : io.ioCommit = true)
    (writes : io.ioWrite = true) (reads : io.ioRead = false) :
    (s.step false true io hostIrqClearCommit).consumers =
      s.consumers.transfer (.write io.ioPort io.ioWriteData) := by
  rcases io with ⟨port, ioRead, ioWrite, data, ioCommit⟩
  obtain rfl : ioCommit = true := commits
  obtain rfl : ioWrite = true := writes
  obtain rfl : ioRead = false := reads
  by_cases zero : port = 0#3
  · subst zero; rfl
  by_cases three : port = 3#3
  · subst three; rfl
  by_cases four : port = 4#3
  · subst four; rfl
  by_cases six : port = 6#3
  · subst six; rfl
  by_cases seven : port = 7#3
  · subst seven; rfl
  simp [SoundPorts.step, SoundPorts.consumers, AddressControl.step, DacLatch.step, CportLatch.step,
    OutputControl.step, DacLatch.dacWriteCommit, CportLatch.cportCommit,
    OutputControl.muteWriteCommit, Consumers.transfer, zero, three, four, six, seven]

/-- Outside initialisation and DSP reset the targets make the transfer of the clock, and
keep what they hold in a clock without one. -/
theorem SoundPorts.step_consumers (single : ¬(io.ioRead = true ∧ io.ioWrite = true)) :
    (s.step false true io hostIrqClearCommit).consumers = s.consumers.transfer? io.access? := by
  cases commits : io.ioCommit
  · unfold PhysicalIo.access?
    rw [commits]
    simp [SoundPorts.step, SoundPorts.consumers, AddressControl.step, DacLatch.step,
      CportLatch.step, OutputControl.step, DacLatch.dacWriteCommit, CportLatch.cportCommit,
      OutputControl.muteWriteCommit, Consumers.transfer?, commits]
  cases writes : io.ioWrite
  · unfold PhysicalIo.access?
    rw [commits, writes]
    cases reads : io.ioRead <;>
      simp [SoundPorts.step, SoundPorts.consumers, AddressControl.step, DacLatch.step,
        CportLatch.step, OutputControl.step, DacLatch.dacWriteCommit, CportLatch.cportCommit,
        OutputControl.muteWriteCommit, Consumers.transfer?, Consumers.transfer, commits, writes,
        reads]
  · have reads : io.ioRead = false := by
      by_contra reading
      exact single ⟨by simpa using reading, writes⟩
    rw [s.step_write hostIrqClearCommit commits writes reads]
    unfold PhysicalIo.access?
    rw [commits, writes, reads]
    rfl

/-- The DSP reset reaches only the mute flip-flop. -/
theorem SoundPorts.step_reset :
    (s.step false false io hostIrqClearCommit).consumers =
      { (s.step false true io hostIrqClearCommit).consumers with muteNet := true } :=
  rfl

end Step

end Tms32010.Board
