import Tms32010.Board.BioGenerator
import Tms32010.Board.CommunicationRam
import Tms32010.Board.HostTiming
import Tms32010.Board.ProgramRam
import Tms32010.Board.SoundPorts
import Tms32010.Rtl.MisterRun

/-!
# The sound board

`hard_drivin_sound_mister`: the processor wrapper, the program RAM, the communication RAM
behind port 1, the targets on the physical I/O bus and the local 68000, whose direct I/O
cycles share that bus. The module's own local RAM, mailboxes, status and switches reach
none of these and are not part of the model.
-/

namespace Tms32010.Board.SoundMister

open Tms32010.Rtl

/-! ## The module -/

/-- The modules of the board. -/
structure State where
  processor : Mister.State
  programRam : ProgramRam.State
  communicationRam : CommunicationRam.State
  ports : SoundPorts
  hostTiming : HostTiming.State
  hostControl : HostControl.State
  bioGenerator : BioGenerator.State

/-- The inputs of one clock. -/
structure Inputs where
  initializeI : Bool
  clockEnable : Bool
  dspResetN : Bool
  bio : Bool
  useBoardBio : Bool
  boardResetN : Bool
  bioOneMhzRise : Bool
  bioCounterSeed : BitVec 8
  bioCounterSeedValid : Bool
  useHostControl : Bool
  hostLatchWriteCommit : Bool
  hostLatchAddress : BitVec 4
  useHostTiming : Bool
  host8mhzRise : Bool
  host8mhzFall : Bool
  hostAddressStrobeAssert : Bool
  hostAddressStrobeDeassert : Bool
  hostFunctionCode : BitVec 3
  hostBusAddress : BitVec 23
  hostReadNotWrite : Bool
  hostUpperDataStrobeN : Bool
  hostLowerDataStrobeN : Bool
  hostBusWriteData : BitVec 16
  hostProgramSelectN : Bool
  hostWrite : Bool
  hostCommit : Bool
  hostAddress : BitVec 12
  hostWriteData : BitVec 16
  communicationHostEnable : Bool
  hostCommunicationSelectN : Bool
  hostCommunicationWrite : Bool
  hostCommunicationCommit : Bool
  hostCommunicationAddress : BitVec 9
  hostCommunicationWriteData : BitVec 16
  hostIrqClearCommit : Bool
  ioReadData : BitVec 16
  ioReady : Bool
  soundRom : RomPath.Inputs
  debugDataWrite : Bool
  debugDataAddress : BitVec 8
  debugData : BitVec 16

/-! ## Host side -/

section Host

variable (s : State) (i : Inputs)

/-- The inputs of `host_timing`. -/
def hostTimingInputs : HostTiming.Inputs where
  initializeI := i.initializeI
  host8mhzRise := i.host8mhzRise
  host8mhzFall := i.host8mhzFall
  addressStrobeAssert := i.hostAddressStrobeAssert
  addressStrobeDeassert := i.hostAddressStrobeDeassert
  functionCode := i.hostFunctionCode
  address := i.hostBusAddress
  readNotWrite := i.hostReadNotWrite
  upperDataStrobeN := i.hostUpperDataStrobeN
  lowerDataStrobeN := i.hostLowerDataStrobeN

/-- The timing as `local_memory_bridge` sees it: active only under `use_host_timing_i`. -/
def bridge : HostTiming.State :=
  { s.hostTiming with cycleActive := i.useHostTiming && s.hostTiming.cycleActive }

/-- `host_timing_program_io_read_o`. -/
def hostProgramIoRead : Bool := HostTiming.hostProgramIoRead (bridge s i)

/-- `host_timing_program_io_write_o`. -/
def hostProgramIoWrite : Bool := HostTiming.hostProgramIoWrite (bridge s i)

/-- `host_timing_program_io_word_address_o`. -/
def hostProgramIoWordAddress : BitVec 12 := HostTiming.hostProgramWordAddress s.hostTiming

/-- `host_timing_write_word_data`. -/
def hostWriteWord : BitVec 16 :=
  WriteWord.capturedWord i.hostBusWriteData s.hostTiming.upperDataStrobeN
    s.hostTiming.lowerDataStrobeN

/-- `host_timing_write_word_valid`. -/
def hostWriteWordValid : Bool :=
  WriteWord.transferValid s.hostTiming.upperDataStrobeN s.hostTiming.lowerDataStrobeN

/-- `host_timing_write_complete_event` in a quadrant of the low bank. -/
def hostWriteComplete (quadrant : BitVec 2) : Bool :=
  HostTiming.writeCompleteEvent s.hostTiming (hostTimingInputs i) &&
    HostTiming.selectQuadrant s.hostTiming == quadrant

/-- `selected_dsp_reset_n_o`. -/
def selectedDspResetN : Bool :=
  if i.useHostControl then s.hostControl.latchQ.getLsbD 4 else i.dspResetN

/-- `selected_communication_host_enable_o`. -/
def selectedCommunicationHostEnable : Bool :=
  if i.useHostControl then s.hostControl.latchQ.getLsbD 3 else i.communicationHostEnable

/-- `selected_bio_n_o`. -/
def selectedBioN : Bool := if i.useBoardBio then s.bioGenerator.bioN else i.bio

/-- `selected_host_latch_write_commit`. -/
def selectedHostLatchWriteCommit : Bool :=
  if i.useHostTiming then hostWriteComplete s i 1 else i.hostLatchWriteCommit

/-- `selected_host_latch_address`. -/
def selectedHostLatchAddress : BitVec 4 :=
  if i.useHostTiming then s.hostTiming.latchedAddress.extractLsb' 0 4 else i.hostLatchAddress

/-- `selected_host_irq_clear_commit`. -/
def selectedHostIrqClearCommit : Bool :=
  if i.useHostTiming then hostWriteComplete s i 3 else i.hostIrqClearCommit

/-- `selected_host_program_select_n`. -/
def selectedHostProgramSelectN : Bool :=
  if i.useHostTiming then HostTiming.hostProgramRamChipEnableN (bridge s i)
  else i.hostProgramSelectN

/-- `selected_host_program_write`. -/
def selectedHostProgramWrite : Bool :=
  if i.useHostTiming then HostTiming.hostProgramRamWrite (bridge s i) else i.hostWrite

/-- `selected_host_program_commit`. -/
def selectedHostProgramCommit : Bool :=
  if i.useHostTiming then
    HostTiming.hostProgramRamWriteCommit (bridge s i) (hostTimingInputs i) &&
      hostWriteWordValid s
  else i.hostCommit

/-- `selected_host_program_address`. -/
def selectedHostProgramAddress : BitVec 12 :=
  if i.useHostTiming then hostProgramIoWordAddress s else i.hostAddress

/-- `selected_host_program_write_data`. -/
def selectedHostProgramWriteData : BitVec 16 :=
  if i.useHostTiming then hostWriteWord s i else i.hostWriteData

/-- `selected_host_communication_select_n`. -/
def selectedHostCommunicationSelectN : Bool :=
  if i.useHostTiming then HostTiming.hostCommunicationSelectN (bridge s i)
  else i.hostCommunicationSelectN

/-- `selected_host_communication_write`. -/
def selectedHostCommunicationWrite : Bool :=
  if i.useHostTiming then HostTiming.hostCommunicationWrite (bridge s i)
  else i.hostCommunicationWrite

/-- `selected_host_communication_commit`. -/
def selectedHostCommunicationCommit : Bool :=
  if i.useHostTiming then
    HostTiming.hostCommunicationWriteCommit (bridge s i) (hostTimingInputs i) &&
      hostWriteWordValid s
  else i.hostCommunicationCommit

/-- `selected_host_communication_address`. -/
def selectedHostCommunicationAddress : BitVec 9 :=
  if i.useHostTiming then HostTiming.hostCommunicationWordAddress s.hostTiming
  else i.hostCommunicationAddress

/-- `selected_host_communication_write_data`. -/
def selectedHostCommunicationWriteData : BitVec 16 :=
  if i.useHostTiming then hostWriteWord s i else i.hostCommunicationWriteData

end Host

/-! ## Processor pins -/

section Pins

variable (s : State) (i : Inputs)

/-- The inputs of `processor` but for the read data and the readies, which none of the
outputs used here depends on. -/
def processorPins : Mister.Inputs where
  resetI := i.initializeI
  processorReset := !selectedDspResetN s i
  clockEnable := i.clockEnable
  bio := selectedBioN s i
  int := true
  programReadData := 0
  programReady := false
  ioReadData := 0
  ioReady := false
  debugDataWrite := i.debugDataWrite
  debugDataAddress := i.debugDataAddress
  debugData := i.debugData

/-- `native_address_o`. -/
def nativeAddress : BitVec 12 := Mister.programAddress s.processor (processorPins s i)

/-- `native_men_n_o`. -/
def nativeMenN : Bool := Mister.nativeMenN s.processor (processorPins s i)

/-- `native_den_n_o`. -/
def nativeDenN : Bool := Mister.nativeDenN s.processor (processorPins s i)

/-- `native_we_n_o`. -/
def nativeWeN : Bool := Mister.nativeWeN s.processor (processorPins s i)

/-- `logical_program_read`. -/
def logicalProgramRead : Bool := Mister.programRead s.processor (processorPins s i)

/-- `logical_program_write`. -/
def logicalProgramWrite : Bool := Mister.programWrite s.processor (processorPins s i)

/-- `native_write_data`; the two write data outputs of the processor are one signal. -/
def nativeWriteData : BitVec 16 := Mister.writeData s.processor (processorPins s i)

/-- `phase_o`. -/
def phase : BitVec 2 := Mister.phase s.processor

/-- `phase_advance_o`. -/
def phaseAdvance : Bool := Mister.phaseAdvance s.processor (processorPins s i)

/-- The decoded native bus. -/
def decode : BusDecode :=
  busDecode (selectedDspResetN s i) (selectedHostProgramSelectN s i) (nativeAddress s i)
    (nativeMenN s i) (nativeDenN s i) (nativeWeN s i)

/-- `io_port_o`. -/
def ioPort : BitVec 3 := (decode s i).ioPort

/-- `io_read_o`. -/
def ioRead : Bool := (decode s i).ioRead

/-- `io_write_o`. -/
def ioWrite : Bool := (decode s i).ioWrite

end Pins

/-! ## Physical I/O bus -/

section Physical

variable (s : State) (i : Inputs)

/-- `direct_io_ownership_conflict_o`. -/
def directIoOwnershipConflict : Bool :=
  (hostProgramIoRead s i || hostProgramIoWrite s i) && (ioRead s i || ioWrite s i)

/-- `host_direct_io_read_active`. -/
def hostDirectIoReadActive : Bool := hostProgramIoRead s i && !directIoOwnershipConflict s i

/-- `host_direct_io_write_active`. -/
def hostDirectIoWriteActive : Bool :=
  hostProgramIoWrite s i && !directIoOwnershipConflict s i &&
    DirectIo.writeAddressSelected (hostProgramIoWordAddress s)

/-- Some bit of `host_direct_io_read_complete_select_o`. -/
def hostDirectIoReadComplete : Bool :=
  HostTiming.cycleCompleteEvent s.hostTiming (hostTimingInputs i) && hostDirectIoReadActive s i

/-- Some bit of `host_direct_io_write_commit_select_o`. -/
def hostDirectIoWriteCommit : Bool :=
  HostTiming.hostProgramIoWriteCommit (bridge s i) (hostTimingInputs i) &&
    hostDirectIoWriteActive s i

/-- `physical_io_port`. -/
def physicalIoPort : BitVec 3 :=
  if hostDirectIoReadActive s i then DirectIo.readPort (hostProgramIoWordAddress s)
  else if hostDirectIoWriteActive s i then DirectIo.writePort (hostProgramIoWordAddress s)
  else ioPort s i

/-- `physical_io_read`. -/
def physicalIoRead : Bool :=
  if hostDirectIoReadActive s i then true
  else if hostDirectIoWriteActive s i then false
  else ioRead s i && !directIoOwnershipConflict s i

/-- `physical_io_write`. -/
def physicalIoWrite : Bool :=
  if hostDirectIoReadActive s i then false
  else if hostDirectIoWriteActive s i then true
  else ioWrite s i && !directIoOwnershipConflict s i

/-- `physical_io_write_data`. -/
def physicalIoWriteData : BitVec 16 :=
  if hostDirectIoReadActive s i || hostDirectIoWriteActive s i then i.hostBusWriteData
  else nativeWriteData s i

/-- The processor side of `communication_path` reads port 1 at a valid address. -/
def dspPort1Read : Bool :=
  physicalIoRead s i && physicalIoPort s i == 1 && s.ports.addressControl.soundAddressValid

/-- The inputs of the communication RAM. -/
def communicationInputs : CommunicationRam.Inputs where
  initializeI := i.initializeI
  communicationHostEnable := selectedCommunicationHostEnable s i
  hostSelectN := selectedHostCommunicationSelectN s i
  hostWrite := selectedHostCommunicationWrite s i
  hostCommit := selectedHostCommunicationCommit s i
  hostAddress := selectedHostCommunicationAddress s i
  hostWriteData := selectedHostCommunicationWriteData s i
  dspRead := dspPort1Read s i
  dspAddress := s.ports.addressControl.soundAddress.extractLsb' 0 9

/-- `communication_port_1_ready`. -/
def communicationPort1Ready : Bool :=
  CommunicationRam.dspReady s.communicationRam (communicationInputs s i)

/-- `communication_port_1_read_data`. -/
def communicationPort1ReadData : BitVec 16 := CommunicationRam.dspReadData s.communicationRam

/-- `sound_rom_port_0_ready`. -/
def soundRomPort0Ready : Bool :=
  RomPath.ready s.ports.addressControl i.soundRom (physicalIoRead s i && physicalIoPort s i == 0)

/-- `sound_rom_port_0_read_data`. -/
def soundRomPort0ReadData : BitVec 16 := RomPath.readData i.soundRom

/-- `selected_io_read_data`. -/
def selectedIoReadData : BitVec 16 :=
  if ioRead s i && ioPort s i == 0 then soundRomPort0ReadData i
  else if ioRead s i && ioPort s i == 1 then communicationPort1ReadData s
  else i.ioReadData

/-- `selected_io_ready`. -/
def selectedIoReady : Bool :=
  if directIoOwnershipConflict s i then false
  else if ioRead s i && ioPort s i == 0 then soundRomPort0Ready s i
  else if ioRead s i && ioPort s i == 1 then communicationPort1Ready s i
  else if ioWrite s i &&
      (ioPort s i == 0 || ioPort s i == 3 || ioPort s i == 4 || ioPort s i == 5) then true
  else i.ioReady

/-- `io_commit_o`. -/
def ioCommit : Bool :=
  phaseAdvance s i && phase s == 3 && selectedIoReady s i && (ioRead s i || ioWrite s i)

/-- `physical_io_commit`. -/
def physicalIoCommit : Bool :=
  !directIoOwnershipConflict s i &&
    (ioCommit s i || hostDirectIoReadComplete s i || hostDirectIoWriteCommit s i)

/-- The physical I/O bus. -/
def physicalIo : PhysicalIo where
  ioPort := physicalIoPort s i
  ioRead := physicalIoRead s i
  ioWrite := physicalIoWrite s i
  ioWriteData := physicalIoWriteData s i
  ioCommit := physicalIoCommit s i

/-- `host_direct_io_read_data_o` and `host_direct_io_read_valid_mask_o` at port 1. -/
def hostPort1Read : BitVec 16 × BitVec 16 :=
  let driven : BitVec 16 := if selectedCommunicationHostEnable s i then 0 else 0xffff
  let valid : BitVec 16 := if communicationPort1Ready s i then 0xffff else 0
  (communicationPort1ReadData s &&& valid &&& driven, valid &&& driven)

end Physical

/-! ## Program store and clock edge -/

section Edge

variable (s : State) (i : Inputs)

/-- The inputs of the program RAM but for `ram_tms_commit`, which its ready does not
depend on. -/
def programRamPins : ProgramRam.Inputs where
  initializeI := i.initializeI
  dspResetN := selectedDspResetN s i
  hostProgramSelectN := selectedHostProgramSelectN s i
  hostWrite := selectedHostProgramWrite s i
  hostCommit := selectedHostProgramCommit s i
  hostAddress := selectedHostProgramAddress s i
  hostWriteData := selectedHostProgramWriteData s i
  tmsAddress := nativeAddress s i
  tmsMenN := nativeMenN s i
  tmsDenN := nativeDenN s i
  tmsWeN := nativeWeN s i
  tmsCommit := false
  tmsWriteData := nativeWriteData s i

/-- `ram_tms_program_ready`. -/
def ramTmsProgramReady : Bool := ProgramRam.tmsProgramReady s.programRam (programRamPins s i)

/-- `ram_tms_commit`. -/
def ramTmsCommit : Bool := phaseAdvance s i && phase s == 3 && ramTmsProgramReady s i

/-- The inputs of the program RAM. -/
def programRamInputs : ProgramRam.Inputs :=
  { programRamPins s i with tmsCommit := ramTmsCommit s i }

/-- `logical_program_ready`. -/
def logicalProgramReady : Bool :=
  if logicalProgramRead s i then ramTmsProgramReady s i
  else if logicalProgramWrite s i then
    if (decode s i).dspProgramWrite then ramTmsProgramReady s i
    else if ioWrite s i then selectedIoReady s i
    else false
  else false

/-- The inputs of `processor`. -/
def processorInputs : Mister.Inputs :=
  { processorPins s i with
    programReadData := ProgramRam.tmsReadData s.programRam
    programReady := logicalProgramReady s i
    ioReadData := selectedIoReadData s i
    ioReady := selectedIoReady s i }

/-- The inputs of `bio_generator`. -/
def bioGeneratorInputs : BioGenerator.Inputs where
  initializeI := i.initializeI
  boardResetN := i.boardResetN
  oneMhzRise := i.bioOneMhzRise
  clkoutRise := phaseAdvance s i && phase s == 1
  counterSeed := i.bioCounterSeed
  counterSeedValid := i.bioCounterSeedValid

/-- One clock edge. -/
def step : State where
  processor := Mister.step s.processor (processorInputs s i)
  programRam := ProgramRam.step s.programRam (programRamInputs s i)
  communicationRam := CommunicationRam.step s.communicationRam (communicationInputs s i)
  ports := s.ports.step i.initializeI (selectedDspResetN s i) (physicalIo s i)
    (selectedHostIrqClearCommit s i)
  hostTiming := HostTiming.step s.hostTiming (hostTimingInputs i)
  hostControl := HostControl.step s.hostControl i.initializeI i.boardResetN
    (selectedHostLatchWriteCommit s i) (selectedHostLatchAddress s i)
  bioGenerator := BioGenerator.step s.bioGenerator (bioGeneratorInputs s i)

end Edge

/-! ## A power-up state -/

/-- A board whose registers are all clear, over a program and the words of the
communication RAM. -/
def clearState (program : BitVec 12 → BitVec 16) (words : BitVec 9 → BitVec 16) : State where
  processor := Mister.clearState
  programRam := ⟨program, false, false, 0⟩
  communicationRam := ⟨words, false, false, 0⟩
  ports := ⟨AddressControl.idle, ⟨0, false, false⟩, ⟨0, false, false⟩, ⟨true, false, false⟩⟩
  hostTiming := HostTiming.idle
  hostControl := ⟨0, 0⟩
  bioGenerator := BioGenerator.clearState

/-- An enabled clock with the DSP running, the external callbacks ready and a host that
leaves the board alone. -/
def enabledInputs : Inputs where
  initializeI := false
  clockEnable := true
  dspResetN := true
  bio := true
  useBoardBio := false
  boardResetN := true
  bioOneMhzRise := false
  bioCounterSeed := 0
  bioCounterSeedValid := false
  useHostControl := false
  hostLatchWriteCommit := false
  hostLatchAddress := 0
  useHostTiming := true
  host8mhzRise := false
  host8mhzFall := false
  hostAddressStrobeAssert := false
  hostAddressStrobeDeassert := false
  hostFunctionCode := 5
  hostBusAddress := 0
  hostReadNotWrite := true
  hostUpperDataStrobeN := false
  hostLowerDataStrobeN := false
  hostBusWriteData := 0
  hostProgramSelectN := true
  hostWrite := false
  hostCommit := false
  hostAddress := 0
  hostWriteData := 0
  communicationHostEnable := false
  hostCommunicationSelectN := true
  hostCommunicationWrite := false
  hostCommunicationCommit := false
  hostCommunicationAddress := 0
  hostCommunicationWriteData := 0
  hostIrqClearCommit := false
  ioReadData := 0
  ioReady := true
  soundRom := ⟨0, 0, false⟩
  debugDataWrite := false
  debugDataAddress := 0
  debugData := 0

end Tms32010.Board.SoundMister
