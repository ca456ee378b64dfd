import Tms32010.Board.LocalRam
import Tms32010.Board.Mailboxes
import Tms32010.Board.SoundBus

/-!
# The local side of the sound board

What `hard_drivin_sound_mister` keeps beside its processor: the local RAM with its reset
interlock, the mailboxes, and the reads of the local 68000. The ROM and the local RAM
answer through `hard_drivin_sound_local_memory_bridge`; the mailbox, the port-3 latch, the
switches and the status answer through `hard_drivin_sound_host_read_mux`.
-/

namespace Tms32010.Board

/-! ## Reads of the host -/

/-- What a source of the host data bus presents: a word, the lines it drives and the lines
that are known. -/
structure HostRead where
  data : BitVec 16
  driven : BitVec 16
  valid : BitVec 16
  deriving DecidableEq, Repr

/-- No source is selected. -/
def HostRead.none : HostRead := ⟨0, 0, 0⟩

/-- Sixteen copies of a line. -/
def wordMask (line : Bool) : BitVec 16 := if line then 0xffff else 0

/-- `hard_drivin_sound_read_status`. -/
def readStatus (mainFlag mainFlagValid soundFlag soundFlagValid soundTest soundTestValid tirdyN
    tirdyNValid : Bool) : HostRead where
  data := BitVec.ofBool (mainFlagValid && mainFlag) ++ BitVec.ofBool (soundFlagValid && soundFlag) ++
    BitVec.ofBool (soundTestValid && soundTest) ++ BitVec.ofBool (tirdyNValid && tirdyN) ++ 0#12
  driven := 0xf000
  valid := BitVec.ofBool mainFlagValid ++ BitVec.ofBool soundFlagValid ++
    BitVec.ofBool soundTestValid ++ BitVec.ofBool tirdyNValid ++ 0#12

/-- `hard_drivin_sound_switches`. -/
def switches (j3Switch j3SwitchValid : BitVec 4) : HostRead where
  data := (j3Switch &&& j3SwitchValid) ++ 0#12
  driven := 0xf000
  valid := j3SwitchValid ++ 0#12

/-- The host side of `hard_drivin_sound_320_port_latch`. -/
def CportLatch.State.hostRead (s : CportLatch.State) : HostRead where
  data := s.latchData ++ 0#8
  driven := 0xff00
  valid := if s.latchDataValid then 0xff00 else 0

/-- `hard_drivin_sound_host_read_mux`. -/
def hostReadMux (readSelectValid : Bool) (readQuadrant : BitVec 2)
    (soundRead port320 switches status : HostRead) : HostRead :=
  if readSelectValid then
    let selected :=
      if readQuadrant == 0 then soundRead
      else if readQuadrant == 1 then port320
      else if readQuadrant == 2 then switches
      else status
    { selected with data := selected.data &&& selected.valid }
  else HostRead.none

/-! ## Reset interlock -/

namespace LocalResetInterlock

section Signals

variable (initializeI boardResetN useInternalLocalRam storageReady : Bool)

/-- `platform_release_permitted`. -/
def platformReleasePermitted : Bool := !initializeI && (!useInternalLocalRam || storageReady)

/-- `local_processor_reset_n_o`. -/
def localProcessorResetN : Bool :=
  boardResetN && platformReleasePermitted initializeI useInternalLocalRam storageReady

end Signals

end LocalResetInterlock

/-! ## Local memory bridge -/

namespace HostTiming

section Bridge

variable (s : State)

/-- `rom_select_n_o`: only `A23` and the address strobe. -/
def romSelectN : Bool := s.latchedAddress.getLsbD 22 || !s.cycleActive

/-- `rom_read_request_o`. -/
def romReadRequest : Bool := !romSelectN s && s.readNotWrite

/-- `local_ram_read_request_o`. -/
def localRamReadRequest : Bool := !localRamSelectN s && s.readNotWrite

/-- `local_ram_word_address_o`: `A13:A1`. -/
def localRamWordAddress : BitVec 13 := s.latchedAddress.extractLsb' 0 13

/-- `host_read_target_select_o`. -/
def localMemoryTarget : BitVec 2 :=
  if romReadRequest s then 1 else if localRamReadRequest s then 2 else 0

/-- `host_read_data_o`, `host_read_driven_mask_o` and `host_read_valid_mask_o`. -/
def localMemoryRead (romReadData : BitVec 16) (romReadDataValid : Bool) (ramReadData : BitVec 16)
    (ramReadValidMask : BitVec 16) : HostRead :=
  if romReadRequest s then
    ⟨romReadData &&& wordMask romReadDataValid, 0xffff, wordMask romReadDataValid⟩
  else if localRamReadRequest s then
    ⟨ramReadData &&& ramReadValidMask, 0xffff, ramReadValidMask⟩
  else HostRead.none

end Bridge

end HostTiming

/-! ## The module -/

namespace SoundBoard

/-- The processor with what it shares with the host, the local RAM and the mailboxes. -/
structure State where
  shared : SoundMister.State
  localRam : LocalRam.State
  mailboxes : Mailboxes.State

/-- The inputs of one clock. -/
structure Inputs where
  shared : SoundMister.Inputs
  hostLocalRomReadData : BitVec 16
  hostLocalRomReadDataValid : Bool
  useInternalLocalRam : Bool
  hostLocalRamReadData : BitVec 16
  hostLocalRamReadValidMask : BitVec 16
  mainMailboxWriteCommit : Bool
  mainMailboxWriteData : BitVec 16
  soundCpuMailboxReadCommit : Bool
  soundCpuMailboxWriteCommit : Bool
  soundCpuMailboxWriteData : BitVec 16
  mainMailboxReadCommit : Bool
  soundTest : Bool
  soundTestValid : Bool
  tirdyN : Bool
  tirdyNValid : Bool
  j3Switch : BitVec 4
  j3SwitchValid : BitVec 4
  soundCpuLowReadSelectValid : Bool
  soundCpuLowReadQuadrant : BitVec 2

section Signals

variable (s : State) (i : Inputs)

/-- The inputs of `host_timing`. -/
def timingInputs : HostTiming.Inputs := SoundMister.hostTimingInputs i.shared

/-- The timing as `local_memory_bridge` sees it. -/
def bridge : HostTiming.State := SoundMister.bridge s.shared i.shared

/-- `host_timing_read_complete_event` in a quadrant of the low bank. -/
def hostReadComplete (quadrant : BitVec 2) : Bool :=
  HostTiming.readCompleteEvent s.shared.hostTiming (timingInputs i) &&
    HostTiming.selectQuadrant s.shared.hostTiming == quadrant

/-- The inputs of `local_ram`. -/
def localRamInputs : LocalRam.Inputs where
  initializeI := i.shared.initializeI
  readRequest := i.useInternalLocalRam && HostTiming.localRamReadRequest (bridge s i)
  wordAddress := HostTiming.localRamWordAddress s.shared.hostTiming
  upperWriteCommit := i.useInternalLocalRam &&
    HostTiming.localRamUpperWriteCommit (bridge s i) (timingInputs i)
  lowerWriteCommit := i.useInternalLocalRam &&
    HostTiming.localRamLowerWriteCommit (bridge s i) (timingInputs i)
  writeData := i.shared.hostBusWriteData

/-- `host_local_ram_storage_ready_o`. -/
def storageReady : Bool := LocalRam.storageReady s.localRam (localRamInputs s i)

/-- `selected_local_ram_read_data`. -/
def selectedLocalRamReadData : BitVec 16 :=
  if i.useInternalLocalRam then LocalRam.readData s.localRam (localRamInputs s i)
  else i.hostLocalRamReadData

/-- `selected_local_ram_read_valid_mask`. -/
def selectedLocalRamReadValidMask : BitVec 16 :=
  if i.useInternalLocalRam then LocalRam.readValidMask s.localRam (localRamInputs s i)
  else i.hostLocalRamReadValidMask

/-- `host_local_memory_read_data_o` and its masks. -/
def hostLocalMemoryRead : HostRead :=
  HostTiming.localMemoryRead (bridge s i) i.hostLocalRomReadData i.hostLocalRomReadDataValid
    (selectedLocalRamReadData s i) (selectedLocalRamReadValidMask s i)

/-- `host_local_memory_read_missing_o`. -/
def hostLocalMemoryReadMissing : Bool :=
  HostTiming.cycleCompleteEvent (bridge s i) (timingInputs i) &&
    HostTiming.localMemoryTarget (bridge s i) != 0 &&
    (hostLocalMemoryRead s i).valid != (hostLocalMemoryRead s i).driven

/-- `local_processor_reset_n_o`. -/
def localProcessorResetN : Bool :=
  LocalResetInterlock.localProcessorResetN i.shared.initializeI i.shared.boardResetN
    i.useInternalLocalRam (storageReady s i)

/-- `selected_sound_cpu_mailbox_read_commit`. -/
def selectedSoundCpuMailboxReadCommit : Bool :=
  if i.shared.useHostTiming then hostReadComplete s i 0 else i.soundCpuMailboxReadCommit

/-- `selected_sound_cpu_mailbox_write_commit`. -/
def selectedSoundCpuMailboxWriteCommit : Bool :=
  if i.shared.useHostTiming then
    SoundMister.hostWriteComplete s.shared i.shared 0 && SoundMister.hostWriteWordValid s.shared
  else i.soundCpuMailboxWriteCommit

/-- `selected_sound_cpu_mailbox_write_data`. -/
def selectedSoundCpuMailboxWriteData : BitVec 16 :=
  if i.shared.useHostTiming then SoundMister.hostWriteWord s.shared i.shared
  else i.soundCpuMailboxWriteData

/-- The inputs of `mailboxes`. -/
def mailboxInputs : Mailboxes.Inputs where
  initializeI := i.shared.initializeI
  boardResetN := i.shared.boardResetN
  mainWriteCommit := i.mainMailboxWriteCommit
  mainWriteData := i.mainMailboxWriteData
  soundReadCommit := selectedSoundCpuMailboxReadCommit s i
  soundWriteCommit := selectedSoundCpuMailboxWriteCommit s i
  soundWriteData := selectedSoundCpuMailboxWriteData s i
  mainReadCommit := i.mainMailboxReadCommit

/-- `sound_cpu_read_status_data_o` and its masks. -/
def soundCpuReadStatus : HostRead :=
  readStatus s.mailboxes.mainToSound.flag s.mailboxes.mainToSound.flagValid
    s.mailboxes.soundToMain.flag s.mailboxes.soundToMain.flagValid i.soundTest i.soundTestValid
    i.tirdyN i.tirdyNValid

/-- `sound_cpu_mailbox_read_data_o` and its masks. -/
def soundCpuMailboxRead : HostRead :=
  ⟨s.mailboxes.mainToSound.data, 0xffff, wordMask s.mailboxes.mainToSound.dataValid⟩

/-- `selected_sound_cpu_low_read_select_valid`. -/
def selectedSoundCpuLowReadSelectValid : Bool :=
  if i.shared.useHostTiming then HostTiming.readSelectValid s.shared.hostTiming
  else i.soundCpuLowReadSelectValid

/-- `selected_sound_cpu_low_read_quadrant`. -/
def selectedSoundCpuLowReadQuadrant : BitVec 2 :=
  if i.shared.useHostTiming then HostTiming.selectQuadrant s.shared.hostTiming
  else i.soundCpuLowReadQuadrant

/-- `sound_cpu_low_read_data_o` and its masks. -/
def soundCpuLowRead : HostRead :=
  hostReadMux (selectedSoundCpuLowReadSelectValid s i) (selectedSoundCpuLowReadQuadrant s i)
    (soundCpuMailboxRead s) s.shared.ports.cportLatch.hostRead
    (switches i.j3Switch i.j3SwitchValid) (soundCpuReadStatus s i)

/-- One clock edge. -/
def step : State where
  shared := SoundMister.step s.shared i.shared
  localRam := LocalRam.step s.localRam (localRamInputs s i)
  mailboxes := Mailboxes.step s.mailboxes (mailboxInputs s i)

end Signals

section Run

variable (start : State) (inputs : ℕ → Inputs)

/-- The state before a clock. -/
def stateAt : ℕ → State := Timeline.state step start inputs

theorem stateAt_succ (clock : ℕ) :
    stateAt start inputs (clock + 1) = step (stateAt start inputs clock) (inputs clock) :=
  rfl

/-- The shared part runs as `SoundMister`. -/
theorem shared_stateAt (clock : ℕ) :
    (stateAt start inputs clock).shared =
      SoundMister.stateAt start.shared (fun clock => (inputs clock).shared) clock := by
  induction clock with
  | zero => rfl
  | succ clock ih =>
      rw [stateAt_succ]
      change SoundMister.step (stateAt start inputs clock).shared (inputs clock).shared = _
      rw [ih]
      rfl

end Run

end SoundBoard

end Tms32010.Board
