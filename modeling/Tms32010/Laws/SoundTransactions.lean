import Tms32010.Board.SoundBoard
import Tms32010.Laws.HostTransactions

/-!
# Transactions of the sound processor

The local 68000 acts on the board only through the bus cycles it completes. A completed
cycle with the word then on the data bus is a transaction; every commit of the board under
its own timing is the commit of a transaction.
-/

namespace Tms32010.Board

namespace HostTiming.BusCycle

variable (c : BusCycle)

/-- The cycle reads a quadrant of the low bank. -/
def readsLow (quadrant : BitVec 2) : Bool := c.bank 4 && c.readNotWrite && c.quadrant == quadrant

/-- The cycle writes a quadrant of the low bank. -/
def writesLow (quadrant : BitVec 2) : Bool :=
  c.bank 4 && !c.readNotWrite && c.quadrant == quadrant

/-- The cycle strobes a lane. -/
def transfers : Bool := WriteWord.transferValid c.upperDataStrobeN c.lowerDataStrobeN

end HostTiming.BusCycle

namespace SoundBoard

open HostTiming (BusCycle)

/-- A completed bus cycle, with the word on the data bus. -/
structure Transaction where
  cycle : BusCycle
  data : BitVec 16
  deriving DecidableEq, Repr

/-- The word a transaction writes to a target of whole words. -/
def Transaction.word (t : Transaction) : BitVec 16 :=
  WriteWord.capturedWord t.data t.cycle.upperDataStrobeN t.cycle.lowerDataStrobeN

/-! ## Runs -/

section Run

variable (start : State) (inputs : ℕ → Inputs)

/-- The timing before a clock. -/
def timingAt (clock : ℕ) : HostTiming.State := (stateAt start inputs clock).shared.hostTiming

/-- The inputs of the timing in a clock. -/
def wiresAt (clock : ℕ) : HostTiming.Inputs := timingInputs (inputs clock)

/-- The transaction a clock completes. -/
def transactionAt (clock : ℕ) : Option Transaction :=
  (HostTiming.completedAt (timingAt start inputs) (wiresAt inputs) clock).map fun cycle =>
    ⟨cycle, (inputs clock).shared.hostBusWriteData⟩

/-- The local 68000 drives the bus of the board in an orderly run. -/
structure Hosted : Prop where
  orderly : HostTiming.Orderly (timingAt start inputs) (wiresAt inputs)
  hosted : ∀ clock, (inputs clock).shared.useHostTiming = true

variable {start inputs} {clock : ℕ}

theorem timing_runs (start : State) (inputs : ℕ → Inputs) :
    HostTiming.Runs (timingAt start inputs) (wiresAt inputs) :=
  fun _ => rfl

theorem bridge_eq {s : State} {i : Inputs} (hosted : i.shared.useHostTiming = true) :
    bridge s i = s.shared.hostTiming := by
  unfold bridge SoundMister.bridge
  rw [hosted, Bool.true_and]

theorem Hosted.quiet (hosted : Hosted start inputs) (later : 0 < clock) :
    (inputs clock).shared.initializeI = false :=
  hosted.orderly.quiet later

/-- A clock completes a transaction exactly at a completion event. -/
theorem Hosted.transactionAt_eq (hosted : Hosted start inputs) (later : 0 < clock) :
    transactionAt start inputs clock =
      if HostTiming.cycleCompleteEvent (timingAt start inputs clock) (wiresAt inputs clock) then
        some ⟨(timingAt start inputs clock).busCycle, (inputs clock).shared.hostBusWriteData⟩
      else none := by
  unfold transactionAt HostTiming.completedAt
  rw [hosted.orderly.quiet later, Bool.not_false, Bool.true_and]
  split_ifs <;> rfl

theorem Hosted.transactionAt_initialized (hosted : Hosted start inputs) :
    transactionAt start inputs 0 = none := by
  unfold transactionAt HostTiming.completedAt
  rw [hosted.orderly.initialized]
  rfl

theorem Hosted.later (hosted : Hosted start inputs) {t : Transaction}
    (completes : transactionAt start inputs clock = some t) : 0 < clock := by
  by_contra first
  obtain rfl : clock = 0 := by omega
  rw [hosted.transactionAt_initialized] at completes
  cases completes

/-- A transaction is the latched cycle at a completion event. -/
theorem Hosted.event (hosted : Hosted start inputs) {t : Transaction}
    (completes : transactionAt start inputs clock = some t) :
    HostTiming.cycleCompleteEvent (timingAt start inputs clock) (wiresAt inputs clock) = true ∧
      t = ⟨(timingAt start inputs clock).busCycle, (inputs clock).shared.hostBusWriteData⟩ := by
  have later := hosted.later completes
  rw [hosted.transactionAt_eq later] at completes
  split_ifs at completes with event
  exact ⟨event, (Option.some.inj completes).symm⟩

/-- What is committed under the completion event is committed for a transaction. -/
theorem Hosted.commit_iff (hosted : Hosted start inputs) (later : 0 < clock) {commit : Bool}
    (selects : BusCycle → Bool)
    (same : commit = (HostTiming.cycleCompleteEvent (timingAt start inputs clock)
      (wiresAt inputs clock) && selects (timingAt start inputs clock).busCycle)) :
    commit = (transactionAt start inputs clock).any fun t => selects t.cycle := by
  rw [same, hosted.transactionAt_eq later]
  split_ifs with event
  · rw [event]
    rfl
  · rw [Bool.not_eq_true] at event
    rw [event]
    rfl

/-- Every ordinary strobe completes once, in order, as the cycle it started. -/
theorem Hosted.channel (hosted : Hosted start inputs) (later : 0 < clock) :
    HostTiming.before (HostTiming.strobedAt (wiresAt inputs)) clock =
      (HostTiming.before (transactionAt start inputs) clock).map Transaction.cycle ++
        (HostTiming.pending (timingAt start inputs clock)).toList := by
  have cycles : (HostTiming.before (transactionAt start inputs) clock).map Transaction.cycle =
      HostTiming.before
        (HostTiming.completedAt (timingAt start inputs) (wiresAt inputs)) clock := by
    unfold HostTiming.before
    rw [List.map_filterMap]
    congr 1
    funext place
    unfold transactionAt
    rw [Option.map_map]
    exact congrFun Option.map_id _
  rw [cycles]
  exact hosted.orderly.channel (timing_runs start inputs) later

end Run

/-! ## Scripted boards -/

/-- The inputs of a board with the given wires and the given word on the data bus; the DSP
is held in reset. -/
def wiredInputs (wire : HostTiming.Inputs) (data : BitVec 16) : Inputs where
  shared :=
    { SoundMister.enabledInputs with
      initializeI := wire.initializeI
      dspResetN := false
      host8mhzRise := wire.host8mhzRise
      host8mhzFall := wire.host8mhzFall
      hostAddressStrobeAssert := wire.addressStrobeAssert
      hostAddressStrobeDeassert := wire.addressStrobeDeassert
      hostFunctionCode := wire.functionCode
      hostBusAddress := wire.address
      hostReadNotWrite := wire.readNotWrite
      hostUpperDataStrobeN := wire.upperDataStrobeN
      hostLowerDataStrobeN := wire.lowerDataStrobeN
      hostBusWriteData := data }
  hostLocalRomReadData := 0
  hostLocalRomReadDataValid := false
  useInternalLocalRam := true
  hostLocalRamReadData := 0
  hostLocalRamReadValidMask := 0
  mainMailboxWriteCommit := false
  mainMailboxWriteData := 0
  soundCpuMailboxReadCommit := false
  soundCpuMailboxWriteCommit := false
  soundCpuMailboxWriteData := 0
  mainMailboxReadCommit := false
  soundTest := false
  soundTestValid := false
  tirdyN := false
  tirdyNValid := false
  j3Switch := 0
  j3SwitchValid := 0
  soundCpuLowReadSelectValid := false
  soundCpuLowReadQuadrant := 0

/-- A board in its power-up state. -/
def powerUp : State :=
  ⟨SoundMister.clearState (fun _ => 0) fun _ => 0, LocalRam.staleState,
    ⟨⟨0, false, false, false⟩, ⟨0, false, false, false⟩⟩⟩

/-- A board on scripted wires runs in order. -/
theorem hosted_of_script {inputs : ℕ → Inputs} {first : ℕ} {script : List HostTiming.Inputs}
    (wired : wiresAt inputs = HostTiming.scriptedWire first script)
    (hosted : ∀ clock, (inputs clock).shared.useHostTiming = true) (positive : 0 < first)
    (legal : HostTiming.legal HostTiming.settledRelease none HostTiming.idle script = true) :
    Hosted powerUp inputs := by
  have runs := timing_runs powerUp inputs
  have orderly := HostTiming.orderly_of_script (wired ▸ runs) positive legal
  exact ⟨wired ▸ orderly, hosted⟩

end SoundBoard

end Tms32010.Board
