import Tms32010.Laws.BoardRuns
import Tms32010.Laws.SoundTransactions

/-!
# Boot

The local 68000 starts the processor: under DSP reset it writes a program into the program
RAM, word by word, and then releases the reset through the control latch. All of this is in
the bus cycles it completes. The processor then runs the words they carried as the reference
model does.
-/

namespace Tms32010.Board

/-- The cycle addresses the program RAM; bit 12 is `A13`. -/
def HostTiming.BusCycle.programRam (c : HostTiming.BusCycle) : Bool :=
  c.bank 5 && !c.address.getLsbD 12

namespace SoundBoard

open HostTiming (BusCycle before before_succ)
open SoundMister (Disciplined hostStore? resetAt)
open Timeline (stored)

/-! ## What transactions leave -/

/-- The word a transaction stores in the program RAM. -/
def Transaction.load? (t : Transaction) : Option (BitVec 12 × BitVec 16) :=
  if t.cycle.programRam && !t.cycle.readNotWrite && t.cycle.transfers then
    some (t.cycle.address.extractLsb' 0 12, t.word)
  else none

/-- The program after some transactions. -/
def loaded (program : BitVec 12 → BitVec 16) (ts : List Transaction) : BitVec 12 → BitVec 16 :=
  ts.foldl (fun program t => stored program t.load?) program

/-- The control latch after a transaction: the address selects the output and carries the
level. -/
def latched (latchQ : BitVec 8) (t : Transaction) : BitVec 8 :=
  if t.cycle.writesLow 1 then
    HostControl.writeSelected latchQ (t.cycle.address.extractLsb' 0 3) (t.cycle.address.getLsbD 3)
  else latchQ

/-- The control latch after some transactions. -/
def latchAfter (ts : List Transaction) : BitVec 8 := ts.foldl latched 0

/-- The DSP is out of reset after some transactions. -/
def releases (ts : List Transaction) : Bool := (latchAfter ts).getLsbD 4

/-- A cycle of the program RAM does not write the control latch. -/
theorem latched_programRam {q : BitVec 8} {t : Transaction} (loads : t.cycle.programRam = true) :
    latched q t = q := by
  unfold BusCycle.programRam BusCycle.bank at loads
  simp only [Bool.and_eq_true, beq_iff_eq] at loads
  unfold latched BusCycle.writesLow BusCycle.bank
  rw [loads.1.2]
  simp

/-! ## Runs -/

section Run

variable (start : State) (inputs : ℕ → Inputs)

/-- The transactions before a clock. -/
def transactionsBefore (clock : ℕ) : List Transaction := before (transactionAt start inputs) clock

/-- The inputs of the shared part. -/
def sharedInputs (clock : ℕ) : SoundMister.Inputs := (inputs clock).shared

/-- The local 68000 has the board under its control, and starts a cycle of the program RAM
only under DSP reset. -/
structure Controlled : Prop where
  hosted : Hosted start inputs
  controlled : ∀ clock, (inputs clock).shared.useHostControl = true
  running : ∀ clock, 0 < clock → (inputs clock).shared.boardResetN = true
  initially : Disciplined start.shared (inputs 0).shared
  guarded : ∀ clock, 0 < clock → (wiresAt inputs clock).addressStrobeAssert = true →
    (wiresAt inputs clock).busCycle.programRam = true →
      releases (transactionsBefore start inputs clock) = false

/-- The transactions hold the DSP in reset until `release` and out of it afterwards; the
stretch of the reset ends after `last`. -/
structure Boots (release last count : ℕ) : Prop where
  controlled : Controlled start inputs
  held : ∀ clock, 0 < clock → clock ≤ release →
    releases (transactionsBefore start inputs clock) = false
  freed : ∀ clock, release < clock → clock ≤ last + count →
    releases (transactionsBefore start inputs clock) = true
  later : release ≤ last
  active : resetAt start.shared (sharedInputs inputs) last = true
  inactive : resetAt start.shared (sharedInputs inputs) (last + 1) = false
  noDebug : ∀ clock, last < clock → clock ≤ last + count →
    (inputs clock).shared.debugDataWrite = false
  high : ∀ clock, last < clock → clock ≤ last + count →
    SoundMister.StoresHigh (stateAt start inputs clock).shared (inputs clock).shared

/-- What the transactions leave of the board. -/
structure Booted (last count : ℕ) : Prop where
  /-- The control latch is the one the transactions leave. -/
  latch : ∀ clock, 0 < clock → (stateAt start inputs clock).shared.hostControl.latchQ =
    latchAfter (transactionsBefore start inputs clock)
  /-- The program that starts is the initial one with the words of the transactions. -/
  program :
    (SoundMister.architectureAt start.shared (sharedInputs inputs) (last + 1) 0).program =
      loaded start.shared.programRam.programRam (transactionsBefore start inputs (last + 1))
  /-- The processor runs it as the reference model does. -/
  runs : SoundMister.RunsModel start.shared (sharedInputs inputs) last count

variable {start inputs} {clock : ℕ}

theorem stateAt_shared (clock : ℕ) :
    (stateAt start inputs clock).shared =
      SoundMister.stateAt start.shared (sharedInputs inputs) clock :=
  shared_stateAt start inputs clock

theorem transactionsBefore_succ (start : State) (inputs : ℕ → Inputs) (clock : ℕ) :
    transactionsBefore start inputs (clock + 1) =
      transactionsBefore start inputs clock ++ (transactionAt start inputs clock).toList :=
  before_succ (transactionAt start inputs) clock

theorem latchAfter_append (ts more : List Transaction) :
    latchAfter (ts ++ more) = more.foldl latched (latchAfter ts) :=
  List.foldl_append

/-! ### Control latch -/

/-- The board writes the latch as the transaction of the clock does. -/
theorem Controlled.latch_next (controlled : Controlled start inputs) (later : 0 < clock) :
    (stateAt start inputs (clock + 1)).shared.hostControl.latchQ =
      (transactionAt start inputs clock).toList.foldl latched
        (stateAt start inputs clock).shared.hostControl.latchQ := by
  have hosted := controlled.hosted
  have commit : SoundMister.selectedHostLatchWriteCommit (stateAt start inputs clock).shared
      (inputs clock).shared = (transactionAt start inputs clock).any fun t => t.cycle.writesLow 1 := by
    apply hosted.commit_iff later fun c => c.writesLow 1
    unfold SoundMister.selectedHostLatchWriteCommit SoundMister.hostWriteComplete
    rw [hosted.hosted clock, if_pos rfl]
    change (HostTiming.writeCompleteEvent (timingAt start inputs clock) (wiresAt inputs clock) &&
      HostTiming.selectQuadrant (timingAt start inputs clock) == 1) = _
    rw [HostTiming.writeCompleteEvent_eq, Bool.and_assoc]
    rfl
  change (HostControl.step (stateAt start inputs clock).shared.hostControl
    (inputs clock).shared.initializeI (inputs clock).shared.boardResetN
    (SoundMister.selectedHostLatchWriteCommit (stateAt start inputs clock).shared
      (inputs clock).shared)
    (SoundMister.selectedHostLatchAddress (stateAt start inputs clock).shared
      (inputs clock).shared)).latchQ = _
  unfold HostControl.step
  rw [hosted.quiet later, controlled.running clock later, if_neg Bool.false_ne_true,
    if_neg (by decide), commit]
  cases happens : transactionAt start inputs clock with
  | none => rfl
  | some t =>
      have address : SoundMister.selectedHostLatchAddress (stateAt start inputs clock).shared
          (inputs clock).shared = t.cycle.address.extractLsb' 0 4 := by
        rw [(hosted.event happens).2]
        unfold SoundMister.selectedHostLatchAddress
        rw [hosted.hosted clock, if_pos rfl]
        rfl
      rw [address, Option.any_some, Option.toList_some, List.foldl_cons, List.foldl_nil]
      unfold latched
      split_ifs with writes
      · have select : (t.cycle.address.extractLsb' 0 4).extractLsb' 0 3 =
            t.cycle.address.extractLsb' 0 3 := by
          apply BitVec.eq_of_getLsbD_eq
          intro place small
          simp [small]
        have level : (t.cycle.address.extractLsb' 0 4).getLsbD 3 = t.cycle.address.getLsbD 3 := by
          simp
        dsimp only
        rw [select, level]
      · rfl

theorem Controlled.latch (controlled : Controlled start inputs) (later : 0 < clock) :
    (stateAt start inputs clock).shared.hostControl.latchQ =
      latchAfter (transactionsBefore start inputs clock) := by
  induction clock, later using Nat.le_induction with
  | base =>
      have none : transactionsBefore start inputs 1 = [] := by
        unfold transactionsBefore
        rw [before_succ, controlled.hosted.transactionAt_initialized]
        rfl
      have initializes : (inputs 0).shared.initializeI = true :=
        controlled.hosted.orderly.initialized
      rw [none]
      change (HostControl.step _ (inputs 0).shared.initializeI _ _ _).latchQ = 0
      unfold HostControl.step
      rw [initializes, if_pos rfl]
  | succ clock later ih =>
      rw [controlled.latch_next later, ih, transactionsBefore_succ, latchAfter_append]

/-- The DSP reset of the board is the one the transactions leave. -/
theorem Controlled.selectedDspResetN (controlled : Controlled start inputs) (later : 0 < clock) :
    SoundMister.selectedDspResetN (stateAt start inputs clock).shared (inputs clock).shared =
      releases (transactionsBefore start inputs clock) := by
  unfold SoundMister.selectedDspResetN releases
  rw [controlled.controlled clock, if_pos rfl, controlled.latch later]

/-! ### Program RAM -/

/-- While a cycle of the program RAM is active the DSP is in reset. -/
theorem Controlled.held (controlled : Controlled start inputs) (later : 0 < clock)
    (active : (timingAt start inputs clock).cycleActive = true)
    (loads : (timingAt start inputs clock).busCycle.programRam = true) :
    releases (transactionsBefore start inputs clock) = false := by
  have hosted := controlled.hosted
  have runs := timing_runs start inputs
  induction clock, later using Nat.le_induction with
  | base =>
      rw [hosted.orderly.cleared runs] at active
      exact absurd active Bool.false_ne_true
  | succ clock later ih =>
      have legal := hosted.orderly.legal clock later
      have quiet := hosted.orderly.quiet later
      rw [transactionsBefore_succ]
      unfold releases
      rw [latchAfter_append]
      rw [runs clock] at active loads
      cases asserted : (wiresAt inputs clock).addressStrobeAssert
      · -- the cycle goes on, and its own completion does not write the latch
        have same : (HostTiming.step (timingAt start inputs clock)
            (wiresAt inputs clock)).busCycle = (timingAt start inputs clock).busCycle := by
          unfold HostTiming.step HostTiming.State.busCycle
          simp only [quiet, asserted, Bool.false_eq_true, if_false]
        have still : (timingAt start inputs clock).cycleActive = true := by
          unfold HostTiming.step at active
          simp only [quiet, asserted, Bool.false_eq_true, if_false] at active
          split_ifs at active
          exact active
        rw [same] at loads
        have before := ih still loads
        cases happens : transactionAt start inputs clock with
        | none => exact before
        | some t =>
            have cycle : t.cycle = (timingAt start inputs clock).busCycle := by
              rw [(hosted.event happens).2]
            rw [Option.toList_some, List.foldl_cons, latched_programRam (by rw [cycle, loads])]
            exact before
      · have carries := HostTiming.carries_of_strobe asserted legal
        have same : (HostTiming.step (timingAt start inputs clock)
            (wiresAt inputs clock)).busCycle = (wiresAt inputs clock).busCycle := by
          unfold HostTiming.State.busCycle HostTiming.Inputs.busCycle
          rw [carries.address, carries.readNotWrite, carries.upper, carries.lower]
        have fall := (HostTiming.strobe_quiet asserted legal).2.2.1
        have none : transactionAt start inputs clock = none := by
          rw [hosted.transactionAt_eq later]
          unfold HostTiming.cycleCompleteEvent
          rw [fall, Bool.false_and, if_neg Bool.false_ne_true]
        rw [same] at loads
        rw [none]
        exact controlled.guarded clock later asserted loads

/-- The program RAM is selected for the host only under DSP reset. -/
theorem Controlled.disciplined (controlled : Controlled start inputs) (clock : ℕ) :
    Disciplined (stateAt start inputs clock).shared (inputs clock).shared := by
  rcases Nat.eq_zero_or_pos clock with rfl | later
  · exact controlled.initially
  · intro selected
    have hosted := controlled.hosted.hosted clock
    rw [controlled.selectedDspResetN later]
    unfold SoundMister.selectedHostProgramSelectN at selected
    have view := bridge_eq (s := stateAt start inputs clock) hosted
    unfold bridge at view
    rw [hosted, if_pos rfl, view] at selected
    unfold HostTiming.hostProgramRamChipEnableN HostTiming.hostProgramSelectN
      HostTiming.highBankSelectN at selected
    simp only [Bool.or_eq_false_iff, Bool.not_eq_false', Bool.and_eq_true] at selected
    rcases selected with ⟨⟨⟨⟨⟨active, high⟩, bank⟩, -⟩, low⟩, -⟩
    apply controlled.held later active
    change (((timingAt start inputs clock).latchedAddress.getLsbD 22 && _) &&
      !(timingAt start inputs clock).latchedAddress.getLsbD 12) = true
    rw [Bool.and_eq_true, Bool.and_eq_true, Bool.not_eq_true']
    exact ⟨⟨high, bank⟩, low⟩

/-- The host stores what its transactions load. -/
theorem Controlled.hostStore?_eq (controlled : Controlled start inputs) (clock : ℕ) :
    hostStore? (stateAt start inputs clock).shared (inputs clock).shared =
      (transactionAt start inputs clock).bind Transaction.load? := by
  have hosted := controlled.hosted
  rcases Nat.eq_zero_or_pos clock with rfl | later
  · have initializes : (inputs 0).shared.initializeI = true := hosted.orderly.initialized
    rw [hosted.transactionAt_initialized]
    unfold SoundMister.hostStore?
    rw [initializes]
    rfl
  · have view := bridge_eq (s := stateAt start inputs clock) (hosted.hosted clock)
    unfold bridge at view
    have commit : SoundMister.selectedHostProgramCommit (stateAt start inputs clock).shared
        (inputs clock).shared = (transactionAt start inputs clock).any fun t =>
          t.cycle.programRam && !t.cycle.readNotWrite && t.cycle.transfers := by
      apply hosted.commit_iff later fun c => c.programRam && !c.readNotWrite && c.transfers
      unfold SoundMister.selectedHostProgramCommit
      rw [hosted.hosted clock, if_pos rfl, view]
      change (HostTiming.hostProgramRamWriteCommit (timingAt start inputs clock)
        (wiresAt inputs clock) && (timingAt start inputs clock).busCycle.transfers) = _
      rw [HostTiming.hostProgramRamWriteCommit_eq, Bool.and_assoc]
      unfold BusCycle.programRam
      congr 2
      rw [Bool.and_assoc, Bool.and_assoc]
      congr 1
      exact Bool.and_comm _ _
    have writes : SoundMister.selectedHostProgramCommit (stateAt start inputs clock).shared
        (inputs clock).shared = true →
          SoundMister.selectedHostProgramSelectN (stateAt start inputs clock).shared
              (inputs clock).shared = false ∧
            SoundMister.selectedHostProgramWrite (stateAt start inputs clock).shared
              (inputs clock).shared = true := by
      intro commits
      unfold SoundMister.selectedHostProgramCommit at commits
      unfold SoundMister.selectedHostProgramSelectN SoundMister.selectedHostProgramWrite
      rw [hosted.hosted clock, if_pos rfl] at commits ⊢
      rw [if_pos rfl]
      have write := (Bool.and_eq_true _ _ ▸ (Bool.and_eq_true _ _ ▸ commits).1).2
      refine ⟨?_, write⟩
      have enabled := (Bool.and_eq_true _ _ ▸ write).1
      simpa using enabled
    unfold SoundMister.hostStore?
    rw [hosted.quiet later]
    cases happens : transactionAt start inputs clock with
    | none =>
        rw [happens, Option.any_none] at commit
        rw [commit, Bool.and_false, if_neg Bool.false_ne_true]
        rfl
    | some t =>
        rw [happens, Option.any_some] at commit
        rw [Option.bind_some]
        unfold Transaction.load?
        rw [← commit]
        cases commits : SoundMister.selectedHostProgramCommit (stateAt start inputs clock).shared
          (inputs clock).shared
        · rw [Bool.and_false, if_neg Bool.false_ne_true, if_neg Bool.false_ne_true]
        · rcases writes commits with ⟨selected, write⟩
          rw [controlled.disciplined clock selected, selected, write, if_pos rfl, if_pos (by decide),
            (hosted.event happens).2]
          unfold SoundMister.selectedHostProgramAddress SoundMister.selectedHostProgramWriteData
          rw [hosted.hosted clock]
          rfl

/-- While the processor is in reset the program RAM takes what the transactions load. -/
theorem Controlled.program (controlled : Controlled start inputs)
    (reset : ∀ earlier, earlier < clock → resetAt start.shared (sharedInputs inputs) earlier = true) :
    SoundMister.programAt start.shared (sharedInputs inputs) clock =
      loaded start.shared.programRam.programRam (transactionsBefore start inputs clock) := by
  induction clock with
  | zero => rfl
  | succ clock ih =>
      have before := ih fun earlier within => reset earlier (Nat.lt_succ_of_lt within)
      have disciplined := controlled.disciplined clock
      have store := controlled.hostStore?_eq clock
      rw [stateAt_shared] at disciplined store
      have idle : SoundMister.tableStore? (SoundMister.stateAt start.shared (sharedInputs inputs) clock)
          (inputs clock).shared = none := by
        rw [Option.eq_none_iff_forall_ne_some]
        intro item stores
        have running := SoundMister.running_of_write (SoundMister.tableStore?_iff.mp stores).1
        have inactive := Rtl.Mister.running_iff.mp running
        exact absurd (inactive.symm.trans (reset clock (Nat.lt_succ_self clock))) (by decide)
      have step := SoundMister.programRam_step disciplined
      unfold SoundMister.store? at step
      rw [store, idle, Option.or_none] at step
      refine step.trans ?_
      change stored (SoundMister.programAt start.shared (sharedInputs inputs) clock) _ = _
      rw [before, transactionsBefore_succ]
      unfold loaded
      rw [List.foldl_append]
      cases transactionAt start inputs clock <;> rfl

/-! ### Reset -/

/-- The reset request of the processor is the one of the transactions. -/
theorem Controlled.resetRequest (controlled : Controlled start inputs) (later : 0 < clock) :
    Rtl.Mister.resetRequest
        (SoundMister.processorInputsAt start.shared (sharedInputs inputs) clock) =
      !releases (transactionsBefore start inputs clock) := by
  have line := controlled.selectedDspResetN later
  rw [stateAt_shared] at line
  change ((inputs clock).shared.initializeI || !SoundMister.selectedDspResetN
    (SoundMister.stateAt start.shared (sharedInputs inputs) clock) (inputs clock).shared) = _
  rw [controlled.hosted.quiet later, Bool.false_or, line]

/-- Once the reset is over it stays so while there is no request. -/
theorem inactive_next
    (request : ∀ at_, at_ = clock ∨ at_ = clock + 1 → Rtl.Mister.resetRequest
      (SoundMister.processorInputsAt start.shared (sharedInputs inputs) at_) = false)
    (inactive : resetAt start.shared (sharedInputs inputs) clock = false) :
    resetAt start.shared (sharedInputs inputs) (clock + 1) = false := by
  have now := request clock (Or.inl rfl)
  have next := request (clock + 1) (Or.inr rfl)
  unfold SoundMister.resetAt Rtl.Mister.resetActive at inactive ⊢
  rw [now, Bool.false_or, bne_eq_false_iff_eq] at inactive
  rw [next, Bool.false_or, bne_eq_false_iff_eq]
  exact Rtl.Mister.resetCyclesRemaining_over now inactive

variable {release last count : ℕ}

theorem Boots.request (boots : Boots start inputs release last count) (after : release < clock)
    (before : clock ≤ last + count) :
    Rtl.Mister.resetRequest
      (SoundMister.processorInputsAt start.shared (sharedInputs inputs) clock) = false := by
  rw [boots.controlled.resetRequest (Nat.zero_lt_of_lt after), boots.freed clock after before]
  rfl

/-- The processor runs from the end of the stretch on. -/
theorem Boots.running (boots : Boots start inputs release last count) (after : last < clock)
    (before : clock ≤ last + count) :
    resetAt start.shared (sharedInputs inputs) clock = false := by
  have later := boots.later
  induction clock, after using Nat.le_induction with
  | base => exact boots.inactive
  | succ clock after ih =>
      apply inactive_next
      · rintro at_ (rfl | rfl)
        · exact boots.request (by omega) (by omega)
        · exact boots.request (by omega) before
      · exact ih (by omega)

/-- The processor is in reset until the end of the stretch. -/
theorem Boots.reset (boots : Boots start inputs release last count) (early : clock ≤ last) :
    resetAt start.shared (sharedInputs inputs) clock = true := by
  rcases Nat.lt_or_ge release clock with after | within
  · by_contra inactive
    rw [Bool.not_eq_true] at inactive
    have still (now : ℕ) (onward : clock ≤ now) (before : now ≤ last) :
        resetAt start.shared (sharedInputs inputs) now = false := by
      induction now, onward using Nat.le_induction with
      | base => exact inactive
      | succ now onward ih =>
          apply inactive_next
          · rintro at_ (rfl | rfl)
            · exact boots.request (by omega) (by omega)
            · exact boots.request (by omega) (by omega)
          · exact ih (by omega)
    exact absurd ((still last early (Nat.le_refl last)).symm.trans boots.active) (by decide)
  · apply Rtl.Mister.resetActive_of_request
    rcases Nat.eq_zero_or_pos clock with rfl | later
    · change ((inputs 0).shared.initializeI || _) = true
      have initializes : (inputs 0).shared.initializeI = true :=
        boots.controlled.hosted.orderly.initialized
      rw [initializes]
      rfl
    · rw [boots.controlled.resetRequest later, boots.held clock later within]
      rfl

/-- The processor starts on the words the transactions loaded. -/
theorem Boots.program (boots : Boots start inputs release last count) :
    SoundMister.programAt start.shared (sharedInputs inputs) (last + 1) =
      loaded start.shared.programRam.programRam (transactionsBefore start inputs (last + 1)) :=
  boots.controlled.program fun _ before => boots.reset (Nat.le_of_lt_succ before)

theorem Boots.runsModel (boots : Boots start inputs release last count) :
    SoundMister.RunsModel start.shared (sharedInputs inputs) last count := by
  apply SoundMister.Released.runsModel _ boots.controlled.hosted.orderly.initialized
  refine ⟨?_, boots.active, boots.inactive, fun clock => boots.running, boots.noDebug, ?_⟩
  · intro clock
    rw [← stateAt_shared]
    exact boots.controlled.disciplined clock
  · intro clock after before
    rw [← stateAt_shared]
    exact boots.high clock after before

/-- The local 68000 boots the processor with the program its bus cycles carry. -/
theorem transactions_boot (start : State) (inputs : ℕ → Inputs) (release last count : ℕ)
    (boots : Boots start inputs release last count) : Booted start inputs last count :=
  ⟨fun _ later => boots.controlled.latch later, boots.program, boots.runsModel⟩

/-- Two writes of the program RAM and the write of the control latch that ends the reset. -/
def downloadWires : List HostTiming.Inputs :=
  BusCycle.wires ⟨0x40a000, false, false, false⟩ ++ BusCycle.wires ⟨0x40a001, false, false, false⟩ ++
    BusCycle.wires ⟨0x40880c, false, false, false⟩

/-- A board that is given the program `B 0`, and is released. -/
def downloadInputs (clock : ℕ) : Inputs :=
  let wired := wiredInputs (HostTiming.scriptedWire 2 downloadWires clock)
    (if clock < 7 then 0xf900 else 0)
  { wired with shared := { wired.shared with useHostControl := true } }

theorem download_hosted : Hosted powerUp downloadInputs := by
  have wired : wiresAt downloadInputs = HostTiming.scriptedWire 2 downloadWires := rfl
  exact hosted_of_script wired (fun _ => rfl) (by decide) (by decide)

/-- Nothing is downloaded after the script. -/
theorem download_after (late : 17 ≤ clock) :
    transactionsBefore powerUp downloadInputs clock =
      transactionsBefore powerUp downloadInputs 17 := by
  induction clock, late using Nat.le_induction with
  | base => rfl
  | succ clock late ih =>
      have quiet : wiresAt downloadInputs clock = HostTiming.quietWires :=
        HostTiming.scriptedWire_quiet (by omega) (Or.inr late)
      have none : transactionAt powerUp downloadInputs clock = none := by
        rw [download_hosted.transactionAt_eq (by omega), quiet]
        rfl
      rw [transactionsBefore_succ, none, ih]
      exact List.append_nil _

theorem download_boots : Boots powerUp downloadInputs 16 36 40 := by
  have line : ∀ clock < 18, 0 < clock →
      releases (transactionsBefore powerUp downloadInputs clock) = (clock == 17) := by
    decide +kernel
  have asks : ∀ clock < 17, 0 < clock →
      (wiresAt downloadInputs clock).addressStrobeAssert = true →
        releases (transactionsBefore powerUp downloadInputs clock) = false := by
    decide +kernel
  have reads : ∀ clock < 77, 36 < clock →
      (SoundMister.acceptedAt powerUp.shared (sharedInputs downloadInputs) clock).all
        (Rtl.Request.strobesMen ·) = true := by
    decide +kernel
  refine ⟨⟨download_hosted, fun _ => rfl, fun _ _ => rfl, ?_, ?_⟩, ?_, ?_, by decide,
    by decide +kernel, by decide +kernel, fun _ _ _ => rfl, ?_⟩
  · intro _
    rfl
  · intro clock later asserted _
    rcases Nat.lt_or_ge clock 17 with early | late
    · exact asks clock early later asserted
    · have quiet : wiresAt downloadInputs clock = HostTiming.quietWires :=
        HostTiming.scriptedWire_quiet later (Or.inr late)
      rw [quiet] at asserted
      exact absurd asserted Bool.false_ne_true
  · intro clock later early
    rw [line clock (by omega) later]
    exact beq_false_of_ne (by omega)
  · intro clock after _
    rw [download_after after]
    exact line 17 (by decide) (by decide)
  · intro clock after before address word taken
    have read := reads clock (by omega) after
    have stores : SoundMister.acceptedAt powerUp.shared (sharedInputs downloadInputs) clock =
        some (.programWrite address word) := by
      rw [stateAt_shared] at taken
      exact taken
    rw [stores] at read
    exact absurd read Bool.false_ne_true

theorem transactions_boot_download : Booted powerUp downloadInputs 36 40 :=
  transactions_boot powerUp downloadInputs 16 36 40 download_boots

end Run

end SoundBoard

end Tms32010.Board
