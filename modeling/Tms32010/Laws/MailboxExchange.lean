import Tms32010.Laws.SoundTransactions
import Tms32010.Lib.Polling

/-!
# Mailbox exchange

The two processors exchange words through the mailboxes. The local 68000 reads and writes
its side by bus cycles and polls the flags by reads of the status port; the main system
sees the flags directly. As long as each side acts only on a poll made since its own last
act, the words arrive in order and once, and every word the 68000 reads is known.
-/

namespace Tms32010.Board

/-! ## A direction from an empty place -/

namespace Mailboxes

variable {d : Direction} {commits : List Commits}

/-- From a clear flag on a disciplined direction delivers what was written, in order and once. -/
theorem Direction.conserves_since (empty : d.flag = false) (disciplined : d.DisciplinedRun commits) :
    ∃ unread, written commits = seen d commits ++ unread ∧ unread.length ≤ 1 ∧
      ((d.run commits).flag = true ↔ unread.length = 1) := by
  have holds : d.Holds none := ⟨empty, by simp⟩
  rcases holds.run disciplined with ⟨final, run, held, words, puts⟩
  have conserved := run.conserves
  refine ⟨final.toList, ?_, ?_, ?_⟩
  · rw [words, puts]
    simpa using conserved
  · cases final <;> simp
  · rw [held.1]
    cases final <;> simp

/-- A pending word is a known one. -/
def Direction.Known (d : Direction) : Prop := d.flag = true → d.dataValid = true

theorem Direction.Known.next (known : d.Known) (c : Commits) : (d.next c).Known := by
  unfold Known Direction.next nextFlagValue at *
  cases c.initializeI <;> cases c.boardResetN <;> cases c.write <;> cases c.read <;> simp_all

/-- What a clock outside initialisation and reset does to the flag. -/
theorem Direction.next_flag {c : Commits} (noInitialize : c.initializeI = false)
    (noReset : c.boardResetN = true) :
    (d.flag = true → c.read = false → (d.next c).flag = true) ∧
      (d.flag = false → c.write = false → (d.next c).flag = false) := by
  unfold Direction.next nextFlagValue
  rw [noInitialize, noReset]
  constructor
  · intro set unread
    rw [unread]
    cases c.write <;> simp [set]
  · intro clear unwritten
    rw [unwritten]
    cases c.read <;> simp [clear]

/-! ### Timelines -/

section Timeline

variable {direction : ℕ → Direction} {commit : ℕ → Commits}

/-- A direction that runs along a timeline runs through the commits of a stretch of it. -/
theorem Direction.run_range (next : ∀ clock, direction (clock + 1) = (direction clock).next (commit clock))
    (first count : ℕ) :
    (direction first).run ((List.range' first count).map commit) = direction (first + count) := by
  induction count generalizing first with
  | zero => rfl
  | succ count ih =>
      rw [List.range'_succ, List.map_cons, Direction.run, ← next, ih (first + 1)]
      congr 1
      omega

theorem Direction.disciplined_range
    (next : ∀ clock, direction (clock + 1) = (direction clock).next (commit clock))
    {first count : ℕ}
    (disciplined : ∀ clock, first ≤ clock → clock < first + count →
      (direction clock).Disciplined (commit clock)) :
    (direction first).DisciplinedRun ((List.range' first count).map commit) := by
  induction count generalizing first with
  | zero => exact trivial
  | succ count ih =>
      rw [List.range'_succ, List.map_cons]
      refine ⟨disciplined first (Nat.le_refl first) (by omega), ?_⟩
      rw [← next]
      exact ih fun clock after before => disciplined clock (by omega) (by omega)

theorem seen_range (next : ∀ clock, direction (clock + 1) = (direction clock).next (commit clock))
    (first count : ℕ) :
    seen (direction first) ((List.range' first count).map commit) =
      (List.range' first count).filterMap fun clock =>
        if (commit clock).read then some (direction clock).data else none := by
  induction count generalizing first with
  | zero => rfl
  | succ count ih =>
      rw [List.range'_succ, List.map_cons, seen, ← next, ih (first + 1), List.filterMap_cons]
      cases (commit first).read <;> rfl

theorem written_range (commit : ℕ → Commits) (clocks : List ℕ) :
    written (clocks.map commit) = clocks.filterMap fun clock =>
      if (commit clock).write then some (commit clock).word else none := by
  induction clocks with
  | nil => rfl
  | cons clock clocks ih =>
      rw [List.map_cons, List.filterMap_cons, ← ih]
      unfold written
      cases write : (commit clock).write <;> simp [write]

end Timeline

end Mailboxes

namespace SoundBoard

open HostTiming (BusCycle)
open Mailboxes (Direction)
open Timeline (Polled)

/-! ## Runs -/

section Run

variable (start : State) (inputs : ℕ → Inputs)

/-- The mailboxes before a clock. -/
def mailboxesAt (clock : ℕ) : Mailboxes.State := (stateAt start inputs clock).mailboxes

/-- The inputs of the mailboxes in a clock. -/
def mailboxInputsAt (clock : ℕ) : Mailboxes.Inputs :=
  mailboxInputs (stateAt start inputs clock) (inputs clock)

/-- The direction to the sound processor before a clock. -/
def toSoundAt (clock : ℕ) : Direction := (mailboxesAt start inputs clock).mainToSound

/-- The direction to the main system before a clock. -/
def toMainAt (clock : ℕ) : Direction := (mailboxesAt start inputs clock).soundToMain

/-- The commits of the direction to the sound processor in a clock. -/
def toSoundCommits (clock : ℕ) : Mailboxes.Commits :=
  (mailboxInputsAt start inputs clock).mainToSound

/-- The commits of the direction to the main system in a clock. -/
def toMainCommits (clock : ℕ) : Mailboxes.Commits :=
  (mailboxInputsAt start inputs clock).soundToMain

/-- What the low bank shows the local 68000 in a clock. -/
def lowReadAt (clock : ℕ) : HostRead := soundCpuLowRead (stateAt start inputs clock) (inputs clock)

/-- A clock completes a transaction of a kind. -/
def completes (kind : BusCycle → Bool) (clock : ℕ) : Prop :=
  ∃ t, transactionAt start inputs clock = some t ∧ kind t.cycle = true

/-- The 68000 reads its mailbox. -/
def readsMailbox : ℕ → Prop := completes start inputs fun c => c.readsLow 0

/-- The 68000 writes its mailbox. -/
def writesMailbox : ℕ → Prop := completes start inputs fun c => c.writesLow 0 && c.transfers

/-- The 68000 reads its status port and sees a word from the main system pending. -/
def seesMainFlag (clock : ℕ) : Prop :=
  completes start inputs (fun c => c.readsLow 3) clock ∧
    (lowReadAt start inputs clock).data.getLsbD 15 = true

/-- The 68000 reads its status port and sees its own last word taken. -/
def seesSoundTaken (clock : ℕ) : Prop :=
  completes start inputs (fun c => c.readsLow 3) clock ∧
    (lowReadAt start inputs clock).valid.getLsbD 14 = true ∧
      (lowReadAt start inputs clock).data.getLsbD 14 = false

/-- After the last board reset both sides act on the mailboxes only on a poll made since
their own last act. -/
structure Polite (last : ℕ) : Prop where
  hosted : Hosted start inputs
  active : (inputs last).shared.boardResetN = false
  released : ∀ clock, last < clock → (inputs clock).shared.boardResetN = true
  soundReads : ∀ clock, last < clock → readsMailbox start inputs clock →
    Polled (seesMainFlag start inputs) (readsMailbox start inputs) last clock
  soundWrites : ∀ clock, last < clock → writesMailbox start inputs clock →
    Polled (seesSoundTaken start inputs) (writesMailbox start inputs) last clock
  mainReads : ∀ clock, last < clock → (inputs clock).mainMailboxReadCommit = true →
    Polled (fun seen => (mailboxesAt start inputs seen).soundToMain.flag = true)
      (fun clock => (inputs clock).mainMailboxReadCommit = true) last clock
  mainWrites : ∀ clock, last < clock → (inputs clock).mainMailboxWriteCommit = true →
    Polled (fun seen => (mailboxesAt start inputs seen).mainToSound.flag = false)
      (fun clock => (inputs clock).mainMailboxWriteCommit = true) last clock

/-- The words the main system writes in a clock. -/
def mainWord (clock : ℕ) : Option (BitVec 16) :=
  if (inputs clock).mainMailboxWriteCommit then some (inputs clock).mainMailboxWriteData else none

/-- The word a mailbox read shows the 68000. -/
def soundTakes (clock : ℕ) : Option (BitVec 16) :=
  (transactionAt start inputs clock).bind fun t =>
    if t.cycle.readsLow 0 then some (lowReadAt start inputs clock).data else none

/-- The word a mailbox write of the 68000 carries. -/
def soundWord (clock : ℕ) : Option (BitVec 16) :=
  (transactionAt start inputs clock).bind fun t =>
    if t.cycle.writesLow 0 && t.cycle.transfers then some t.word else none

/-- The word the main system reads in a clock. -/
def mainTakes (clock : ℕ) : Option (BitVec 16) :=
  if (inputs clock).mainMailboxReadCommit then
    some (mailboxesAt start inputs clock).soundToMain.data
  else none

/-- Words written are taken in order and once; one may still be unread, under its flag. -/
def Delivers (written taken : List (BitVec 16)) (flag : Bool) : Prop :=
  ∃ unread, written = taken ++ unread ∧ unread.length ≤ 1 ∧ (flag = true ↔ unread.length = 1)

/-- The exchange in the clocks after the last board reset. -/
structure Exchanges (last count : ℕ) : Prop where
  toSound : Delivers ((List.range' (last + 1) count).filterMap (mainWord inputs))
    ((List.range' (last + 1) count).filterMap (soundTakes start inputs))
    (mailboxesAt start inputs (last + 1 + count)).mainToSound.flag
  toMain : Delivers ((List.range' (last + 1) count).filterMap (soundWord start inputs))
    ((List.range' (last + 1) count).filterMap (mainTakes start inputs))
    (mailboxesAt start inputs (last + 1 + count)).soundToMain.flag
  known : ∀ clock, last < clock → readsMailbox start inputs clock →
    (lowReadAt start inputs clock).valid = 0xffff
  noConflict : ∀ clock, last < clock →
    Mailboxes.mainFlagConflict (mailboxInputsAt start inputs clock) = false ∧
      Mailboxes.soundFlagConflict (mailboxInputsAt start inputs clock) = false

end Run

/-! ## Transactions of the mailboxes -/

section Transactions

variable {start : State} {inputs : ℕ → Inputs} {clock : ℕ}

theorem any_iff (kind : BusCycle → Bool) :
    ((transactionAt start inputs clock).any fun t => kind t.cycle) = true ↔
      completes start inputs kind clock := by
  unfold completes
  cases transactionAt start inputs clock <;> simp

/-- A completed read of the low bank shows the source of its quadrant. -/
theorem Hosted.lowRead (hosted : Hosted start inputs) {t : Transaction}
    (happens : transactionAt start inputs clock = some t) {quadrant : BitVec 2}
    (reads : t.cycle.readsLow quadrant = true) :
    lowReadAt start inputs clock =
      hostReadMux true quadrant (soundCpuMailboxRead (stateAt start inputs clock))
        (stateAt start inputs clock).shared.ports.cportLatch.hostRead
        (switches (inputs clock).j3Switch (inputs clock).j3SwitchValid)
        (soundCpuReadStatus (stateAt start inputs clock) (inputs clock)) := by
  rcases hosted.event happens with ⟨event, rfl⟩
  rcases HostTiming.event_rvasN event with ⟨rva, dtack⟩
  have active := (HostTiming.event_vpaN event).1
  unfold BusCycle.readsLow at reads
  simp only [Bool.and_eq_true, beq_iff_eq] at reads
  rcases reads with ⟨⟨bank, direction⟩, place⟩
  have selected : HostTiming.readSelectValid (stateAt start inputs clock).shared.hostTiming =
      true := by
    change HostTiming.readSelectValid (timingAt start inputs clock) = true
    have qualified : HostTiming.rvfAddressQualified (timingAt start inputs clock) = true := bank
    have reading : (timingAt start inputs clock).readNotWrite = true := direction
    unfold HostTiming.readSelectValid HostTiming.ioDecodeActive HostTiming.rvfN HostTiming.rvasN
    rw [qualified, active, rva, dtack, reading]
    rfl
  have number : HostTiming.selectQuadrant (stateAt start inputs clock).shared.hostTiming =
      quadrant := place
  unfold lowReadAt soundCpuLowRead selectedSoundCpuLowReadSelectValid
    selectedSoundCpuLowReadQuadrant
  rw [hosted.hosted clock, if_pos rfl, if_pos rfl, selected, number]

theorem Hosted.readCommit (hosted : Hosted start inputs) (later : 0 < clock) :
    (mailboxInputsAt start inputs clock).soundReadCommit =
      (transactionAt start inputs clock).any fun t => t.cycle.readsLow 0 := by
  apply hosted.commit_iff later fun c => c.readsLow 0
  change selectedSoundCpuMailboxReadCommit _ _ = _
  unfold selectedSoundCpuMailboxReadCommit hostReadComplete
  rw [hosted.hosted clock, if_pos rfl]
  change (HostTiming.readCompleteEvent (timingAt start inputs clock) (wiresAt inputs clock) &&
    HostTiming.selectQuadrant (timingAt start inputs clock) == 0) = _
  rw [HostTiming.readCompleteEvent_eq, Bool.and_assoc]
  rfl

theorem Hosted.readCommit_iff (hosted : Hosted start inputs) (later : 0 < clock) :
    (mailboxInputsAt start inputs clock).soundReadCommit = true ↔
      readsMailbox start inputs clock := by
  rw [hosted.readCommit later]
  exact any_iff (fun c => c.readsLow 0)

theorem Hosted.writeCommit (hosted : Hosted start inputs) (later : 0 < clock) :
    (mailboxInputsAt start inputs clock).soundWriteCommit =
      (transactionAt start inputs clock).any fun t => t.cycle.writesLow 0 && t.cycle.transfers := by
  apply hosted.commit_iff later fun c => c.writesLow 0 && c.transfers
  change selectedSoundCpuMailboxWriteCommit _ _ = _
  unfold selectedSoundCpuMailboxWriteCommit SoundMister.hostWriteComplete
  rw [hosted.hosted clock, if_pos rfl]
  change (HostTiming.writeCompleteEvent (timingAt start inputs clock) (wiresAt inputs clock) &&
    HostTiming.selectQuadrant (timingAt start inputs clock) == 0 && _) = _
  rw [HostTiming.writeCompleteEvent_eq, Bool.and_assoc, Bool.and_assoc]
  congr 1
  rw [← Bool.and_assoc]
  rfl

theorem Hosted.writeCommit_iff (hosted : Hosted start inputs) (later : 0 < clock) :
    (mailboxInputsAt start inputs clock).soundWriteCommit = true ↔
      writesMailbox start inputs clock := by
  rw [hosted.writeCommit later]
  exact any_iff (fun c => c.writesLow 0 && c.transfers)

end Transactions

/-! ## The law -/

section Law

variable {start : State} {inputs : ℕ → Inputs} {last clock : ℕ}

/-- The flags a status read shows. -/
theorem status_flags (s : State) (i : Inputs) :
    (soundCpuReadStatus s i).data.getLsbD 15 =
        (s.mailboxes.mainToSound.flagValid && s.mailboxes.mainToSound.flag) ∧
      (soundCpuReadStatus s i).data.getLsbD 14 =
        (s.mailboxes.soundToMain.flagValid && s.mailboxes.soundToMain.flag) ∧
      (soundCpuReadStatus s i).valid.getLsbD 14 = s.mailboxes.soundToMain.flagValid := by
  unfold soundCpuReadStatus readStatus
  simp only [BitVec.getLsbD_append, BitVec.getLsbD_ofBool]
  simp

/-- A completed read of the status port shows the status. -/
theorem Hosted.statusRead (hosted : Hosted start inputs) {t : Transaction}
    (happens : transactionAt start inputs clock = some t) (reads : t.cycle.readsLow 3 = true) :
    (lowReadAt start inputs clock).data =
        (soundCpuReadStatus (stateAt start inputs clock) (inputs clock)).data &&&
          (soundCpuReadStatus (stateAt start inputs clock) (inputs clock)).valid ∧
      (lowReadAt start inputs clock).valid =
        (soundCpuReadStatus (stateAt start inputs clock) (inputs clock)).valid := by
  rw [hosted.lowRead happens reads]
  exact ⟨rfl, rfl⟩

theorem flag_of_seen (hosted : Hosted start inputs) {seen : ℕ}
    (sees : seesMainFlag start inputs seen) :
    (mailboxesAt start inputs seen).mainToSound.flag = true := by
  rcases sees with ⟨⟨t, happens, reads⟩, shown⟩
  rw [(hosted.statusRead happens reads).1, BitVec.getLsbD_and, Bool.and_eq_true,
    (status_flags _ _).1, Bool.and_eq_true] at shown
  exact shown.1.2

theorem taken_of_seen (hosted : Hosted start inputs) {seen : ℕ}
    (sees : seesSoundTaken start inputs seen) :
    (mailboxesAt start inputs seen).soundToMain.flag = false := by
  rcases sees with ⟨⟨t, happens, reads⟩, valid, shown⟩
  rcases hosted.statusRead happens reads with ⟨data, known⟩
  rcases status_flags (stateAt start inputs seen) (inputs seen) with ⟨-, flag, flagValid⟩
  rw [known, flagValid] at valid
  rw [data, BitVec.getLsbD_and, flag, flagValid, valid, Bool.true_and, Bool.and_true] at shown
  exact shown

theorem Polite.mainToSound_flag (polite : Polite start inputs last) (after : last < clock) :
    ((mailboxInputsAt start inputs clock).soundReadCommit = true →
        (mailboxesAt start inputs clock).mainToSound.flag = true) ∧
      ((mailboxInputsAt start inputs clock).mainWriteCommit = true →
        (mailboxesAt start inputs clock).mainToSound.flag = false) := by
  have hosted := polite.hosted
  have steady (clock : ℕ) (after : last < clock) :=
    Direction.next_flag (d := (mailboxesAt start inputs clock).mainToSound)
      (c := (mailboxInputsAt start inputs clock).mainToSound) (hosted.quiet (by omega))
      (polite.released clock after)
  constructor
  · intro reads
    rw [hosted.readCommit_iff (by omega)] at reads
    refine (polite.soundReads clock after reads).still
      (fun seen _ sees => flag_of_seen hosted sees) ?_
    intro clock after set unread
    apply (steady clock after).1 set
    rw [← Bool.not_eq_true]
    intro reads
    have commit : (mailboxInputsAt start inputs clock).soundReadCommit = true := reads
    rw [hosted.readCommit_iff (by omega)] at commit
    exact unread commit
  · intro writes
    refine (polite.mainWrites clock after writes).still (fun seen _ clear => clear) ?_
    intro clock after clear unwritten
    exact (steady clock after).2 clear (Bool.eq_false_of_not_eq_true unwritten)

theorem Polite.soundToMain_flag (polite : Polite start inputs last) (after : last < clock) :
    ((mailboxInputsAt start inputs clock).mainReadCommit = true →
        (mailboxesAt start inputs clock).soundToMain.flag = true) ∧
      ((mailboxInputsAt start inputs clock).soundWriteCommit = true →
        (mailboxesAt start inputs clock).soundToMain.flag = false) := by
  have hosted := polite.hosted
  have steady (clock : ℕ) (after : last < clock) :=
    Direction.next_flag (d := (mailboxesAt start inputs clock).soundToMain)
      (c := (mailboxInputsAt start inputs clock).soundToMain) (hosted.quiet (by omega))
      (polite.released clock after)
  constructor
  · intro reads
    refine (polite.mainReads clock after reads).still (fun seen _ set => set) ?_
    intro clock after set unread
    exact (steady clock after).1 set (Bool.eq_false_of_not_eq_true unread)
  · intro writes
    rw [hosted.writeCommit_iff (by omega)] at writes
    refine (polite.soundWrites clock after writes).still
      (fun seen _ sees => taken_of_seen hosted sees) ?_
    intro clock after clear unwritten
    apply (steady clock after).2 clear
    rw [← Bool.not_eq_true]
    intro writes
    have commit : (mailboxInputsAt start inputs clock).soundWriteCommit = true := writes
    rw [hosted.writeCommit_iff (by omega)] at commit
    exact unwritten commit

/-- After the reset every clock of both directions is disciplined. -/
theorem Polite.disciplined (polite : Polite start inputs last) (after : last < clock) :
    (toSoundAt start inputs clock).Disciplined (toSoundCommits start inputs clock) ∧
      (toMainAt start inputs clock).Disciplined (toMainCommits start inputs clock) := by
  have later : 0 < clock := Nat.zero_lt_of_lt after
  have quiet := polite.hosted.quiet later
  have released := polite.released clock after
  rcases polite.mainToSound_flag after with ⟨soundReads, mainWrites⟩
  rcases polite.soundToMain_flag after with ⟨mainReads, soundWrites⟩
  refine ⟨⟨quiet, released, mainWrites, soundReads, ?_⟩,
    ⟨quiet, released, soundWrites, mainReads, ?_⟩⟩
  · rintro ⟨writes, reads⟩
    exact absurd ((mainWrites writes).symm.trans (soundReads reads)) (by decide)
  · rintro ⟨writes, reads⟩
    exact absurd ((soundWrites writes).symm.trans (mainReads reads)) (by decide)

/-- The reset leaves both places empty. -/
theorem Polite.empty (polite : Polite start inputs last) :
    (toSoundAt start inputs (last + 1)).flag = false ∧
      (toMainAt start inputs (last + 1)).flag = false := by
  have cleared (d : Direction) {c : Mailboxes.Commits} (active : c.boardResetN = false) :
      (d.next c).flag = false := by
    unfold Direction.next Mailboxes.nextFlagValue
    rw [active]
    cases c.initializeI <;> rfl
  exact ⟨cleared _ polite.active, cleared _ polite.active⟩

theorem Polite.known (polite : Polite start inputs last) (after : last < clock) :
    (mailboxesAt start inputs clock).mainToSound.Known := by
  induction clock, after using Nat.le_induction with
  | base =>
      intro set
      exact absurd (polite.empty.1.symm.trans set) (by decide)
  | succ clock after ih => exact ih.next _

/-- A mailbox read of the 68000 shows the latched word, and all of it. -/
theorem Polite.lowRead (polite : Polite start inputs last) (after : last < clock) {t : Transaction}
    (happens : transactionAt start inputs clock = some t) (reads : t.cycle.readsLow 0 = true) :
    lowReadAt start inputs clock =
      ⟨(mailboxesAt start inputs clock).mainToSound.data, 0xffff, 0xffff⟩ := by
  have commit : (mailboxInputsAt start inputs clock).soundReadCommit = true :=
    (polite.hosted.readCommit_iff (by omega)).mpr ⟨t, happens, reads⟩
  have set := (polite.mainToSound_flag after).1 commit
  have valid : (stateAt start inputs clock).mailboxes.mainToSound.dataValid = true :=
    polite.known after set
  rw [polite.hosted.lowRead happens reads]
  unfold hostReadMux soundCpuMailboxRead
  rw [valid]
  change HostRead.mk (_ &&& 0xffff) _ _ = _
  congr 1
  exact BitVec.and_allOnes

/-- Two processors that poll before they act exchange words through the mailboxes. -/
theorem mailboxes_exchange (start : State) (inputs : ℕ → Inputs) (last count : ℕ)
    (polite : Polite start inputs last) : Exchanges start inputs last count := by
  have within (clock : ℕ) (listed : clock ∈ List.range' (last + 1) count) : last < clock := by
    rw [List.mem_range'_1] at listed
    omega
  refine ⟨?_, ?_, ?_, ?_⟩
  · have next (clock : ℕ) : toSoundAt start inputs (clock + 1) =
        (toSoundAt start inputs clock).next (toSoundCommits start inputs clock) :=
      rfl
    have run := Direction.disciplined_range next fun clock after (_ : clock < last + 1 + count) =>
      (polite.disciplined after).1
    have delivered := Direction.conserves_since polite.empty.1 run
    rw [Direction.run_range next, Mailboxes.seen_range next, Mailboxes.written_range] at delivered
    have takes : (List.range' (last + 1) count).filterMap (fun clock =>
        if (toSoundCommits start inputs clock).read then some (toSoundAt start inputs clock).data
        else none) = (List.range' (last + 1) count).filterMap (soundTakes start inputs) := by
      apply List.filterMap_congr
      intro clock listed
      have after := within clock listed
      have commit := polite.hosted.readCommit (Nat.zero_lt_of_lt after)
      change (if (mailboxInputsAt start inputs clock).soundReadCommit then _ else none) = _
      unfold soundTakes
      rw [commit]
      cases happens : transactionAt start inputs clock with
      | none => rfl
      | some t =>
          rw [Option.any_some, Option.bind_some]
          split_ifs with reads
          · rw [polite.lowRead after happens reads]
            rfl
          · rfl
    rw [takes] at delivered
    exact delivered
  · have next (clock : ℕ) : toMainAt start inputs (clock + 1) =
        (toMainAt start inputs clock).next (toMainCommits start inputs clock) :=
      rfl
    have run := Direction.disciplined_range next fun clock after (_ : clock < last + 1 + count) =>
      (polite.disciplined after).2
    have delivered := Direction.conserves_since polite.empty.2 run
    rw [Direction.run_range next, Mailboxes.seen_range next, Mailboxes.written_range] at delivered
    have puts : (List.range' (last + 1) count).filterMap (fun clock =>
        if (toMainCommits start inputs clock).write then
          some (toMainCommits start inputs clock).word
        else none) = (List.range' (last + 1) count).filterMap (soundWord start inputs) := by
      apply List.filterMap_congr
      intro clock listed
      have after := within clock listed
      have commit := polite.hosted.writeCommit (Nat.zero_lt_of_lt after)
      change (if (mailboxInputsAt start inputs clock).soundWriteCommit then
        some (selectedSoundCpuMailboxWriteData _ _) else none) = _
      unfold soundWord selectedSoundCpuMailboxWriteData
      rw [commit, polite.hosted.hosted clock, if_pos rfl]
      cases happens : transactionAt start inputs clock with
      | none => rfl
      | some t =>
          rw [Option.any_some, Option.bind_some, (polite.hosted.event happens).2]
          rfl
    rw [puts] at delivered
    exact delivered
  · rintro clock after ⟨t, happens, reads⟩
    rw [polite.lowRead after happens reads]
  · intro clock after
    rcases polite.disciplined after with ⟨main, sound⟩
    exact Mailboxes.disciplined_noConflict main sound

/-- A poll, a read of the mailbox, a second poll and a write of the mailbox. -/
def exchangeWires : List HostTiming.Inputs :=
  BusCycle.wires ⟨0x409800, true, false, false⟩ ++ BusCycle.wires ⟨0x408000, true, false, false⟩ ++
    BusCycle.wires ⟨0x409800, true, false, false⟩ ++ BusCycle.wires ⟨0x408000, false, false, false⟩

/-- A board that is reset in clock 1; the main system writes in clock 2 and reads in
clock 23. -/
def exchangeInputs (clock : ℕ) : Inputs :=
  let wired := wiredInputs (HostTiming.scriptedWire 2 exchangeWires clock) 0xbeef
  { wired with
    shared := { wired.shared with boardResetN := clock != 1 }
    mainMailboxWriteCommit := clock == 2
    mainMailboxWriteData := 0x1234
    mainMailboxReadCommit := clock == 23 }

theorem exchange_hosted : Hosted powerUp exchangeInputs := by
  have wired : wiresAt exchangeInputs = HostTiming.scriptedWire 2 exchangeWires := rfl
  exact hosted_of_script wired (fun _ => rfl) (by decide) (by decide)

/-- The board makes its transactions before clock 22. -/
theorem exchange_within {kind : BusCycle → Bool}
    (happens : completes powerUp exchangeInputs kind clock) : clock < 22 := by
  by_contra late
  rcases happens with ⟨t, happens, -⟩
  have quiet : HostTiming.scriptedWire 2 exchangeWires clock = HostTiming.quietWires :=
    HostTiming.scriptedWire_quiet (by omega) (Or.inr (Nat.le_of_not_lt late))
  have fall := (HostTiming.event_vpaN (exchange_hosted.event happens).1).2.2
  change (HostTiming.scriptedWire 2 exchangeWires clock).host8mhzFall = true at fall
  rw [quiet] at fall
  exact absurd fall (by decide)

theorem mailboxes_exchange_once : Exchanges powerUp exchangeInputs 1 30 := by
  apply mailboxes_exchange
  have reads : ∀ clock < 22, 1 < clock →
      ((transactionAt powerUp exchangeInputs clock).any fun t => t.cycle.readsLow 0) =
        (clock == 11) := by
    decide +kernel
  have writes : ∀ clock < 22, 1 < clock →
      ((transactionAt powerUp exchangeInputs clock).any fun t =>
        t.cycle.writesLow 0 && t.cycle.transfers) = (clock == 21) := by
    decide +kernel
  have reading (clock : ℕ) (after : 1 < clock) (happens : readsMailbox powerUp exchangeInputs clock) :
      clock = 11 := by
    have early := exchange_within happens
    rw [readsMailbox, ← any_iff, reads clock early after] at happens
    exact beq_iff_eq.mp happens
  have writing (clock : ℕ) (after : 1 < clock)
      (happens : writesMailbox powerUp exchangeInputs clock) : clock = 21 := by
    have early := exchange_within happens
    rw [writesMailbox, ← any_iff, writes clock early after] at happens
    exact beq_iff_eq.mp happens
  refine ⟨exchange_hosted, rfl, ?_, ?_, ?_, ?_, ?_⟩
  · intro clock after
    exact bne_iff_ne.mpr (Nat.ne_of_gt after)
  · intro clock after happens
    obtain rfl := reading clock after happens
    refine ⟨6, by decide, by decide, ⟨(any_iff _).mp (by decide +kernel), by decide +kernel⟩, ?_⟩
    intro between later earlier again
    have same := reading between (by omega) again
    omega
  · intro clock after happens
    obtain rfl := writing clock after happens
    refine ⟨16, by decide, by decide,
      ⟨(any_iff _).mp (by decide +kernel), by decide +kernel, by decide +kernel⟩, ?_⟩
    intro between later earlier again
    have same := writing between (by omega) again
    omega
  · intro clock after happens
    obtain rfl : clock = 23 := beq_iff_eq.mp happens
    exact ⟨23, by decide, Nat.le_refl 23, by decide +kernel, fun between later earlier => by omega⟩
  · intro clock after happens
    obtain rfl : clock = 2 := beq_iff_eq.mp happens
    exact ⟨2, by decide, Nat.le_refl 2, by decide +kernel, fun between later earlier => by omega⟩

end Law

end SoundBoard

end Tms32010.Board
