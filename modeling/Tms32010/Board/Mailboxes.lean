import Tms32010.Lib.OnePlace

/-!
# Interprocessor mailboxes

`hard_drivin_sound_mailboxes`: one word latch and one pending flag in each
direction between the main system and the sound processor. The two directions
have the same circuit, so a direction is one record and one transition, and the
module is two of them.
-/

namespace Tms32010.Board.Mailboxes

open OnePlace

/-! ## The module -/

/-- The registers of one direction: the latched word and the pending flag, each
with its validity. -/
structure Direction where
  data : BitVec 16
  dataValid : Bool
  flag : Bool
  flagValid : Bool
  deriving DecidableEq, Repr

/-- The registers of the module. -/
structure State where
  mainToSound : Direction
  soundToMain : Direction
  deriving DecidableEq, Repr

/-- The inputs of one clock. -/
structure Inputs where
  initializeI : Bool
  boardResetN : Bool
  mainWriteCommit : Bool
  mainWriteData : BitVec 16
  soundReadCommit : Bool
  soundWriteCommit : Bool
  soundWriteData : BitVec 16
  mainReadCommit : Bool
  deriving DecidableEq, Repr

/-- `next_flag_value`. -/
def nextFlagValue (oldValue resetN setRequest clearRequest : Bool) : Bool :=
  if !resetN || (setRequest && clearRequest) then false
  else if setRequest then true
  else if clearRequest then false
  else oldValue

/-- `next_flag_valid`. -/
def nextFlagValid (oldValid resetN setRequest clearRequest : Bool) : Bool :=
  if !resetN then !setRequest
  else if setRequest && clearRequest then false
  else if setRequest || clearRequest then true
  else oldValid

/-- The commits one direction sees in a clock. -/
structure Commits where
  initializeI : Bool
  boardResetN : Bool
  write : Bool
  word : BitVec 16
  read : Bool

/-- The clock edge of one direction; board reset does not reach the word latch. -/
def Direction.next (d : Direction) (c : Commits) : Direction :=
  if c.initializeI then ⟨0, false, false, false⟩
  else
    { data := if c.write then c.word else d.data
      dataValid := if c.write then true else d.dataValid
      flag := nextFlagValue d.flag c.boardResetN c.write c.read
      flagValid := nextFlagValid d.flagValid c.boardResetN c.write c.read }

/-- The main system writes and the sound processor reads. -/
def Inputs.mainToSound (i : Inputs) : Commits :=
  ⟨i.initializeI, i.boardResetN, i.mainWriteCommit, i.mainWriteData, i.soundReadCommit⟩

/-- The sound processor writes and the main system reads. -/
def Inputs.soundToMain (i : Inputs) : Commits :=
  ⟨i.initializeI, i.boardResetN, i.soundWriteCommit, i.soundWriteData, i.mainReadCommit⟩

/-- One clock edge. -/
def step (s : State) (i : Inputs) : State where
  mainToSound := s.mainToSound.next i.mainToSound
  soundToMain := s.soundToMain.next i.soundToMain

/-- `main_flag_conflict_o`. -/
def mainFlagConflict (i : Inputs) : Bool :=
  !i.initializeI && i.mainWriteCommit && (!i.boardResetN || i.soundReadCommit)

/-- `sound_flag_conflict_o`. -/
def soundFlagConflict (i : Inputs) : Bool :=
  !i.initializeI && i.soundWriteCommit && (!i.boardResetN || i.mainReadCommit)

/-- The state after a run. -/
def run (s : State) : List Inputs → State
  | [] => s
  | i :: inputs => run (step s i) inputs

/-! ## One direction as a channel -/

/-- The registers after a run of commits. -/
def Direction.run (d : Direction) : List Commits → Direction
  | [] => d
  | c :: commits => (d.next c).run commits

/-- The words written. -/
def written (commits : List Commits) : List (BitVec 16) :=
  (commits.filter Commits.write).map Commits.word

/-- The words on the latch at the read commits. -/
def seen (d : Direction) : List Commits → List (BitVec 16)
  | [] => []
  | c :: commits => (if c.read then [d.data] else []) ++ seen (d.next c) commits

/-- The writer waits for a clear flag and the reader for a set one, their commits do not
coincide, and neither initialisation nor board reset is active. -/
structure Direction.Disciplined (d : Direction) (c : Commits) : Prop where
  noInitialize : c.initializeI = false
  noReset : c.boardResetN = true
  writes : c.write = true → d.flag = false
  reads : c.read = true → d.flag = true
  apart : ¬(c.write = true ∧ c.read = true)

/-- Every clock of a run is disciplined. -/
def Direction.DisciplinedRun (d : Direction) : List Commits → Prop
  | [] => True
  | c :: commits => d.Disciplined c ∧ (d.next c).DisciplinedRun commits

/-- What a clock does to the channel. -/
def Commits.action (c : Commits) : Action (BitVec 16) :=
  if c.write then .put c.word else if c.read then .take else .rest

/-- The latch and the flag hold the contents of the channel. -/
def Direction.Holds (d : Direction) (contents : Option (BitVec 16)) : Prop :=
  d.flag = contents.isSome ∧ ∀ word ∈ contents, d.data = word

section Channel

variable {d : Direction} {c : Commits} {contents : Option (BitVec 16)}

/-- A disciplined clock is allowed where the channel stands, and keeps it held. -/
theorem Direction.Holds.next (holds : d.Holds contents) (disciplined : d.Disciplined c) :
    c.action.Allowed contents ∧ (d.next c).Holds (c.action.apply contents) := by
  rcases holds with ⟨flag, data⟩
  unfold Direction.next Commits.action
  rw [disciplined.noInitialize]
  cases write : c.write
  · cases read : c.read
    · refine ⟨trivial, ?_, ?_⟩
      · simp [nextFlagValue, disciplined.noReset, Action.apply, flag]
      · simpa [Action.apply] using data
    · refine ⟨?_, ?_, ?_⟩
      · exact flag.symm.trans (disciplined.reads read)
      · simp [nextFlagValue, Action.apply]
      · simp [Action.apply]
  · have read : c.read = false := by
      have apart := disciplined.apart
      simpa [write] using apart
    refine ⟨?_, ?_, ?_⟩
    · have clear := flag.symm.trans (disciplined.writes write)
      exact Option.isNone_iff_eq_none.mp (by simpa using clear)
    · simp [nextFlagValue, disciplined.noReset, read, Action.apply]
    · simp [Action.apply]

/-- Neither conflict output rises in a disciplined clock. -/
theorem disciplined_noConflict {s : State} {i : Inputs}
    (main : s.mainToSound.Disciplined i.mainToSound)
    (sound : s.soundToMain.Disciplined i.soundToMain) :
    mainFlagConflict i = false ∧ soundFlagConflict i = false := by
  have mainApart := main.apart
  have soundApart := sound.apart
  have reset : i.boardResetN = true := main.noReset
  simp only [Inputs.mainToSound, Inputs.soundToMain, not_and, Bool.not_eq_true] at mainApart soundApart
  constructor
  · unfold mainFlagConflict
    cases write : i.mainWriteCommit <;> simp [write, reset, mainApart]
  · unfold soundFlagConflict
    cases write : i.soundWriteCommit <;> simp [write, reset, soundApart]

/-- The word at a read commit is the word taken. -/
theorem Direction.Holds.seen_takes (holds : d.Holds contents) (disciplined : d.Disciplined c) :
    (if c.read then [d.data] else []) = c.action.takes contents := by
  unfold Commits.action
  cases write : c.write
  · cases read : c.read
    · rfl
    · have full := holds.1.symm.trans (disciplined.reads read)
      rcases Option.isSome_iff_exists.mp full with ⟨word, rfl⟩
      simp [Action.takes, holds.2 word rfl]
  · have read : c.read = false := by
      have apart := disciplined.apart
      simpa [write] using apart
    simp [read, Action.takes]

theorem written_cons (commits : List Commits) :
    written (c :: commits) = c.action.puts ++ written commits := by
  unfold written Commits.action
  cases write : c.write
  · cases c.read <;> simp [write, Action.puts]
  · simp [write, Action.puts]

/-- A disciplined run of the registers is a run of the channel: it puts the words
written and takes the words seen. -/
theorem Direction.Holds.run (holds : d.Holds contents) {commits : List Commits}
    (disciplined : d.DisciplinedRun commits) :
    ∃ final, Run contents (commits.map Commits.action) final ∧
      (d.run commits).Holds final ∧ seen d commits = takes contents (commits.map Commits.action) ∧
      written commits = puts (commits.map Commits.action) := by
  induction commits generalizing d contents with
  | nil => exact ⟨contents, .done contents, holds, rfl, rfl⟩
  | cons c commits ih =>
      rcases disciplined with ⟨first, rest⟩
      rcases holds.next first with ⟨allowed, held⟩
      rcases ih held rest with ⟨final, tail, last, words, puts⟩
      refine ⟨final, .step allowed tail, last, ?_, ?_⟩
      · rw [seen, holds.seen_takes first, words]
        rfl
      · rw [written_cons, puts]
        rfl

/-- Data and flag are valid from the first write on. -/
theorem Direction.run_valid (commits : List Commits) (disciplined : d.DisciplinedRun commits)
    (start : d.dataValid = true → d.flagValid = true) :
    ((d.dataValid = true ∨ written commits ≠ []) → (d.run commits).dataValid = true) ∧
      ((d.run commits).dataValid = true → (d.run commits).flagValid = true) := by
  induction commits generalizing d with
  | nil => exact ⟨fun valid => valid.resolve_right (by simp [written]), start⟩
  | cons c commits ih =>
      rcases disciplined with ⟨first, rest⟩
      have next : (d.next c).dataValid = (c.write || d.dataValid) := by
        unfold Direction.next
        cases write : c.write <;> simp [first.noInitialize]
      have flag : (d.next c).dataValid = true → (d.next c).flagValid = true := by
        have apart := first.apart
        unfold Direction.next nextFlagValid
        cases write : c.write <;> cases read : c.read <;>
          simp [write, read, first.noInitialize, first.noReset] at start apart ⊢
        exact start
      rcases ih rest flag with ⟨data, valid⟩
      refine ⟨fun either => data ?_, valid⟩
      rw [next]
      unfold written at either
      cases write : c.write
      · simpa [write, written] using either
      · exact Or.inl rfl

end Channel

/-! ## Both directions -/

/-- What a direction that has made `commits` since its initialisation shows. -/
structure Conserves (d : Direction) (written seen : List (BitVec 16)) : Prop where
  order : ∃ unread, written = seen ++ unread ∧ unread.length ≤ 1 ∧
    (d.flag = true ↔ unread.length = 1)
  valid : written ≠ [] → d.dataValid = true ∧ d.flagValid = true

theorem conserves_of_disciplined (d : Direction) (clear : d = ⟨0, false, false, false⟩)
    {commits : List Commits} (disciplined : d.DisciplinedRun commits) :
    Conserves (d.run commits) (written commits) (seen d commits) := by
  have holds : d.Holds none := by
    rw [clear]
    exact ⟨rfl, by simp⟩
  rcases holds.run disciplined with ⟨final, run, held, words, puts⟩
  have conserved := run.conserves
  have valid := Direction.run_valid commits disciplined (by rw [clear]; simp)
  refine ⟨⟨final.toList, ?_, ?_, ?_⟩, ?_⟩
  · rw [words, puts]
    simpa using conserved
  · cases final <;> simp
  · rw [held.1]
    cases final <;> simp
  · intro wrote
    have data := valid.1 (Or.inr wrote)
    exact ⟨data, valid.2 data⟩

theorem run_mainToSound (s : State) (inputs : List Inputs) :
    (run s inputs).mainToSound = s.mainToSound.run (inputs.map Inputs.mainToSound) := by
  induction inputs generalizing s with
  | nil => rfl
  | cons i inputs ih => exact ih (step s i)

theorem run_soundToMain (s : State) (inputs : List Inputs) :
    (run s inputs).soundToMain = s.soundToMain.run (inputs.map Inputs.soundToMain) := by
  induction inputs generalizing s with
  | nil => rfl
  | cons i inputs ih => exact ih (step s i)

/-- After an initialising clock, both directions deliver what was written, in order and
once, as long as writers and readers follow their flags; and a direction depends on its
own commits only. -/
theorem mailboxes_conserve (start : State) (i : Inputs) (initializing : i.initializeI = true)
    (inputs : List Inputs)
    (main : (step start i).mainToSound.DisciplinedRun (inputs.map Inputs.mainToSound))
    (sound : (step start i).soundToMain.DisciplinedRun (inputs.map Inputs.soundToMain)) :
    Conserves (run (step start i) inputs).mainToSound
        (written (inputs.map Inputs.mainToSound))
        (seen (step start i).mainToSound (inputs.map Inputs.mainToSound)) ∧
      Conserves (run (step start i) inputs).soundToMain
        (written (inputs.map Inputs.soundToMain))
        (seen (step start i).soundToMain (inputs.map Inputs.soundToMain)) ∧
      (∀ others, others.map Inputs.mainToSound = inputs.map Inputs.mainToSound →
        (run (step start i) others).mainToSound = (run (step start i) inputs).mainToSound) ∧
      ∀ others, others.map Inputs.soundToMain = inputs.map Inputs.soundToMain →
        (run (step start i) others).soundToMain = (run (step start i) inputs).soundToMain := by
  have clear (d : Direction) {c : Commits} (initializing : c.initializeI = true) :
      d.next c = ⟨0, false, false, false⟩ := by
    rw [Direction.next, initializing, if_pos rfl]
  refine ⟨?_, ?_, ?_, ?_⟩
  · rw [run_mainToSound]
    exact conserves_of_disciplined _ (clear _ initializing) main
  · rw [run_soundToMain]
    exact conserves_of_disciplined _ (clear _ initializing) sound
  · intro others same
    rw [run_mainToSound, run_mainToSound, same]
  · intro others same
    rw [run_soundToMain, run_soundToMain, same]

/-- One word each way. -/
theorem mailboxes_conserve_exchange :
    Conserves
        (run (step ⟨⟨5, true, true, true⟩, ⟨6, true, true, true⟩⟩
            ⟨true, true, false, 0, false, false, 0, false⟩)
          [⟨false, true, true, 0x1234, false, true, 0x00ff, false⟩,
            ⟨false, true, false, 0, true, false, 0, false⟩]).mainToSound
        [0x1234] [0x1234] := by
  have disciplined := mailboxes_conserve ⟨⟨5, true, true, true⟩, ⟨6, true, true, true⟩⟩
    ⟨true, true, false, 0, false, false, 0, false⟩ rfl
    [⟨false, true, true, 0x1234, false, true, 0x00ff, false⟩,
      ⟨false, true, false, 0, true, false, 0, false⟩]
    ⟨⟨rfl, rfl, by decide, by decide, by decide⟩, ⟨rfl, rfl, by decide, by decide, by decide⟩,
      trivial⟩
    ⟨⟨rfl, rfl, by decide, by decide, by decide⟩, ⟨rfl, rfl, by decide, by decide, by decide⟩,
      trivial⟩
  exact disciplined.1

end Tms32010.Board.Mailboxes
