import Tms32010.Board.SoundBus
import Tms32010.Lib.StoreHistory

/-!
# Program store of the board

One registered response of the program RAM serves the host and the processor. While the
host selects the RAM only under DSP reset, every word the processor samples is the one
last stored at its address, and a table write stores where its boundary is passed.
-/

namespace Tms32010.Board.SoundMister

open Tms32010.Rtl Timeline

/-! ## Stores -/

section Stores

variable (s : State) (i : Inputs)

/-- The host selects the program RAM only under DSP reset. -/
def Disciplined : Prop :=
  selectedHostProgramSelectN s i = false → selectedDspResetN s i = false

/-- The store of a committed host write. -/
def hostStore? : Option (BitVec 12 × BitVec 16) :=
  if !i.initializeI && !selectedDspResetN s i && !selectedHostProgramSelectN s i &&
      selectedHostProgramWrite s i && selectedHostProgramCommit s i then
    some (selectedHostProgramAddress s i, selectedHostProgramWriteData s i)
  else none

/-- The store of a table write whose boundary is passed. -/
def tableStore? : Option (BitVec 12 × BitVec 16) :=
  match Mister.accepted s.processor (processorInputs s i) with
  | some (.programWrite address data) => if 8 ≤ address.toNat then some (address, data) else none
  | _ => none

/-- The store of a clock. -/
def store? : Option (BitVec 12 × BitVec 16) := (hostStore? s i).or (tableStore? s i)

variable {s i}

theorem portRegion_iff (address : BitVec 12) : portRegion address = false ↔ 8 ≤ address.toNat := by
  unfold portRegion
  rw [beq_eq_false_iff_ne, ne_eq, ← BitVec.toNat_inj, BitVec.extractLsb'_toNat,
    Nat.shiftRight_eq_div_pow]
  have small := address.isLt
  change ¬address.toNat / 2 ^ 3 % 2 ^ 9 = 0 ↔ 8 ≤ address.toNat
  omega

/-- A processor outside reset may access the RAM. -/
theorem permitted_of_running (disciplined : Disciplined s i)
    (running : Mister.Running s.processor (processorInputs s i)) :
    ProgramRam.tmsAccessPermitted (programRamInputs s i) = true := by
  have released := (selected_of_running running).2
  have unselected : selectedHostProgramSelectN s i = true := by
    by_contra selected
    rw [Bool.not_eq_true] at selected
    exact absurd ((disciplined selected).symm.trans released) (by decide)
  change (selectedDspResetN s i && !!selectedHostProgramSelectN s i) = true
  rw [released, unselected]
  rfl

/-- A passed table write is passed outside reset. -/
theorem running_of_write {address : BitVec 12} {data : BitVec 16}
    (taken : Mister.accepted s.processor (processorInputs s i) =
      some (.programWrite address data)) :
    Mister.Running s.processor (processorInputs s i) := by
  apply Mister.running_iff.mpr
  by_contra active
  rw [Bool.not_eq_false] at active
  rcases Mister.accepted_reset active taken with ⟨address', same⟩
  cases same

/-- A store of the processor is a table write that is passed. -/
theorem tableStore?_iff {store : BitVec 12 × BitVec 16} :
    tableStore? s i = some store ↔
      Mister.accepted s.processor (processorInputs s i) =
          some (.programWrite store.1 store.2) ∧ 8 ≤ store.1.toNat := by
  unfold tableStore?
  cases Mister.accepted s.processor (processorInputs s i) with
  | none => simp
  | some request =>
      cases request with
      | programRead address => simp
      | ioRead port => simp
      | ioWrite port data => simp
      | programWrite address data =>
          constructor
          · intro stores
            dsimp only at stores
            split_ifs at stores with high
            cases stores
            exact ⟨rfl, high⟩
          · rintro ⟨same, high⟩
            cases same
            exact if_pos high

/-- Under a processor outside reset the host stores nothing. -/
theorem hostStore?_running (running : Mister.Running s.processor (processorInputs s i)) :
    hostStore? s i = none := by
  unfold hostStore?
  rw [(selected_of_running running).2, Bool.not_true, Bool.and_false]
  rfl

/-- The decoded program write is a table write to an address of 8 or above. -/
theorem dspProgramWrite_iff :
    (decode s i).dspProgramWrite = true ↔
      ∃ address data, request? s i = some (.programWrite address data) ∧ 8 ≤ address.toNat := by
  have strobe := (strobes (s := s) (i := i)).2.2
  have stored := (io_eq (s := s) (i := i)).2.2.2.2
  rw [stored, strobe, Bool.not_not, Bool.and_eq_true, Bool.not_eq_true']
  constructor
  · rintro ⟨writes, high⟩
    cases shown : request? s i with
    | none =>
        rw [shown] at writes
        exact absurd writes Bool.false_ne_true
    | some request =>
        rw [shown] at writes
        rw [nativeAddress_of shown] at high
        cases request with
        | programRead address => exact absurd writes Bool.false_ne_true
        | programWrite address data => exact ⟨address, data, rfl, (portRegion_iff address).mp high⟩
        | ioRead port => exact absurd writes Bool.false_ne_true
        | ioWrite port data => exact absurd (high.symm.trans (portRegion_port port)) (by decide)
  · rintro ⟨address, data, shown, high⟩
    rw [shown, nativeAddress_of shown]
    exact ⟨rfl, (portRegion_iff address).mpr high⟩

/-- The RAM takes a write of the processor where a table write is passed. -/
theorem tmsWriteCommit_iff (disciplined : Disciplined s i) :
    ProgramRam.tmsWriteCommit (programRamInputs s i) = true ↔
      tableStore? s i = some (nativeAddress s i, nativeWriteData s i) := by
  have commit : ProgramRam.tmsWriteCommit (programRamInputs s i) =
      (ProgramRam.tmsAccessPermitted (programRamInputs s i) && (decode s i).dspProgramWrite &&
        (endsCycle s i && ramTmsProgramReady s i)) := rfl
  rw [commit, Bool.and_eq_true, Bool.and_eq_true, Bool.and_eq_true, dspProgramWrite_iff,
    tableStore?_iff, Mister.accepted_iff]
  constructor
  · rintro ⟨⟨-, address, data, shown, high⟩, ends, -⟩
    rw [nativeAddress_of shown, (nativeWriteData_of shown).1 address data rfl]
    exact ⟨⟨ends, shown⟩, high⟩
  · rintro ⟨⟨ends, shown⟩, high⟩
    have running := running_of_write (Mister.accepted_iff.mpr ⟨ends, shown⟩)
    have permitted := permitted_of_running disciplined running
    have writes : (decode s i).dspProgramWrite = true :=
      dspProgramWrite_iff.mpr ⟨_, _, shown, high⟩
    refine ⟨⟨permitted, _, _, shown, high⟩, ends, ?_⟩
    change (ProgramRam.tmsAccessPermitted (programRamInputs s i) &&
      ((decode s i).dspProgramWrite || _)) = true
    rw [permitted, writes]
    rfl

/-- A store of the processor is at the native address, with the native data. -/
theorem tableStore?_bus {store : BitVec 12 × BitVec 16} (stores : tableStore? s i = some store) :
    store = (nativeAddress s i, nativeWriteData s i) := by
  have shown := (Mister.accepted_iff.mp (tableStore?_iff.mp stores).1).2
  rw [nativeAddress_of shown, (nativeWriteData_of shown).1 store.1 store.2 rfl]
  rfl

/-- A clock that initializes stores nothing. -/
theorem store?_initialize (asserted : i.initializeI = true) : store? s i = none := by
  have host : hostStore? s i = none := by
    unfold hostStore?
    rw [asserted]
    rfl
  have table : tableStore? s i = none := by
    rw [Option.eq_none_iff_forall_ne_some]
    intro store stores
    have running := running_of_write (tableStore?_iff.mp stores).1
    exact absurd (asserted.symm.trans (selected_of_running running).1) (by decide)
  unfold store?
  rw [host, table]
  rfl

/-- The RAM takes the store of the clock. -/
theorem programRam_step (disciplined : Disciplined s i) :
    (step s i).programRam.programRam = stored s.programRam.programRam (store? s i) := by
  change (ProgramRam.step s.programRam (programRamInputs s i)).programRam = _
  rw [ProgramRam.step_programRam]
  change (if i.initializeI then _ else _) = _
  cases asserted : i.initializeI
  · have commit : ProgramRam.hostWriteCommit (programRamInputs s i) =
        (!selectedHostProgramSelectN s i && !selectedDspResetN s i &&
          selectedHostProgramWrite s i && selectedHostProgramCommit s i) := rfl
    rw [if_neg Bool.false_ne_true]
    unfold ProgramRam.nextProgramRam
    cases host : ProgramRam.hostWriteCommit (programRamInputs s i)
    · have absent : hostStore? s i = none := by
        rw [host, eq_comm] at commit
        unfold hostStore?
        rw [asserted, if_neg]
        rw [Bool.not_eq_true, Bool.not_false, Bool.true_and, ← commit]
        cases selectedDspResetN s i <;> cases selectedHostProgramSelectN s i <;> rfl
      rw [if_neg Bool.false_ne_true]
      unfold store?
      rw [absent, Option.none_or]
      cases table : tableStore? s i with
      | none =>
          have idle : ¬ProgramRam.tmsWriteCommit (programRamInputs s i) = true := by
            rw [tmsWriteCommit_iff disciplined, table]
            exact (Option.some_ne_none _).symm
          rw [if_neg idle]
          rfl
      | some store =>
          have writes : ProgramRam.tmsWriteCommit (programRamInputs s i) = true := by
            rw [tmsWriteCommit_iff disciplined, table, tableStore?_bus table]
          rw [if_pos writes, tableStore?_bus table]
          rfl
    · have taken : hostStore? s i =
          some (selectedHostProgramAddress s i, selectedHostProgramWriteData s i) := by
        rw [host, eq_comm] at commit
        unfold hostStore?
        rw [asserted, if_pos]
        rw [Bool.not_false, Bool.true_and, ← commit]
        cases selectedDspResetN s i <;> cases selectedHostProgramSelectN s i <;> rfl
      rw [if_pos rfl]
      unfold store?
      rw [taken]
      rfl
  · rw [if_pos rfl, store?_initialize asserted]
    rfl

end Stores

/-! ## Sampled words -/

section Words

variable {s : State} {i : Inputs}

/-- Past phase 0 a response of the processor is the word at the bus address. -/
def Coherent (s : State) : Prop :=
  s.programRam.readResponseValid = true → s.programRam.readResponseHost = false →
    phase s ≠ 0 →
      s.programRam.readResponseData = s.programRam.programRam s.processor.pipeline.bus.address

/-- The processor never reads and writes under one strobe. -/
theorem native_apart : ¬(nativeMenN s i = false ∧ nativeWeN s i = false) := by
  rcases strobes (s := s) (i := i) with ⟨men, -, we⟩
  rw [men, we]
  cases request? s i with
  | none => simp
  | some request => cases request <;> simp [Request.strobesMen, Request.strobesWe]

/-- A clock in which the processor reads the RAM stores nothing. -/
theorem nextProgramRam_reading (reads : ProgramRam.tmsReadRequest (programRamInputs s i) = true) :
    ProgramRam.nextProgramRam s.programRam (programRamInputs s i) = s.programRam.programRam := by
  have orderly := ProgramRam.view_orderly (programRamInputs s i) native_apart
  rw [← ProgramRam.nextMemory_view]
  unfold RegisteredRead.nextMemory
  rw [orderly.quiet false reads]
  rfl

/-- The processor reads under `MEN`. -/
theorem menN_of_reading (reads : ProgramRam.tmsReadRequest (programRamInputs s i) = true) :
    nativeMenN s i = false := by
  have strobe : (ProgramRam.tmsAccessPermitted (programRamInputs s i) && !nativeMenN s i) = true :=
    reads
  rw [Bool.and_eq_true, Bool.not_eq_true'] at strobe
  exact strobe.2

theorem coherent_step (coherent : Coherent s) (i : Inputs) : Coherent (step s i) := by
  intro valid tms past
  have view := ProgramRam.step_view s.programRam (programRamInputs s i)
  have kept := Mister.bus_address_kept (s := s.processor) (i := processorInputs s i) past
  have valid' : (RegisteredRead.step s.programRam.view 0 (programRamInputs s i).view).valid =
      true := by
    rw [← view]
    exact valid
  have first : (RegisteredRead.step s.programRam.view 0 (programRamInputs s i).view).first =
      false := by
    rw [← view]
    exact tms
  have data : (step s i).programRam.readResponseData =
      (RegisteredRead.step s.programRam.view 0 (programRamInputs s i).view).data := by
    rw [← view]
    rfl
  have memory (reads : ProgramRam.tmsReadRequest (programRamInputs s i) = true) :
      (step s i).programRam.programRam = s.programRam.programRam := by
    change (ProgramRam.step s.programRam (programRamInputs s i)).programRam = _
    rw [ProgramRam.step_programRam, nextProgramRam_reading reads, ite_self]
  have address : (step s i).processor.pipeline.bus.address = s.processor.pipeline.bus.address :=
    kept
  rw [data, address]
  rcases RegisteredRead.step_valid _ 0 _ valid' with
    ⟨old, asked, same, word, -⟩ | ⟨asked, word, -⟩
  · have tms' : s.programRam.readResponseHost = false := same.symm.trans first
    have reads : ProgramRam.tmsReadRequest (programRamInputs s i) = true := by
      have owner : s.programRam.view.first = false := tms'
      rw [owner] at asked
      exact asked
    rcases Mister.programRead_of_men (menN_of_reading reads) with ⟨-, -, started⟩
    rw [memory reads, word]
    exact coherent old tms' started
  · have reads : ProgramRam.tmsReadRequest (programRamInputs s i) = true := by
      rw [first] at asked
      exact asked
    rcases Mister.programRead_of_men (menN_of_reading reads) with ⟨-, native, -⟩
    rw [memory reads, word, first]
    change s.programRam.programRam (nativeAddress s i) = _
    exact congrArg s.programRam.programRam native

/-- A running processor that asks for a program word requests it from the RAM. -/
theorem reading_of_request (disciplined : Disciplined s i)
    (running : Mister.Running s.processor (processorInputs s i)) {address : BitVec 12}
    (shown : request? s i = some (.programRead address)) :
    ProgramRam.tmsReadRequest (programRamInputs s i) = true := by
  change (ProgramRam.tmsAccessPermitted (programRamInputs s i) && !nativeMenN s i) = true
  rw [permitted_of_running disciplined running, (strobes (s := s) (i := i)).1, shown]
  rfl

/-- The response of the processor stays as long as its request. -/
theorem response_kept (noInitialize : i.initializeI = false)
    (reads : ProgramRam.tmsReadRequest (programRamInputs s i) = true)
    (valid : s.programRam.readResponseValid = true) (tms : s.programRam.readResponseHost = false) :
    (step s i).programRam.readResponseValid = true ∧
      (step s i).programRam.readResponseHost = false := by
  change (ProgramRam.step s.programRam (programRamInputs s i)).readResponseValid = true ∧
    (ProgramRam.step s.programRam (programRamInputs s i)).readResponseHost = false
  have quiet : (programRamInputs s i).initializeI = false := noInitialize
  unfold ProgramRam.step
  rw [quiet, if_neg Bool.false_ne_true, if_pos valid]
  dsimp only
  rw [tms, reads]
  exact ⟨rfl, rfl⟩

/-- A program read is at the bus address. -/
theorem address_of_read {address : BitVec 12}
    (shown : request? s i = some (.programRead address)) :
    address = s.processor.pipeline.bus.address := by
  have strobe : nativeMenN s i = false := by
    rw [(strobes (s := s) (i := i)).1, shown]
    rfl
  have same := (Mister.programRead_of_men strobe).1
  have shown' : Mister.callback? s.processor (processorInputs s i) = _ := shown
  exact Request.programRead.inj (Option.some.inj (shown'.symm.trans same))

/-- A machine cycle ends in phase 3. -/
theorem phase_of_ends (ends : Mister.endsCycle s.processor (processorInputs s i) = true) :
    phase s ≠ 0 := by
  unfold Mister.endsCycle at ends
  rw [Bool.and_eq_true, beq_iff_eq] at ends
  have last : phase s = 3 := ends.2
  rw [last]
  decide

/-- The ready of a program word is a response of the processor. -/
theorem response_of_ready {address : BitVec 12}
    (shown : request? s i = some (.programRead address))
    (ready : Mister.ready (processorInputs s i) (.programRead address) = true) :
    s.programRam.readResponseValid = true ∧ s.programRam.readResponseHost = false := by
  have reads : logicalProgramRead s i = true := Mister.programRead_of shown
  have quiet : (programRamPins s i).decode.dspProgramWrite = false := by
    by_contra writes
    rw [Bool.not_eq_false] at writes
    rcases dspProgramWrite_iff.mp writes with ⟨address', data, other, -⟩
    rw [shown] at other
    cases other
  change logicalProgramReady s i = true at ready
  unfold logicalProgramReady at ready
  rw [if_pos reads] at ready
  rcases ProgramRam.tmsProgramReady_read ready quiet with ⟨valid, tms, -⟩
  exact ⟨valid, tms⟩

end Words

/-! ## Runs -/

section Run

variable (start : State) (inputs : ℕ → Inputs)

/-- The program RAM before a clock. -/
def programAt (clock : ℕ) : BitVec 12 → BitVec 16 :=
  (stateAt start inputs clock).programRam.programRam

/-- The store of a clock. -/
def storeAt (clock : ℕ) : Option (BitVec 12 × BitVec 16) :=
  store? (stateAt start inputs clock) (inputs clock)

/-- The request the processor passes in a clock. -/
def acceptedAt (clock : ℕ) : Option Request :=
  Mister.accepted (stateAt start inputs clock).processor (processorInputsAt start inputs clock)

/-- The reset of the processor in a clock. -/
def resetAt (clock : ℕ) : Bool :=
  Mister.resetActive (stateAt start inputs clock).processor (processorInputsAt start inputs clock)

/-- The program store of a run. A sampled word is the one in the RAM; a word of the RAM is
the one last stored at its address, or the initial one; a table write to an address of 8 or
above stores its word in the clock that passes it; and only that and a committed write of
the host store anything. -/
structure StoreCoherent : Prop where
  sampled : ∀ clock address, 0 < clock → resetAt start inputs clock = false →
    acceptedAt start inputs clock = some (.programRead address) →
      (processorInputsAt start inputs clock).programReadData =
        programAt start inputs clock address
  recent : ∀ clock address last word, Last (storesAt (storeAt start inputs) address) last clock →
    storeAt start inputs last = some (address, word) →
      programAt start inputs clock address = word
  initial : ∀ clock address,
    (∀ earlier, earlier < clock → ¬storesAt (storeAt start inputs) address earlier) →
      programAt start inputs clock address = start.programRam.programRam address
  table : ∀ clock address word,
    acceptedAt start inputs clock = some (.programWrite address word) → 8 ≤ address.toNat →
      storeAt start inputs clock = some (address, word) ∧
        programAt start inputs (clock + 1) =
          Function.update (programAt start inputs clock) address word
  only : ∀ clock store, storeAt start inputs clock = some store →
    hostStore? (stateAt start inputs clock) (inputs clock) = some store ∨
      (acceptedAt start inputs clock = some (.programWrite store.1 store.2) ∧
        8 ≤ store.1.toNat)
  kept : ∀ clock, storeAt start inputs clock = none →
    programAt start inputs (clock + 1) = programAt start inputs clock
  initialized : ∀ clock, (inputs clock).initializeI = true →
    programAt start inputs (clock + 1) = programAt start inputs clock

variable {start inputs}

theorem coherent (initialized : (inputs 0).initializeI = true) {clock : ℕ} (later : 0 < clock) :
    Coherent (stateAt start inputs clock) := by
  induction clock, later using Nat.le_induction with
  | base =>
      intro valid
      have cleared : (stateAt start inputs 1).programRam.readResponseValid = false := by
        change (ProgramRam.step _ (programRamInputs start (inputs 0))).readResponseValid = false
        have clears : (programRamInputs start (inputs 0)).initializeI = true := initialized
        unfold ProgramRam.step
        rw [if_pos clears]
      exact absurd (cleared.symm.trans valid) (by decide)
  | succ clock later ih => exact coherent_step ih (inputs clock)

/-- A program word the processor samples is presented by a response of its own. -/
theorem response_sampled (initialized : (inputs 0).initializeI = true)
    (disciplined : ∀ clock, Disciplined (stateAt start inputs clock) (inputs clock)) {clock : ℕ}
    (later : 0 < clock) (inactive : resetAt start inputs clock = false)
    (ends : endsCycle (stateAt start inputs clock) (inputs clock) = true) {address : BitVec 12}
    (shown : request? (stateAt start inputs clock) (inputs clock) = some (.programRead address)) :
    (stateAt start inputs clock).programRam.readResponseValid = true ∧
      (stateAt start inputs clock).programRam.readResponseHost = false := by
  have running := Mister.running_iff.mpr inactive
  rw [processor_stateAt] at running
  rcases sampled_of_ends initialized later running ends shown with ⟨seen, earlier, ready, asks⟩
  have asked (now : ℕ) (after : seen ≤ now) (before : now < clock + 1) :
      Mister.Running (stateAt start inputs now).processor (processorInputsAt start inputs now) ∧
        request? (stateAt start inputs now) (inputs now) = some (.programRead address) := by
    rcases asks now after before with ⟨running, kind⟩
    rw [← request?_running running] at kind
    rw [processor_stateAt]
    refine ⟨running, ?_⟩
    rcases Option.map_eq_some_iff.mp kind with ⟨request, shown, same⟩
    rw [shown]
    cases request with
    | programRead address' => exact congrArg some same
    | programWrite address' data => cases same
    | ioRead port => cases same
    | ioWrite port data => cases same
  have response (now : ℕ) (after : seen ≤ now) (before : now ≤ clock) :
      (stateAt start inputs now).programRam.readResponseValid = true ∧
        (stateAt start inputs now).programRam.readResponseHost = false := by
    induction now, after using Nat.le_induction with
    | base =>
        exact response_of_ready (asked seen (Nat.le_refl seen) (Nat.lt_succ_of_lt earlier)).2 ready
    | succ now after ih =>
        rcases ih (Nat.le_of_succ_le before) with ⟨valid, tms⟩
        rcases asked now after (Nat.lt_succ_of_lt before) with ⟨running, shown⟩
        have reads := reading_of_request (disciplined now) running shown
        exact response_kept (selected_of_running running).1 reads valid tms
  exact response clock (Nat.le_of_lt earlier) (Nat.le_refl clock)

/-- While the host selects the program RAM only under DSP reset, the program store is
coherent over every run. -/
theorem programStore_coherent (start : State) (inputs : ℕ → Inputs)
    (initialized : (inputs 0).initializeI = true)
    (disciplined : ∀ clock, Disciplined (stateAt start inputs clock) (inputs clock)) :
    StoreCoherent start inputs := by
  have takes : Takes (programAt start inputs) (storeAt start inputs) :=
    fun clock => programRam_step (disciplined clock)
  refine ⟨?_, ?_, ?_, ?_, ?_, ?_, ?_⟩
  · intro clock address later inactive taken
    rcases Mister.accepted_iff.mp taken with ⟨ends, shown⟩
    rcases response_sampled initialized disciplined later inactive ends shown with ⟨valid, tms⟩
    have last : phase (stateAt start inputs clock) ≠ 0 := phase_of_ends ends
    have word := coherent initialized later valid tms last
    rw [← address_of_read shown] at word
    exact word
  · intro clock address last word since stores
    exact takes.recent since stores
  · intro clock address absent
    exact takes.initial absent
  · intro clock address word taken high
    have stores : storeAt start inputs clock = some (address, word) := by
      have table : tableStore? (stateAt start inputs clock) (inputs clock) = some (address, word) :=
        tableStore?_iff.mpr ⟨taken, high⟩
      unfold storeAt store?
      rw [hostStore?_running (running_of_write taken), table]
      rfl
    refine ⟨stores, ?_⟩
    rw [takes clock, stores]
    rfl
  · intro clock store stores
    unfold storeAt store? at stores
    rcases Option.or_eq_some_iff.mp stores with host | ⟨-, table⟩
    · exact Or.inl host
    · exact Or.inr (tableStore?_iff.mp table)
  · intro clock quiet
    rw [takes clock, quiet, stored_none]
  · intro clock asserted
    have quiet : storeAt start inputs clock = none := store?_initialize asserted
    rw [takes clock, quiet, stored_none]

/-- A host that loads words under DSP reset in clocks 1 and 2 and then releases it. -/
def loadingInputs (clock : ℕ) : Inputs :=
  { enabledInputs with
    initializeI := clock == 0
    useHostTiming := false
    dspResetN := decide (3 ≤ clock)
    hostProgramSelectN := decide (3 ≤ clock)
    hostWrite := true
    hostCommit := true
    hostAddress := BitVec.ofNat 12 clock
    hostWriteData := 0x7f80 }

theorem programStore_coherent_loading :
    StoreCoherent (clearState (fun _ => 0) fun _ => 0) loadingInputs :=
  programStore_coherent (clearState (fun _ => 0) fun _ => 0) loadingInputs rfl
    fun _ selected => selected

end Run

end Tms32010.Board.SoundMister
