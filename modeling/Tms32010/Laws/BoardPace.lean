import Tms32010.Laws.BoardRuns
import Tms32010.Laws.BoardTransfers

/-!
# The pace of the board

The program RAM answers a read of the processor before the hold of phase 2 is taken, and a
store at once. The board therefore holds its processor only for an access of the I/O bus
whose target is not ready, and a board whose ports answer completes an instruction within
sixteen enabled clocks.
-/

namespace Tms32010.Board.SoundMister

open Tms32010.Rtl Timeline
open Model (trajectory embed)

/-! ## What the processor waits for -/

section Clock

variable {s : State} {i : Inputs}

/-- What the processor asks for, outside reset. -/
def asks (s : State) : Option Request := (Slice.request? s.processor.pipeline).map Request.kind

theorem request?_asks (running : Mister.Running s.processor (processorInputs s i)) :
    (request? s i).map Request.kind = asks s := by
  unfold request? asks
  rw [running.callback?]

/-- A running processor that asks for a program word shows its read. -/
theorem shows_read (running : Mister.Running s.processor (processorInputs s i))
    {address : BitVec 12} (asking : asks s = some (.programRead address)) :
    request? s i = some (.programRead address) := by
  rw [← request?_asks running] at asking
  rcases Option.map_eq_some_iff.mp asking with ⟨request, shown, kind⟩
  rw [shown]
  cases request with
  | programRead address' => exact congrArg some kind
  | programWrite address' data => cases kind
  | ioRead port => cases kind
  | ioWrite port data => cases kind

/-- A clock that leaves phase 2 or 3 outside reset is one of the machine cycle past phase 0. -/
theorem before_late (late : phase (step s i) = 2 ∨ phase (step s i) = 3)
    (ended : (step s i).processor.resetCyclesRemaining = 0) :
    Mister.Running s.processor (processorInputs s i) ∧
      Slice.pipelineBoundary s.processor.pipeline
        (Mister.sliceInputs s.processor (processorInputs s i)) = false ∧ phase s ≠ 0 := by
  have started : phase (step s i) ≠ 0 := Mister.started_of_phases late
  have running := Mister.running_iff.mpr
    (Mister.inactive_of_started s.processor (processorInputs s i) ended started)
  have next : phase (step s i) =
      if Mister.phaseAdvance s.processor (processorInputs s i) then phase s + 1 else phase s :=
    Mister.phase_within running
  refine ⟨running, ?_, ?_⟩
  · by_contra boundary
    rw [Bool.not_eq_false] at boundary
    exact started (Mister.phase_boundary boundary)
  · intro first
    rw [next, first] at late
    split_ifs at late
    · revert late
      decide
    · revert late
      decide

/-- Within a machine cycle the processor asks for the same. -/
theorem asks_within (running : Mister.Running s.processor (processorInputs s i))
    (within : Slice.pipelineBoundary s.processor.pipeline
      (Mister.sliceInputs s.processor (processorInputs s i)) = false)
    (started : phase s ≠ 0) : asks (step s i) = asks s :=
  Slice.request?_kind_within running.noInitialize within started

/-- The processor has asked since its last reset for what it gets, and is held for a port. -/
structure Prompt (s : State) : Prop where
  /-- Past phase 0 a response of the program RAM is the processor's. -/
  own : s.processor.resetCyclesRemaining = 0 → phase s ≠ 0 →
    s.programRam.readResponseValid = true → s.programRam.readResponseHost = false
  /-- From phase 2 on a program read has its response. -/
  fetched : s.processor.resetCyclesRemaining = 0 → phase s = 2 ∨ phase s = 3 →
    ∀ address, asks s = some (.programRead address) → s.programRam.readResponseValid = true
  /-- What is held is an access of the I/O bus. -/
  held : s.processor.memoryWait = true →
    (phase s = 2 ∨ phase s = 3) ∧ ((asks s).bind access?).isSome = true

/-- A running processor leaves no response of the host. -/
theorem own_step (disciplined : Disciplined s i)
    (running : Mister.Running s.processor (processorInputs s i))
    (valid : (step s i).programRam.readResponseValid = true) :
    (step s i).programRam.readResponseHost = false := by
  have permitted := permitted_of_running disciplined running
  have silent : ProgramRam.hostReadRequest (programRamInputs s i) = false := by
    have apart := ProgramRam.permitted_apart (programRamInputs s i)
    rw [permitted] at apart
    unfold ProgramRam.hostReadRequest
    rw [Bool.eq_false_of_not_eq_true fun host => apart ⟨host, rfl⟩, Bool.false_and]
  have noInitialize : (programRamInputs s i).initializeI = false := (selected_of_running running).1
  change (ProgramRam.step s.programRam (programRamInputs s i)).readResponseValid = true at valid
  change (ProgramRam.step s.programRam (programRamInputs s i)).readResponseHost = false
  unfold ProgramRam.step at valid ⊢
  rw [noInitialize, if_neg Bool.false_ne_true] at valid ⊢
  by_cases kept : s.programRam.readResponseValid = true
  · rw [if_pos kept] at valid ⊢
    change s.programRam.readResponseHost = false
    by_contra host
    rw [Bool.not_eq_false] at host
    simp [host, silent] at valid
  · rw [if_neg kept] at valid ⊢
    rw [silent, Bool.false_or] at valid ⊢
    split_ifs at valid ⊢
    · rfl
    · exact absurd valid kept

/-- The RAM responds to a read of the processor in the next clock. -/
theorem fetched_step (disciplined : Disciplined s i)
    (running : Mister.Running s.processor (processorInputs s i))
    (own : s.programRam.readResponseValid = true → s.programRam.readResponseHost = false)
    {address : BitVec 12} (asking : asks s = some (.programRead address)) :
    (step s i).programRam.readResponseValid = true := by
  have noInitialize := (selected_of_running running).1
  have reads := reading_of_request disciplined running (shows_read running asking)
  by_cases kept : s.programRam.readResponseValid = true
  · exact (response_kept noInitialize reads kept (own kept)).1
  · have quiet : (programRamInputs s i).initializeI = false := noInitialize
    change (ProgramRam.step s.programRam (programRamInputs s i)).readResponseValid = true
    unfold ProgramRam.step
    rw [quiet, if_neg Bool.false_ne_true, if_neg kept, reads, Bool.or_true, if_pos rfl]

/-- A program word that is there is ready. -/
theorem ready_of_response (disciplined : Disciplined s i)
    (running : Mister.Running s.processor (processorInputs s i)) {address : BitVec 12}
    (shown : request? s i = some (.programRead address))
    (valid : s.programRam.readResponseValid = true) (tms : s.programRam.readResponseHost = false) :
    Mister.ready (processorInputs s i) (.programRead address) = true := by
  have reads := reading_of_request disciplined running shown
  have logical : logicalProgramRead s i = true := Mister.programRead_of shown
  change logicalProgramReady s i = true
  unfold logicalProgramReady
  rw [if_pos logical]
  change (ProgramRam.tmsAccessPermitted (programRamInputs s i) && !nativeMenN s i) = true at reads
  change (ProgramRam.tmsAccessPermitted (programRamInputs s i) &&
    ((decode s i).dspProgramWrite ||
      (!nativeMenN s i && s.programRam.readResponseValid && !s.programRam.readResponseHost))) = true
  rw [Bool.and_eq_true] at reads
  rw [reads.1, reads.2, valid, tms]
  exact Bool.or_true _

/-- A store to the program RAM is ready. -/
theorem ready_of_store (disciplined : Disciplined s i)
    (running : Mister.Running s.processor (processorInputs s i)) {address : BitVec 12}
    {data : BitVec 16} (shown : request? s i = some (.programWrite address data))
    (high : portRegion address = false) :
    Mister.ready (processorInputs s i) (.programWrite address data) = true := by
  have stores : logicalProgramRead s i = false ∧ logicalProgramWrite s i = true :=
    Mister.programWrite_of shown
  have writes : (decode s i).dspProgramWrite = true :=
    dspProgramWrite_iff.mpr ⟨address, data, shown, (portRegion_iff address).mp high⟩
  change logicalProgramReady s i = true
  unfold logicalProgramReady
  rw [stores.1, stores.2, writes, if_neg Bool.false_ne_true, if_pos rfl, if_pos rfl]
  change (ProgramRam.tmsAccessPermitted (programRamInputs s i) &&
    ((decode s i).dspProgramWrite || _)) = true
  rw [permitted_of_running disciplined running, writes]
  rfl

/-- A request that is not ready is for an access of the I/O bus that is not answered. -/
theorem port_of_unready (disciplined : Disciplined s i)
    (running : Mister.Running s.processor (processorInputs s i)) {request : Request}
    (shown : request? s i = some request)
    (there : ∀ address, request = .programRead address →
      s.programRam.readResponseValid = true ∧ s.programRam.readResponseHost = false)
    (unready : Mister.ready (processorInputs s i) request = false) :
    ∃ access, access? request = some access ∧ shownAccess? s i = some access ∧
      ¬Answers s i access := by
  have shows {access : PortAccess} (accesses : access? request = some access) :
      shownAccess? s i = some access := by
    rw [shownAccess?_eq, shown]
    exact accesses
  have refused {access : PortAccess} (accesses : access? request = some access)
      (waits : selectedIoReady s i = false) :
      ∃ access, access? request = some access ∧ shownAccess? s i = some access ∧
        ¬Answers s i access := by
    refine ⟨access, accesses, shows accesses, ?_⟩
    rw [← selectedIoReady_iff (shows accesses), waits]
    exact Bool.false_ne_true
  cases request with
  | programRead address =>
      rcases there address rfl with ⟨valid, tms⟩
      have ready := ready_of_response disciplined running shown valid tms
      exact absurd (ready.symm.trans unready) (by decide)
  | ioRead port => exact refused rfl unready
  | ioWrite port data => exact refused rfl unready
  | programWrite address data =>
      rcases Bool.eq_false_or_eq_true (portRegion address) with low | high
      · refine refused (if_pos low) ?_
        have stores : logicalProgramRead s i = false ∧ logicalProgramWrite s i = true :=
          Mister.programWrite_of shown
        have strobe := (strobes (s := s) (i := i)).2.2
        rcases io_eq (s := s) (i := i) with ⟨-, writes, -, -, stored⟩
        rw [strobe, nativeAddress_of shown, shown] at writes stored
        change logicalProgramReady s i = false at unready
        unfold logicalProgramReady at unready
        rw [stores.1, stores.2, stored, writes] at unready
        simpa [Request.strobesWe, Request.nativeAddress, low] using unready
      · have ready := ready_of_store disciplined running shown high
        exact absurd (ready.symm.trans unready) (by decide)

/-- A clock that leaves a hold shows an access that is not answered. -/
theorem port_of_held (prompt : Prompt s) (disciplined : Disciplined s i)
    (holds : (step s i).processor.memoryWait = true) :
    Mister.Running s.processor (processorInputs s i) ∧ (phase s = 2 ∨ phase s = 3) ∧
      ∃ access, ((asks s).bind access?).isSome = true ∧ shownAccess? s i = some access ∧
        ¬Answers s i access := by
  have running : Mister.Running s.processor (processorInputs s i) := by
    apply Mister.running_iff.mpr
    by_contra active
    rw [Bool.not_eq_false] at active
    exact absurd ((Mister.memoryWait_active active).symm.trans holds) (by decide)
  have remaining := running.remaining
  have hold := (Mister.memoryWait_running running).symm.trans holds
  rcases Mister.responds_eq s.processor (processorInputs s i) with ⟨waits, responds⟩
  have unready : (phase s = 2 ∨ phase s = 3) ∧ ∃ request, request? s i = some request ∧
      Mister.ready (processorInputs s i) request = false := by
    by_cases held : s.processor.memoryWait = true
    · rcases prompt.held held with ⟨phases, asked⟩
      rw [if_pos held, responds, Bool.not_eq_true'] at hold
      refine ⟨phases, ?_⟩
      cases shown : request? s i with
      | none =>
          rw [← request?_asks running, shown] at asked
          exact absurd asked Bool.false_ne_true
      | some request =>
          have shown' : Mister.callback? s.processor (processorInputs s i) = some request := shown
          rw [shown'] at hold
          exact ⟨request, rfl, hold⟩
    · rw [if_neg held] at hold
      split_ifs at hold with second
      refine ⟨Or.inl (beq_iff_eq.mp second), ?_⟩
      rw [waits] at hold
      rcases Option.any_eq_true _ _ |>.mp hold with ⟨request, shown, unready⟩
      rw [Bool.not_eq_true'] at unready
      exact ⟨request, shown, unready⟩
  rcases unready with ⟨phases, request, shown, unready⟩
  have asking : asks s = some request.kind := by
    rw [← request?_asks running, shown]
    rfl
  have there (address : BitVec 12) (reads : request = .programRead address) :
      s.programRam.readResponseValid = true ∧ s.programRam.readResponseHost = false := by
    subst reads
    have valid := prompt.fetched remaining phases address asking
    exact ⟨valid, prompt.own remaining (Mister.started_of_phases phases) valid⟩
  rcases port_of_unready disciplined running shown there unready with
    ⟨access, accesses, shows, refuses⟩
  refine ⟨running, phases, access, ?_, shows, refuses⟩
  rw [asking, Option.bind_some, access?_kind, accesses]
  rfl

/-- A clock that leaves a hold stays in its machine cycle. -/
theorem holding_within (running : Mister.Running s.processor (processorInputs s i))
    (phases : phase s = 2 ∨ phase s = 3) (holds : (step s i).processor.memoryWait = true) :
    Slice.pipelineBoundary s.processor.pipeline
        (Mister.sliceInputs s.processor (processorInputs s i)) = false ∧
      (phase (step s i) = 2 ∨ phase (step s i) = 3) := by
  have hold := (Mister.memoryWait_running running).symm.trans holds
  have next : phase (step s i) =
      if Mister.phaseAdvance s.processor (processorInputs s i) then phase s + 1 else phase s :=
    Mister.phase_within running
  by_cases held : s.processor.memoryWait = true
  · have still := Mister.phaseAdvance_held (i := processorInputs s i) held
    rw [Mister.pipelineBoundary_eq, next, still, if_neg Bool.false_ne_true, Bool.false_and]
    exact ⟨rfl, phases⟩
  · rw [if_neg held] at hold
    split_ifs at hold with second
    have here : phase s = 2 := beq_iff_eq.mp second
    have within : (phase s == 3) = false := by
      rw [here]
      decide
    refine ⟨?_, ?_⟩
    · rw [Mister.pipelineBoundary_eq]
      change (_ && (phase s == 3)) = false
      rw [within, Bool.and_false]
    · rw [next, here]
      split_ifs
      · exact Or.inr rfl
      · exact Or.inl rfl

theorem Prompt.step (prompt : Prompt s) (disciplined : Disciplined s i) : Prompt (step s i) := by
  refine ⟨?_, ?_, ?_⟩
  · intro ended started valid
    have running := Mister.running_iff.mpr
      (Mister.inactive_of_started s.processor (processorInputs s i) ended started)
    exact own_step disciplined running valid
  · intro ended late address asking
    rcases before_late late ended with ⟨running, within, started⟩
    rw [asks_within running within started] at asking
    exact fetched_step disciplined running (prompt.own running.remaining started) asking
  · intro holds
    rcases port_of_held prompt disciplined holds with ⟨running, phases, -, asked, -, -⟩
    have started : phase s ≠ 0 := Mister.started_of_phases phases
    rcases holding_within running phases holds with ⟨within, late⟩
    rw [asks_within running within started]
    exact ⟨late, asked⟩

end Clock

/-! ## Runs -/

section Run

variable (start : State) (inputs : ℕ → Inputs)

/-- The processor is held only for a port that does not answer. -/
def HoldsForPorts : Prop :=
  ∀ clock, 0 < clock → (stateAt start inputs (clock + 1)).processor.memoryWait = true →
    ∃ access, shownAccess? (stateAt start inputs clock) (inputs clock) = some access ∧
      ¬Answers (stateAt start inputs clock) (inputs clock) access

/-- Every access shown in the clocks after the release is answered at once. -/
def PortsAnswer (last count : ℕ) : Prop :=
  ∀ clock, last < clock → clock ≤ last + count →
    ∀ access, shownAccess? (stateAt start inputs clock) (inputs clock) = some access →
      Answers (stateAt start inputs clock) (inputs clock) access

/-- The enabled clocks of the board after the release. -/
def enabledClocks (last count : ℕ) : ℕ :=
  (List.range' (last + 1) count).countP fun clock => (inputs clock).clockEnable

/-- The board holds its processor for nothing but its ports. Where they answer, the enabled
clocks after the release are bounded by the calls of the reference model they make. -/
structure KeepsPace (last count : ℕ) : Prop where
  holds : HoldsForPorts start inputs
  pace : PortsAnswer start inputs last count → ∀ pins,
    let origin := embed pins (architectureAt start inputs (last + 1) 0)
    let steps := Slice.Attached.device.steps [] (hostedAt start inputs (last + 1)).slice
      (sliceClocks start inputs (last + 1) count)
    ∃ calls, trajectory origin (steps.map fun step => Slice.stepPins step.1) = .ok calls ∧
      (Slice.GoesOn (Slice.lastModel origin calls) →
        enabledClocks inputs last count ≤ 24 + 16 * calls.length)

variable {start inputs}

theorem prompt (initialized : (inputs 0).initializeI = true)
    (disciplined : ∀ clock, Disciplined (stateAt start inputs clock) (inputs clock)) {clock : ℕ}
    (later : 0 < clock) : Prompt (stateAt start inputs clock) := by
  induction clock, later using Nat.le_induction with
  | base =>
      have request : Mister.resetRequest (processorInputs start (inputs 0)) = true := by
        change ((inputs 0).initializeI || _) = true
        rw [initialized, Bool.true_or]
      have reload : (stateAt start inputs 1).processor.resetCyclesRemaining = 5 :=
        Mister.resetCyclesRemaining_request (s := start.processor) request
      have free : (stateAt start inputs 1).processor.memoryWait = false :=
        Mister.memoryWait_active (s := start.processor) (Mister.resetActive_of_request request)
      refine ⟨?_, ?_, ?_⟩
      · intro ended
        exact absurd (reload.symm.trans ended) (by decide)
      · intro ended
        exact absurd (reload.symm.trans ended) (by decide)
      · intro held
        exact absurd (free.symm.trans held) (by decide)
  | succ clock later ih => exact ih.step (disciplined clock)

theorem holdsForPorts (initialized : (inputs 0).initializeI = true)
    (disciplined : ∀ clock, Disciplined (stateAt start inputs clock) (inputs clock)) :
    HoldsForPorts start inputs := by
  intro clock later holds
  rcases port_of_held (prompt initialized disciplined later) (disciplined clock) holds with
    ⟨-, -, access, -, shows, refuses⟩
  exact ⟨access, shows, refuses⟩

variable {last count : ℕ}

/-- While the ports answer the processor is never held. -/
theorem free_of_answers (initialized : (inputs 0).initializeI = true)
    (released : Released start inputs last count) (answer : PortsAnswer start inputs last count)
    {clock : ℕ} (after : last < clock) (before : clock ≤ last + count) :
    (stateAt start inputs clock).processor.memoryWait = false := by
  obtain ⟨earlier, rfl⟩ := Nat.exists_eq_add_of_lt after
  cases earlier with
  | zero =>
      exact Mister.memoryWait_active (s := (stateAt start inputs last).processor) released.active
  | succ place =>
      by_contra held
      rw [Bool.not_eq_false] at held
      have from_ : last < last + place + 1 := by omega
      have to_ : last + place + 1 ≤ last + count := by omega
      rcases holdsForPorts initialized released.disciplined (last + place + 1) (by omega) held with
        ⟨access, shown, refused⟩
      exact refused (answer _ from_ to_ access shown)

/-- Without a hold the clocks of the slice are those of the board. -/
theorem sliceClocks_enabled (released : Released start inputs last count)
    (free : ∀ clock, last < clock → clock ≤ last + count →
      (stateAt start inputs clock).processor.memoryWait = false) :
    (sliceClocks start inputs (last + 1) count).countP Slice.Inputs.clockEnable =
      enabledClocks inputs last count := by
  have clocks : List.range' (last + 1) count = (List.range' 0 count).map (last + 1 + ·) := by
    rw [List.map_add_range', Nat.add_zero]
  unfold sliceClocks Mister.Hosted.sliceClocks enabledClocks
  rw [clocks, List.countP_map, List.countP_map]
  apply List.countP_congr
  intro clock listed
  have within : clock < count := by simpa using listed
  have unheld := free (last + 1 + clock) (by omega) (by omega)
  have enable : Mister.wrapperClockEnable (stateAt start inputs (last + 1 + clock)).processor
      (processorInputsAt start inputs (last + 1 + clock)) =
        (inputs (last + 1 + clock)).clockEnable := by
    unfold Mister.wrapperClockEnable
    rw [unheld, Bool.not_false, Bool.and_true]
    rfl
  dsimp only [Function.comp_apply]
  rw [hostedAt_eq released (Nat.le_of_lt within)]
  exact Bool.eq_iff_iff.mp enable

/-- The board keeps pace with the reference model as long as its ports answer. -/
theorem board_keeps_pace (start : State) (inputs : ℕ → Inputs) (last count : ℕ)
    (initialized : (inputs 0).initializeI = true) (released : Released start inputs last count) :
    KeepsPace start inputs last count := by
  refine ⟨holdsForPorts initialized released.disciplined, ?_⟩
  intro answer pins origin steps
  rcases released.calls initialized pins with ⟨calls, ran, shows, pace⟩
  have enabled := sliceClocks_enabled released fun clock after before =>
    free_of_answers initialized released answer after before
  refine ⟨calls, ran, ?_⟩
  intro goes
  have bound := pace goes
  rw [enabled, shows.length_eq] at bound
  exact bound

/-- A run that is held for its port, and one whose port is always ready. -/
theorem board_keeps_pace_transfers :
    (stateAt transferBoard waitingInputs 65).processor.memoryWait = true ∧
      KeepsPace transferBoard waitingInputs 20 100 ∧
      KeepsPace transferBoard (portInputs fun _ => true) 20 100 := by
  refine ⟨by decide +kernel, ?_, ?_⟩
  · exact board_keeps_pace transferBoard waitingInputs 20 100 rfl waitingInputs_released
  · exact board_keeps_pace transferBoard (portInputs fun _ => true) 20 100 rfl
      (transferBoard_released (by decide +kernel) (by decide +kernel) (by decide +kernel))

end Run

end Tms32010.Board.SoundMister
