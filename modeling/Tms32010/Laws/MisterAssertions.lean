import Tms32010.Laws.SliceAssertions
import Tms32010.Rtl.Callback

/-!
# The retained assertions of the wrapper

`tms32010_mister` asserts, on every clock that does not initialize it, that its
callbacks exclude each other, that a data write has a valid address and that its hold
is taken in phase 3 alone. Two of them fail: a store outside the data RAM shows a write
without a valid address, and a pause in phase 2 registers the hold in that phase.
-/

namespace Tms32010.Rtl

namespace Slice

/-! ## Stores outside the data RAM -/

section Stores

variable (s : State)

/-- The operand address of the slot on its first cycle. -/
def slotAddress : BitVec 8 :=
  if (executeDecoded s).indirect then
    (if s.core.auxiliaryRegisterPointer then s.core.auxiliaryRegister1.extractLsb' 0 8
     else s.core.auxiliaryRegister0.extractLsb' 0 8)
  else if (executeDecoded s).operation == .sst then
    0x8#4 ++ (executeDecoded s).addressingField.extractLsb' 0 4
  else BitVec.ofBool s.core.dataPagePointer ++ (executeDecoded s).addressingField

/-- The address a store in the slot writes. -/
def storeAddress : BitVec 8 :=
  if (executeDecoded s).operation == .dmov || (executeDecoded s).operation == .ltd then
    slotAddress s + 1
  else slotAddress s

/-- The slot holds a store to an address without a data word. -/
structure StoresOutside : Prop where
  state : s.pipelineState = .sequential
  occupied : s.fetchExecute.executeValid = true
  valid : (executeDecoded s).valid = true
  stores : writesData (executeDecoded s).operation = true
  outside : DataRam.addressValid (storeAddress s) = false

/-- A slice that has fetched nothing carries no word. -/
def Unloaded : Prop :=
  s.fetchExecute.executeValid = false → s.pipelineState ≠ .interruptVector →
    s.coreProgramData = 0

end Stores

section Write

variable {s : State} {i : Inputs}

/-- A data write without a valid address is one of the core's. -/
theorem dataWrite_outside (write : dataWrite s i = true)
    (outside : dataWriteAddressValid s i = false) :
    Core.dataWrite s.core (coreInputs s i false) = true ∧
      (ioPrefetchStep s || tablePrefetchStep s) = false ∧
      Core.ramWriteAddressValid s.core (coreInputs s i false) = false := by
  have accepted : tableTransferActive s i = true ∨ ioTransferActive s i = true →
      coreInstructionValid s i = true := by
    unfold tableTransferActive ioTransferActive
    rw [Bool.and_eq_true, Bool.and_eq_true]
    exact fun active => active.elim And.right And.right
  unfold dataWrite at write
  unfold dataWriteAddressValid at outside
  split_ifs at write outside with table io prefetch
  · rw [write, accepted (Or.inl table)] at outside
    exact absurd outside (by decide)
  · rw [write, accepted (Or.inr io)] at outside
    exact absurd outside (by decide)
  · unfold Core.dataWriteAddressValid at outside
    rw [write, Bool.true_and] at outside
    exact ⟨write, Bool.not_eq_true _ ▸ prefetch, outside⟩

theorem stores_dataAddressed {word : BitVec 16} (valid : (decode word).valid = true)
    (stores : writesData (decode word).operation = true) :
    (decode word).dataAddressed = true := by
  rcases decode_cases word with unsupported | ⟨m, -, -, decoded⟩
  · rw [unsupported] at valid
    exact absurd valid (by decide)
  · rw [decoded] at stores ⊢
    replace stores : writesData m.operation = true := stores
    change m.dataAddressed = true
    cases m <;> first | rfl | exact absurd stores (by decide)

end Write

section Stages

variable {a : Isa.State} {σ : Attached} {made : List Cycle} {i : Inputs}

/-- The core decodes the word of the slot. -/
theorem Issuing.decoded_eq (stage : Issuing False a σ) :
    Core.decoded (coreInputs σ.slice i false) = executeDecoded σ.slice :=
  congrArg decode stage.word

/-- What the core shows of a store in the slot. -/
theorem Issuing.write_eq (stage : Issuing False a σ) (noInitialize : i.initializeI = false) :
    Core.dataWrite σ.slice.core (coreInputs σ.slice i false) =
      (!coreReset σ.slice i && (executeDecoded σ.slice).valid &&
        writesData (executeDecoded σ.slice).operation) := by
  have reset : (coreInputs σ.slice i false).resetRequest = coreReset σ.slice i := rfl
  have initialize_ : (coreInputs σ.slice i false).initializeRequest = false := noInitialize
  unfold Core.dataWrite
  rw [stage.decoded_eq, reset, initialize_, stage.entry, stage.idle.io, stage.idle.table,
    stage.idle.control]
  simp [Bool.and_assoc]

theorem Issuing.writeAddress_eq (stage : Issuing False a σ)
    (valid : (executeDecoded σ.slice).valid = true)
    (stores : writesData (executeDecoded σ.slice).operation = true) :
    Core.dataWriteAddress σ.slice.core (coreInputs σ.slice i false) = storeAddress σ.slice := by
  have addressed : (executeDecoded σ.slice).dataAddressed = true :=
    stores_dataAddressed valid stores
  have address : Core.dataAddress σ.slice.core (coreInputs σ.slice i false) =
      slotAddress σ.slice := by
    unfold Core.dataAddress slotAddress
    rw [stage.decoded_eq, stage.entry, stage.idle.io, stage.idle.table, stage.idle.control,
      stage.idle.computed, valid, addressed]
    rfl
  unfold Core.dataWriteAddress storeAddress
  rw [address, stage.decoded_eq, stage.idle.io, stage.idle.table]
  rfl

/-- A store in the slot is the only data write without a valid address. -/
theorem Lockstep.storesOutside (lock : Lockstep False a σ made) (unloaded : Unloaded σ.slice)
    (noInitialize : i.initializeI = false) (write : dataWrite σ.slice i = true)
    (outside : dataWriteAddressValid σ.slice i = false) :
    coreReset σ.slice i = false ∧ StoresOutside σ.slice := by
  rcases dataWrite_outside write outside with ⟨writes, prefetch, address⟩
  have quiet {p : Prop}
      (none : Core.dataWrite σ.slice.core (coreInputs σ.slice i false) = false) : p :=
    absurd (none.symm.trans writes) Bool.false_ne_true
  have stage := lock.stage
  cases stage with
  | priming stage =>
      apply quiet
      have blank : Core.decoded (coreInputs σ.slice i false) = decode 0 :=
        congrArg decode (unloaded stage.unoccupied (by rw [stage.state]; exact nofun))
      unfold Core.dataWrite
      rw [blank, stage.idle.io, stage.idle.table, show writesData (decode 0).operation = false by
        decide]
      simp
  | issuing stage =>
      rw [stage.write_eq noInitialize, Bool.and_eq_true, Bool.and_eq_true,
        Bool.not_eq_true'] at writes
      rcases writes with ⟨⟨running, valid⟩, stores⟩
      unfold Core.ramWriteAddressValid at address
      rw [stage.writeAddress_eq valid stores] at address
      exact ⟨running, stage.state, stage.occupied, valid, stores, address⟩
  | vector stage =>
      apply quiet
      unfold Core.dataWrite
      rw [stage.entry]
      simp
  | control stage =>
      apply quiet
      unfold Core.dataWrite
      rw [stage.pending.pending, stage.pending.io, stage.pending.table]
      simp
  | computed stage =>
      have found := stage.found
      rw [← stage.word] at found
      exact quiet (computed_accesses found stage.implemented stage.family stage.pending.io
        stage.pending.table).2
  | io stage =>
      have step : ioPrefetchStep σ.slice = true := by
        unfold ioPrefetchStep
        rw [executeIoSupported_eq stage.found stage.implemented stage.occupied, stage.family,
          stage.state]
        rfl
      rw [step, Bool.true_or] at prefetch
      exact absurd prefetch (by decide)
  | tableFirst stage =>
      apply quiet
      unfold Core.dataWrite
      rw [stage.pending.pending, stage.pending.phase, stage.pending.io]
      simp
  | tableSecond stage =>
      have step : tablePrefetchStep σ.slice = true := by
        unfold tablePrefetchStep
        rw [executeTableSupported_eq stage.found stage.implemented stage.occupied, stage.family,
          stage.state]
        rfl
      rw [step, Bool.or_true] at prefetch
      exact absurd prefetch (by decide)

/-- A store outside the data RAM shows a data write without a valid address. -/
theorem Lockstep.shows_outside (lock : Lockstep False a σ made)
    (noInitialize : i.initializeI = false) (running : coreReset σ.slice i = false)
    (store : StoresOutside σ.slice) :
    dataWrite σ.slice i = true ∧ dataWriteAddressValid σ.slice i = false := by
  have stage := lock.issuing store.state store.occupied
  have writes : Core.dataWrite σ.slice.core (coreInputs σ.slice i false) = true := by
    rw [stage.write_eq noInitialize, running, store.valid, store.stores]
    rfl
  have inactive : tableTransferActive σ.slice i = false ∧ ioTransferActive σ.slice i = false ∧
      (ioPrefetchStep σ.slice || tablePrefetchStep σ.slice) = false := by
    have family : executeIoSupported σ.slice = false := by
      have other (operation : Operation) (apart : writesData operation = false) :
          executeIs σ.slice operation = false := by
        unfold executeIs
        rw [Bool.and_eq_false_iff, beq_eq_false_iff_ne]
        refine Or.inr ?_
        rintro rfl
        exact absurd (apart.symm.trans store.stores) Bool.false_ne_true
      unfold executeIoSupported
      rw [other .in rfl, other .out rfl]
      rfl
    unfold tableTransferActive tableTransferStep ioTransferActive ioTransferStep ioPrefetchStep
      tablePrefetchStep
    rw [family, store.state]
    simp
  unfold dataWrite dataWriteAddressValid Core.dataWriteAddressValid Core.ramWriteAddressValid
  rw [inactive.1, inactive.2.1, inactive.2.2, writes,
    stage.writeAddress_eq store.valid store.stores, store.outside]
  exact ⟨rfl, rfl⟩

/-- A full slot is read while the bus is active. -/
theorem Stage.active (stage : Stage False a σ made)
    (occupied : σ.slice.fetchExecute.executeValid = true) : σ.slice.bus.active = true := by
  cases stage with
  | priming stage => exact absurd (stage.unoccupied.symm.trans occupied) Bool.false_ne_true
  | issuing stage => exact stage.active
  | vector stage => exact stage.active
  | control stage => exact stage.active
  | computed stage => exact stage.active
  | io stage => exact stage.active
  | tableFirst stage => exact stage.active
  | tableSecond stage => exact stage.active

/-- A fetching boundary that empties the slot is the dummy fetch of an interrupt. -/
theorem empties_vector {s : State} (fetch : fetchBoundary s i = true)
    (emptied : (nextSlot s i).executeValid = false) :
    nextPipelineState s i = .interruptVector := by
  have running := (fetchBoundary_pipeline fetch).2.2
  unfold nextSlot at emptied
  split_ifs at emptied with ends fetched
  · rw [Bool.not_eq_true] at fetched
    have ready : interruptDummyFetchStep s i = true ∧ executeReady s i = true := by
      rw [Bool.or_eq_true, Bool.not_eq_true'] at ends
      unfold fetchedInstruction at fetched
      rcases ends with unoccupied | complete
      · have noDummy : interruptDummyFetchStep s i = false := by
          unfold interruptDummyFetchStep executeComplete executeReady
          rw [unoccupied]
          simp
        rw [fetch, noDummy, unoccupied] at fetched
        simp at fetched
      · have parts := complete
        unfold executeComplete at parts
        rw [Bool.and_eq_true] at parts
        refine ⟨?_, parts.1⟩
        by_contra noDummy
        rw [Bool.not_eq_true] at noDummy
        simp only [Bool.or_eq_true] at parts
        simp only [fetch, noDummy, Bool.true_and, Bool.not_false, Bool.or_eq_false_iff] at fetched
        rcases fetched with ⟨-, ⟨⟨⟨⟨-, single⟩, control⟩, computed⟩, io⟩, table⟩
        rw [single, control, computed, io, table] at parts
        simp at parts
    unfold nextPipelineState coreExecuteBoundary
    rw [running, fetch, ready.1, ready.2]
    rfl
  · rw [Bool.not_eq_true, Bool.or_eq_false_iff, Bool.not_eq_false'] at ends
    exact absurd (ends.1.symm.trans emptied) Bool.noConfusion

/-- The slot is emptied by the dummy fetch alone. -/
theorem Lockstep.unloaded_step (lock : Lockstep False a σ made) (unloaded : Unloaded σ.slice)
    (i : Inputs) : Unloaded (step σ.slice i) := by
  rcases Bool.eq_false_or_eq_true i.initializeI with asserted | noInitialize
  · intro _ _
    unfold step
    rw [if_pos asserted]
  rcases Bool.eq_false_or_eq_true (pipelineBoundary σ.slice i) with boundary | within
  swap
  · rw [step_within noInitialize within]
    exact unloaded
  rcases Bool.eq_false_or_eq_true i.rs with reset | running
  · rw [step_flush noInitialize boundary reset]
    exact fun _ _ => rfl
  rcases Bool.eq_false_or_eq_true σ.slice.bus.active with active | inactive
  · have fetch : fetchBoundary σ.slice i = true := by
      unfold fetchBoundary
      rw [boundary, active, running]
      rfl
    rw [step_fetch noInitialize fetch (lock.seen active)]
    intro emptied other
    exact absurd (empties_vector fetch emptied) other
  · have unoccupied : σ.slice.fetchExecute.executeValid = false := by
      by_contra occupied
      rw [Bool.not_eq_false] at occupied
      exact absurd (inactive.symm.trans (lock.stage.active occupied)) Bool.false_ne_true
    rw [step_release noInitialize boundary running inactive unoccupied]
    exact fun _ other => unloaded unoccupied other

end Stages

theorem Reachable.unloaded {s : State} (reached : Reachable s) : Unloaded s := by
  induction reached with
  | initialized s i asserted =>
      intro _ _
      unfold step
      rw [if_pos asserted]
  | clock reached i ih =>
      rcases reached.lockstep with ⟨a, program, ioOutput, made, lock⟩
      exact lock.unloaded_step ih i

end Slice

namespace Mister

open Timeline

/-! ## The assertions -/

section Assertions

variable (s : State) (i : Inputs)

/-- The assertions of the module, in their order in the source. -/
structure Assertions : Prop where
  programApart : (programRead s i && programWrite s i) = false
  ioApart : (ioRead s i && ioWrite s i) = false
  spacesApart : ((programRead s i || programWrite s i) && (ioRead s i || ioWrite s i)) = false
  programWrite : programWrite s i = true → rawProgramWrite s i = true
  dataWrite : dataWrite s i = true → rawDataWriteAddressValid s i = true
  stopped : s.memoryWait = true → wrapperClockEnable s i = false
  last : s.memoryWait = true → phase s = 3

/-- A clock that ends a machine cycle under reset. -/
def resetBoundary : Bool := wrapperClockEnable s i && phase s == 3 && resetActive s i

/-- The clock is paused in phase 2 while a callback waits for its ready. -/
structure PausedSample : Prop where
  inactive : resetActive s i = false
  sampling : phase s = 2
  paused : i.clockEnable = false
  unanswered : ∃ request, Slice.request? s.pipeline = some request ∧ ready i request = false

end Assertions

section Run

variable (start : State) (inputs : ℕ → Inputs)

/-- No clock is paused as it samples a waiting callback, and no store is outside the data
RAM. -/
structure Sound : Prop where
  samples : ∀ clock, PausedSample (stateAt start inputs clock) (inputs clock) →
    (inputs (clock + 1)).resetI = true
  stores : ∀ clock, (inputs clock).resetI = false →
    Slice.StoresOutside (stateAt start inputs clock).pipeline →
      resetBoundary (stateAt start inputs clock) (inputs clock) = true

end Run

section Law

variable {start : State} {inputs : ℕ → Inputs} {s : State} {i : Inputs}

theorem Reachable.pipeline (reached : Reachable s) : Slice.Reachable s.pipeline := by
  induction reached with
  | initialized s i asserted => exact .initialized _ _ asserted
  | clock reached i ih => exact .clock ih _

/-- A run that starts with an initialization is reachable from its second clock on. -/
theorem reachable_run (initialized : (inputs 0).resetI = true) (clock : ℕ) :
    Reachable (stateAt start inputs (clock + 1)) := by
  induction clock with
  | zero => exact .initialized _ _ initialized
  | succ clock ih => exact .clock ih _

theorem reachable_at (initialized : (inputs 0).resetI = true) {clock : ℕ}
    (running : (inputs clock).resetI = false) : Reachable (stateAt start inputs clock) := by
  cases clock with
  | zero => exact absurd (running.symm.trans initialized) Bool.false_ne_true
  | succ clock => exact reachable_run initialized clock

/-- A data write has a valid address unless a store is outside the data RAM. -/
theorem Reachable.write_iff (reached : Reachable s) (running : i.resetI = false) :
    (dataWrite s i = true → rawDataWriteAddressValid s i = true) ↔
      (Slice.StoresOutside s.pipeline → resetBoundary s i = true) := by
  rcases reached.pipeline.lockstep with ⟨a, program, ioOutput, made, lock⟩
  have noInitialize : (sliceInputs s i).initializeI = false := running
  constructor
  · intro holds store
    by_contra early
    rw [Bool.not_eq_true] at early
    rcases lock.shows_outside noInitialize early store with ⟨write, outside⟩
    exact absurd (outside.symm.trans (holds write)) Bool.false_ne_true
  · intro inside write
    by_contra outside
    rw [Bool.not_eq_true] at outside
    rcases lock.storesOutside reached.pipeline.unloaded noInitialize write outside with
      ⟨early, store⟩
    exact absurd (early.symm.trans (inside store)) Bool.false_ne_true

/-- Two of the assertions do not hold of every state. -/
theorem assertions_iff : Assertions s i ↔
    (dataWrite s i = true → rawDataWriteAddressValid s i = true) ∧
      (s.memoryWait = true → phase s = 3) := by
  constructor
  · intro holds
    exact ⟨holds.dataWrite, holds.last⟩
  · rintro ⟨write, last⟩
    rcases callbacks_apart s i with ⟨program, io, spaces⟩
    refine ⟨program, io, spaces, ?_, write, ?_, last⟩
    · intro shown
      unfold programWrite at shown
      exact (Bool.and_eq_true _ _ ▸ shown).1
    · intro held
      unfold wrapperClockEnable
      rw [held, Bool.not_true, Bool.and_false]

/-- A clock with the hold or without the clock enable stays in its phase. -/
theorem phase_stopped (running : Running s i) (stopped : wrapperClockEnable s i = false) :
    phase (step s i) = phase s := by
  rw [phase_within running, running.busClockEnable.2, stopped]
  rfl

theorem unanswered_iff (running : Running s i) :
    waits s i = true ↔
      ∃ request, Slice.request? s.pipeline = some request ∧ ready i request = false := by
  rw [(responds_eq s i).1, running.callback?]
  cases Slice.request? s.pipeline with
  | none => exact ⟨fun waits => absurd waits Bool.false_ne_true, nofun⟩
  | some request => simp

/-- A pause on a waiting callback registers the hold before phase 3. -/
theorem PausedSample.held (sample : PausedSample s i) (free : s.memoryWait = false) :
    (step s i).memoryWait = true ∧ phase (step s i) = 2 := by
  have running := running_iff.mpr sample.inactive
  have stopped : wrapperClockEnable s i = false := by
    unfold wrapperClockEnable
    rw [sample.paused, Bool.false_and]
  constructor
  · rw [memoryWait_running running, free, sample.sampling,
      (unanswered_iff running).mpr sample.unanswered]
    rfl
  · rw [phase_stopped running stopped, sample.sampling]

/-- The hold of phase 3 stays in phase 3, and only a pause registers another. -/
theorem last_step (flows : Flows s) (last : s.memoryWait = true → phase s = 3)
    (enabled : ¬PausedSample s i) (held : (step s i).memoryWait = true) :
    phase (step s i) = 3 := by
  rcases Bool.eq_false_or_eq_true (resetActive s i) with active | inactive
  · exact absurd ((memoryWait_active active).symm.trans held) Bool.false_ne_true
  have running := running_iff.mpr inactive
  rcases Bool.eq_false_or_eq_true s.memoryWait with holding | free
  · have stopped : wrapperClockEnable s i = false := by
      unfold wrapperClockEnable
      rw [holding, Bool.not_true, Bool.and_false]
    rw [phase_stopped running stopped, last holding]
  · rw [memoryWait_running running, free, if_neg Bool.false_ne_true] at held
    split_ifs at held with second
    have sampling := beq_iff_eq.mp second
    have enable : i.clockEnable = true := by
      by_contra paused
      rw [Bool.not_eq_true] at paused
      exact enabled ⟨inactive, sampling, paused, (unanswered_iff running).mp held⟩
    have started : phase s ≠ 0 := by
      rw [sampling]
      decide
    have advances : phaseAdvance s i = true := by
      rw [running.advances flows started]
      unfold wrapperClockEnable
      rw [enable, free]
      rfl
    rw [phase_within running, advances, sampling]
    rfl

/-- In a sound run the hold is taken in phase 3. -/
theorem Sound.last (sound : Sound start inputs) (initialized : (inputs 0).resetI = true)
    (clock : ℕ) (running : (inputs clock).resetI = false) :
    (stateAt start inputs clock).memoryWait = true → phase (stateAt start inputs clock) = 3 := by
  induction clock with
  | zero => exact absurd (running.symm.trans initialized) Bool.false_ne_true
  | succ clock ih =>
      have enabled : ¬PausedSample (stateAt start inputs clock) (inputs clock) := fun sample =>
        absurd (running.symm.trans (sound.samples clock sample)) Bool.false_ne_true
      rcases Bool.eq_false_or_eq_true (inputs clock).resetI with asserted | noReset
      · have active := resetActive_of_request (s := stateAt start inputs clock)
          (i := inputs clock) (by unfold resetRequest; rw [asserted, Bool.true_or])
        intro held
        exact absurd ((memoryWait_active active).symm.trans held) Bool.false_ne_true
      · exact last_step (reachable_at initialized noReset).flows (ih noReset) enabled

/-- In a run that starts with an initialization the assertions hold on every later clock
that does not initialize exactly when the run is sound. -/
theorem assertions_hold_iff (initialized : (inputs 0).resetI = true) :
    (∀ clock, (inputs clock).resetI = false →
      Assertions (stateAt start inputs clock) (inputs clock)) ↔ Sound start inputs := by
  constructor
  · intro holds
    constructor
    · intro clock sample
      by_contra later
      rw [Bool.not_eq_true] at later
      have running : (inputs clock).resetI = false :=
        (running_iff.mpr sample.inactive).noInitialize
      rcases Bool.eq_false_or_eq_true (stateAt start inputs clock).memoryWait with held | free
      · have last := (holds clock running).last held
        rw [sample.sampling] at last
        exact absurd last (by decide)
      · rcases sample.held free with ⟨held, early⟩
        have last := (holds (clock + 1) later).last held
        exact absurd (early.symm.trans last) (by decide)
    · intro clock running
      have reached : Reachable (stateAt start inputs clock) := reachable_at initialized running
      exact (reached.write_iff running).mp (holds clock running).dataWrite
  · intro sound clock running
    have reached : Reachable (stateAt start inputs clock) := reachable_at initialized running
    exact assertions_iff.mpr ⟨(reached.write_iff running).mpr (sound.stores clock running),
      sound.last initialized clock running⟩

end Law

/-! ## Two violations -/

/-- The first instruction fetch is paused in phase 2, before its ready. -/
def pausedFetch (clock : ℕ) : Inputs :=
  { enabledInputs with
    resetI := clock == 0
    clockEnable := clock != 31
    programReady := clock != 31 }

/-- Program memory answers `SACL *-` everywhere; the second store is to address 255. -/
def storesDown (clock : ℕ) : Inputs :=
  { enabledInputs with
    resetI := clock == 0
    programReadData := 0x5098 }

theorem assertions_hold_paused :
    (∀ clock, (pausedFetch clock).resetI = false →
      Assertions (stateAt clearState pausedFetch clock) (pausedFetch clock)) ↔
        Sound clearState pausedFetch :=
  assertions_hold_iff rfl

theorem assertions_violated :
    ((pausedFetch 0).resetI = true ∧ (pausedFetch 32).resetI = false ∧
        ¬Assertions (stateAt clearState pausedFetch 32) (pausedFetch 32)) ∧
      (storesDown 0).resetI = true ∧ (storesDown 37).resetI = false ∧
        ¬Assertions (stateAt clearState storesDown 37) (storesDown 37) := by
  refine ⟨⟨rfl, rfl, ?_⟩, rfl, rfl, ?_⟩
  · intro holds
    have last := holds.last (by decide +kernel)
    exact absurd last (by decide +kernel)
  · intro holds
    have valid := holds.dataWrite (by decide +kernel)
    exact absurd valid (by decide +kernel)

end Mister

end Tms32010.Rtl
