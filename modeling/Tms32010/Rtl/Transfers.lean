import Tms32010.Rtl.SliceRun

/-!
# Transfers of the slice

A boundary of the slice reads program memory, stores a table word or moves a port word.
The reads run ahead of the instructions. The stores and the port words are those of the
instruction underway, each in the cycle of it that the instruction-level machine gives it.
-/

namespace Tms32010.Isa

/-! ## Transfers of a step -/

/-- A store into program memory or the move of a port word. -/
def BusCycle.transfers : BusCycle → Bool
  | .programRead .. => false
  | .programWrite .. => true
  | .ioRead .. => true
  | .ioWrite .. => true

section Place

variable (m : Mnemonic) (word : BitVec 16) (s : State)

/-- The transfer an instruction makes in a cycle, given the word of an input port. -/
def transferOf (place : ℕ) (input : BitVec 16) : Option BusCycle :=
  if m = .in ∧ place = 0 then some (.ioRead (Instruction.port word) input)
  else if m = .out ∧ place = 0 then some (.ioWrite (Instruction.port word) (operand m word s))
  else if m = .tblw ∧ place = 1 then
    some (.programWrite (s.accumulator.extractLsb' 0 12) (operand m word s))
  else none

/-- The transfer a step makes in a cycle. An interrupt entry makes none. -/
def transferAt (place : ℕ) (input : BitVec 16) : Option BusCycle :=
  if s.interruptEntryPending then none
  else (mnemonic? (s.program s.pc)).bind fun m => transferOf m (s.program s.pc) s place input

/-- The transfers of the first cycles of a step, given the port word in each. -/
def transfersOf (inputs : List (BitVec 16)) : List BusCycle :=
  (inputs.mapIdx (transferAt s)).filterMap id

variable {m word s}

theorem transferAt_eq (entry : s.interruptEntryPending = false) (stored : s.program s.pc = word)
    (found : mnemonic? word = some m) (place : ℕ) (input : BitVec 16) :
    transferAt s place input = transferOf m word s place input := by
  unfold transferAt
  rw [entry, stored, found]
  rfl

/-- Only the instructions that transfer do, `IN` and `OUT` in the first cycle and `TBLW` in
the second. -/
theorem transferOf_none {place : ℕ} (apart : place = 0 → m.ioTransfer = false)
    (later : place = 1 → m ≠ .tblw) (input : BitVec 16) :
    transferOf m word s place input = none := by
  unfold transferOf
  rw [if_neg, if_neg, if_neg]
  · exact fun both => later both.2 both.1
  · rintro ⟨rfl, here⟩
    exact absurd (apart here) (by decide)
  · rintro ⟨rfl, here⟩
    exact absurd (apart here) (by decide)

theorem transferAt_later {place : ℕ} (later : 1 < place) (input : BitVec 16) :
    transferAt s place input = none := by
  unfold transferAt
  split_ifs
  · rfl
  · rw [Option.bind_eq_none_iff]
    intro m _
    exact transferOf_none (by omega) (by omega) input

/-- A step makes at most one transfer. -/
theorem transfersOf_length (s : State) (inputs : List (BitVec 16)) :
    (transfersOf s inputs).length ≤ 1 := by
  have apart (first second : BitVec 16) :
      transferAt s 0 first = none ∨ transferAt s 1 second = none := by
    unfold transferAt
    split_ifs
    · exact Or.inl rfl
    · cases mnemonic? (s.program s.pc) with
      | none => exact Or.inl rfl
      | some m =>
          by_cases table : m = .tblw
          · subst table
            exact Or.inl (transferOf_none (fun _ => rfl) (by omega) first)
          · exact Or.inr (transferOf_none (by omega) (fun _ => table) second)
  unfold transfersOf
  rcases inputs with _ | ⟨first, _ | ⟨second, rest⟩⟩
  · exact Nat.zero_le 1
  · cases taken : transferAt s 0 first <;> simp [taken]
  · have others : (rest.mapIdx fun k => transferAt s (k + 1 + 1)).filterMap id = [] := by
      rw [List.filterMap_eq_nil_iff]
      intro taken among
      rcases List.mem_mapIdx.mp among with ⟨k, -, rfl⟩
      exact transferAt_later (by omega) _
    rw [List.mapIdx_cons, List.mapIdx_cons, List.filterMap_cons, List.filterMap_cons, others]
    rcases apart first second with none | none
    · rw [none]
      cases transferAt s (0 + 1) second <;> simp
    · rw [none]
      cases transferAt s 0 first <;> simp

end Place

section Step

variable {pins : Input} {s : State} {outcome : Outcome}

theorem transfersOf_none {inputs : List (BitVec 16)}
    (none : ∀ place input, transferAt s place input = none) : transfersOf s inputs = [] := by
  unfold transfersOf
  rw [List.filterMap_eq_nil_iff]
  intro taken among
  rcases List.mem_mapIdx.mp among with ⟨k, -, rfl⟩
  exact none k _

/-- An instruction that makes none of the transfers. -/
theorem transfersOf_other {m : Mnemonic} {word : BitVec 16} {inputs : List (BitVec 16)}
    (entry : s.interruptEntryPending = false) (stored : s.program s.pc = word)
    (found : mnemonic? word = some m) (io : m.ioTransfer = false) (table : m ≠ .tblw) :
    transfersOf s inputs = [] := by
  apply transfersOf_none
  intro place input
  rw [transferAt_eq entry stored found]
  exact transferOf_none (fun _ => io) (fun _ => table) input

/-- The transfers of an instruction that runs straight on. -/
theorem straight_transfers {m : Mnemonic} {word : BitVec 16} {inputs : List (BitVec 16)}
    (entry : s.interruptEntryPending = false) (stored : s.program s.pc = word)
    (found : mnemonic? word = some m)
    (cycles : (straightBus m word pins s).length = inputs.length)
    (input : ∀ port, pins.ioInput port = inputs.headD 0) :
    (straightBus m word pins s).filter BusCycle.transfers = transfersOf s inputs := by
  have made := transferAt_eq entry stored found
  by_cases moves : m.ioTransfer = true ∨ m = .tblw
  · cases m with
    | «in» | out =>
        rcases List.length_eq_two.mp cycles.symm with ⟨first, second, rfl⟩
        simp [straightBus, BusCycle.transfers, transfersOf, made, transferOf, input]
    | tblw =>
        rcases List.length_eq_three.mp cycles.symm with ⟨first, second, third, rfl⟩
        simp [straightBus, BusCycle.transfers, transfersOf, made, transferOf]
    | _ => exact absurd moves (by decide)
  · push Not at moves
    have io := Bool.eq_false_of_not_eq_true moves.1
    rw [transfersOf_other entry stored found io moves.2]
    cases m <;> first | rfl | exact absurd moves (by decide)

/-- The transfers of a completed step are those of its cycles. -/
theorem step_transfers (made : step pins s = .ok outcome) {inputs : List (BitVec 16)}
    (cycles : outcome.cycles = inputs.length)
    (input : ∀ port, pins.ioInput port = inputs.headD 0) :
    outcome.bus.filter BusCycle.transfers = transfersOf s inputs := by
  unfold step at made
  split_ifs at made with pending
  · cases made
    symm
    apply transfersOf_none
    intro place input
    unfold transferAt
    rw [if_pos pending]
  · have entry := Bool.eq_false_of_not_eq_true pending
    split at made
    · cases made
    · rename_i m found
      unfold stepInstruction at made
      split_ifs at made with stack control
      · have apart : m.ioTransfer = false ∧ m ≠ .tblw := by
          cases m <;> first | exact ⟨rfl, by decide⟩ | exact absurd stack (by decide)
        cases made
        exact (transfersOf_other entry rfl found apart.1 apart.2).symm
      · have apart : m.ioTransfer = false ∧ m ≠ .tblw := by
          cases m <;> first | exact ⟨rfl, by decide⟩ | exact absurd control (by decide)
        rw [stepControl_bus made, transfersOf_other entry rfl found apart.1 apart.2]
        rfl
      · have bus := stepStraight_bus made
        unfold stepStraight at made
        split at made
        · cases made
        · cases made
          exact straight_transfers entry rfl found cycles input

end Step

end Tms32010.Isa

namespace Tms32010.Rtl.Slice

open Isa (transferAt transferOf transfersOf)

/-! ## Transfers of a boundary -/

/-- What a clock stores into program memory or moves through a port. -/
def transfer? (s : State) (i : Inputs) : Option Isa.BusCycle :=
  if fetchBoundary s i then
    if programWrite s i then some (.programWrite (programAddress s i) (writeData s i))
    else if ioRead s i then some (.ioRead (ioPort s) i.ioReadData)
    else if ioWrite s i then some (.ioWrite (ioPort s) (writeData s i))
    else none
  else none

section Clock

variable {a : Isa.State} {σ : Attached} {made : List Cycle} {i : Inputs}

theorem transfer?_none {s : State}
    (noTransfer : ioTransferActive s i = false ∧ tableTransferActive s i = false) :
    transfer? s i = none := by
  unfold transfer? programWrite ioRead ioWrite
  rw [noTransfer.1, noTransfer.2]
  simp

/-- Nothing is transferred by a clock that does not advance the core. -/
theorem transfer?_paused {s : State} (paused : coreExecuteBoundary s i = false) :
    transfer? s i = none := by
  rcases Bool.eq_false_or_eq_true (fetchBoundary s i) with fetch | quiet
  · apply transfer?_none
    apply transfers_unready
    unfold coreExecuteBoundary at paused
    rw [fetch, Bool.true_and, Bool.or_eq_false_iff] at paused
    exact paused.1
  · unfold transfer?
    rw [quiet, if_neg Bool.false_ne_true]

/-- The word of an output or of a table write. -/
theorem Lockstep.issue_transfer (lock : Lockstep True a σ []) (stage : Issuing True a σ)
    (fetch : fetchBoundary σ.slice i = true) (runs : σ.Runs True i) :
    transfer? σ.slice i = transferAt a 0 i.ioReadData := by
  rcases stage.accepted fetch runs.noInitialize runs.noDebug with
    ⟨m, found, implemented, noFault⟩
  have steps := steps_eq found implemented stage.occupied
  have valid := (ready_of_fetch fetch stage.occupied).2
  rw [Isa.transferAt_eq stage.outside.1 (stage.stored trivial) found]
  have noTable : tableTransferActive σ.slice i = false := by
    unfold tableTransferActive
    rw [steps.2.2.2.2.2.2.2.1, stage.state]
    simp
  have active : ioTransferActive σ.slice i = m.ioTransfer := by
    unfold ioTransferActive
    rw [steps.2.2.2.2.1, stage.state, valid]
    simp
  rcases Bool.eq_false_or_eq_true m.ioTransfer with family | other
  · have presented : operandAddress σ.slice =
        a.toRegisters.dataAddress m σ.slice.fetchExecute.executeWord := by
      have issue := Core.dataAddress_issue (stage.carried (i := i) found) implemented stage.idle
        stage.entry (Mnemonic.dataAddressed_of_ioTransfer family)
      have word : (coreInputs σ.slice i true).programData = σ.slice.fetchExecute.executeWord :=
        stage.word
      rw [stage.registers, word] at issue
      exact issue
    have driven := lock.writeData_eq fetch trivial presented stage.outside.2.2.1
    have port : ioPort σ.slice = Instruction.port σ.slice.fetchExecute.executeWord := by
      unfold ioPort
      rw [executeDecoded_eq found implemented]
      rfl
    unfold transfer? programWrite ioRead ioWrite transferOf
    rw [fetch, noTable, active, family, port, driven]
    simp only [executeIs_eq found implemented stage.occupied]
    cases m with
    | «in» | out => rfl
    | _ => exact absurd family (by decide)
  · rw [transfer?_none ⟨active.trans other, noTable⟩]
    exact (Isa.transferOf_none (fun _ => other) (by omega) _).symm

/-- The second cycle of a table access. -/
theorem Lockstep.table_transfers {m : Mnemonic} {c : Cycle} (lock : Lockstep True a σ made)
    (stage : TableFirst True a σ m c) (fetch : fetchBoundary σ.slice i = true) :
    transfer? σ.slice i = transferAt a 1 i.ioReadData := by
  have steps := steps_eq stage.found stage.implemented stage.occupied
  have valid := stage.accepted fetch
  rw [Isa.transferAt_eq stage.underway.noEntry (stage.stored trivial) stage.found]
  have noIo : ioTransferActive σ.slice i = false := by
    unfold ioTransferActive
    rw [steps.2.2.2.2.1, stage.state]
    simp
  have active : tableTransferActive σ.slice i = true := by
    unfold tableTransferActive
    rw [steps.2.2.2.2.2.2.2.1, stage.state, stage.family]
    exact valid
  have writes : programWrite σ.slice i = (m == .tblw) := by
    unfold programWrite
    rw [active, executeIs_eq stage.found stage.implemented stage.occupied]
    cases m <;> rfl
  have presented : programAddress σ.slice i = a.accumulator.extractLsb' 0 12 := by
    unfold programAddress
    rw [noIo]
    exact stage.next
  have driven : writeData σ.slice i = Isa.operand m σ.slice.fetchExecute.executeWord a := by
    apply lock.writeData_eq fetch trivial _ stage.underway.data
    unfold operandAddress Core.dataAddress
    rw [stage.underway.entry, stage.pending.pending]
    exact stage.pending.address
  have family := stage.family
  unfold transfer? ioRead ioWrite transferOf
  rw [fetch, writes, noIo, presented, driven]
  cases m with
  | tblw | tblr => rfl
  | _ => exact absurd family (by decide)

/-- A boundary that advances the core transfers what the step underway transfers in the
cycle it makes. -/
theorem Lockstep.transfer (lock : Lockstep True a σ made) (runs : σ.Runs True i)
    (advances : coreExecuteBoundary σ.slice i = true) :
    transfer? σ.slice i = transferAt a made.length i.ioReadData := by
  have fetch := fetch_of_advance advances
  have stage := lock.stage
  have last {m : Mnemonic} {low : Bool} (spanning : Spanning True a σ m low)
      (finish : Finishes σ.slice i) (later : made.length ≠ 0)
      (table : made.length = 1 → m ≠ .tblw) :
      transfer? σ.slice i = transferAt a made.length i.ioReadData := by
    rw [transfer?_none finish.noTransfer,
      Isa.transferAt_eq spanning.underway.noEntry (spanning.stored trivial) spanning.found]
    exact (Isa.transferOf_none (fun first => absurd first later) table _).symm
  cases stage with
  | priming stage =>
      have paused := (lock.prime stage fetch runs.noInitialize runs.noDebug runs.served).1
      exact absurd (paused.symm.trans advances) Bool.false_ne_true
  | issuing stage => exact lock.issue_transfer stage fetch runs
  | vector stage =>
      rcases steps_unoccupied (i := i) stage.unoccupied with
        ⟨-, -, -, -, -, -, -, -, -, unready, -⟩
      have pending : a.interruptEntryPending = true := by
        rw [← stage.shows]
        exact stage.entry
      rw [transfer?_none (transfers_unready unready)]
      unfold transferAt
      rw [if_pos pending]
  | control stage =>
      have family := stage.family
      apply last stage.toSpanning
        (lock.control_finish fetch runs.noInitialize runs.noDebug stage runs.served).1
        (Nat.succ_ne_zero 0)
      rintro - rfl
      exact absurd family (by decide)
  | computed stage =>
      have family := stage.family
      apply last stage.toSpanning
        (lock.computed_finish fetch runs.noInitialize runs.noDebug stage runs.served).1
        (Nat.succ_ne_zero 0)
      rintro - rfl
      exact absurd family (by decide)
  | io stage =>
      have family := stage.family
      apply last stage.toSpanning
        (lock.io_finish fetch runs.noInitialize runs.noDebug stage runs.served).1
        (Nat.succ_ne_zero 0)
      rintro - rfl
      exact absurd family (by decide)
  | tableFirst stage => exact lock.table_transfers stage fetch
  | tableSecond stage =>
      apply last stage.toSpanning
        (lock.table_finish fetch runs.noInitialize runs.noDebug stage runs.served).1
        (Nat.succ_ne_zero 1)
      intro one
      cases one

end Clock

/-! ## Transfers of a run -/

/-- The transfer a step owes in one of its cycles. -/
def owed (a : Isa.State) (place : ℕ) (cycle : Cycle) : Option Isa.BusCycle :=
  transferAt a place cycle.ioReadData

/-- Cycles with the transfers they make, which are those the step owes. -/
def Owes (a : Isa.State) (made : List (Cycle × Option Isa.BusCycle)) : Prop :=
  made.map Prod.snd = (made.map Prod.fst).mapIdx (owed a)

theorem Owes.transfers {a : Isa.State} {made : List (Cycle × Option Isa.BusCycle)}
    (owes : Owes a made) :
    made.filterMap Prod.snd = transfersOf a ((made.map Prod.fst).map Cycle.ioReadData) := by
  have all : made.filterMap Prod.snd = (made.map Prod.snd).filterMap id := by
    rw [List.filterMap_map]
    rfl
  rw [all, owes]
  unfold transfersOf
  congr 1
  apply List.ext_getElem?
  intro k
  simp only [List.getElem?_mapIdx, List.getElem?_map, Option.map_map]
  rfl

namespace Attached

/-- The transfers of a run. -/
def transfers (σ : Attached) : List Inputs → List Isa.BusCycle
  | [] => []
  | i :: clocks => (transfer? σ.slice i).toList ++ transfers (σ.step i) clocks

/-- The slice with what its cycles transfer. -/
def observed : Clocked.Device Inputs Attached (Cycle × Option Isa.BusCycle) :=
  device.observing fun σ i => transfer? σ.slice i

/-- Every transfer of a run is one of its cycles. -/
theorem transfers_eq (σ : Attached) (clocks : List Inputs) :
    σ.transfers clocks = (observed.cycles σ clocks).filterMap Prod.snd := by
  induction clocks generalizing σ with
  | nil => rfl
  | cons i clocks ih =>
      have cycle : (observed.cycle? σ i).toList.filterMap Prod.snd =
          (transfer? σ.slice i).toList := by
        unfold observed Clocked.Device.observing device
        dsimp only
        rcases Bool.eq_false_or_eq_true (coreExecuteBoundary σ.slice i) with advances | paused
        · rw [advances]
          cases transfer? σ.slice i <;> rfl
        · rw [paused, transfer?_paused paused]
          rfl
      have next : observed.next σ i = σ.step i := rfl
      unfold transfers Clocked.Device.cycles
      rw [List.filterMap_append, cycle, next, ih]

/-- The slice simulates the instruction-level machine with its transfers. -/
theorem observed_simulates :
    Clocked.Simulates observed (Runs True)
      (fun a made b => (True → Takes a (made.map Prod.fst) b) ∧ Owes a made)
      (fun a made σ => Lockstep True a σ (made.map Prod.fst) ∧ Owes a made) := by
  apply (simulates True).observing
  intro a made σ i cycle lock runs some
  rcases cycle?_some some with ⟨advances, rfl⟩
  exact lock.transfer runs advances

end Attached

end Tms32010.Rtl.Slice
