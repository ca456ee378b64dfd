import Mathlib.Data.Nat.Count
import Tms32010.Board.MainBus
import Tms32010.Lib.Timeline

/-!
# Cycles of the main bus

The main 68000 goes through the states S2 to S7 of a bus cycle on the edges of the 8 MHz
clock, and stays in wait states while no acknowledgement is sampled. Against it every cycle
is acknowledged once, and its held strobes end before the next one begins; an interrupt
acknowledge leaves them asserted.
-/

namespace Tms32010.Board.MainBus

open MainRvasTiming (State)

/-! ## The processor -/

/-- What the main 68000 drives while its address strobe is asserted. -/
structure Cycle where
  address : BitVec 23
  functionCode : BitVec 3
  readNotWrite : Bool
  deriving DecidableEq, Repr

/-- Who acknowledges a cycle. -/
inductive Kind where
  | ordinary
  | highSpeed
  | duart
  | autovector
  deriving DecidableEq, Repr

namespace Cycle

variable (c : Cycle)

/-- The address decoder and the function code choose who acknowledges. -/
def kind : Kind :=
  if !MainAddressDecode.highSpeedBusSelectN c.address false then .highSpeed
  else if !MainAddressDecode.duartSelectN c.address false then .duart
  else if c.functionCode == 7 then .autovector
  else .ordinary

/-- An acknowledge cycle reads, and addresses no peripheral of the board. -/
def plain : Bool := c.functionCode != 7 || c.kind == .autovector && c.readNotWrite

/-- The cycle writes the sound reset addresses. -/
def resetsSound : Bool := !SoundReset.soundResetN false false c.readNotWrite c.address

end Cycle

/-- The lines of a clock. -/
def Inputs.cycle (i : Inputs) : Cycle := ⟨i.address, i.functionCode, i.readNotWrite⟩

/-- Where the processor is in its cycle. A `first` state is one before the second rising
edge after the strobe. -/
inductive Stage where
  | free (rested : Bool)
  | s2
  | s3
  | s4 (first : Bool)
  | waits (first : Bool)
  | s5 (first : Bool)
  | s6
  | s7
  deriving DecidableEq, Repr

/-- The processor before a clock: the level of the clock, its state, its lines, and whether
the peripheral it accesses was ready in the last clock. -/
structure Bus where
  high : Bool
  stage : Stage
  cycle : Cycle
  held : Bool
  deriving DecidableEq, Repr

/-- The processor after initialisation. -/
def Bus.idle : Bus := ⟨false, .free true, ⟨0, 5, true⟩, false⟩

section Processor

variable (b : Bus) (s : State) (i : Inputs)

/-- The next state of a processor that keeps its strobe asserted. -/
def Bus.advance : Stage :=
  match b.stage with
  | .free _ => .s2
  | .s2 => if i.main8mhzFall then .s3 else .s2
  | .s3 => if i.main8mhzRise then .s4 true else .s3
  | .s4 first =>
      if i.main8mhzFall then if dtackN s i then .waits first else .s5 first else .s4 first
  | .waits first => if i.main8mhzRise then .s4 false else .waits first
  | .s5 first => if i.main8mhzRise then .s6 else .s5 first
  | .s6 => if i.main8mhzFall then .s7 else .s6
  | .s7 => .s7

/-- The processor may assert its strobe: in the high phase, after a falling edge. -/
def Bus.mayAssert : Bool :=
  match b.stage with
  | .free rested => rested && i.main8mhzHigh && i.cycle.plain
  | _ => false

/-- The processor may release its strobe: in S7, or in a wait state of an autovectored
acknowledge. -/
def Bus.mayRelease : Bool :=
  match b.stage with
  | .s7 => true
  | .waits first => !first && b.cycle.kind == .autovector
  | _ => false

/-- A peripheral that was ready stays so while it is accessed. -/
def Bus.staysReady : Bool :=
  !b.held ||
    match b.cycle.kind with
    | .highSpeed => i.gspWaitN && i.mspWaitN
    | .duart => !i.duartDtackN
    | _ => true

/-- The strobe is released. -/
def Bus.isFree : Bool :=
  match b.stage with
  | .free _ => true
  | _ => false

/-- A peripheral acknowledges. -/
def peripheralReady : Bool :=
  !(MainDtackDecode.highSpeedDtackTermN (dtackInputs s i) &&
    MainDtackDecode.duartDtackTermN (dtackInputs s i))

/-- The clocks the processor and the peripherals may make. -/
def Bus.legal : Bool :=
  !i.initializeI && MainRvasTiming.contract (timingInputs s i) b.high &&
    if b.isFree then
      i.addressStrobeAssert == !i.addressStrobeN && (i.addressStrobeN || b.mayAssert i)
    else
      !i.addressStrobeAssert &&
        if i.addressStrobeN then b.mayRelease else i.cycle == b.cycle && b.staysReady i

/-- The processor after a clock. -/
def Bus.next : Bus where
  high := i.main8mhzHigh
  stage :=
    if i.addressStrobeN then
      match b.stage with
      | .free rested => .free (rested || i.main8mhzFall)
      | _ => .free false
    else b.advance s i
  cycle := if i.addressStrobeAssert then i.cycle else b.cycle
  held := !i.addressStrobeN && peripheralReady s i

end Processor

/-! ## Acknowledgement by kind -/

section Kinds

variable {s : State} {i : Inputs}

theorem primary_bits : ∀ code : BitVec 3, ∀ place < 8,
    (~~~(1#8 <<< code.toNat)).getLsbD place = (code != BitVec.ofNat 3 place) := by
  decide

theorem highSpeedBusSelectN_eq (address : BitVec 23) :
    MainAddressDecode.highSpeedBusSelectN address false = (address.extractLsb' 20 3 != 6) :=
  primary_bits (address.extractLsb' 20 3) 6 (by decide)

theorem ramEnableN_eq (address : BitVec 23) :
    MainAddressDecode.ramEnableN address false = (address.extractLsb' 20 3 != 7) :=
  primary_bits (address.extractLsb' 20 3) 7 (by decide)

theorem duartSelectN_disabled {address : BitVec 23}
    (disabled : MainAddressDecode.ramEnableN address false = true) :
    MainAddressDecode.duartSelectN address false = true := by
  unfold MainAddressDecode.duartSelectN MainAddressDecode.ramSelectN
    MainAddressDecode.halfSelectN
  rw [disabled, if_pos rfl]
  decide

/-- The high-speed bus and the DUART are never selected together. -/
theorem select_apart (address : BitVec 23)
    (highSpeed : MainAddressDecode.highSpeedBusSelectN address false = false) :
    MainAddressDecode.duartSelectN address false = true := by
  apply duartSelectN_disabled
  rw [highSpeedBusSelectN_eq, bne_eq_false_iff_eq] at highSpeed
  rw [ramEnableN_eq, highSpeed]
  rfl

/-- Without a strobe nothing is selected. -/
theorem selects_free (free : i.addressStrobeN = true) :
    highSpeedBusSelectN i = true ∧ duartSelectN i = true := by
  unfold highSpeedBusSelectN duartSelectN MainAddressDecode.highSpeedBusSelectN
    MainAddressDecode.duartSelectN MainAddressDecode.ramSelectN MainAddressDecode.halfSelectN
    MainAddressDecode.ramEnableN MainAddressDecode.primarySelectN
  rw [free]
  constructor <;> simp

/-- The selects and the function code of a kind. -/
inductive Selected : Kind → Bool → Bool → Bool → Prop where
  | highSpeed (code : Bool) : Selected .highSpeed false true code
  | duart (code : Bool) : Selected .duart true false code
  | autovector : Selected .autovector true true true
  | ordinary : Selected .ordinary true true false

theorem selected (c : Cycle) :
    Selected c.kind (MainAddressDecode.highSpeedBusSelectN c.address false)
      (MainAddressDecode.duartSelectN c.address false) (c.functionCode == 7) := by
  have apart := select_apart c.address
  unfold Cycle.kind
  cases highSpeed : MainAddressDecode.highSpeedBusSelectN c.address false
  · rw [apart highSpeed]
    exact .highSpeed _
  · cases MainAddressDecode.duartSelectN c.address false
    · exact .duart _
    · cases c.functionCode == 7
      · exact .ordinary
      · exact .autovector

/-- The acknowledgement as a function of the selects. -/
theorem dtackN_eq : dtackN s i =
    (!(!(i.functionCode == 7 && !i.addressStrobeN) && s.rva && highSpeedBusSelectN i &&
        duartSelectN i) &&
      (highSpeedBusSelectN i || !s.rvas0Active || !(i.gspWaitN && i.mspWaitN)) &&
      (duartSelectN i || !s.rvasActive || i.duartDtackN)) :=
  rfl

theorem peripheralReady_eq : peripheralReady s i =
    !((highSpeedBusSelectN i || !s.rvas0Active || !(i.gspWaitN && i.mspWaitN)) &&
      (duartSelectN i || !s.rvasActive || i.duartDtackN)) :=
  rfl

/-- Without a strobe only the ordinary term can acknowledge. -/
theorem dtackN_free (free : i.addressStrobeN = true) : dtackN s i = !s.rva := by
  rcases selects_free free with ⟨highSpeed, duart⟩
  rw [dtackN_eq, free, highSpeed, duart]
  simp

/-- What acknowledges a cycle of a kind. -/
def acknowledges (kind : Kind) (s : State) (i : Inputs) : Bool :=
  match kind with
  | .ordinary => s.rva
  | .highSpeed => s.rvas0Active && (i.gspWaitN && i.mspWaitN)
  | .duart => s.rvasActive && !i.duartDtackN
  | .autovector => false

/-- A strobed cycle is acknowledged by its kind alone. -/
theorem dtackN_strobed (strobed : i.addressStrobeN = false) :
    dtackN s i = !acknowledges i.cycle.kind s i ∧
      peripheralReady s i = (acknowledges i.cycle.kind s i && i.cycle.kind != .ordinary) := by
  have chosen := selected i.cycle
  rw [dtackN_eq, peripheralReady_eq]
  unfold highSpeedBusSelectN duartSelectN
  rw [strobed]
  change Selected i.cycle.kind (MainAddressDecode.highSpeedBusSelectN i.address false)
    (MainAddressDecode.duartSelectN i.address false) (i.functionCode == 7) at chosen
  revert chosen
  generalize i.cycle.kind = kind
  generalize MainAddressDecode.highSpeedBusSelectN i.address false = highSpeed
  generalize MainAddressDecode.duartSelectN i.address false = duart
  generalize (i.functionCode == 7) = code
  intro chosen
  unfold acknowledges
  cases chosen with
  | highSpeed code => cases s.rvas0Active <;> cases code <;> simp
  | duart code => cases s.rvasActive <;> cases code <;> simp
  | autovector => simp
  | ordinary => simp

end Kinds

/-! ## Clocks of the timing -/

section Clocks

variable {s : State} {i : Inputs}

/-- The levels of the timing, without the event registers. -/
structure Levels (s : State) (asSeen rva sampledDtackN rvas0Active rvasActive : Bool) : Prop where
  asSeen : s.asSeen = asSeen
  rva : s.rva = rva
  sampled : s.sampledDtackN = sampledDtackN
  rvas0 : s.rvas0Active = rvas0Active
  rvas : s.rvasActive = rvasActive

theorem step_quiet (initializing : i.initializeI = false) (rise : i.main8mhzRise = false)
    (fall : i.main8mhzFall = false) (asserted : i.addressStrobeAssert = false) :
    Levels (step s i) s.asSeen s.rva s.sampledDtackN s.rvas0Active s.rvasActive := by
  unfold step MainRvasTiming.step MainRvasTiming.sampledRelease MainRvasTiming.lowAssert
    timingInputs
  constructor <;> simp [initializing, rise, fall, asserted]

theorem step_strobe (initializing : i.initializeI = false) (rise : i.main8mhzRise = false)
    (fall : i.main8mhzFall = false) (asserted : i.addressStrobeAssert = true)
    (high : i.main8mhzHigh = true) :
    Levels (step s i) true s.rva s.sampledDtackN s.rvas0Active s.rvasActive := by
  unfold step MainRvasTiming.step MainRvasTiming.sampledRelease MainRvasTiming.lowAssert
    timingInputs
  constructor <;> simp [initializing, rise, fall, asserted, high]

theorem step_rise (initializing : i.initializeI = false) (rise : i.main8mhzRise = true)
    (fall : i.main8mhzFall = false) (asserted : i.addressStrobeAssert = false) :
    Levels (step s i) false s.asSeen s.sampledDtackN s.rvas0Active
      (s.asSeen || s.rvasActive) := by
  unfold step MainRvasTiming.step MainRvasTiming.sampledRelease MainRvasTiming.lowAssert
    timingInputs
  constructor <;> cases s.asSeen <;> simp [initializing, rise, fall, asserted]

theorem step_fall (initializing : i.initializeI = false) (rise : i.main8mhzRise = false)
    (fall : i.main8mhzFall = true) (asserted : i.addressStrobeAssert = false) :
    Levels (step s i) s.asSeen s.rva (dtackN s i)
      (s.asSeen || s.rvas0Active && (s.sampledDtackN || !dtackN s i))
      (s.rvasActive && (s.sampledDtackN || !dtackN s i)) := by
  unfold step MainRvasTiming.step MainRvasTiming.sampledRelease MainRvasTiming.lowAssert
    timingInputs
  constructor <;> cases s.asSeen <;> cases s.sampledDtackN <;> cases dtackN s i <;>
    simp [initializing, rise, fall, asserted]

end Clocks

/-! ## The invariant -/

/-- A peripheral that is ready is one the cycle accesses under its held strobe. -/
def Accessed (kind : Kind) (s : State) : Prop :=
  match kind with
  | .highSpeed => s.rvas0Active = true
  | .duart => s.rvasActive = true
  | _ => False

/-- Where the timing stands in each state of the processor. -/
inductive Tracks (s : State) (kind : Kind) (high held : Bool) : Stage → Prop where
  | free {rested : Bool} (asSeen : s.asSeen = false) (rva : s.rva = false)
      (same : s.rvasActive = s.rvas0Active)
      (sampled : s.sampledDtackN = false →
        rested = false ∧ s.rvasActive = true ∧ kind ≠ .autovector)
      (left : s.sampledDtackN = true → s.rvasActive = (kind == .autovector)) :
      Tracks s kind high held (.free rested)
  | s2 (asSeen : s.asSeen = true) (rva : s.rva = false) (same : s.rvasActive = s.rvas0Active)
      (sampled : s.sampledDtackN = true) (level : high = true)
      (accessed : held = true → Accessed kind s) : Tracks s kind high held .s2
  | s3 (asSeen : s.asSeen = true) (rva : s.rva = false) (early : s.rvas0Active = true)
      (sampled : s.sampledDtackN = false → held = true) (level : high = false)
      (accessed : held = true → Accessed kind s) : Tracks s kind high held .s3
  | s4 {first : Bool} (asSeen : s.asSeen = false) (rva : s.rva = first)
      (early : s.rvas0Active = true) (valid : s.rvasActive = true)
      (sampled : s.sampledDtackN = false → held = true) (level : high = true)
      (accessed : held = true → Accessed kind s) (waited : first = false → kind ≠ .ordinary) :
      Tracks s kind high held (.s4 first)
  | waits {first : Bool} (asSeen : s.asSeen = false) (rva : s.rva = first)
      (early : s.rvas0Active = true) (valid : s.rvasActive = true)
      (sampled : s.sampledDtackN = true) (level : high = false)
      (accessed : held = true → Accessed kind s) (waited : kind ≠ .ordinary) :
      Tracks s kind high held (.waits first)
  | s5 {first : Bool} (asSeen : s.asSeen = false) (rva : s.rva = first)
      (early : s.rvas0Active = true) (valid : s.rvasActive = true)
      (sampled : s.sampledDtackN = false) (level : high = false)
      (ready : kind ≠ .ordinary → held = true ∧ Accessed kind s)
      (prompt : kind = .ordinary → first = true) : Tracks s kind high held (.s5 first)
  | s6 (asSeen : s.asSeen = false) (rva : s.rva = false)
      (early : s.rvas0Active = true) (valid : s.rvasActive = true)
      (sampled : s.sampledDtackN = false) (level : high = true)
      (ready : kind ≠ .ordinary → held = true ∧ Accessed kind s) : Tracks s kind high held .s6
  | ended (asSeen : s.asSeen = false) (rva : s.rva = false) (early : s.rvas0Active = false)
      (valid : s.rvasActive = false) (sampled : s.sampledDtackN = true)
      (ordinary : kind = .ordinary) : Tracks s kind high held .s7
  | held (asSeen : s.asSeen = false) (rva : s.rva = false) (early : s.rvas0Active = true)
      (valid : s.rvasActive = true) (sampled : s.sampledDtackN = false)
      (ready : held = true ∧ Accessed kind s) : Tracks s kind high held .s7

section Legal

variable {b : Bus} {s : State} {i : Inputs}

/-- The events of a clock and the level of the 8 MHz clock after it. -/
inductive Edge (high : Bool) (i : Inputs) : Prop where
  | rise (rise : i.main8mhzRise = true) (fall : i.main8mhzFall = false)
      (asserted : i.addressStrobeAssert = false) (before : high = false)
      (after : i.main8mhzHigh = true) : Edge high i
  | fall (rise : i.main8mhzRise = false) (fall : i.main8mhzFall = true)
      (asserted : i.addressStrobeAssert = false) (before : high = true)
      (after : i.main8mhzHigh = false) : Edge high i
  | level (rise : i.main8mhzRise = false) (fall : i.main8mhzFall = false)
      (after : i.main8mhzHigh = high) : Edge high i

theorem edge_of_contract {high : Bool}
    (contract : MainRvasTiming.contract (timingInputs s i) high = true) : Edge high i := by
  unfold MainRvasTiming.contract timingInputs at contract
  dsimp only at contract
  cases rise : i.main8mhzRise <;> cases fall : i.main8mhzFall <;>
    cases asserted : i.addressStrobeAssert <;> cases after : i.main8mhzHigh <;>
    cases high <;> simp [rise, fall, asserted, after] at contract
  all_goals first
    | exact .level rise fall after
    | exact .rise rise fall asserted rfl after
    | exact .fall rise fall asserted rfl after

/-- What a legal clock does to the strobe. -/
inductive Move (b : Bus) (i : Inputs) : Prop where
  | idles (free : b.isFree = true) (strobeN : i.addressStrobeN = true)
      (asserted : i.addressStrobeAssert = false) : Move b i
  | strobes (free : b.stage = .free true) (strobeN : i.addressStrobeN = false)
      (asserted : i.addressStrobeAssert = true) (high : i.main8mhzHigh = true)
      (plain : i.cycle.plain = true) : Move b i
  | releases (may : b.mayRelease = true) (strobeN : i.addressStrobeN = true)
      (asserted : i.addressStrobeAssert = false) : Move b i
  | keeps (busy : b.isFree = false) (strobeN : i.addressStrobeN = false)
      (asserted : i.addressStrobeAssert = false) (same : i.cycle = b.cycle)
      (stays : b.staysReady i = true) : Move b i

theorem legal_cases (legal : b.legal s i = true) :
    i.initializeI = false ∧ Edge b.high i ∧ Move b i := by
  unfold Bus.legal at legal
  rw [Bool.and_eq_true, Bool.and_eq_true, Bool.not_eq_true'] at legal
  rcases legal with ⟨⟨initializing, contract⟩, strobe⟩
  refine ⟨initializing, edge_of_contract contract, ?_⟩
  cases free : b.isFree
  · rw [free, if_neg Bool.false_ne_true, Bool.and_eq_true, Bool.not_eq_true'] at strobe
    rcases strobe with ⟨asserted, lines⟩
    cases strobeN : i.addressStrobeN
    · rw [strobeN, if_neg Bool.false_ne_true, Bool.and_eq_true, beq_iff_eq] at lines
      exact .keeps free strobeN asserted lines.1 lines.2
    · rw [strobeN, if_pos rfl] at lines
      exact .releases lines strobeN asserted
  · rw [free, if_pos rfl, Bool.and_eq_true, beq_iff_eq] at strobe
    rcases strobe with ⟨asserted, may⟩
    cases strobeN : i.addressStrobeN
    · rw [strobeN] at asserted may
      unfold Bus.mayAssert at may
      unfold Bus.isFree at free
      cases stage : b.stage with
      | free rested =>
          rw [stage] at may
          simp only [Bool.false_or, Bool.and_eq_true] at may
          rw [may.1.1] at stage
          exact .strobes stage strobeN asserted may.1.2 may.2
      | s2 | s3 | s4 | waits | s5 | s6 | s7 =>
          rw [stage] at free
          exact absurd free Bool.false_ne_true
    · rw [strobeN] at asserted
      exact .idles free strobeN asserted

/-- A ready peripheral is one the cycle accesses. -/
theorem accessed_of_ready (strobed : i.addressStrobeN = false)
    (ready : peripheralReady s i = true) : Accessed i.cycle.kind s := by
  rw [(dtackN_strobed strobed).2, Bool.and_eq_true] at ready
  revert ready
  unfold acknowledges Accessed
  cases i.cycle.kind <;> simp +contextual

/-- A peripheral that was ready still acknowledges. -/
theorem ready_of_held (strobed : i.addressStrobeN = false) (same : i.cycle = b.cycle)
    (stays : b.staysReady i = true) (held : b.held = true) (accessed : Accessed b.cycle.kind s) :
    dtackN s i = false ∧ peripheralReady s i = true := by
  rcases dtackN_strobed (s := s) strobed with ⟨dtack, ready⟩
  rw [dtack, ready, same]
  unfold Bus.staysReady at stays
  rw [held] at stays
  revert accessed stays
  unfold acknowledges Accessed
  cases b.cycle.kind <;> simp +contextual

theorem Accessed.mono {kind : Kind} {s' : State} (accessed : Accessed kind s)
    (early : s.rvas0Active = true → s'.rvas0Active = true)
    (valid : s.rvasActive = true → s'.rvasActive = true) : Accessed kind s' := by
  unfold Accessed at *
  cases kind
  · exact accessed
  · exact early accessed
  · exact valid accessed
  · exact accessed

/-- Only the ordinary term acknowledges without a peripheral. -/
theorem ready_of_dtack (strobed : i.addressStrobeN = false) (acknowledged : dtackN s i = false)
    (special : i.cycle.kind ≠ .ordinary) : peripheralReady s i = true := by
  rcases dtackN_strobed (s := s) strobed with ⟨dtack, ready⟩
  rw [dtack, Bool.not_eq_false'] at acknowledged
  rw [ready, acknowledged, Bool.true_and]
  exact bne_iff_ne.mpr special

theorem dtackN_ordinary (strobed : i.addressStrobeN = false) (ordinary : i.cycle.kind = .ordinary) :
    dtackN s i = !s.rva := by
  rw [(dtackN_strobed strobed).1, ordinary]
  rfl

/-- A clock that keeps the strobe keeps what was ready ready. -/
theorem held_next {s' : State} (strobed : i.addressStrobeN = false) (same : i.cycle = b.cycle)
    (early : s.rvas0Active = true → s'.rvas0Active = true)
    (valid : s.rvasActive = true → s'.rvasActive = true) (ready : peripheralReady s i = true) :
    Accessed b.cycle.kind s' := by
  have accessed := accessed_of_ready strobed ready
  rw [same] at accessed
  exact accessed.mono early valid

/-- A clock without an edge leaves the processor and the timing where they are. -/
theorem Tracks.quiet {kind : Kind} {high held ready : Bool} {stage : Stage} {s' : State}
    (tracks : Tracks s kind high held stage) (busy : ∀ rested, stage ≠ .free rested)
    (levels : Levels s' s.asSeen s.rva s.sampledDtackN s.rvas0Active s.rvasActive)
    (steady : held = true → Accessed kind s → ready = true)
    (accesses : ready = true → Accessed kind s) : Tracks s' kind high ready stage := by
  have now (access : Accessed kind s) : Accessed kind s' :=
    access.mono (levels.rvas0.trans ·) (levels.rvas.trans ·)
  have next (ready' : ready = true) : Accessed kind s' := now (accesses ready')
  have kept (holds : held = true ∧ Accessed kind s) : ready = true ∧ Accessed kind s' :=
    ⟨steady holds.1 holds.2, now holds.2⟩
  cases tracks with
  | free => exact absurd rfl (busy _)
  | s2 asSeen rva still sampled level accessed =>
      exact .s2 (levels.asSeen.trans asSeen) (levels.rva.trans rva)
        (levels.rvas.trans (still.trans levels.rvas0.symm)) (levels.sampled.trans sampled) level next
  | s3 asSeen rva early sampled level accessed =>
      refine .s3 (levels.asSeen.trans asSeen) (levels.rva.trans rva) (levels.rvas0.trans early) ?_
        level next
      intro low
      have held' := sampled (levels.sampled.symm.trans low)
      exact steady held' (accessed held')
  | s4 asSeen rva early valid sampled level accessed waited =>
      refine .s4 (levels.asSeen.trans asSeen) (levels.rva.trans rva) (levels.rvas0.trans early)
        (levels.rvas.trans valid) ?_ level next waited
      intro low
      have held' := sampled (levels.sampled.symm.trans low)
      exact steady held' (accessed held')
  | waits asSeen rva early valid sampled level accessed waited =>
      exact .waits (levels.asSeen.trans asSeen) (levels.rva.trans rva) (levels.rvas0.trans early)
        (levels.rvas.trans valid) (levels.sampled.trans sampled) level next waited
  | s5 asSeen rva early valid sampled level holds prompt =>
      exact .s5 (levels.asSeen.trans asSeen) (levels.rva.trans rva) (levels.rvas0.trans early)
        (levels.rvas.trans valid) (levels.sampled.trans sampled) level
        (fun special => kept (holds special)) prompt
  | s6 asSeen rva early valid sampled level holds =>
      exact .s6 (levels.asSeen.trans asSeen) (levels.rva.trans rva) (levels.rvas0.trans early)
        (levels.rvas.trans valid) (levels.sampled.trans sampled) level
        fun special => kept (holds special)
  | ended asSeen rva early valid sampled ordinary =>
      exact .ended (levels.asSeen.trans asSeen) (levels.rva.trans rva) (levels.rvas0.trans early)
        (levels.rvas.trans valid) (levels.sampled.trans sampled) ordinary
  | held asSeen rva early valid sampled holds =>
      exact .held (levels.asSeen.trans asSeen) (levels.rva.trans rva) (levels.rvas0.trans early)
        (levels.rvas.trans valid) (levels.sampled.trans sampled) (kept holds)

/-- The invariant over a rising edge. -/
theorem Tracks.rise (tracks : Tracks s b.cycle.kind b.high b.held b.stage)
    (initializing : i.initializeI = false) (rise : i.main8mhzRise = true)
    (fall : i.main8mhzFall = false) (before : b.high = false) (after : i.main8mhzHigh = true)
    (busy : b.isFree = false) (strobed : i.addressStrobeN = false)
    (asserted : i.addressStrobeAssert = false) (same : i.cycle = b.cycle)
    (stays : b.staysReady i = true) :
    Tracks (step s i) b.cycle.kind i.main8mhzHigh (peripheralReady s i) (b.advance s i) := by
  have levels := step_rise (s := s) initializing rise fall asserted
  have valid' (valid : s.rvasActive = true) : (step s i).rvasActive = true := by
    rw [levels.rvas, valid, Bool.or_true]
  have next (ready : peripheralReady s i = true) : Accessed b.cycle.kind (step s i) :=
    held_next strobed same (levels.rvas0.trans ·) valid' ready
  have kept (holds : b.held = true ∧ Accessed b.cycle.kind s) :
      peripheralReady s i = true ∧ Accessed b.cycle.kind (step s i) :=
    ⟨(ready_of_held strobed same stays holds.1 holds.2).2,
      holds.2.mono (levels.rvas0.trans ·) valid'⟩
  unfold Bus.isFree at busy
  unfold Bus.advance
  generalize b.stage = stage at tracks busy
  cases tracks with
  | free => exact absurd busy Bool.false_ne_true.symm
  | s2 _ _ _ _ level | s4 _ _ _ _ _ level | s6 _ _ _ _ _ level =>
      exact absurd (before.symm.trans level) Bool.false_ne_true
  | s3 asSeen rva early sampled level accessed =>
      dsimp only
      rw [rise, if_pos rfl, after]
      have set : (step s i).rvasActive = true := by
        rw [levels.rvas, asSeen, Bool.true_or]
      refine .s4 levels.asSeen (levels.rva.trans asSeen) (levels.rvas0.trans early) set ?_ rfl next
        fun absent => absurd absent.symm Bool.false_ne_true
      intro low
      have held := sampled (levels.sampled.symm.trans low)
      exact (kept ⟨held, accessed held⟩).1
  | waits asSeen rva early valid sampled level accessed waited =>
      dsimp only
      rw [rise, if_pos rfl, after]
      refine .s4 levels.asSeen (levels.rva.trans asSeen) (levels.rvas0.trans early) (valid' valid) ?_
        rfl next fun _ => waited
      intro low
      exact absurd (low.symm.trans (levels.sampled.trans sampled)) Bool.false_ne_true
  | s5 asSeen rva early valid sampled level holds prompt =>
      dsimp only
      rw [rise, if_pos rfl, after]
      exact .s6 levels.asSeen (levels.rva.trans asSeen) (levels.rvas0.trans early) (valid' valid)
        (levels.sampled.trans sampled) rfl fun special => kept (holds special)
  | ended asSeen rva early valid sampled ordinary =>
      have clear : (step s i).rvasActive = false := by
        rw [levels.rvas, asSeen, valid, Bool.or_false]
      exact .ended levels.asSeen (levels.rva.trans asSeen) (levels.rvas0.trans early) clear
        (levels.sampled.trans sampled) ordinary
  | held asSeen rva early valid sampled holds =>
      exact .held levels.asSeen (levels.rva.trans asSeen) (levels.rvas0.trans early) (valid' valid)
        (levels.sampled.trans sampled) (kept holds)

/-- The invariant over a falling edge. -/
theorem Tracks.fall (tracks : Tracks s b.cycle.kind b.high b.held b.stage)
    (initializing : i.initializeI = false) (rise : i.main8mhzRise = false)
    (fall : i.main8mhzFall = true) (before : b.high = true) (after : i.main8mhzHigh = false)
    (busy : b.isFree = false) (strobed : i.addressStrobeN = false)
    (asserted : i.addressStrobeAssert = false) (same : i.cycle = b.cycle)
    (stays : b.staysReady i = true) :
    Tracks (step s i) b.cycle.kind i.main8mhzHigh (peripheralReady s i) (b.advance s i) := by
  have levels := step_fall (s := s) initializing rise fall asserted
  have steady (held : b.held = true) (accessed : Accessed b.cycle.kind s) :=
    ready_of_held strobed same stays held accessed
  have next (early : s.rvas0Active = true → (step s i).rvas0Active = true)
      (valid : s.rvasActive = true → (step s i).rvasActive = true)
      (ready : peripheralReady s i = true) : Accessed b.cycle.kind (step s i) :=
    held_next strobed same early valid ready
  unfold Bus.isFree at busy
  unfold Bus.advance
  generalize b.stage = stage at tracks busy
  cases tracks with
  | free => exact absurd busy Bool.false_ne_true.symm
  | s3 _ _ _ _ level | waits _ _ _ _ _ level | s5 _ _ _ _ _ level =>
      exact absurd (level.symm.trans before) Bool.false_ne_true
  | s2 asSeen rva still sampled level accessed =>
      rw [asSeen, sampled, Bool.true_or, Bool.true_or, Bool.and_true] at levels
      dsimp only
      rw [fall, if_pos rfl, after]
      refine .s3 levels.asSeen (levels.rva.trans rva) levels.rvas0 ?_ rfl
        (next (fun _ => levels.rvas0) (levels.rvas.trans ·))
      intro low
      have acknowledged := levels.sampled.symm.trans low
      apply ready_of_dtack strobed acknowledged
      intro ordinary
      rw [dtackN_ordinary strobed ordinary, rva] at acknowledged
      exact absurd acknowledged (by decide)
  | s4 asSeen rva early valid sampled level accessed waited =>
      dsimp only
      rw [fall, if_pos rfl, after]
      rw [asSeen, early, valid, Bool.false_or, Bool.true_and] at levels
      cases acknowledged : dtackN s i
      · -- the processor samples the acknowledgement
        rw [acknowledged, Bool.not_false, Bool.or_true] at levels
        rw [if_neg Bool.false_ne_true]
        refine .s5 levels.asSeen (levels.rva.trans rva) levels.rvas0 levels.rvas levels.sampled
          rfl ?_ ?_
        · intro special
          have ready := ready_of_dtack strobed acknowledged (same ▸ special)
          exact ⟨ready, next (fun _ => levels.rvas0) (fun _ => levels.rvas) ready⟩
        · intro ordinary
          by_contra later
          exact waited (Bool.eq_false_of_not_eq_true later) ordinary
      · have unsampled : s.sampledDtackN = true := by
          by_contra low
          have held := sampled (Bool.eq_false_of_not_eq_true low)
          exact absurd ((steady held (accessed held)).1.symm.trans acknowledged) (by decide)
        rw [acknowledged, unsampled, Bool.true_or] at levels
        rw [if_pos rfl]
        refine .waits levels.asSeen (levels.rva.trans rva) levels.rvas0 levels.rvas levels.sampled
          rfl (next (fun _ => levels.rvas0) (fun _ => levels.rvas)) ?_
        intro ordinary
        rw [dtackN_ordinary strobed (same ▸ ordinary), rva, Bool.not_eq_true'] at acknowledged
        exact waited acknowledged ordinary
  | s6 asSeen rva early valid sampled level holds =>
      rw [asSeen, early, valid, sampled, Bool.false_or, Bool.false_or, Bool.true_and] at levels
      dsimp only
      rw [fall, if_pos rfl, after]
      by_cases ordinary : b.cycle.kind = .ordinary
      · have released : dtackN s i = true := by
          rw [dtackN_ordinary strobed (same ▸ ordinary), rva]
          rfl
        rw [released] at levels
        exact .ended levels.asSeen (levels.rva.trans rva) levels.rvas0 levels.rvas levels.sampled
          ordinary
      · rcases holds ordinary with ⟨held, accessed⟩
        rcases steady held accessed with ⟨acknowledged, ready⟩
        rw [acknowledged] at levels
        exact .held levels.asSeen (levels.rva.trans rva) levels.rvas0 levels.rvas levels.sampled
          ⟨ready, next (fun _ => levels.rvas0) (fun _ => levels.rvas) ready⟩
  | ended asSeen rva early valid sampled ordinary =>
      have released : dtackN s i = true := by
        rw [dtackN_ordinary strobed (same ▸ ordinary), rva]
        rfl
      rw [asSeen, early, valid, released] at levels
      exact .ended levels.asSeen (levels.rva.trans rva) levels.rvas0 levels.rvas levels.sampled
        ordinary
  | held asSeen rva early valid sampled holds =>
      rcases steady holds.1 holds.2 with ⟨acknowledged, ready⟩
      have still : (s.sampledDtackN || !false) = true := Bool.or_true _
      rw [asSeen, early, valid, acknowledged, still] at levels
      exact .held levels.asSeen (levels.rva.trans rva) levels.rvas0 levels.rvas levels.sampled
        ⟨ready, next (fun _ => levels.rvas0) (fun _ => levels.rvas) ready⟩

/-- The invariant over a clock that releases the strobe, or keeps it released. -/
theorem Tracks.freed {high held rested : Bool} {kind : Kind} (initializing : i.initializeI = false)
    (edge : Edge b.high i) (strobeN : i.addressStrobeN = true)
    (asserted : i.addressStrobeAssert = false) (asSeen : s.asSeen = false) (rva : s.rva = false)
    (still : s.rvasActive = s.rvas0Active)
    (sampled : s.sampledDtackN = false →
      rested = false ∧ s.rvasActive = true ∧ kind ≠ .autovector)
    (left : s.sampledDtackN = true → s.rvasActive = (kind == .autovector)) :
    Tracks (step s i) kind high held (.free (rested || i.main8mhzFall)) := by
  have released : dtackN s i = true := by
    rw [dtackN_free strobeN, rva]
    rfl
  cases edge with
  | level rise fall after =>
      have levels := step_quiet (s := s) initializing rise fall asserted
      refine .free (levels.asSeen.trans asSeen) (levels.rva.trans rva)
        (levels.rvas.trans (still.trans levels.rvas0.symm)) ?_
        fun high => levels.rvas.trans (left (levels.sampled.symm.trans high))
      intro low
      rcases sampled (levels.sampled.symm.trans low) with ⟨absent, valid, vectored⟩
      rw [fall, absent]
      exact ⟨rfl, levels.rvas.trans valid, vectored⟩
  | rise rise fall _ _ after =>
      have levels := step_rise (s := s) initializing rise fall asserted
      rw [asSeen, Bool.false_or] at levels
      refine .free levels.asSeen levels.rva
        (levels.rvas.trans (still.trans levels.rvas0.symm)) ?_
        fun high => levels.rvas.trans (left (levels.sampled.symm.trans high))
      intro low
      rcases sampled (levels.sampled.symm.trans low) with ⟨absent, valid, vectored⟩
      rw [fall, absent]
      exact ⟨rfl, levels.rvas.trans valid, vectored⟩
  | fall rise fall _ _ after =>
      have levels := step_fall (s := s) initializing rise fall asserted
      rw [asSeen, released, Bool.false_or, ← still] at levels
      refine .free levels.asSeen (levels.rva.trans rva) (levels.rvas.trans levels.rvas0.symm)
        (fun low => absurd (low.symm.trans levels.sampled) Bool.false_ne_true) ?_
      intro _
      rw [levels.rvas]
      cases before : s.sampledDtackN
      · rw [beq_false_of_ne (sampled before).2.2, Bool.not_true, Bool.or_false, Bool.and_false]
      · rw [left before, Bool.true_or, Bool.and_true]

theorem Tracks.unrested {kind : Kind} {high held rested : Bool}
    (tracks : Tracks s kind high held (.free rested)) : Tracks s kind high held (.free false) := by
  cases tracks with
  | free asSeen rva still sampled left =>
      exact .free asSeen rva still (fun low => ⟨rfl, (sampled low).2⟩) left

/-- Without an edge the processor stays in its state. -/
theorem advance_quiet (busy : b.isFree = false) (rise : i.main8mhzRise = false)
    (fall : i.main8mhzFall = false) : b.advance s i = b.stage := by
  unfold Bus.isFree at busy
  unfold Bus.advance
  rw [rise, fall]
  cases stage : b.stage with
  | free =>
      rw [stage] at busy
      exact absurd busy Bool.false_ne_true.symm
  | s2 | s3 | s4 | waits | s5 | s6 | s7 => rfl

/-- The timing tracks the processor over every legal clock. -/
theorem Tracks.next (tracks : Tracks s b.cycle.kind b.high b.held b.stage)
    (legal : b.legal s i = true) :
    Tracks (step s i) (b.next s i).cycle.kind (b.next s i).high (b.next s i).held
      (b.next s i).stage := by
  rcases legal_cases legal with ⟨initializing, edge, move⟩
  unfold Bus.next
  cases move with
  | idles free strobeN asserted =>
      rw [strobeN, asserted, if_pos rfl, if_neg Bool.false_ne_true]
      unfold Bus.isFree at free
      generalize b.stage = stage at tracks free
      cases tracks with
      | free asSeen rva still sampled left =>
          exact .freed initializing edge strobeN asserted asSeen rva still sampled left
      | s2 | s3 | s4 | waits | s5 | s6 | ended | held => exact absurd free Bool.false_ne_true
  | strobes stage strobeN asserted high plain =>
      rw [strobeN, asserted, if_pos rfl, if_neg Bool.false_ne_true]
      unfold Bus.advance
      rw [stage] at tracks ⊢
      cases tracks with
      | free asSeen rva still sampled left =>
          have rested : s.sampledDtackN = true := by
            by_contra low
            exact absurd (sampled (Bool.eq_false_of_not_eq_true low)).1 (by decide)
          cases edge with
          | rise _ _ absent | fall _ _ absent =>
              exact absurd (absent.symm.trans asserted) Bool.false_ne_true
          | level rise fall after =>
              have levels := step_strobe (s := s) initializing rise fall asserted high
              refine .s2 levels.asSeen (levels.rva.trans rva)
                (levels.rvas.trans (still.trans levels.rvas0.symm)) (levels.sampled.trans rested)
                high ?_
              intro ready
              exact (accessed_of_ready strobeN ready).mono (levels.rvas0.trans ·)
                (levels.rvas.trans ·)
  | releases may strobeN asserted =>
      rw [strobeN, asserted, if_pos rfl, if_neg Bool.false_ne_true]
      unfold Bus.mayRelease at may
      generalize b.stage = stage at tracks may
      have frees (asSeen : s.asSeen = false) (rva : s.rva = false)
          (still : s.rvasActive = s.rvas0Active)
          (sampled : s.sampledDtackN = false → s.rvasActive = true ∧ b.cycle.kind ≠ .autovector)
          (left : s.sampledDtackN = true → s.rvasActive = (b.cycle.kind == .autovector)) :
          Tracks (step s i) b.cycle.kind i.main8mhzHigh (!true && peripheralReady s i)
            (.free false) := by
        have rested : Tracks (step s i) b.cycle.kind i.main8mhzHigh (!true && peripheralReady s i)
            (.free (false || i.main8mhzFall)) :=
          .freed initializing edge strobeN asserted asSeen rva still
            (fun low => ⟨rfl, sampled low⟩) left
        exact rested.unrested
      cases tracks with
      | free | s2 | s3 | s4 | s5 | s6 => exact absurd may Bool.false_ne_true
      | @waits first asSeen rva early valid sampled level accessed waited =>
          simp only [Bool.and_eq_true, Bool.not_eq_true'] at may
          exact frees asSeen (rva.trans may.1) (valid.trans early.symm)
            (fun low => absurd (low.symm.trans sampled) Bool.false_ne_true)
            fun _ => valid.trans may.2.symm
      | ended asSeen rva early valid sampled ordinary =>
          refine frees asSeen rva (valid.trans early.symm)
            (fun low => absurd (low.symm.trans sampled) Bool.false_ne_true) fun _ => ?_
          rw [valid, ordinary]
          rfl
      | held asSeen rva early valid sampled ready =>
          refine frees asSeen rva (valid.trans early.symm) (fun _ => ⟨valid, ?_⟩)
            fun high => absurd (sampled.symm.trans high) Bool.false_ne_true
          intro vectored
          have accessed := ready.2
          rw [vectored] at accessed
          exact accessed
  | keeps busy strobeN asserted same stays =>
      rw [strobeN, asserted, if_neg Bool.false_ne_true, if_neg Bool.false_ne_true, Bool.not_false,
        Bool.true_and]
      cases edge with
      | rise rise fall _ before after =>
          exact tracks.rise initializing rise fall before after busy strobeN asserted same stays
      | fall rise fall _ before after =>
          exact tracks.fall initializing rise fall before after busy strobeN asserted same stays
      | level rise fall after =>
          rw [after, advance_quiet busy rise fall]
          refine tracks.quiet ?_ (step_quiet initializing rise fall asserted)
            (fun held accessed => (ready_of_held strobeN same stays held accessed).2)
            fun ready => same ▸ accessed_of_ready strobeN ready
          intro rested stage
          unfold Bus.isFree at busy
          rw [stage] at busy
          exact absurd busy Bool.false_ne_true.symm

/-! ## What a clock conserves -/

/-- The timing releases its held strobes in this clock. -/
def releases (s : State) (i : Inputs) : Bool :=
  MainRvasTiming.sampledRelease s (timingInputs s i)

/-- The timing answers a strobe in this clock. -/
def answers (s : State) (i : Inputs) : Bool := i.main8mhzRise && s.asSeen

/-- An acknowledged cycle whose held strobes have yet to end. -/
def Bus.owes (b : Bus) (s : State) : Bool :=
  b.cycle.kind != .autovector && (s.asSeen || s.rvas0Active)

/-- A captured strobe asserts `/RVAS0` before it is answered. -/
theorem Tracks.early {kind : Kind} {high held : Bool} {stage : Stage}
    (tracks : Tracks s kind high held stage) (seen : s.asSeen = true) (level : high = false) :
    s.rvas0Active = true := by
  cases tracks with
  | s3 _ _ early => exact early
  | s2 _ _ _ _ high => exact absurd (level.symm.trans high) Bool.false_ne_true
  | free asSeen | s4 asSeen | waits asSeen | s5 asSeen | s6 asSeen | ended asSeen | held asSeen =>
      exact absurd (asSeen.symm.trans seen) Bool.false_ne_true

/-- The held strobes that end are those of an acknowledged cycle. -/
theorem Tracks.released (tracks : Tracks s b.cycle.kind b.high b.held b.stage)
    (legal : b.legal s i = true) (ends : releases s i = true) :
    s.asSeen = false ∧ s.rvas0Active = true ∧ b.cycle.kind ≠ .autovector := by
  rcases legal_cases legal with ⟨initializing, edge, move⟩
  unfold releases MainRvasTiming.sampledRelease timingInputs at ends
  simp only [Bool.and_eq_true, Bool.not_eq_true'] at ends
  rcases ends with ⟨⟨fall, low⟩, ended⟩
  have vectored (ready : Accessed b.cycle.kind s) : b.cycle.kind ≠ .autovector := by
    intro vectored
    rw [vectored] at ready
    exact ready
  -- a peripheral that was ready acknowledges as long as the strobe is kept
  have absurd_of_held (held : b.held = true) (accessed : Accessed b.cycle.kind s)
      (busy : b.mayRelease = false) (stage : b.isFree = false) : False := by
    cases move with
    | idles free => exact absurd (stage.symm.trans free) Bool.false_ne_true
    | strobes free =>
        unfold Bus.isFree at stage
        rw [free] at stage
        exact absurd stage Bool.false_ne_true.symm
    | releases may => exact absurd (busy.symm.trans may) Bool.false_ne_true
    | keeps _ strobeN _ same stays =>
        exact absurd ((ready_of_held strobeN same stays held accessed).1.symm.trans ended)
          Bool.false_ne_true
  unfold Bus.mayRelease Bus.isFree at absurd_of_held
  generalize b.stage = stage at tracks absurd_of_held
  cases tracks with
  | free asSeen rva still sampled left =>
      rcases sampled low with ⟨-, valid, other⟩
      exact ⟨asSeen, still.symm.trans valid, other⟩
  | s2 _ _ _ sampled | waits _ _ _ _ sampled | ended _ _ _ _ sampled =>
      exact absurd (low.symm.trans sampled) Bool.false_ne_true
  | s3 _ _ _ sampled _ accessed =>
      exact (absurd_of_held (sampled low) (accessed (sampled low)) rfl rfl).elim
  | s4 _ _ _ _ sampled _ accessed =>
      exact (absurd_of_held (sampled low) (accessed (sampled low)) rfl rfl).elim
  | s5 asSeen rva early valid sampled level ready prompt =>
      refine ⟨asSeen, early, ?_⟩
      intro same
      exact vectored (ready (by rw [same]; decide)).2 same
  | s6 asSeen rva early valid sampled level ready =>
      refine ⟨asSeen, early, ?_⟩
      intro same
      exact vectored (ready (by rw [same]; decide)).2 same
  | held asSeen rva early valid sampled ready => exact ⟨asSeen, early, vectored ready.2⟩

/-- A clock answers strobes and ends held strobes as it captures them. -/
theorem Tracks.conserves (tracks : Tracks s b.cycle.kind b.high b.held b.stage)
    (legal : b.legal s i = true) :
    i.addressStrobeAssert.toNat + s.asSeen.toNat =
        (answers s i).toNat + (step s i).asSeen.toNat ∧
      (i.addressStrobeAssert && i.cycle.kind != .autovector).toNat + (b.owes s).toNat =
        (releases s i).toNat + ((b.next s i).owes (step s i)).toNat := by
  have ended := tracks.released legal
  have early := tracks.early
  rcases legal_cases legal with ⟨initializing, edge, move⟩
  have same : (b.next s i).cycle = if i.addressStrobeAssert then i.cycle else b.cycle := rfl
  have unfolded : releases s i = (i.main8mhzFall && !s.sampledDtackN && dtackN s i) := rfl
  unfold answers Bus.owes
  rw [same]
  cases asserted : i.addressStrobeAssert
  · rw [if_neg Bool.false_ne_true, Bool.false_and, Bool.toNat_false, Nat.zero_add, Nat.zero_add]
    cases edge with
    | level rise fall _ =>
        have levels := step_quiet (s := s) initializing rise fall asserted
        rw [unfolded, rise, fall, levels.asSeen, levels.rvas0]
        simp
    | rise rise fall _ before _ =>
        have levels := step_rise (s := s) initializing rise fall asserted
        rw [unfolded, rise, fall, levels.asSeen, levels.rvas0]
        cases seen : s.asSeen
        · simp
        · rw [early seen before]
          simp
    | fall rise fall _ _ _ =>
        have levels := step_fall (s := s) initializing rise fall asserted
        rw [rise, levels.asSeen, levels.rvas0]
        refine ⟨by simp, ?_⟩
        cases release : releases s i
        · rw [unfolded, fall, Bool.true_and, Bool.and_eq_false_iff, Bool.not_eq_false'] at release
          have kept : (s.sampledDtackN || !dtackN s i) = true := by
            rw [Bool.or_eq_true, Bool.not_eq_true']
            exact release
          rw [kept, Bool.and_true, ← Bool.or_assoc, Bool.or_self]
          simp
        · rcases ended release with ⟨asSeen, valid, other⟩
          rw [unfolded, fall, Bool.true_and, Bool.and_eq_true, Bool.not_eq_true'] at release
          rw [asSeen, valid, release.1, release.2, bne_iff_ne.mpr other]
          rfl
  · cases move with
    | idles _ _ absent | releases _ _ absent | keeps _ _ absent =>
        exact absurd (absent.symm.trans asserted) Bool.false_ne_true
    | strobes stage strobeN _ high plain =>
        rw [stage] at tracks
        cases tracks with
        | free asSeen rva still sampled left =>
            have rested : s.sampledDtackN = true := by
              by_contra low
              exact absurd (sampled (Bool.eq_false_of_not_eq_true low)).1 (by decide)
            cases edge with
            | rise _ _ absent | fall _ _ absent =>
                exact absurd (absent.symm.trans asserted) Bool.false_ne_true
            | level rise fall _ =>
                have levels := step_strobe (s := s) initializing rise fall asserted high
                rw [unfolded, rise, fall, levels.asSeen, asSeen, ← still, left rested]
                cases vectored : b.cycle.kind == .autovector <;> simp [bne, vectored]

/-- The acknowledgement is the one of the strobed cycle. -/
theorem Tracks.acknowledged (tracks : Tracks s b.cycle.kind b.high b.held b.stage)
    (legal : b.legal s i = true) (low : dtackN s i = false) :
    i.addressStrobeN = false ∧ acknowledges i.cycle.kind s i = true := by
  cases strobeN : i.addressStrobeN
  · rw [(dtackN_strobed strobeN).1, Bool.not_eq_false'] at low
    exact ⟨rfl, low⟩
  · rw [dtackN_free strobeN, Bool.not_eq_false'] at low
    rcases legal_cases legal with ⟨-, -, move⟩
    cases move with
    | idles free =>
        unfold Bus.isFree at free
        generalize b.stage = stage at tracks free
        cases tracks with
        | free _ rva => exact absurd (rva.symm.trans low) Bool.false_ne_true
        | s2 | s3 | s4 | waits | s5 | s6 | ended | held => exact absurd free Bool.false_ne_true
    | releases may =>
        unfold Bus.mayRelease at may
        generalize b.stage = stage at tracks may
        cases tracks with
        | free | s2 | s3 | s4 | s5 | s6 => exact absurd may Bool.false_ne_true
        | waits _ rva =>
            simp only [Bool.and_eq_true, Bool.not_eq_true'] at may
            exact absurd ((rva.trans may.1).symm.trans low) Bool.false_ne_true
        | ended _ rva | held _ rva => exact absurd (rva.symm.trans low) Bool.false_ne_true
    | strobes _ absent | keeps _ absent =>
        exact absurd (absent.symm.trans strobeN) Bool.false_ne_true

/-- A released strobe leaves the processor free. -/
theorem next_free (strobeN : i.addressStrobeN = true) :
    ∃ rested, (b.next s i).stage = .free rested := by
  unfold Bus.next
  rw [strobeN, if_pos rfl]
  cases b.stage with
  | free rested => exact ⟨_, rfl⟩
  | s2 | s3 | s4 | waits | s5 | s6 | s7 => exact ⟨false, rfl⟩

/-- The retained assertions of the timing hold over a clock that meets its contract. -/
theorem retained_step {high : Bool} {s : State} {i next : MainRvasTiming.Inputs}
    (contract : MainRvasTiming.contract i high = true) (initializing : i.initializeI = false)
    (initializes : next.initializeI = false) :
    MainRvasTiming.retained (MainRvasTiming.step s i) i s next = true := by
  unfold MainRvasTiming.contract at contract
  unfold MainRvasTiming.retained MainRvasTiming.step MainRvasTiming.sampledRelease
    MainRvasTiming.lowAssert MainRvasTiming.rvas0AssertEventO MainRvasTiming.rvas0ReleaseEventO
    MainRvasTiming.rvasAssertEventO MainRvasTiming.rvasReleaseEventO MainRvasTiming.rvas0N
    MainRvasTiming.rvasN
  simp only [initializing, initializes, Bool.false_eq_true, if_false]
  cases rise : i.main8mhzRise <;> cases fall : i.main8mhzFall <;>
    cases asserted : i.addressStrobeAssert <;> simp [rise, fall, asserted] at contract ⊢
  all_goals cases s.asSeen <;> cases s.sampledDtackN <;> cases i.dtackN <;>
    cases s.rvas0Active <;> simp

end Legal

/-! ## Runs -/

section Run

variable (start : State) (inputs : ℕ → Inputs)

/-- The timing before a clock. -/
def stateAt : ℕ → State := Timeline.state step start inputs

/-- The processor before a clock. -/
def busAt : ℕ → Bus
  | 0 => .idle
  | clock + 1 =>
      if (inputs clock).initializeI then .idle
      else (busAt clock).next (stateAt start inputs clock) (inputs clock)

/-- The run is initialized with the strobe released, and every clock after that is one the
processor and the peripherals may make. -/
structure Legal : Prop where
  initialized : (inputs 0).initializeI = true
  released : (inputs 0).addressStrobeN = true
  legal : ∀ clock, 0 < clock →
    (busAt start inputs clock).legal (stateAt start inputs clock) (inputs clock) = true

/-- A clock asserts the strobe of a cycle of some sort. -/
def strobesAt (sort : Cycle → Bool) (clock : ℕ) : Bool :=
  !(inputs clock).initializeI && (inputs clock).addressStrobeAssert && sort (inputs clock).cycle

/-- A clock answers a strobe. -/
def answersAt (clock : ℕ) : Bool :=
  !(inputs clock).initializeI && answers (stateAt start inputs clock) (inputs clock)

/-- A clock ends the held strobes. -/
def releasesAt (clock : ℕ) : Bool :=
  !(inputs clock).initializeI && releases (stateAt start inputs clock) (inputs clock)

/-- The clocks before `now` with an event. -/
def count (event : ℕ → Bool) (now : ℕ) : ℕ := Nat.count (fun clock => event clock = true) now

theorem count_succ (event : ℕ → Bool) (now : ℕ) :
    count event (now + 1) = count event now + (event now).toNat := by
  unfold count
  rw [Nat.count_succ]
  cases event now <;> rfl

/-- Every strobe is answered once, by the next rising edge, and every acknowledged cycle
ends its held strobes once, before the next strobe. -/
structure AcknowledgesCycles : Prop where
  answered : ∀ clock, 0 < clock → count (strobesAt inputs fun _ => true) clock =
    count (answersAt start inputs) clock + (stateAt start inputs clock).asSeen.toNat
  ended : ∀ clock, 0 < clock → count (strobesAt inputs fun c => c.kind != .autovector) clock =
    count (releasesAt start inputs) clock +
      ((busAt start inputs clock).owes (stateAt start inputs clock)).toNat
  /-- A strobe finds the timing at rest; the strobes are held over from an autovectored
  acknowledge, and from nothing else. -/
  rests : ∀ clock, 0 < clock → (inputs clock).addressStrobeAssert = true →
    let s := stateAt start inputs clock
    s.asSeen = false ∧ s.rva = false ∧ s.sampledDtackN = true ∧
      s.rvasActive = ((busAt start inputs clock).cycle.kind == .autovector) ∧
      s.rvas0Active = s.rvasActive
  /-- Nothing acknowledges but what the strobed cycle addresses. -/
  own : ∀ clock, 0 < clock → dtackN (stateAt start inputs clock) (inputs clock) = false →
    (inputs clock).addressStrobeN = false ∧
      acknowledges (inputs clock).cycle.kind (stateAt start inputs clock) (inputs clock) = true
  /-- An ordinary cycle has no wait states. -/
  prompt : ∀ clock first, (busAt start inputs clock).stage = .waits first →
    (busAt start inputs clock).cycle.kind ≠ .ordinary
  asserted : ∀ clock, 0 < clock →
    MainRvasTiming.retained (stateAt start inputs (clock + 1))
      (timingInputs (stateAt start inputs clock) (inputs clock)) (stateAt start inputs clock)
      (timingInputs (stateAt start inputs (clock + 1)) (inputs (clock + 1))) = true

variable {start inputs} {clock : ℕ}

theorem Legal.quiet (legal : Legal start inputs) (later : 0 < clock) :
    (inputs clock).initializeI = false :=
  (legal_cases (legal.legal clock later)).1

theorem Legal.busAt_succ (legal : Legal start inputs) (later : 0 < clock) :
    busAt start inputs (clock + 1) =
      (busAt start inputs clock).next (stateAt start inputs clock) (inputs clock) := by
  rw [busAt, legal.quiet later, if_neg Bool.false_ne_true]

theorem Legal.idle (legal : Legal start inputs) :
    stateAt start inputs 1 = MainRvasTiming.idle ∧ busAt start inputs 1 = .idle := by
  constructor
  · change MainRvasTiming.step start (timingInputs start (inputs 0)) = _
    have initializes : (timingInputs start (inputs 0)).initializeI = true := legal.initialized
    unfold MainRvasTiming.step
    rw [initializes, if_pos rfl]
  · rw [busAt, legal.initialized, if_pos rfl]

theorem Legal.tracks (legal : Legal start inputs) (later : 0 < clock) :
    Tracks (stateAt start inputs clock) (busAt start inputs clock).cycle.kind
      (busAt start inputs clock).high (busAt start inputs clock).held
      (busAt start inputs clock).stage := by
  induction clock, later using Nat.le_induction with
  | base =>
      rw [legal.idle.1, legal.idle.2]
      refine .free rfl rfl rfl (fun low => absurd low.symm Bool.false_ne_true) ?_
      intro _
      decide
  | succ clock later ih =>
      rw [legal.busAt_succ later]
      exact ih.next (legal.legal clock later)

theorem Legal.and_quiet (legal : Legal start inputs) (later : 0 < clock) {event : Bool} :
    (!(inputs clock).initializeI && event) = event := by
  rw [legal.quiet later, Bool.not_false, Bool.true_and]

theorem Legal.strobesAt_eq (legal : Legal start inputs) (later : 0 < clock)
    (sort : Cycle → Bool) : strobesAt inputs sort clock =
      ((inputs clock).addressStrobeAssert && sort (inputs clock).cycle) := by
  unfold strobesAt
  rw [Bool.and_assoc, legal.and_quiet later]

/-- Nothing happens in the clock that initializes. -/
theorem Legal.count_one (legal : Legal start inputs) {event : ℕ → Bool}
    (quiet : (inputs 0).initializeI = true → event 0 = false) : count event 1 = 0 := by
  rw [count_succ, quiet legal.initialized]
  rfl

/-- Against its processor the main bus acknowledges every cycle once. -/
theorem mainBus_acknowledges (start : State) (inputs : ℕ → Inputs) (legal : Legal start inputs) :
    AcknowledgesCycles start inputs := by
  refine ⟨?_, ?_, ?_, ?_, ?_, ?_⟩
  · intro clock later
    induction clock, later using Nat.le_induction with
    | base =>
        rw [legal.count_one fun initializes => by simp [strobesAt, initializes],
          legal.count_one fun initializes => by simp [answersAt, initializes], legal.idle.1]
        rfl
    | succ clock later ih =>
        have conserved := ((legal.tracks later).conserves (legal.legal clock later)).1
        have answer : answersAt start inputs clock = _ := legal.and_quiet later
        rw [count_succ, count_succ, ih, legal.strobesAt_eq later, Bool.and_true, answer]
        change _ = _ + _ + (step (stateAt start inputs clock) (inputs clock)).asSeen.toNat
        omega
  · intro clock later
    induction clock, later using Nat.le_induction with
    | base =>
        rw [legal.count_one fun initializes => by simp [strobesAt, initializes],
          legal.count_one fun initializes => by simp [releasesAt, initializes], legal.idle.1,
          legal.idle.2]
        rfl
    | succ clock later ih =>
        have conserved := ((legal.tracks later).conserves (legal.legal clock later)).2
        have release : releasesAt start inputs clock = _ := legal.and_quiet later
        rw [count_succ, count_succ, ih, legal.strobesAt_eq later, legal.busAt_succ later, release]
        change _ = _ + _ + (((busAt start inputs clock).next _ _).owes
          (step (stateAt start inputs clock) (inputs clock))).toNat
        omega
  · intro clock later asserted s
    have tracks := legal.tracks later
    rcases legal_cases (legal.legal clock later) with ⟨-, -, move⟩
    cases move with
    | idles _ _ absent | releases _ _ absent | keeps _ _ absent =>
        exact absurd (absent.symm.trans asserted) Bool.false_ne_true
    | strobes stage _ _ _ _ =>
        rw [stage] at tracks
        cases tracks with
        | free asSeen rva still sampled left =>
            have rested : s.sampledDtackN = true := by
              by_contra low
              exact absurd (sampled (Bool.eq_false_of_not_eq_true low)).1 (by decide)
            exact ⟨asSeen, rva, rested, left rested, still.symm⟩
  · intro clock later low
    exact (legal.tracks later).acknowledged (legal.legal clock later) low
  · intro clock first stage
    rcases Nat.eq_zero_or_pos clock with rfl | later
    · cases stage
    · have tracks := legal.tracks later
      rw [stage] at tracks
      cases tracks with
      | waits _ _ _ _ _ _ _ waited => exact waited
  · intro clock later
    have clean := legal.legal clock later
    unfold Bus.legal at clean
    rw [Bool.and_eq_true, Bool.and_eq_true] at clean
    exact retained_step clean.1.2 (legal.quiet later) (legal.quiet (Nat.succ_pos clock))

/-- A clock without a strobe or an edge. -/
def idleLines : Inputs :=
  ⟨false, 0, true, 5, true, false, false, false, false, true, true, true⟩

/-- The clocks of a cycle without wait states. -/
def Cycle.script (c : Cycle) : List Inputs :=
  let busy : Inputs :=
    { idleLines with
      address := c.address
      functionCode := c.functionCode
      readNotWrite := c.readNotWrite
      addressStrobeN := false }
  [{ idleLines with main8mhzRise := true, main8mhzHigh := true },
    { busy with addressStrobeAssert := true, main8mhzHigh := true },
    { busy with main8mhzFall := true }, { busy with main8mhzRise := true, main8mhzHigh := true },
    { busy with main8mhzFall := true }, { busy with main8mhzRise := true, main8mhzHigh := true },
    { busy with main8mhzFall := true }, idleLines,
    { idleLines with main8mhzRise := true, main8mhzHigh := true },
    { idleLines with main8mhzFall := true }]

/-- An autovectored acknowledge, a read of the high-speed bus and a sound reset. -/
def cyclesScript : List Inputs :=
  Cycle.script ⟨0x7fffff, 7, true⟩ ++ Cycle.script ⟨0x681000, 5, true⟩ ++
    Cycle.script ⟨0x426000, 5, false⟩

/-- The script after a clock that initializes. -/
def scriptedInputs (clock : ℕ) : Inputs :=
  if clock = 0 then { idleLines with initializeI := true }
  else (cyclesScript[clock - 1]?).getD idleLines

theorem scripted_after (late : 31 ≤ clock) : scriptedInputs clock = idleLines := by
  have outside : cyclesScript.length ≤ clock - 1 := by
    change 30 ≤ clock - 1
    omega
  unfold scriptedInputs
  rw [if_neg (by omega), List.getElem?_eq_none outside]
  rfl

theorem scripted_legal : Legal MainRvasTiming.idle scriptedInputs := by
  have checked : ∀ clock < 32, 0 < clock →
      (busAt MainRvasTiming.idle scriptedInputs clock).legal
        (stateAt MainRvasTiming.idle scriptedInputs clock) (scriptedInputs clock) = true := by
    decide +kernel
  have rests (clock : ℕ) (late : 31 ≤ clock) :
      (busAt MainRvasTiming.idle scriptedInputs clock).high = false ∧
        ∃ rested, (busAt MainRvasTiming.idle scriptedInputs clock).stage = .free rested := by
    induction clock, late using Nat.le_induction with
    | base => exact ⟨by decide +kernel, true, by decide +kernel⟩
    | succ clock late ih =>
        rw [busAt, scripted_after late]
        exact ⟨rfl, next_free rfl⟩
  refine ⟨rfl, rfl, ?_⟩
  intro clock later
  rcases Nat.lt_or_ge clock 32 with early | late
  · exact checked clock early later
  · rcases rests clock (by omega) with ⟨high, rested, stage⟩
    rw [scripted_after (by omega)]
    unfold Bus.legal Bus.isFree
    rw [high, stage]
    rfl

theorem mainBus_acknowledges_scripted :
    AcknowledgesCycles MainRvasTiming.idle scriptedInputs :=
  mainBus_acknowledges MainRvasTiming.idle scriptedInputs scripted_legal

end Run

end Tms32010.Board.MainBus
