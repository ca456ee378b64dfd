import Mathlib.Algebra.BigOperators.Ring.Finset
import Mathlib.Data.BitVec
import Tms32010.Lib.DelayLine
import Tms32010.Model.Run

/-!
# Convolution

The kernel of a finite impulse response filter: `ZAC`, `LT` and `MPY` at the last place
of a block, `LTD` and `MPY` from there to the first place, `APAC`. Its instructions are
the operations of a delay line on the accumulator, `T`, `P` and the data RAM.
-/

namespace Tms32010

/-! ## Operations -/

/-- The instructions of the kernel, with their direct addresses. -/
inductive KernelOperation where
  | zac
  | lt (address : ℕ)
  | mpy (address : ℕ)
  | ltd (address : ℕ)
  | apac
  deriving DecidableEq, Repr

namespace KernelOperation

/-- The word of an instruction. -/
def word : KernelOperation → ℕ
  | .zac => 0x7F89
  | .lt address => 0x6A00 + address
  | .mpy address => 0x6D00 + address
  | .ltd address => 0x6B00 + address
  | .apac => 0x7F8F

/-- The addresses are on page 0, where `LTD` does not leave the RAM. -/
def OnPage : KernelOperation → Prop
  | .lt address | .mpy address | .ltd address => address < 128
  | _ => True

/-- The instructions of the taps below a number. -/
def taps (place coefficient : ℕ → ℕ) : ℕ → List KernelOperation
  | 0 => []
  | k + 1 => .ltd (place k) :: .mpy (coefficient k) :: taps place coefficient k

/-- The kernel of a filter with `last + 1` coefficients. -/
def kernel (place coefficient : ℕ → ℕ) (last : ℕ) : List KernelOperation :=
  .zac :: .lt (place last) :: .mpy (coefficient last) ::
    (taps place coefficient last ++ [.apac])

/-- The registers and the data RAM as a delay line. -/
abbrev Line := DelayLine.State (BitVec 8) (BitVec 16) (BitVec 32)

/-- What an instruction does to the delay line. -/
def perform (operation : KernelOperation) (s : Line) : Line :=
  match operation with
  | .zac => DelayLine.clear s
  | .lt address => DelayLine.load (BitVec.ofNat 8 address) s
  | .mpy address => DelayLine.multiply Registers.product (BitVec.ofNat 8 address) s
  | .ltd address => DelayLine.shift (BitVec.ofNat 8 address) (BitVec.ofNat 8 (address + 1)) s
  | .apac => DelayLine.accumulate s

/-- What a list of instructions does. -/
def performAll (operations : List KernelOperation) (s : Line) : Line :=
  operations.foldl (fun s operation => operation.perform s) s

section Kernel

variable {place coefficient : ℕ → ℕ} {last : ℕ}

theorem performAll_taps (first : ℕ) (k : ℕ) (s : Line) :
    performAll (taps (first + ·) coefficient k) s =
      DelayLine.taps Registers.product (fun k => BitVec.ofNat 8 (first + k))
        (fun k => BitVec.ofNat 8 (coefficient k)) k s := by
  induction k generalizing s with
  | zero => rfl
  | succ k ih => exact ih _

/-- The kernel makes a delay line. -/
theorem performAll_kernel (first : ℕ) (s : Line) :
    performAll (kernel (first + ·) coefficient last) s =
      DelayLine.line Registers.product (fun k => BitVec.ofNat 8 (first + k))
        (fun k => BitVec.ofNat 8 (coefficient k)) last s := by
  unfold kernel performAll
  rw [List.foldl_cons, List.foldl_cons, List.foldl_cons, List.foldl_append]
  rw [show ∀ t : Line, (taps (first + ·) coefficient last).foldl
    (fun s operation => operation.perform s) t = _ from performAll_taps first last]
  rfl

theorem length_taps (k : ℕ) : (taps place coefficient k).length = 2 * k := by
  induction k with
  | zero => rfl
  | succ k ih =>
      unfold taps
      rw [List.length_cons, List.length_cons, ih]
      omega

theorem length_kernel : (kernel place coefficient last).length = 2 * last + 4 := by
  unfold kernel
  rw [List.length_cons, List.length_cons, List.length_cons, List.length_append, length_taps]
  rfl

theorem onPage_taps {k : ℕ} (places : ∀ j < k, place j < 128)
    (coefficients : ∀ j < k, coefficient j < 128) :
    ∀ operation ∈ taps place coefficient k, operation.OnPage := by
  induction k with
  | zero => exact List.forall_mem_nil _
  | succ k ih =>
      unfold taps
      rw [List.forall_mem_cons, List.forall_mem_cons]
      refine ⟨places k (Nat.lt_succ_self k), coefficients k (Nat.lt_succ_self k), ?_⟩
      exact ih (fun j below => places j (Nat.lt_succ_of_lt below))
        (fun j below => coefficients j (Nat.lt_succ_of_lt below))

theorem onPage_kernel (places : ∀ j ≤ last, place j < 128)
    (coefficients : ∀ j ≤ last, coefficient j < 128) :
    ∀ operation ∈ kernel place coefficient last, operation.OnPage := by
  unfold kernel
  rw [List.forall_mem_cons, List.forall_mem_cons, List.forall_mem_cons, List.forall_mem_append,
    List.forall_mem_singleton]
  refine ⟨trivial, places last (Nat.le_refl last), coefficients last (Nat.le_refl last), ?_,
    trivial⟩
  exact onPage_taps (fun j below => places j (Nat.le_of_lt below))
    (fun j below => coefficients j (Nat.le_of_lt below))

end Kernel

end KernelOperation

/-! ## The machine -/

namespace Isa

/-- The delay line of registers and a data RAM. -/
def lineWith (r : Registers) (data : DataRam) : KernelOperation.Line where
  sum := r.accumulator
  sample := r.tRegister
  product := r.productRegister
  memory := data.read

/-- The delay line of a machine state. -/
def lineOf (s : State) : KernelOperation.Line := lineWith s.toRegisters s.data

/-- Page 0 without overflow mode, and no interrupt on its way. -/
structure Calm (s : State) : Prop where
  page : s.dataPagePointer = false
  mode : s.overflowMode = false
  entry : s.interruptEntryPending = false
  delay : s.interruptDelayOne = false
  request : s.interruptMask = true ∨ s.interruptPending = false

/-- The state after an instruction of the kernel. -/
structure Performs (operation : KernelOperation) (s t : State) : Prop where
  line : lineOf t = operation.perform (lineOf s)
  pc : t.pc = s.pc + 1
  program : t.program = s.program
  mask : t.interruptMask = s.interruptMask
  calm : Calm t

section Step

variable {s : State} {i : Input} {m : Mnemonic} {word : BitVec 16}

/-- Without a request the deferral stands still. -/
theorem advanceInterrupt_calm (delay : s.interruptDelayOne = false)
    (request : (s.interruptPending && !s.interruptMask) = false) :
    advanceInterrupt m s = s := by
  unfold advanceInterrupt
  rw [delay, request, if_neg Bool.false_ne_true, if_neg Bool.false_ne_true]

theorem latchRequest_calm (calm : Calm s) (quiet : s.interruptMask = true ∨ i.int = true) :
    ((latchRequest i s).interruptPending && !(latchRequest i s).interruptMask) = false := by
  change ((s.interruptPending || !i.int) && !s.interruptMask) = false
  rcases calm.request with masked | none
  · rw [masked]
    exact Bool.and_false _
  · rcases quiet with masked | high
    · rw [masked]
      exact Bool.and_false _
    · rw [none, high]
      rfl

/-- The step of a calm state at an instruction that only reads or moves data. -/
theorem step_calm (calm : Calm s) (quiet : s.interruptMask = true ∨ i.int = true)
    (stored : s.program s.pc = word) (found : mnemonic? word = some m)
    (straight : (m.computedControlFlow || m.stackAccess || m.twoWordControlFlow) = false)
    (local_ : m.tableTransfer = false ∧ m.ioTransfer = false)
    (noFault : dataFault? m word s = none)
    (mask : ∀ t, (straightRegisters m word t).interruptMask = t.interruptMask ∧
      (straightRegisters m word t).interruptPending = t.interruptPending) :
    ∃ outcome, step i s = .ok outcome ∧
      outcome.state.toRegisters = straightRegisters m word (latchRequest i s) ∧
      outcome.state.data = straightData m word i (latchRequest i s) ∧
      outcome.state.program = s.program ∧ outcome.state.interruptEntryPending = false ∧
      outcome.state.interruptDelayOne = false := by
  rw [Bool.or_eq_false_iff] at straight
  have program : straightProgram m word (latchRequest i s) = s.program := by
    unfold straightProgram
    rw [if_neg]
    · rfl
    · rintro rfl
      exact absurd local_.1 (by decide)
  have fault : dataFault? m word (latchRequest i s) = none := noFault
  have made : stepInstruction m word i (latchRequest i s) =
      stepStraight m word i (latchRequest i s) := by
    unfold stepInstruction
    rw [straight.1, straight.2, if_neg Bool.false_ne_true, if_neg Bool.false_ne_true]
  unfold stepStraight at made
  rw [fault] at made
  refine ⟨_, step_of_instruction calm.entry stored found made, ?_⟩
  unfold retire
  dsimp only
  rw [advanceInterrupt_calm]
  · exact ⟨rfl, rfl, program, calm.entry, calm.delay⟩
  · exact calm.delay
  · have kept := mask (latchRequest i s)
    change ((straightRegisters m word (latchRequest i s)).interruptPending &&
      !(straightRegisters m word (latchRequest i s)).interruptMask) = false
    rw [kept.1, kept.2]
    exact latchRequest_calm calm quiet

/-! ## Instructions of the kernel -/

/-- A word with a direct address on page 0. -/
structure Direct (m : Mnemonic) (word : BitVec 16) (address : ℕ) : Prop where
  found : mnemonic? word = some m
  direct : Instruction.indirect word = false
  address : 0#1 ++ Instruction.addressingField word = BitVec.ofNat 8 address

theorem direct_words (address : Fin 128) :
    (mnemonic? (BitVec.ofNat 16 (0x6A00 + address.val)) = some .lt ∧
        mnemonic? (BitVec.ofNat 16 (0x6B00 + address.val)) = some .ltd ∧
        mnemonic? (BitVec.ofNat 16 (0x6D00 + address.val)) = some .mpy) ∧
      ∀ opcode ∈ [0x6A00, 0x6B00, 0x6D00],
        Instruction.indirect (BitVec.ofNat 16 (opcode + address.val)) = false ∧
          0#1 ++ Instruction.addressingField (BitVec.ofNat 16 (opcode + address.val)) =
            BitVec.ofNat 8 address.val := by
  revert address
  decide +kernel

theorem direct_lt {address : ℕ} (onPage : address < 128) :
    Direct .lt (BitVec.ofNat 16 (0x6A00 + address)) address := by
  have words := direct_words ⟨address, onPage⟩
  exact ⟨words.1.1, (words.2 0x6A00 (by decide)).1, (words.2 0x6A00 (by decide)).2⟩

theorem direct_ltd {address : ℕ} (onPage : address < 128) :
    Direct .ltd (BitVec.ofNat 16 (0x6B00 + address)) address := by
  have words := direct_words ⟨address, onPage⟩
  exact ⟨words.1.2.1, (words.2 0x6B00 (by decide)).1, (words.2 0x6B00 (by decide)).2⟩

theorem direct_mpy {address : ℕ} (onPage : address < 128) :
    Direct .mpy (BitVec.ofNat 16 (0x6D00 + address)) address := by
  have words := direct_words ⟨address, onPage⟩
  exact ⟨words.1.2.2, (words.2 0x6D00 (by decide)).1, (words.2 0x6D00 (by decide)).2⟩

theorem Direct.dataAddress {address : ℕ} (direct : Direct m word address) (other : m ≠ .sst)
    {r : Registers} (page : r.dataPagePointer = false) :
    r.dataAddress m word = BitVec.ofNat 8 address := by
  have plain : (m == .sst) = false := beq_eq_false_iff_ne.mpr other
  unfold Registers.dataAddress
  rw [direct.direct, plain, page, if_neg Bool.false_ne_true, if_neg Bool.false_ne_true]
  exact direct.address

theorem Direct.postModify {address : ℕ} (direct : Direct m word address) (r : Registers)
    (selected : Bool) : r.postModify m word selected = r := by
  unfold Registers.postModify
  rw [direct.direct, Bool.and_false, if_neg Bool.false_ne_true]

theorem valid_onPage {address : ℕ} (onPage : address < 143) :
    DataRam.addressValid (BitVec.ofNat 8 address) = true := by
  rw [DataRam.addressValid_iff, BitVec.toNat_ofNat, Nat.mod_eq_of_lt (by omega)]
  omega

/-- In a direct access on page 0 nothing is missing. -/
theorem Direct.noFault {address : ℕ} (direct : Direct m word address) (other : m ≠ .sst)
    (onPage : address < 128) (page : s.dataPagePointer = false) : dataFault? m word s = none := by
  have here : DataRam.addressValid (BitVec.ofNat 8 address) = true := valid_onPage (by omega)
  have next : BitVec.ofNat 8 address + 1 = BitVec.ofNat 8 (address + 1) :=
    (BitVec.ofNat_add ..).symm
  unfold dataFault?
  rw [direct.dataAddress other page, here, next, valid_onPage (by omega)]
  simp

theorem addAccumulator_wraps {r : Registers} (mode : r.overflowMode = false)
    (addend : BitVec 32) :
    ∃ flag, r.addAccumulator addend =
      { r with overflowFlag := flag, accumulator := r.accumulator + addend } := by
  unfold Registers.addAccumulator
  rw [mode, if_neg Bool.false_ne_true]
  cases r.accumulator.saddOverflow addend
  · exact ⟨r.overflowFlag, rfl⟩
  · exact ⟨true, rfl⟩

theorem addAccumulator_interrupts (r : Registers) (addend : BitVec 32) :
    (r.addAccumulator addend).interruptMask = r.interruptMask ∧
      (r.addAccumulator addend).interruptPending = r.interruptPending := by
  unfold Registers.addAccumulator
  cases r.accumulator.saddOverflow addend <;> exact ⟨rfl, rfl⟩

theorem read_write_update {ram : DataRam} {address : BitVec 8} {value : BitVec 16}
    (valid : DataRam.addressValid address = true) :
    (ram.write address value).read = Function.update ram.read address value := by
  funext other
  by_cases same : other = address
  · rw [same, DataRam.read_write_same valid, Function.update_self]
  · rw [DataRam.read_write_of_ne same, Function.update_of_ne same]

/-- The state after an instruction whose registers and data are known. -/
theorem performs_of {operation : KernelOperation} {t : State} {r : Registers} {data : DataRam}
    (calm : Calm s) (quiet : s.interruptMask = true ∨ i.int = true)
    (registers : t.toRegisters = r) (ram : t.data = data)
    (program : t.program = s.program) (entry : t.interruptEntryPending = false)
    (delay : t.interruptDelayOne = false)
    (line : lineWith r data = operation.perform (lineOf s))
    (kept : r.pc = s.pc + 1 ∧ r.dataPagePointer = s.dataPagePointer ∧
      r.overflowMode = s.overflowMode ∧ r.interruptMask = s.interruptMask ∧
      r.interruptPending = (s.interruptPending || !i.int)) : Performs operation s t := by
  rcases kept with ⟨pc, page, mode, mask, pending⟩
  rw [← registers] at pc page mode mask pending line
  refine ⟨?_, pc, program, mask, ⟨page.trans calm.page, mode.trans calm.mode, entry, delay, ?_⟩⟩
  · rw [← line, ← ram]
    rfl
  · rcases calm.request with masked | none
    · exact Or.inl (mask.trans masked)
    · rcases quiet with masked | high
      · exact Or.inl (mask.trans masked)
      · right
        rw [pending, none, high]
        rfl

/-- The step of an instruction with a direct address on page 0. -/
theorem step_direct {address : ℕ} (calm : Calm s)
    (quiet : s.interruptMask = true ∨ i.int = true) (stored : s.program s.pc = word)
    (direct : Direct m word address) (onPage : address < 128)
    (reads : (m == .lt || m == .ltd || m == .mpy) = true)
    (mask : ∀ (r : Registers) (value : BitVec 16),
      (r.execute m word value).interruptMask = r.interruptMask ∧
      (r.execute m word value).interruptPending = r.interruptPending) :
    ∃ outcome, step i s = .ok outcome ∧
      outcome.state.toRegisters = (fetched (latchRequest i s)).execute m word
        (s.data.read (BitVec.ofNat 8 address)) ∧
      outcome.state.data = (if m.movesData then
        s.data.write (BitVec.ofNat 8 (address + 1)) (s.data.read (BitVec.ofNat 8 address))
      else s.data) ∧
      outcome.state.program = s.program ∧ outcome.state.interruptEntryPending = false ∧
      outcome.state.interruptDelayOne = false := by
  have other : m ≠ .sst := by
    rintro rfl
    exact absurd reads (by decide)
  have family : (m.computedControlFlow || m.stackAccess || m.twoWordControlFlow) = false ∧
      m.tableTransfer = false ∧ m.ioTransfer = false ∧ m.storesRegister = false ∧ m ≠ .tblr ∧
      m ≠ .in := by
    cases m <;> first | exact absurd reads (by decide) | decide
  have place : s.dataAddress m word = BitVec.ofNat 8 address := direct.dataAddress other calm.page
  have next : BitVec.ofNat 8 address + 1 = BitVec.ofNat 8 (address + 1) :=
    (BitVec.ofNat_add ..).symm
  have registers (t : State) : straightRegisters m word t =
      (fetched t).execute m word (operand m word t) :=
    direct.postModify _ _
  rcases step_calm calm quiet stored direct.found family.1 ⟨family.2.1, family.2.2.1⟩
    (direct.noFault other onPage calm.page) (fun t => by rw [registers]; exact mask _ _) with
    ⟨outcome, made, after, data, program, entry, delay⟩
  refine ⟨outcome, made, ?_, ?_, program, entry, delay⟩
  · rw [after, registers]
    unfold operand
    change (fetched (latchRequest i s)).execute m word (s.data.read (s.dataAddress m word)) = _
    rw [place]
  · rw [data]
    unfold straightData operand
    change (if m.movesData then
      s.data.write (s.dataAddress m word + 1) (s.data.read (s.dataAddress m word)) else _) = _
    rw [place, next, family.2.2.2.1, if_neg Bool.false_ne_true, if_neg family.2.2.2.2.1,
      if_neg family.2.2.2.2.2]
    rfl

/-- A step of the kernel. -/
theorem step_performs {operation : KernelOperation} (onPage : operation.OnPage) (calm : Calm s)
    (quiet : s.interruptMask = true ∨ i.int = true)
    (stored : s.program s.pc = BitVec.ofNat 16 operation.word) :
    ∃ outcome, step i s = .ok outcome ∧ Performs operation s outcome.state := by
  cases operation with
  | zac =>
      have found : mnemonic? (BitVec.ofNat 16 0x7F89) = some .zac := by decide +kernel
      rcases step_calm calm quiet stored found rfl ⟨rfl, rfl⟩ rfl (fun _ => ⟨rfl, rfl⟩) with
        ⟨outcome, made, registers, data, program, entry, delay⟩
      refine ⟨outcome, made, performs_of calm quiet registers data program entry delay rfl ?_⟩
      exact ⟨rfl, rfl, rfl, rfl, rfl⟩
  | lt address =>
      have direct := direct_lt onPage
      rcases step_direct calm quiet stored direct onPage rfl (fun _ _ => ⟨rfl, rfl⟩) with
        ⟨outcome, made, registers, data, program, entry, delay⟩
      refine ⟨outcome, made, performs_of calm quiet registers data program entry delay rfl ?_⟩
      exact ⟨rfl, rfl, rfl, rfl, rfl⟩
  | mpy address =>
      have direct := direct_mpy onPage
      rcases step_direct calm quiet stored direct onPage rfl (fun _ _ => ⟨rfl, rfl⟩) with
        ⟨outcome, made, registers, data, program, entry, delay⟩
      refine ⟨outcome, made, performs_of calm quiet registers data program entry delay rfl ?_⟩
      exact ⟨rfl, rfl, rfl, rfl, rfl⟩
  | ltd address =>
      have direct := direct_ltd onPage
      rcases step_direct calm quiet stored direct onPage rfl
        (fun r _ => addAccumulator_interrupts r _) with
        ⟨outcome, made, registers, data, program, entry, delay⟩
      rcases addAccumulator_wraps (r := fetched (latchRequest i s)) calm.mode s.productRegister with
        ⟨flag, wraps⟩
      have after : outcome.state.toRegisters =
          { fetched (latchRequest i s) with
            overflowFlag := flag
            accumulator := s.accumulator + s.productRegister
            tRegister := s.data.read (BitVec.ofNat 8 address) } := by
        rw [registers]
        change { (fetched (latchRequest i s)).addAccumulator s.productRegister with
          tRegister := s.data.read (BitVec.ofNat 8 address) } = _
        rw [wraps]
        rfl
      have moves : outcome.state.data = s.data.write (BitVec.ofNat 8 (address + 1))
          (s.data.read (BitVec.ofNat 8 address)) :=
        data
      refine ⟨outcome, made, performs_of calm quiet after moves program entry delay ?_ ?_⟩
      · have small : address < 128 := onPage
        have valid : DataRam.addressValid (BitVec.ofNat 8 (address + 1)) = true :=
          valid_onPage (by omega)
        unfold lineWith
        rw [read_write_update valid]
        rfl
      · exact ⟨rfl, rfl, rfl, rfl, rfl⟩
  | apac =>
      have found : mnemonic? (BitVec.ofNat 16 0x7F8F) = some .apac := by decide +kernel
      rcases step_calm calm quiet stored found rfl ⟨rfl, rfl⟩ rfl
        (fun t => addAccumulator_interrupts (fetched t) _) with
        ⟨outcome, made, registers, data, program, entry, delay⟩
      rcases addAccumulator_wraps (r := fetched (latchRequest i s)) calm.mode s.productRegister with
        ⟨flag, wraps⟩
      have after : outcome.state.toRegisters =
          { fetched (latchRequest i s) with
            overflowFlag := flag
            accumulator := s.accumulator + s.productRegister } := by
        rw [registers]
        change (fetched (latchRequest i s)).addAccumulator s.productRegister = _
        rw [wraps]
        rfl
      refine ⟨outcome, made, performs_of calm quiet after data program entry delay rfl ?_⟩
      exact ⟨rfl, rfl, rfl, rfl, rfl⟩

end Step

/-! ## Runs -/

/-- The program memory holds the words of some instructions from an address on. -/
def Holds (program : ProgramMemory) (address : BitVec 12) : List KernelOperation → Prop
  | [] => True
  | operation :: rest =>
      program address = BitVec.ofNat 16 operation.word ∧ Holds program (address + 1) rest

/-- A run through instructions of the kernel. -/
theorem run_operations {operations : List KernelOperation} {pins : List Input} {s : State}
    (onPage : ∀ operation ∈ operations, operation.OnPage) (calm : Calm s)
    (holds : Holds s.program s.pc operations) (count : pins.length = operations.length)
    (quiet : ∀ i ∈ pins, s.interruptMask = true ∨ i.int = true) :
    ∃ steps t, Run s steps t ∧ steps.map Prod.fst = pins ∧
      lineOf t = KernelOperation.performAll operations (lineOf s) := by
  induction operations generalizing pins s with
  | nil =>
      have none : pins = [] := List.length_eq_zero_iff.mp count
      rw [none]
      exact ⟨[], s, Run.done s, rfl, rfl⟩
  | cons operation operations ih =>
      rcases List.exists_cons_of_length_eq_add_one count with ⟨i, rest, rfl⟩
      rw [List.forall_mem_cons] at onPage quiet
      rcases step_performs onPage.1 calm quiet.1 holds.1 with ⟨outcome, made, performs⟩
      have later : Holds outcome.state.program outcome.state.pc operations := by
        rw [performs.program, performs.pc]
        exact holds.2
      have still : ∀ i ∈ rest, outcome.state.interruptMask = true ∨ i.int = true := by
        rw [performs.mask]
        exact quiet.2
      rcases ih onPage.2 performs.calm later (Nat.succ.inj count) still with
        ⟨steps, t, run, same, line⟩
      refine ⟨(i, outcome) :: steps, t, Run.step made run, ?_, ?_⟩
      · rw [List.map_cons, same]
      · rw [line, performs.line]
        rfl

end Isa

/-! ## The reference model -/

namespace Model

/-- The product of the multiplier as an integer. -/
def machineProduct (sample coefficient : ℕ) : ℤ :=
  if sample = 0x8000 ∧ coefficient = 0x8000 then 0xC0000000
  else signedWord sample * signedWord coefficient

/-- A model at the start of the kernel: its samples are at `first` to `first + last`, its
coefficients elsewhere on page 0, and no interrupt is or gets on its way. -/
structure AtKernel (model : Tms32010Model) (pins : List Isa.Input) (first last : ℕ)
    (coefficient : ℕ → ℕ) : Prop where
  wellFormed : model.WellFormed
  block : first + last < 128
  coefficients : ∀ j ≤ last, coefficient j < 128 ∧
    (coefficient j < first ∨ first + last < coefficient j)
  page : model.state.status.dp = 0
  mode : model.state.status.ovm = false
  entry : model.interruptEntryPending = false
  delay : model.interruptDelayOne = false
  quiet : model.state.status.intm = true ∨
    model.state.interruptPending = false ∧ ∀ i ∈ pins, i.int = true
  program : ∀ k operation,
    (KernelOperation.kernel (first + ·) coefficient last)[k]? = some operation →
      model.program[(model.state.pc + k) % programWords]? = some operation.word
  count : pins.length = 2 * last + 4

/-- What the kernel leaves. -/
structure Convolved (model final : Tms32010Model) (first last : ℕ) (coefficient : ℕ → ℕ) :
    Prop where
  acc : (final.state.acc : ℤ) = (∑ j ∈ Finset.range (last + 1),
    machineProduct (model.data.getD (first + j) 0) (model.data.getD (coefficient j) 0)) % 2 ^ 32
  moved : ∀ j < last, final.data[first + j + 1]? = model.data[first + j]?
  kept : ∀ address, ¬(first < address ∧ address ≤ first + last) →
    final.data[address]? = model.data[address]?
  t : final.state.t = model.data.getD first 0

section Law

variable {i : Isa.Input} {s : Isa.State}

theorem machineProduct_eq (x y : BitVec 16) :
    BitVec.ofInt 32 (machineProduct x.toNat y.toNat) = Registers.product x y := by
  have exceptional (z : BitVec 16) : z.toNat = 0x8000 ↔ z = 0x8000 := by
    rw [← BitVec.toNat_inj]
    rfl
  unfold machineProduct Registers.product
  simp only [exceptional, signedWord_eq]
  by_cases both : x = 0x8000 ∧ y = 0x8000
  · rw [if_pos both, if_pos both]
    rfl
  · rw [if_neg both, if_neg both, BitVec.ofInt_mul]
    rfl

/-- A sum of words is the sum of the integers they stand for. -/
theorem sum_ofInt (values : ℕ → ℤ) (n : ℕ) :
    ∑ j ∈ Finset.range n, BitVec.ofInt 32 (values j) =
      BitVec.ofInt 32 (∑ j ∈ Finset.range n, values j) := by
  induction n with
  | zero => rfl
  | succ n ih => rw [Finset.sum_range_succ, Finset.sum_range_succ, ih, BitVec.ofInt_add]

theorem embed_data {address : ℕ} (inside : address < dataWords) :
    (embed i s).data[address]? = some (s.data.read (BitVec.ofNat 8 address)).toNat := by
  have bound : address < 144 := inside
  have small : (BitVec.ofNat 8 address).toNat = address := by
    rw [BitVec.toNat_ofNat]
    exact Nat.mod_eq_of_lt (by omega)
  change (image s.data)[address]? = _
  rw [image_getElem? _ inside]
  unfold DataRam.read
  rw [dif_pos (by rw [small]; exact inside)]
  simp only [small]

/-- The words of the program as the machine holds them. -/
theorem holds_of_program {operations : List KernelOperation} {address : BitVec 12}
    (onPage : ∀ operation ∈ operations, operation.OnPage)
    (program : ∀ k operation, operations[k]? = some operation →
      (embed i s).program[(address.toNat + k) % programWords]? = some operation.word) :
    Isa.Holds s.program address operations := by
  induction operations generalizing address with
  | nil => trivial
  | cons operation operations ih =>
      rw [List.forall_mem_cons] at onPage
      constructor
      · have here := program 0 operation rfl
        rw [Nat.add_zero, Nat.mod_eq_of_lt address.isLt, embed_program, Option.some_inj] at here
        have small : operation.word < 2 ^ 16 := by
          cases operation <;>
            simp only [KernelOperation.word, KernelOperation.OnPage] at onPage ⊢ <;> omega
        apply BitVec.eq_of_toNat_eq
        rw [here, BitVec.toNat_ofNat, Nat.mod_eq_of_lt small]
      · apply ih onPage.2
        intro k later found
        have next := program (k + 1) later found
        have same : ((address + 1).toNat + k) % programWords =
            (address.toNat + (k + 1)) % programWords := by
          rw [BitVec.toNat_add]
          change ((address.toNat + 1) % 4096 + k) % 4096 = (address.toNat + (k + 1)) % 4096
          omega
        rw [same]
        exact next

theorem separate_of_atKernel {self : Tms32010Model} {pins : List Isa.Input} {first last : ℕ}
    {coefficient : ℕ → ℕ} (start : AtKernel self pins first last coefficient) :
    DelayLine.Separate (fun k => BitVec.ofNat 8 (first + k))
      (fun k => BitVec.ofNat 8 (coefficient k)) last := by
  have block := start.block
  constructor
  · intro j left k right same
    have values := congrArg BitVec.toNat same
    have inside : j ≤ last ∧ k ≤ last := ⟨left, right⟩
    simp only [BitVec.toNat_ofNat] at values
    omega
  · intro j left k right same
    have values := congrArg BitVec.toNat same
    have elsewhere := start.coefficients j left
    simp only [BitVec.toNat_ofNat] at values
    omega

/-- The last call of a run leaves the last state of the run. -/
theorem getLast_of_run {t : Isa.State} {steps : List (Isa.Input × Isa.Outcome)}
    {calls : List (StepTrace × Tms32010Model)} (run : Isa.Run s steps t)
    (matched : List.Forall₂ CallMatches steps calls) (nonempty : steps ≠ []) :
    ∃ trace i, calls.getLast? = some (trace, embed i t) := by
  induction run generalizing calls with
  | done s => exact absurd rfl nonempty
  | @step pins s t outcome rest made tail ih =>
      rcases matched with _ | ⟨first, others⟩
      rcases others with _ | ⟨second, others⟩
      · cases tail
        exact ⟨_, pins, congrArg some (Prod.ext rfl first.model)⟩
      · rcases ih (.cons second others) (List.cons_ne_nil _ _) with ⟨trace, i, last⟩
        refine ⟨trace, i, ?_⟩
        rw [List.getLast?_cons_cons]
        exact last

theorem calm_of_atKernel {pins : List Isa.Input} {first last : ℕ} {coefficient : ℕ → ℕ}
    (start : AtKernel (embed i s) pins first last coefficient) : Isa.Calm s where
  page := by
    have page : s.dataPagePointer.toNat = 0 := start.page
    simpa using page
  mode := start.mode
  entry := start.entry
  delay := start.delay
  request := start.quiet.imp_right And.left

theorem embed_data_getD {address : ℕ} (inside : address < dataWords) :
    (embed i s).data.getD address 0 = (s.data.read (BitVec.ofNat 8 address)).toNat := by
  rw [List.getD_eq_getElem?_getD, embed_data inside]
  rfl

theorem embed_data_none {address : ℕ} (outside : ¬address < dataWords) :
    (embed i s).data[address]? = none := by
  rw [List.getElem?_eq_none]
  change (image s.data).length ≤ address
  rw [image_length]
  exact Nat.le_of_not_lt outside

/-- What the machine's delay line leaves, in the model. -/
theorem convolved_embed {j : Isa.Input} {t : Isa.State} {pins : List Isa.Input} {first last : ℕ}
    {coefficient : ℕ → ℕ} (start : AtKernel (embed i s) pins first last coefficient)
    (convolved : t.accumulator = ∑ k ∈ Finset.range (last + 1),
        Registers.product (s.data.read (BitVec.ofNat 8 (first + k)))
          (s.data.read (BitVec.ofNat 8 (coefficient k))) ∧
      (∀ k < last, t.data.read (BitVec.ofNat 8 (first + (k + 1))) =
        s.data.read (BitVec.ofNat 8 (first + k))) ∧
      (∀ address, (∀ k < last, address ≠ BitVec.ofNat 8 (first + (k + 1))) →
        t.data.read address = s.data.read address) ∧
      t.tRegister = s.data.read (BitVec.ofNat 8 (first + 0))) :
    Convolved (embed i s) (embed j t) first last coefficient := by
  have block := start.block
  rcases convolved with ⟨sum, moved, kept, sample⟩
  constructor
  · have products : ∀ k ∈ Finset.range (last + 1),
        Registers.product (s.data.read (BitVec.ofNat 8 (first + k)))
            (s.data.read (BitVec.ofNat 8 (coefficient k))) =
          BitVec.ofInt 32 (machineProduct ((embed i s).data.getD (first + k) 0)
            ((embed i s).data.getD (coefficient k) 0)) := by
      intro k among
      have within : k ≤ last := Nat.lt_succ_iff.mp (Finset.mem_range.mp among)
      have onPage := (start.coefficients k within).1
      have places : first + k < 144 ∧ coefficient k < 144 := by omega
      rw [embed_data_getD places.1, embed_data_getD places.2, machineProduct_eq]
    change ((t.accumulator.toNat : ℕ) : ℤ) = _
    rw [sum, Finset.sum_congr rfl products, sum_ofInt, BitVec.toNat_ofInt]
    exact Int.toNat_of_nonneg (Int.emod_nonneg _ (by decide))
  · intro k below
    have places : first + k + 1 < 144 ∧ first + k < 144 := by omega
    rw [embed_data places.1, embed_data places.2]
    exact congrArg (fun word => some word.toNat) (moved k below)
  · intro address other
    by_cases inside : address < 144
    · rw [embed_data inside, embed_data inside, kept]
      intro k below same
      have values := congrArg BitVec.toNat same
      simp only [BitVec.toNat_ofNat] at values
      omega
    · rw [embed_data_none inside, embed_data_none inside]
  · have place : first < 144 := by omega
    rw [embed_data_getD place]
    exact congrArg BitVec.toNat sample

/-- The kernel convolves the samples of its block with the coefficients. -/
theorem kernel_convolves {self : Tms32010Model} {pins : List Isa.Input} {first last : ℕ}
    {coefficient : ℕ → ℕ} (start : AtKernel self pins first last coefficient) :
    ∃ calls trace final, trajectory self pins = .ok calls ∧ calls.getLast? = some (trace, final) ∧
      Convolved self final first last coefficient := by
  rcases start.wellFormed.exists_embed with ⟨i, s, rfl⟩
  have block := start.block
  have onPage : ∀ operation ∈ KernelOperation.kernel (first + ·) coefficient last,
      operation.OnPage :=
    KernelOperation.onPage_kernel (fun j within => by omega)
      (fun j within => (start.coefficients j within).1)
  have quiet : ∀ i ∈ pins, s.interruptMask = true ∨ i.int = true :=
    fun i among => start.quiet.imp_right fun quiet => quiet.2 i among
  rcases Isa.run_operations onPage (calm_of_atKernel start)
    (holds_of_program onPage start.program)
    (start.count.trans KernelOperation.length_kernel.symm) quiet with ⟨steps, t, run, rfl, line⟩
  rcases trajectory_embed run i with ⟨calls, called, matched⟩
  have nonempty : steps ≠ [] := by
    rintro rfl
    exact absurd start.count (by simp)
  rcases getLast_of_run run matched nonempty with ⟨trace, j, final⟩
  have convolved := DelayLine.line_convolves Registers.product (separate_of_atKernel start)
    (Isa.lineOf s)
  rw [← KernelOperation.performAll_kernel, ← line] at convolved
  exact ⟨calls, trace, embed j t, called, final, convolved_embed start convolved⟩

/-- A filter of two taps: samples at 0 and 1, coefficients at 2 and 3. -/
def twoTaps : Tms32010Model where
  program := [0x7F89, 0x6A01, 0x6D03, 0x6B00, 0x6D02, 0x7F8F] ++ List.replicate 4090 0
  data := [0x8000, 5, 0x8000, 0xFFFD] ++ List.replicate 140 0

theorem length_padded (xs : List ℕ) (n : ℕ) :
    (xs ++ List.replicate n 0).length = xs.length + n := by
  rw [List.length_append, List.length_replicate]

theorem padded_lt {xs : List ℕ} {n : ℕ} (small : ∀ x ∈ xs, x < 2 ^ 16) :
    ∀ x ∈ xs ++ List.replicate n 0, x < 2 ^ 16 := by
  intro x among
  rcases List.mem_append.mp among with early | late
  · exact small x early
  · rw [List.eq_of_mem_replicate late]
    decide

theorem atKernel_twoTaps :
    AtKernel twoTaps (List.replicate 6 ⟨true, true, fun _ => 0⟩) 0 1 (2 + ·) where
  wellFormed :=
    { constructed_wellFormed with
      programLength := (length_padded _ 4090).trans (by decide)
      program := padded_lt (by decide)
      dataLength := (length_padded _ 140).trans (by decide)
      data := padded_lt (by decide) }
  block := by decide
  coefficients := fun j within => by omega
  page := rfl
  mode := rfl
  entry := rfl
  delay := rfl
  quiet := Or.inr ⟨rfl, fun i among => by rw [List.eq_of_mem_replicate among]⟩
  program := by
    intro k operation found
    rcases k with _ | _ | _ | _ | _ | _ | k <;> cases found <;> rfl
  count := rfl

theorem kernel_convolves_twoTaps :
    ∃ calls trace final,
      trajectory twoTaps (List.replicate 6 ⟨true, true, fun _ => 0⟩) = .ok calls ∧
        calls.getLast? = some (trace, final) ∧ Convolved twoTaps final 0 1 (2 + ·) :=
  kernel_convolves atKernel_twoTaps

end Law

end Model

end Tms32010
