import Mathlib.Data.BitVec
import Mathlib.Logic.Function.Basic

/-!
# Architectural state

The programmer-visible registers, the four-level stack and the two memories, at
their hardware widths. The same record is the state of the instruction-level
machine and the register file of the RTL core, so agreement of the two is one
equation.
-/

namespace Tms32010

/-- The four 12-bit stack levels, top first. -/
structure Stack where
  top : BitVec 12
  level1 : BitVec 12
  level2 : BitVec 12
  bottom : BitVec 12
  deriving DecidableEq, Repr

namespace Stack

/-- Push a return address; the old bottom is lost. -/
def push (stack : Stack) (value : BitVec 12) : Stack :=
  ⟨value, stack.top, stack.level1, stack.level2⟩

/-- Pop the top; the bottom is duplicated. -/
def pop (stack : Stack) : Stack :=
  ⟨stack.level1, stack.level2, stack.bottom, stack.bottom⟩

/-- The net effect of a push followed by a pop: the old bottom is overwritten. -/
def pushPop (stack : Stack) : Stack :=
  { stack with bottom := stack.level2 }

end Stack

/-- The programmer-visible registers and the pending-interrupt latch. -/
structure Registers where
  pc : BitVec 12
  accumulator : BitVec 32
  tRegister : BitVec 16
  productRegister : BitVec 32
  auxiliaryRegister0 : BitVec 16
  auxiliaryRegister1 : BitVec 16
  auxiliaryRegisterPointer : Bool
  dataPagePointer : Bool
  stack : Stack
  overflowFlag : Bool
  overflowMode : Bool
  interruptMask : Bool
  interruptPending : Bool
  deriving DecidableEq, Repr

namespace Registers

/-- The auxiliary register a pointer value selects. -/
def auxiliaryRegister (registers : Registers) (pointer : Bool) : BitVec 16 :=
  if pointer then registers.auxiliaryRegister1 else registers.auxiliaryRegister0

/-- Replace the auxiliary register a pointer value selects. -/
def setAuxiliaryRegister (registers : Registers) (pointer : Bool) (value : BitVec 16) :
    Registers :=
  if pointer then { registers with auxiliaryRegister1 := value }
  else { registers with auxiliaryRegister0 := value }

end Registers

/-- Program space: 4096 words. -/
abbrev ProgramMemory := BitVec 12 → BitVec 16

/-- The 144 words of on-chip data RAM. -/
abbrev DataRam := Fin 144 → BitVec 16

namespace DataRam

/-- An eight-bit data address that names one of the 144 words. -/
def addressValid (address : BitVec 8) : Bool := address < 144

/-- The addressed word; the unpopulated addresses read as zero. -/
def read (ram : DataRam) (address : BitVec 8) : BitVec 16 :=
  if h : address.toNat < 144 then ram ⟨address.toNat, h⟩ else 0

/-- Store a word; the unpopulated addresses ignore the store. -/
def write (ram : DataRam) (address : BitVec 8) (value : BitVec 16) : DataRam :=
  if h : address.toNat < 144 then Function.update ram ⟨address.toNat, h⟩ value else ram

theorem addressValid_iff (address : BitVec 8) :
    addressValid address = true ↔ address.toNat < 144 := by
  simp [addressValid, BitVec.lt_def]

theorem read_write_same {ram : DataRam} {address : BitVec 8} {value : BitVec 16}
    (valid : addressValid address = true) : (ram.write address value).read address = value := by
  rw [addressValid_iff] at valid
  simp [read, write, valid]

theorem read_write_of_ne {ram : DataRam} {address other : BitVec 8} {value : BitVec 16}
    (ne : other ≠ address) : (ram.write address value).read other = ram.read other := by
  unfold read write
  by_cases valid : address.toNat < 144
  · by_cases otherValid : other.toNat < 144
    · have indexNe : (⟨other.toNat, otherValid⟩ : Fin 144) ≠ ⟨address.toNat, valid⟩ := by
        simpa [Fin.ext_iff, BitVec.toNat_inj] using ne
      simp [valid, otherValid, Function.update_of_ne indexNe]
    · simp [otherValid]
  · simp [valid]

end DataRam

end Tms32010
