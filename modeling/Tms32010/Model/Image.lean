import Tms32010.Isa.Machine
import Tms32010.Model.Step

/-!
# The reference model as an image of the instruction-level machine

`embed` writes a typed machine state into the integer fields of the reference
model. A model whose fields are within their hardware widths is such an image,
so statements about all in-range models are statements about typed states.
-/

namespace Tms32010.Model

/-! ## Running the monad -/

section Run

variable {α β : Type}

@[simp]
theorem pure_run (a : α) (self : Tms32010Model) :
    (pure a : Exec α) self = EStateM.Result.ok a self := rfl

@[simp]
theorem throw_run (error : Error) (self : Tms32010Model) :
    (throw error : Exec α) self = EStateM.Result.error error self := rfl

@[simp]
theorem get_run (self : Tms32010Model) :
    (get : Exec Tms32010Model) self = EStateM.Result.ok self self := rfl

@[simp]
theorem modify_run (f : Tms32010Model → Tms32010Model) (self : Tms32010Model) :
    (modify f : Exec Unit) self = EStateM.Result.ok () (f self) := rfl

@[simp]
theorem modifyState_run (f : State → State) (self : Tms32010Model) :
    modifyState f self = EStateM.Result.ok () { self with state := f self.state } := rfl

@[simp]
theorem modifyStatus_run (f : Status → Status) (self : Tms32010Model) :
    modifyStatus f self =
      EStateM.Result.ok ()
        { self with state := { self.state with status := f self.state.status } } := rfl

@[simp]
theorem bind_run (action : Exec α) (next : α → Exec β) (self : Tms32010Model) :
    (action >>= next) self =
      match action self with
      | .ok a self' => next a self'
      | .error error self' => EStateM.Result.error error self' := by
  change EStateM.bind action next self = _
  unfold EStateM.bind
  cases action self <;> rfl

@[simp]
theorem map_run (f : α → β) (action : Exec α) (self : Tms32010Model) :
    (f <$> action) self =
      match action self with
      | .ok a self' => EStateM.Result.ok (f a) self'
      | .error error self' => EStateM.Result.error error self' := by
  change EStateM.map f action self = _
  unfold EStateM.map
  cases action self <;> rfl

@[simp]
theorem key_some_run (a : α) (self : Tms32010Model) :
    key (some a) self = EStateM.Result.ok a self := rfl

@[simp]
theorem assigned_some_run (a : Nat) (self : Tms32010Model) :
    assigned (some a) self = EStateM.Result.ok a self := rfl

theorem index_run {xs : List Nat} {i x : Nat} (found : xs[i]? = some x)
    (self : Tms32010Model) : index xs i self = EStateM.Result.ok x self := by
  simp [index, found]

theorem setIndex_run {xs : List Nat} {i x : Nat} (bound : i < xs.length)
    (self : Tms32010Model) :
    setIndex xs i x self = EStateM.Result.ok (xs.set i x) self := by
  simp [setIndex, bound]

end Run

/-! ## Memory images -/

/-- The list of the values of a finite memory. -/
def image {n w : Nat} (memory : Fin n → BitVec w) : List Nat :=
  List.ofFn fun k => (memory k).toNat

/-- A memory indexed by an address, as a memory indexed by its value. -/
def byValue {a w : Nat} (memory : BitVec a → BitVec w) : Fin (2 ^ a) → BitVec w :=
  fun k => memory (BitVec.ofFin k)

section Image

variable {n a w : Nat}

@[simp]
theorem image_length (memory : Fin n → BitVec w) : (image memory).length = n := by
  simp [image]

theorem image_getElem? (memory : Fin n → BitVec w) {k : Nat} (bound : k < n) :
    (image memory)[k]? = some (memory ⟨k, bound⟩).toNat := by
  simp [image, bound]

theorem image_set (memory : Fin n → BitVec w) {k : Nat} (bound : k < n) (value : BitVec w) :
    (image memory).set k value.toNat =
      image (Function.update memory ⟨k, bound⟩ value) := by
  apply List.ext_getElem
  · simp
  · intro j leftBound rightBound
    simp only [List.length_set, image_length] at leftBound
    rw [List.getElem_set]
    by_cases same : k = j
    · subst same
      simp [image]
    · have ne : (⟨j, leftBound⟩ : Fin n) ≠ ⟨k, bound⟩ := by
        simpa [Fin.ext_iff] using Ne.symm same
      simp [image, same, Function.update_of_ne ne]

@[simp]
theorem index_image_address (memory : BitVec a → BitVec w) (address : BitVec a)
    (self : Tms32010Model) :
    index (image (byValue memory)) address.toNat self =
      EStateM.Result.ok (memory address).toNat self := by
  apply index_run
  rw [image_getElem? _ address.isLt]
  rfl

@[simp]
theorem setIndex_image_address (memory : BitVec a → BitVec w) (address : BitVec a)
    (value : BitVec w) (self : Tms32010Model) :
    setIndex (image (byValue memory)) address.toNat value.toNat self =
      EStateM.Result.ok (image (byValue (Function.update memory address value))) self := by
  rw [setIndex_run (by simpa using address.isLt), image_set _ address.isLt]
  congr 2
  funext k
  by_cases same : BitVec.ofFin k = address
  · subst same
    have value_eq : (⟨(BitVec.ofFin k).toNat, (BitVec.ofFin k).isLt⟩ : Fin (2 ^ a)) = k := rfl
    rw [value_eq]
    simp [byValue]
  · have ne : k ≠ ⟨address.toNat, address.isLt⟩ := by
      intro eq
      exact same (congrArg BitVec.ofFin eq)
    rw [Function.update_of_ne ne]
    simp [byValue, Function.update_of_ne same]

@[simp]
theorem index_image_data {ram : DataRam} {address : BitVec 8}
    (valid : DataRam.addressValid address = true) (self : Tms32010Model) :
    index (image ram) address.toNat self =
      EStateM.Result.ok (ram.read address).toNat self := by
  rw [DataRam.addressValid_iff] at valid
  apply index_run
  rw [image_getElem? _ valid]
  simp [DataRam.read, valid]

@[simp]
theorem setIndex_image_data {ram : DataRam} {address : BitVec 8} (value : BitVec 16)
    (valid : DataRam.addressValid address = true) (self : Tms32010Model) :
    setIndex (image ram) address.toNat value.toNat self =
      EStateM.Result.ok (image (ram.write address value)) self := by
  rw [DataRam.addressValid_iff] at valid
  rw [setIndex_run (by simpa using valid), image_set _ valid]
  simp [DataRam.write, valid]

end Image

/-! ## Embedding -/

/-- The stack as the list of the source, top first. -/
def stackList (stack : Stack) : List Nat :=
  [stack.top.toNat, stack.level1.toNat, stack.level2.toNat, stack.bottom.toNat]

/-- The integer fields of a register file. -/
def embedRegisters (r : Registers) : State where
  pc := r.pc.toNat
  acc := r.accumulator.toNat
  p := r.productRegister.toNat
  t := r.tRegister.toNat
  ar := [r.auxiliaryRegister0.toNat, r.auxiliaryRegister1.toNat]
  stack := stackList r.stack
  status :=
    { ov := r.overflowFlag
      ovm := r.overflowMode
      intm := r.interruptMask
      arp := r.auxiliaryRegisterPointer.toNat
      dp := r.dataPagePointer.toNat }
  interruptPending := r.interruptPending

/-- The model that holds a machine state and observes the given pins. -/
def embed (i : Isa.Input) (s : Isa.State) : Tms32010Model where
  state := embedRegisters s.toRegisters
  program := image (byValue s.program)
  data := image s.data
  ioInput := image (byValue i.ioInput)
  ioOutput := image (byValue s.ioOutput)
  bioInputHigh := i.bio
  interruptInputHigh := i.int
  interruptDelayOne := s.interruptDelayOne
  interruptEntryPending := s.interruptEntryPending
  cycleCount := s.cycleCount

end Tms32010.Model
