import Tms32010.Registers

/-!
# Internal data RAM

`tms32010_internal_ram`. The memory is 144 words. With `REGISTERED_READ` the
operand is captured on an enable together with a one-clock forwarding word;
otherwise the read is combinational.
-/

namespace Tms32010.Rtl

/-- The storage of `tms32010_internal_ram`; the captured registers exist in
registered mode only. -/
structure InternalRam where
  memory : DataRam
  capturedReadValid : Bool
  capturedReadData : BitVec 16
  capturedForwardValid : Bool
  capturedForwardData : BitVec 16

namespace InternalRam

/-- The inputs of `tms32010_internal_ram`. -/
structure Inputs where
  readEnable : Bool
  readAddress : BitVec 8
  write : Bool
  writeAddress : BitVec 8
  writeData : BitVec 16
  debugWrite : Bool
  debugAddress : BitVec 8
  debugData : BitVec 16

/-- `read_data_o`. -/
def readData (registeredRead : Bool) (ram : InternalRam) (readAddress : BitVec 8) : BitVec 16 :=
  if registeredRead then
    if ram.capturedReadValid then
      (if ram.capturedForwardValid then ram.capturedForwardData else ram.capturedReadData)
    else 0
  else if DataRam.addressValid readAddress then ram.memory.read readAddress
  else 0

/-- The write port, shared by both modes; the debug port has priority. -/
def nextMemory (ram : InternalRam) (i : Inputs) : DataRam :=
  if i.debugWrite && DataRam.addressValid i.debugAddress then
    ram.memory.write i.debugAddress i.debugData
  else if i.write && DataRam.addressValid i.writeAddress then
    ram.memory.write i.writeAddress i.writeData
  else ram.memory

/-- The address actually presented to the memory's read port. -/
def qualifiedReadAddress (i : Inputs) : BitVec 8 :=
  if DataRam.addressValid i.readAddress then i.readAddress else 0

/-- A debug write to the captured address in this clock. -/
def debugForward (i : Inputs) : Bool :=
  i.debugWrite && DataRam.addressValid i.debugAddress &&
    i.debugAddress == qualifiedReadAddress i

/-- A processor write to the captured address in this clock. -/
def writeForward (i : Inputs) : Bool :=
  i.write && DataRam.addressValid i.writeAddress && i.writeAddress == qualifiedReadAddress i

/-- One clock edge. -/
def step (registeredRead : Bool) (ram : InternalRam) (i : Inputs) : InternalRam :=
  if registeredRead && i.readEnable then
    { memory := ram.nextMemory i
      capturedReadValid := DataRam.addressValid i.readAddress
      capturedReadData := ram.memory.read (qualifiedReadAddress i)
      capturedForwardValid := debugForward i || writeForward i
      capturedForwardData := if debugForward i then i.debugData else i.writeData }
  else { ram with memory := ram.nextMemory i }

@[simp]
theorem step_memory (registeredRead : Bool) (ram : InternalRam) (i : Inputs) :
    (ram.step registeredRead i).memory = ram.nextMemory i := by
  unfold step
  split <;> rfl

/-- A capture without a write shows the addressed word. -/
theorem readData_step (ram : InternalRam) {i : Inputs} (enabled : i.readEnable = true)
    (noWrite : i.write = false) (noDebug : i.debugWrite = false) (address : BitVec 8) :
    (ram.step true i).readData true address = ram.memory.read i.readAddress := by
  unfold step readData debugForward writeForward qualifiedReadAddress
  rw [enabled, noWrite, noDebug]
  cases valid : DataRam.addressValid i.readAddress
  · have absent : ¬i.readAddress.toNat < 144 := by
      rw [← DataRam.addressValid_iff, valid]
      exact Bool.false_ne_true
    simp [DataRam.read, absent]
  · simp

/-- An address outside the memory reads as zero and cannot be written. -/
theorem readData_async (ram : InternalRam) (address : BitVec 8) :
    ram.readData false address = ram.memory.read address := by
  unfold readData DataRam.read
  cases valid : DataRam.addressValid address
  · have absent : ¬address.toNat < 144 := by
      rw [← DataRam.addressValid_iff, valid]
      exact Bool.false_ne_true
    simp [absent]
  · simp

/-- A capture shows the addressed word as the clock leaves it, whichever port writes. -/
theorem readData_capture (ram : InternalRam) {i : Inputs} (enabled : i.readEnable = true)
    (exclusive : i.debugWrite = true → i.write = false) (address : BitVec 8) :
    (ram.step true i).readData true address =
      (ram.step true i).memory.read i.readAddress := by
  rw [step_memory]
  unfold step readData
  rw [enabled, Bool.and_self, if_pos rfl, if_pos rfl]
  dsimp only
  cases valid : DataRam.addressValid i.readAddress
  · have absent : ¬i.readAddress.toNat < 144 := by
      rw [← DataRam.addressValid_iff, valid]
      exact Bool.false_ne_true
    simp [DataRam.read, absent]
  · have same : qualifiedReadAddress i = i.readAddress := by
      unfold qualifiedReadAddress
      rw [valid, if_pos rfl]
    unfold debugForward writeForward nextMemory
    rw [same, if_pos rfl]
    rcases Bool.eq_false_or_eq_true (i.debugWrite && DataRam.addressValid i.debugAddress)
      with debugs | quiet
    · rw [debugs, Bool.true_and, if_pos rfl]
      have unwritten : i.write = false := exclusive (Bool.and_eq_true _ _ ▸ debugs).1
      rw [unwritten, Bool.false_and, Bool.false_and, Bool.or_false]
      by_cases hit : i.debugAddress = i.readAddress
      · rw [hit, beq_self_eq_true, if_pos rfl, if_pos rfl, DataRam.read_write_same valid]
      · rw [beq_eq_false_iff_ne.mpr hit, if_neg Bool.false_ne_true,
          DataRam.read_write_of_ne (Ne.symm hit)]
    · rw [quiet, Bool.false_and, Bool.false_or, if_neg Bool.false_ne_true,
        if_neg Bool.false_ne_true]
      rcases Bool.eq_false_or_eq_true (i.write && DataRam.addressValid i.writeAddress)
        with writes | still
      · rw [writes, Bool.true_and, if_pos rfl]
        by_cases hit : i.writeAddress = i.readAddress
        · rw [hit, beq_self_eq_true, if_pos rfl, DataRam.read_write_same valid]
        · rw [beq_eq_false_iff_ne.mpr hit, if_neg Bool.false_ne_true,
            DataRam.read_write_of_ne (Ne.symm hit)]
      · rw [still, Bool.false_and, if_neg Bool.false_ne_true, if_neg Bool.false_ne_true]

/-- The combinational data RAM has no other register than its words. -/
theorem step_combinational (ram : InternalRam) (i : Inputs)
    (memory : (ram.step false i).memory = ram.memory) : ram.step false i = ram := by
  unfold step at memory ⊢
  rw [Bool.false_and, if_neg Bool.false_ne_true] at memory ⊢
  dsimp only at memory
  rw [memory]

end InternalRam

end Tms32010.Rtl
