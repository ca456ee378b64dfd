import Tms32010.Model.Refinement

/-!
# States within their hardware widths

A reference model whose fields are within their widths is the embedding of a
typed machine state, so what is proved of embedded states holds of all of them:
`step` keeps the widths or raises one of its three declared exceptions with
nothing changed but the latched request.
-/

namespace Tms32010.Model

/-- The fields of a `State` within their hardware widths. -/
structure State.WellFormed (state : State) : Prop where
  pc : state.pc < 2 ^ 12
  acc : state.acc < 2 ^ 32
  p : state.p < 2 ^ 32
  t : state.t < 2 ^ 16
  arLength : state.ar.length = 2
  ar : ∀ x ∈ state.ar, x < 2 ^ 16
  stackLength : state.stack.length = 4
  stack : ∀ x ∈ state.stack, x < 2 ^ 12
  arp : state.status.arp < 2
  dp : state.status.dp < 2

/-- The fields of a model within their hardware widths. -/
structure Tms32010Model.WellFormed (model : Tms32010Model) : Prop where
  state : model.state.WellFormed
  programLength : model.program.length = programWords
  program : ∀ x ∈ model.program, x < 2 ^ 16
  dataLength : model.data.length = dataWords
  data : ∀ x ∈ model.data, x < 2 ^ 16
  ioInputLength : model.ioInput.length = ioPorts
  ioInput : ∀ x ∈ model.ioInput, x < 2 ^ 16
  ioOutputLength : model.ioOutput.length = ioPorts
  ioOutput : ∀ x ∈ model.ioOutput, x < 2 ^ 16

/-- The exceptions the docstring of `step` declares. -/
def Error.declared : Error → Bool
  | .unsupportedOpcode .. | .unsupportedDataAddress .. | .unsupportedProgramOperand .. => true
  | _ => false

/-- The model with the interrupt request latched and nothing else changed. -/
def Tms32010Model.requestLatched (self : Tms32010Model) : Tms32010Model :=
  { self with
    state :=
      { self.state with
        interruptPending := self.state.interruptPending || !self.interruptInputHigh } }

/-! ## Memory images -/

section Images

variable {n a w : Nat}

theorem image_lt (memory : Fin n → BitVec w) : ∀ x ∈ image memory, x < 2 ^ w := by
  intro x member
  rw [image, List.mem_ofFn] at member
  rcases member with ⟨k, rfl⟩
  exact (memory k).isLt

/-- A list of words within their width is the image of a memory. -/
theorem exists_image {xs : List Nat} (length : xs.length = n) (bound : ∀ x ∈ xs, x < 2 ^ w) :
    ∃ memory : Fin n → BitVec w, xs = image memory := by
  subst length
  refine ⟨fun k => BitVec.ofNat w xs[k], ?_⟩
  apply List.ext_getElem
  · simp
  · intro k leftBound _
    have small := bound xs[k] (List.getElem_mem leftBound)
    simp [image, Nat.mod_eq_of_lt small]

theorem exists_image_byValue {xs : List Nat} (length : xs.length = 2 ^ a)
    (bound : ∀ x ∈ xs, x < 2 ^ w) :
    ∃ memory : BitVec a → BitVec w, xs = image (byValue memory) := by
  rcases exists_image length bound with ⟨memory, rfl⟩
  exact ⟨fun address => memory address.toFin, rfl⟩

end Images

/-! ## Embeddings are the well-formed models -/

theorem embedRegisters_wellFormed (r : Registers) : (embedRegisters r).WellFormed where
  pc := r.pc.isLt
  acc := r.accumulator.isLt
  p := r.productRegister.isLt
  t := r.tRegister.isLt
  arLength := rfl
  ar := by
    intro x member
    simp only [embedRegisters, List.mem_cons, List.not_mem_nil, or_false] at member
    rcases member with rfl | rfl
    · exact r.auxiliaryRegister0.isLt
    · exact r.auxiliaryRegister1.isLt
  stackLength := rfl
  stack := by
    intro x member
    simp only [embedRegisters, stackList, List.mem_cons, List.not_mem_nil, or_false] at member
    rcases member with rfl | rfl | rfl | rfl
    · exact r.stack.top.isLt
    · exact r.stack.level1.isLt
    · exact r.stack.level2.isLt
    · exact r.stack.bottom.isLt
  arp := r.auxiliaryRegisterPointer.toNat_lt
  dp := r.dataPagePointer.toNat_lt

theorem embed_wellFormed (i : Isa.Input) (s : Isa.State) : (embed i s).WellFormed := by
  have registers := embedRegisters_wellFormed s.toRegisters
  refine ⟨registers, ?_, ?_, ?_, ?_, ?_, ?_, ?_, ?_⟩ <;> simp only [embed]
  · exact image_length _
  · exact image_lt _
  · exact image_length _
  · exact image_lt _
  · exact image_length _
  · exact image_lt _
  · exact image_length _
  · exact image_lt _

theorem exists_bit {x : Nat} (bound : x < 2) : ∃ b : Bool, x = b.toNat := by
  rcases (show x = 0 ∨ x = 1 by omega) with rfl | rfl
  · exact ⟨false, rfl⟩
  · exact ⟨true, rfl⟩

theorem exists_bitVec {x w : Nat} (bound : x < 2 ^ w) : ∃ v : BitVec w, x = v.toNat :=
  ⟨BitVec.ofNat w x, by simp [Nat.mod_eq_of_lt bound]⟩

theorem State.WellFormed.exists_registers {state : State} (wellFormed : state.WellFormed) :
    ∃ r : Registers, state = embedRegisters r := by
  rcases wellFormed with
    ⟨pcBound, accBound, pBound, tBound, arLength, arBound, stackLength, stackBound, arpBound,
      dpBound⟩
  rcases state with ⟨pc, acc, p, t, ar, stack, ⟨ov, ovm, intm, arp, dp⟩, pending⟩
  rcases exists_bitVec pcBound with ⟨pc', rfl⟩
  rcases exists_bitVec accBound with ⟨acc', rfl⟩
  rcases exists_bitVec pBound with ⟨p', rfl⟩
  rcases exists_bitVec tBound with ⟨t', rfl⟩
  rcases exists_bit arpBound with ⟨arp', rfl⟩
  rcases exists_bit dpBound with ⟨dp', rfl⟩
  rcases List.length_eq_two.mp arLength with ⟨ar0, ar1, rfl⟩
  rcases exists_bitVec (arBound ar0 (by simp)) with ⟨ar0', rfl⟩
  rcases exists_bitVec (arBound ar1 (by simp)) with ⟨ar1', rfl⟩
  match stack, stackLength, stackBound with
  | [top, level1, level2, bottom], _, bound =>
      rcases exists_bitVec (bound top (by simp)) with ⟨top', rfl⟩
      rcases exists_bitVec (bound level1 (by simp)) with ⟨level1', rfl⟩
      rcases exists_bitVec (bound level2 (by simp)) with ⟨level2', rfl⟩
      rcases exists_bitVec (bound bottom (by simp)) with ⟨bottom', rfl⟩
      exact ⟨⟨pc', acc', t', p', ar0', ar1', arp', dp', ⟨top', level1', level2', bottom'⟩, ov, ovm,
        intm, pending⟩, rfl⟩

/-- Words loaded over the first words of the program keep the widths. -/
theorem Tms32010Model.WellFormed.loaded {self : Tms32010Model} (wellFormed : self.WellFormed)
    {words : List ℕ} (range : ∀ word ∈ words, word ≤ wordMask)
    (room : words.length ≤ programWords) :
    ({ self with program := words ++ self.program.drop words.length } :
      Tms32010Model).WellFormed where
  state := wellFormed.state
  programLength := by
    rw [List.length_append, List.length_drop, wellFormed.programLength]
    omega
  program := by
    intro word among
    rcases List.mem_append.mp among with among | among
    · exact Nat.lt_succ_of_le (range word among)
    · exact wellFormed.program word (List.mem_of_mem_drop among)
  dataLength := wellFormed.dataLength
  data := wellFormed.data
  ioInputLength := wellFormed.ioInputLength
  ioInput := wellFormed.ioInput
  ioOutputLength := wellFormed.ioOutputLength
  ioOutput := wellFormed.ioOutput

theorem Tms32010Model.WellFormed.exists_embed {self : Tms32010Model}
    (wellFormed : self.WellFormed) : ∃ i s, self = embed i s := by
  rcases wellFormed.state.exists_registers with ⟨registers, state⟩
  rcases exists_image_byValue (a := 12) wellFormed.programLength wellFormed.program with
    ⟨program, programEq⟩
  rcases exists_image wellFormed.dataLength wellFormed.data with ⟨data, dataEq⟩
  rcases exists_image_byValue (a := 3) wellFormed.ioInputLength wellFormed.ioInput with
    ⟨ioInput, ioInputEq⟩
  rcases exists_image_byValue (a := 3) wellFormed.ioOutputLength wellFormed.ioOutput with
    ⟨ioOutput, ioOutputEq⟩
  refine ⟨⟨self.interruptInputHigh, self.bioInputHigh, ioInput⟩,
    ⟨registers, self.interruptDelayOne, self.interruptEntryPending, data, program, ioOutput,
      self.cycleCount⟩, ?_⟩
  simp only [embed, ← state, ← programEq, ← dataEq, ← ioInputEq, ← ioOutputEq]

theorem embed_latchRequest (i : Isa.Input) (s : Isa.State) :
    embed i (Isa.latchRequest i s) = (embed i s).requestLatched := by
  simp only [embed, Isa.latchRequest, embedRegisters, Tms32010Model.requestLatched]

theorem faultError_declared (fault : Isa.Fault) : (faultError fault).declared = true := by
  cases fault <;> rfl

/-- `step` of a model within its widths returns such a model, or raises a declared
exception with everything but the latched request unchanged. -/
theorem step_total_atomic (self : Tms32010Model) (wellFormed : self.WellFormed) :
    (∃ trace self', step self = .ok trace self' ∧ self'.WellFormed) ∨
      ∃ error, step self = .error error self.requestLatched ∧ error.declared = true := by
  rcases wellFormed.exists_embed with ⟨i, s, rfl⟩
  have run := step_embed i s
  cases outcome : Isa.step i s with
  | ok outcome' =>
      rw [outcome] at run
      rcases run with ⟨trace, run, -⟩
      exact Or.inl ⟨trace, _, run, embed_wellFormed i outcome'.state⟩
  | error fault =>
      rw [outcome] at run
      rw [← embed_latchRequest]
      exact Or.inr ⟨faultError fault, run, faultError_declared fault⟩

/-- The constructed model is within its widths. -/
theorem constructed_wellFormed : ({} : Tms32010Model).WellFormed where
  state :=
    { pc := by decide
      acc := by decide
      p := by decide
      t := by decide
      arLength := rfl
      ar := by simp
      stackLength := rfl
      stack := by simp
      arp := by decide
      dp := by decide }
  programLength := List.length_replicate
  program := by simp
  dataLength := List.length_replicate
  data := by simp
  ioInputLength := List.length_replicate
  ioInput := by simp
  ioOutputLength := List.length_replicate
  ioOutput := by simp

/-- A model that is about to store beyond its data memory, with an interrupt requested. -/
def strayStore : Tms32010Model :=
  { state := { status := { dp := 1 } },
    program := [0x507f] ++ (List.replicate programWords 0).drop 1, interruptInputHigh := false }

theorem strayStore_wellFormed : strayStore.WellFormed :=
  { @Tms32010Model.WellFormed.loaded {} constructed_wellFormed [0x507f] (by decide) (by decide) with
    state := { constructed_wellFormed.state with dp := by decide } }

/-- The store raises, and leaves nothing but the request behind. -/
theorem step_total_atomic_strayStore :
    ∃ error, step strayStore = .error error strayStore.requestLatched ∧
      error.declared = true := by
  have raises : ∃ error self', step strayStore = .error error self' := ⟨_, _, rfl⟩
  rcases raises with ⟨error, self', raises⟩
  rcases step_total_atomic strayStore strayStore_wellFormed with ⟨trace, self', returns, -⟩ | raised
  · rw [raises] at returns
    cases returns
  · exact raised

end Tms32010.Model
