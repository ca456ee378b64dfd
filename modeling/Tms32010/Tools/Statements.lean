import Mathlib.Tactic.SplitIfs
import Tms32010.Lib.Checks
import Tms32010.Tools.Assembler

/-!
# Statements

What the parts of a statement return: the shape of an instruction is checked before its
operands are indexed, and the word of an instruction has sixteen bits.
-/

namespace Tms32010.Tools

open Checks

section Shapes

variable {line : SourceLine} {operation text : Text} {operands : List Text}

theorem checkedLocation_yields (value : ℕ) (line : SourceLine) :
    Yields (fun n => n = value ∧ value ≤ programWords)
      (checkedLocation value line) := by
  unfold checkedLocation
  apply Yields.ite
  · intro fits
    exact ⟨rfl, fits⟩
  · intro _
    trivial

theorem operandList_yields (text : Text) (line : SourceLine) :
    Yields (fun operands => operands.length = (text.splitOn ',').length)
      (operandList text line) := by
  unfold operandList
  apply Yields.ite
  · intro _
    trivial
  · intro _
    exact List.length_map _

/-- The operands that an instruction of the mnemonic indexes. -/
def indexedOperands (mnemonic : Mnemonic) : ℕ :=
  match mnemonic with
  | .lar | .sar | .lark | .in | .out => 2
  | .add | .lac | .sub | .sacl | .sach | .addh | .adds | .and | .dmov | .ldp | .lst | .lt | .lta
  | .ltd | .mar | .mpy | .or | .sst | .subc | .subh | .subs | .tblr | .tblw | .xor | .zalh
  | .zals => 1
  | _ => 0

/-- The shape check leaves enough operands to index. -/
theorem instructions_shape : ∀ entry ∈ instructions,
    indexedOperands entry.mnemonic ≤ (entry.operands.filter fun item => !item.optional).length ∧
      entry.opcode.value < 2 ^ 16 := by
  decide +kernel

theorem findEntry_mem {entry : Entry} (found : findEntry operation = some entry) :
    entry ∈ instructions ∧ mnemonicText entry.mnemonic = operation := by
  unfold findEntry at found
  have name := List.find?_some found
  exact ⟨List.mem_of_find?_eq_some found, of_decide_eq_true name⟩

theorem validateInstructionShape_yields (operation text : Text) (line : SourceLine) :
    Yields (fun entry => findEntry operation = some entry ∧
        ∀ operands, instructionOperands text line = .ok operands →
          indexedOperands entry.mnemonic ≤ operands.length)
      (validateInstructionShape operation text line) := by
  unfold validateInstructionShape
  cases found : findEntry operation with
  | none =>
      dsimp only
      split_ifs
      all_goals trivial
  | some entry =>
      dsimp only
      cases listed : instructionOperands text line with
      | error raised => trivial
      | ok operands =>
          apply Yields.ite
          · rintro ⟨enough, -⟩
            refine ⟨rfl, ?_⟩
            intro others same
            cases same
            exact Nat.le_trans (instructions_shape entry (findEntry_mem found).1).1 enough
          · intro _
            trivial

theorem shift_below {value bits : ℕ} (small : value < 2 ^ 8) (fits : bits < 2 ^ 8) :
    value <<< 8 ||| bits < 2 ^ 16 := by
  have shifted : value <<< 8 < 2 ^ 16 := by
    rw [Nat.shiftLeft_eq]
    omega
  exact Nat.or_lt_two_pow shifted (Nat.lt_trans fits (by decide))

end Shapes

section Statements

variable [Interpreter] {symbols : List (Text × ℕ)} {location : ℕ} {line : SourceLine}
  {operation text : Text} {operands : List Text}

theorem checked_yields (value low high : ℤ) (line : SourceLine) (message : Text) :
    Yields (fun n : ℕ => n = value.toNat ∧ low ≤ value ∧ value ≤ high)
      (checked value low high line message) := by
  unfold checked
  apply Yields.ite
  · rintro ⟨above, below⟩
    exact ⟨rfl, above, below⟩
  · intro _
    trivial

/-- A value checked between zero and a limit. -/
theorem checked_natural (value high : ℤ) (line : SourceLine) (message : Text) :
    Yields (fun n : ℕ => (n : ℤ) ≤ high) (checked value 0 high line message) := by
  apply (checked_yields value 0 high line message).mono
  rintro n ⟨rfl, above, below⟩
  rw [Int.toNat_of_nonneg above]
  exact below

theorem auxiliaryRegister_yields (text : Text) (line : SourceLine) :
    Yields (· ≤ 1) (auxiliaryRegister text line) := by
  unfold auxiliaryRegister
  apply Yields.ite
  · intro _
    exact Nat.zero_le 1
  · intro _
    apply Yields.ite
    · intro _
      exact Nat.le_refl 1
    · intro _
      trivial

theorem ioPort_yields (text : Text) (line : SourceLine) :
    Yields (· ≤ 7) (ioPort text line) := by
  unfold ioPort
  split
  · trivial
  · apply Yields.ite
    · intro range
      change Int.toNat _ ≤ 7
      omega
    · intro _
      trivial

/-! ## Encodings -/

/-- A register by its name, or a value. -/
theorem named_or_value_yields {condition : Prop} [Decidable condition] {α : Type}
    {returns : α → Prop} {rest : ℤ → Except Failure α} (site : CallSite) (name text : Text)
    (all : ∀ value, Yields returns (rest value)) :
    Yields returns
      (if condition then
        ((fun register : ℕ => (register : ℤ)) <$> auxiliaryRegister name line) >>= rest
      else evaluate site text symbols location line >>= rest) := by
  apply Yields.ite
  · intro _
    rw [map_eq_pure_bind, bind_assoc]
    exact (auxiliaryRegister_yields name line).bind fun register _ => all register
  · intro _
    exact (Yields.any _).bind fun value _ => all value

theorem nextArp_yields (operation text : Text) :
    Yields (· ≤ 1) (nextArp symbols location line operation text) := by
  unfold nextArp
  apply named_or_value_yields
  intro value
  exact (checked_natural value 1 line _).mono fun n small => by exact_mod_cast small

/-- An addressing byte. -/
theorem encodeDataAddress_yields {nextArpIndex : ℕ} (operation : Text) :
    Yields (· < 2 ^ 8)
      (encodeDataAddress symbols location line operation operands nextArpIndex) := by
  unfold encodeDataAddress
  apply (Yields.any _).bind
  intro first _
  cases control : indirectControl? (Interpreter.upper (first.filter (· ≠ ' '))) with
  | some control' =>
      have small : control' < 2 ^ 8 := by
        unfold indirectControl? at control
        split_ifs at control <;> cases control <;> decide
      dsimp only
      split
      · apply (nextArp_yields operation _).bind
        intro next tiny
        have low : next < 2 ^ 8 := Nat.lt_of_le_of_lt tiny (by decide)
        exact Nat.or_lt_two_pow (Nat.lt_of_le_of_lt Nat.and_le_left small) low
      · exact small
  | none =>
      dsimp only
      apply Yields.ite
      · intro _
        trivial
      · intro _
        apply (Yields.any _).bind
        intro value _
        apply (checked_natural value _ line _).mono
        intro n bound
        split_ifs at bound <;> omega

theorem checked_word (value high : ℤ) (small : high < 2 ^ 16) (line : SourceLine)
    (message : Text) :
    Yields (· < 2 ^ 16) (checked value 0 high line message) := by
  apply (checked_natural value high line message).mono
  intro n bound
  have whole : (n : ℤ) < 2 ^ 16 := lt_of_le_of_lt bound small
  exact_mod_cast whole

theorem sachShift_yields (value : ℤ) :
    Yields (· ≤ 4) (sachShift line value) := by
  unfold sachShift
  apply Yields.ite
  · intro allowed
    change value.toNat ≤ 4
    omega
  · intro _
    trivial

/-- A register above another field. -/
theorem register_yields {rest : ℕ → Except Failure ℕ}
    (all : ∀ register ≤ 1, Yields (· < 2 ^ 16) (rest register)) :
    Yields (· < 2 ^ 16)
      (operand operands 0 >>= fun text => auxiliaryRegister text line >>= rest) := by
  apply (Yields.any _).bind
  intro text _
  exact (auxiliaryRegister_yields text line).bind all

/-- The bits of the operands. -/
theorem operandBits_yields (mnemonic : Mnemonic) (text : Text) :
    Yields (· < 2 ^ 16)
      (operandBits symbols location line mnemonic text operands) := by
  have address (index : ℕ) : Yields (· < 2 ^ 16)
      (encodeDataAddress symbols location line (mnemonicText mnemonic) operands index) :=
    (encodeDataAddress_yields _).mono fun n fits => Nat.lt_trans fits (by decide)
  have selected {selector : Except Failure ℕ} {limit : ℕ}
      (small : limit < 2 ^ 8) (first : Yields (· ≤ limit) selector) :
      Yields (· < 2 ^ 16) (selector >>= fun value =>
        encodeDataAddress symbols location line (mnemonicText mnemonic) operands 2 >>= fun bits =>
          pure (value <<< 8 ||| bits)) := by
    apply first.bind
    intro value bound
    apply (encodeDataAddress_yields _).bind
    intro bits fits
    exact shift_below (Nat.lt_of_le_of_lt bound small) fits
  unfold operandBits
  dsimp only
  split
  -- LACK
  · apply (Yields.any _).bind
    intro value _
    exact checked_word value _ (by decide) line _
  -- the instructions of two words
  iterate 11
    apply (Yields.any _).bind
    intro value _
    apply (checked_natural value _ line _).bind
    intro _ _
    exact (by decide : 0 < 2 ^ 16)
  -- ADD, LAC, SUB
  iterate 3
    apply (Yields.any _).bind
    intro value _
    apply selected (by decide : 15 < 2 ^ 8)
    exact (checked_natural value 15 line _).mono fun n bound => by exact_mod_cast bound
  -- SACL
  · apply (Yields.any _).bind
    intro value _
    exact (Yields.any _).bind fun _ _ => address 2
  -- SACH
  · apply (Yields.any _).bind
    intro value _
    exact selected (by decide) (sachShift_yields value)
  -- IN, OUT
  iterate 2
    apply (Yields.any _).bind
    intro port _
    exact selected (by decide) (ioPort_yields port line)
  -- an addressing byte alone
  iterate 21
    exact address 1
  -- LAR, SAR
  iterate 2
    apply register_yields
    intro register bound
    apply (encodeDataAddress_yields _).bind
    intro bits fits
    exact shift_below (Nat.lt_of_le_of_lt bound (by decide)) fits
  -- LARK
  · apply register_yields
    intro register bound
    apply (Yields.any _).bind
    intro constant _
    apply (Yields.any _).bind
    intro value _
    apply (checked_natural value 0xFF line _).bind
    intro bits fits
    exact shift_below (Nat.lt_of_le_of_lt bound (by decide)) (by omega)
  -- LARP
  · apply named_or_value_yields
    intro value
    exact checked_word value _ (by decide) line _
  -- LDPK
  · apply (Yields.any _).bind
    intro value _
    exact checked_word value _ (by decide) line _
  -- MPYK
  · apply (Yields.any _).bind
    intro value _
    apply (checked_yields value _ _ line _).bind
    intro _ _
    change (value % 0x2000).toNat < 2 ^ 16
    omega
  · exact (by decide : 0 < 2 ^ 16)

/-! ## Instructions -/

/-- The first word of an instruction. -/
theorem encode_yields (operation text : Text) :
    Yields (· < 2 ^ 16) (encode symbols location line operation text) := by
  unfold encode
  apply (validateInstructionShape_yields operation text line).bind
  rintro entry ⟨found, -⟩
  apply (Yields.any _).bind
  intro operands _
  apply (operandBits_yields entry.mnemonic text).bind
  intro bits fits
  exact Nat.or_lt_two_pow (instructions_shape entry (findEntry_mem found).1).2 fits

end Statements

end Tms32010.Tools
