import Tms32010.Tools.Database

/-!
# Disassembler

`disassemble_word` and `disassemble_source`. The families with an addressing byte differ in
what stands before the data operand and after it.
-/

namespace Tms32010.Tools

/-- `operands[name]`. -/
def Fields.value (operands : Fields) (name : FieldName) : Except Failure ℤ :=
  match operands.lookup name with
  | some value => .ok value
  | none => .error .keyError

/-- The data directive that stands for a word. -/
def wordText (word : ℕ) : Text := ".word 0x".toList ++ Text.hexDigits 4 word

/-- The dictionary of the modifiers. -/
def modifierText (update : ℕ) : Except Failure Text :=
  if update = 0x00 then .ok "*".toList
  else if update = 0x20 then .ok "*+".toList
  else if update = 0x10 then .ok "*-".toList
  else .error .keyError

/-- A word with an addressing byte: `lead` stands before the data operand, `suffix` after it,
and `filled` after it where the next auxiliary register follows. Both a kept and a selected
register cannot be written. -/
def addressedText (mnemonic : Mnemonic) (operands : Fields) (word : ℕ)
    (lead suffix filled : Text) : Except Failure Text := do
  let indirect ← operands.value .indirect
  let control := (← operands.value .addressingField).toNat
  if indirect = 0 then
    return mnemonicText mnemonic ++ ' ' :: (lead ++ Text.decimal control ++ suffix)
  else
    let modifier ← modifierText (control &&& 0x30)
    if control &&& 0x08 ≠ 0 then
      if control &&& 1 ≠ 0 then return wordText word
      else return mnemonicText mnemonic ++ ' ' :: (lead ++ modifier ++ suffix)
    else
      return mnemonicText mnemonic ++
        ' ' :: (lead ++ modifier ++ filled ++ ',' :: Text.decimal (control &&& 1))

/-- A shift that is printed when it is not zero. -/
def shiftedText (mnemonic : Mnemonic) (operands : Fields) (word : ℕ) : Except Failure Text := do
  let shift ← operands.value .shift
  addressedText mnemonic operands word [] (if shift = 0 then [] else ',' :: Text.signed shift)
    (',' :: Text.signed shift)

/-- `disassemble_word` of a decoded word. -/
def decodedText (mnemonic : Mnemonic) (operands : Fields) (word : ℕ) : Except Failure Text :=
  match mnemonic with
  | .b | .banz | .bgez | .bgz | .bioz | .blez | .blz | .bnz | .bv | .bz | .call =>
      .ok (wordText word)
  | .lack | .mpyk => do
      return mnemonicText mnemonic ++ ' ' :: Text.signed (← operands.value .constant)
  | .in | .out => do
      let port ← operands.value .port
      addressedText mnemonic operands word [] (',' :: Text.signed port) (',' :: Text.signed port)
  | .add | .lac | .sub => shiftedText mnemonic operands word
  | .sacl => addressedText mnemonic operands word [] [] ",0".toList
  | .sach => shiftedText mnemonic operands word
  | .addh | .adds | .and | .dmov | .ldp | .lst | .lt | .lta | .ltd | .mar | .mpy | .or | .sst
  | .subc | .subh | .subs | .tblr | .tblw | .xor | .zalh | .zals =>
      addressedText mnemonic operands word [] [] []
  | .lar | .sar => do
      let register ← operands.value .auxiliaryRegister
      addressedText mnemonic operands word ("AR".toList ++ Text.signed register ++ [',']) [] []
  | .lark => do
      let register ← operands.value .auxiliaryRegister
      let constant ← operands.value .constant
      return mnemonicText mnemonic ++
        ' ' :: ("AR".toList ++ Text.signed register ++ ',' :: Text.signed constant)
  | .larp | .ldpk => do
      return mnemonicText mnemonic ++ ' ' :: Text.signed (← operands.value .constant)
  | _ => .ok (mnemonicText mnemonic)

/-- `disassemble_word`. -/
def disassembleWord (word : ℕ) : Except Failure Text := do
  match ← decodeWord word with
  | none => return wordText word
  | some (entry, operands) => decodedText entry.mnemonic operands word

/-- The row of a two-word instruction with its target, when the two words are one. -/
def pairText? (word target : ℕ) : Except Failure (Option Text) := do
  match ← decodeWord word with
  | some (entry, _) =>
      if entry.mnemonic.twoWordControlFlow ∧ target &&& 0xF000 = 0 then
        return some (mnemonicText entry.mnemonic ++ ' ' :: ("0x".toList ++ Text.hexDigits 3 target))
      else return none
  | none => return none

/-- The rows of `disassemble_source`, without their line ends. -/
def disassembleRows : List ℕ → Except Failure (List Text)
  | [] => .ok []
  | [word] => do return [← disassembleWord word]
  | word :: target :: rest => do
      match ← pairText? word target with
      | some row => return row :: (← disassembleRows rest)
      | none => return (← disassembleWord word) :: (← disassembleRows (target :: rest))

/-- `disassemble_source`. -/
def disassembleSource (words : List ℕ) : Except Failure Text := do
  return ((← disassembleRows words).map (· ++ ['\n'])).flatten

end Tms32010.Tools
