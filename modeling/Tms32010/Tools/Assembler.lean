import Tms32010.Lib.WordBytes
import Tms32010.Tools.Interpreter

/-!
# Assembler

The two passes of `_assemble` and what they call, on any interpreter. Included files are
read through a parameter.
-/

namespace Tms32010.Tools

/-- `PROGRAM_WORDS`. -/
abbrev programWords : ℕ := 4096

/-- `SourceLine`. -/
structure SourceLine where
  path : Text
  number : ℕ
  text : Text
  deriving DecidableEq, Repr

/-- `error`. -/
def SourceLine.error (line : SourceLine) (message : Text) : Failure :=
  .assemblyError
    (line.path ++ ':' :: (Text.decimal line.number ++ ": ".toList ++ message))

/-- `ListingRow`. -/
structure ListingRow where
  address : ℕ
  word : ℤ
  source : SourceLine
  deriving DecidableEq, Repr

/-- `AssemblyResult`; a dictionary is a list of pairs without repeated keys. -/
structure AssemblyResult where
  words : List (ℕ × ℤ) := []
  listing : List ListingRow := []
  symbols : List (Text × ℕ) := []
  deriving DecidableEq, Repr

/-! ## Lines -/

/-- `_statement`. -/
def statement (text : Text) : Text := Text.strip (text.takeWhile (· ≠ ';'))

/-- `[A-Za-z0-9_]`. -/
def isIdentifierCharacter (c : Char) : Bool := c.isAlphanum || c == '_'

/-- The match of `LABEL_PATTERN`, and what follows it. -/
def label? (text : Text) : Option (Text × Text) :=
  match text, text.dropWhile isIdentifierCharacter with
  | first :: _, ':' :: rest =>
      if (first.isAlpha || first == '_') then
        some (text.takeWhile isIdentifierCharacter, rest)
      else none
  | _, _ => none

section Lines

variable [Interpreter]

/-- The file name of an `.include` directive. -/
def includeName? (text : Text) : Option Text :=
  let directive := text.take 8
  let after := text.drop 8
  match after, after.dropWhile Text.isSpace with
  | space :: _, '"' :: quotedName =>
      let name := quotedName.takeWhile (· ≠ '"')
      if directive.length = 8 ∧
          (List.zipWith Interpreter.sameLetter ".include".toList directive).all id ∧
          Text.isSpace space ∧ name ≠ [] ∧ quotedName.dropWhile (· ≠ '"') = ['"'] then
        some name
      else none
  | _, _ => none

/-- `_split_label`. -/
def splitLabel (line : SourceLine) : Text × Option Text :=
  match label? (statement line.text) with
  | some (label, rest) => (Text.strip rest, some (Interpreter.upper label))
  | none => (statement line.text, none)

/-- `_split_operation`, of a statement that is not empty. -/
def splitOperation (statement : Text) : Text × Text :=
  match Text.splitSpace statement with
  | [] => ([], [])
  | [operation] => (Interpreter.upper operation, [])
  | operation :: operands :: _ => (Interpreter.upper operation, Text.strip operands)

/-- `_operand_list`. -/
def operandList (text : Text) (line : SourceLine) : Except Failure (List Text) :=
  let operands := (text.splitOn ',').map Text.strip
  if text.isEmpty || operands.any (·.isEmpty) then .error (line.error "missing operand".toList)
  else .ok operands

/-- `_expand_text`; `expandFile` is `_expand_file` on the name of an included file. -/
def expandText (expandFile : Text → Except Failure (List SourceLine)) (sourceName text : Text) :
    Except Failure (List SourceLine) := do
  let parts ← ((Text.splitlines text).zipIdx 1).mapM fun (row, number) =>
    match includeName? (statement row) with
    | some name => expandFile name
    | none => .ok [⟨sourceName, number, row⟩]
  return parts.flatten

end Lines

/-! ## Expressions -/

/-- `[0-9A-Fa-f]`. -/
def isHexDigit (c : Char) : Bool :=
  c.isDigit || ('a' ≤ c && c ≤ 'f') || ('A' ≤ c && c ≤ 'F')

/-- The substitution of `TI_HEX_PATTERN`; `after` tells of the character before. -/
def tiHex (after : Bool) : Text → Text
  | '>' :: c :: rest =>
      if !after && isHexDigit c then '0' :: 'x' :: tiHex false (c :: rest)
      else '>' :: tiHex false (c :: rest)
  | c :: rest => c :: tiHex (isIdentifierCharacter c) rest
  | [] => []

/-- The text the expression is parsed from. -/
def normalized (expression : Text) : Text :=
  (tiHex false expression).flatMap fun c => if c = '$' then "__CURRENT".toList else [c]

section Operands

variable [Interpreter]

/-- The names an expression can use. -/
def currentNames (symbols : List (Text × ℕ)) (location : ℕ) : List (Text × ℤ) :=
  ("__CURRENT".toList, (location : ℤ)) ::
    symbols.map fun symbol => (Interpreter.upper symbol.1, (symbol.2 : ℤ))

/-- What `_evaluate` tries: the value of an expression where it is called. -/
def visited (site : CallSite) (expression : Text) (symbols : List (Text × ℕ)) (location : ℕ) :
    Except Failure ℤ := do
  let tree ← Interpreter.parse (normalized expression)
  tree.visit (currentNames symbols location) (Interpreter.levels site)

/-- `_evaluate`. -/
def evaluate (site : CallSite) (expression : Text) (symbols : List (Text × ℕ)) (location : ℕ)
    (line : SourceLine) : Except Failure ℤ :=
  match visited site expression symbols location with
  | .ok value => .ok value
  | .error raised =>
      match raised.reason? with
      | some reason =>
          .error
            (line.error
              ("invalid expression ".toList ++ Interpreter.repr expression ++ ": ".toList ++
                reason))
      | none => .error raised

/-- An error whose message ends with an integer. -/
def SourceLine.errorWith (line : SourceLine) (message : Text) (value : ℤ) : Failure :=
  match str value with
  | .ok digits => line.error (message ++ ": ".toList ++ digits)
  | .error raised => raised

/-- `_auxiliary_register`. -/
def auxiliaryRegister (text : Text) (line : SourceLine) : Except Failure ℕ :=
  let normalized := Interpreter.upper (Text.strip text)
  if normalized = "AR0".toList ∨ normalized = "0".toList then .ok 0
  else if normalized = "AR1".toList ∨ normalized = "1".toList then .ok 1
  else
    .error
      (line.error
        ("auxiliary register must be AR0 or AR1, got ".toList ++ Interpreter.repr text))

/-- The number of an I/O port. -/
def portNumber? (text : Text) : Option ℤ :=
  let upper := Interpreter.upper (Text.strip text)
  Interpreter.int (if upper.take 2 = "PA".toList then upper.drop 2 else upper)

/-- `_io_port`. -/
def ioPort (text : Text) (line : SourceLine) : Except Failure ℕ :=
  match portNumber? text with
  | none =>
      .error
        (line.error
          ("I/O port must be PA0 through PA7 or 0 through 7, got ".toList ++
            Interpreter.repr text))
  | some value =>
      if 0 ≤ value ∧ value ≤ 7 then .ok value.toNat
      else .error (line.errorWith "I/O port out of range 0..7".toList value)

/-- A value between two bounds, or the error that shows it. -/
def checked (value low high : ℤ) (line : SourceLine) (message : Text) : Except Failure ℕ :=
  if low ≤ value ∧ value ≤ high then .ok value.toNat
  else .error (line.errorWith message value)

/-- `_checked_address`. -/
def checkedAddress (value : ℤ) (line : SourceLine) : Except Failure ℕ :=
  checked value 0 (programWords - 1) line "program address out of range".toList

end Operands

/-- `_checked_location`. -/
def checkedLocation (value : ℕ) (line : SourceLine) : Except Failure ℕ :=
  if value ≤ programWords then .ok value
  else .error (line.error "program exceeds 4096-word address space".toList)

/-- `operands[i]`. -/
def operand (operands : List Text) (i : ℕ) : Except Failure Text :=
  match operands[i]? with
  | some text => .ok text
  | none => .error .indexError

/-! ## Instructions -/

/-- `self.entries.get(operation)`. -/
def findEntry (operation : Text) : Option Entry :=
  instructions.find? fun entry => mnemonicText entry.mnemonic = operation

/-- What `_validate_instruction_shape` expects. -/
def expectation (minimum maximum : ℕ) : Text :=
  if minimum = maximum then
    if maximum = 0 then "no operands".toList
    else
      Text.decimal maximum ++ " operand".toList ++ (if maximum ≠ 1 then "s".toList else [])
  else Text.decimal minimum ++ " to ".toList ++ Text.decimal maximum ++ " operands".toList

/-- The operands of an instruction; none when the text is empty. -/
def instructionOperands (operandText : Text) (line : SourceLine) : Except Failure (List Text) :=
  if operandText.isEmpty then .ok [] else operandList operandText line

/-- `_validate_instruction_shape`, with the entry it finds. -/
def validateInstructionShape (operation operandText : Text) (line : SourceLine) :
    Except Failure Entry :=
  match findEntry operation with
  | none =>
      if operation ∈ documented then
        .error
          (line.error
            ("documented instruction ".toList ++ operation ++ " is not implemented".toList))
      else if operation.head? = some '.' then
        .error (line.error ("unknown directive ".toList ++ operation))
      else .error (line.error ("unknown instruction ".toList ++ operation))
  | some entry => do
      let minimum := (entry.operands.filter fun item => !item.optional).length
      let maximum := entry.operands.length
      let actual := (← instructionOperands operandText line).length
      if minimum ≤ actual ∧ actual ≤ maximum then return entry
      else
        throw (line.error (operation ++ " expects ".toList ++ expectation minimum maximum))

section Encoding

variable [Interpreter] (symbols : List (Text × ℕ)) (location : ℕ) (line : SourceLine)

/-- The next auxiliary register of an indirect operand. -/
def nextArp (operation text : Text) : Except Failure ℕ := do
  let upper := Interpreter.upper (Text.strip text)
  let value ←
    if upper = "AR0".toList ∨ upper = "AR1".toList then
      (fun register : ℕ => (register : ℤ)) <$> auxiliaryRegister upper line
    else evaluate .encodeDataAddress text symbols location line
  checked value 0 1 line (operation ++ " next ARP out of range 0..1".toList)

/-- The `indirect_controls`. -/
def indirectControl? (addressing : Text) : Option ℕ :=
  if addressing = "*".toList then some 0x88
  else if addressing = "*+".toList then some 0xA8
  else if addressing = "*-".toList then some 0x98
  else none

/-- `_encode_data_address`; `0xF6` is the complement of `0x09` in the control byte. -/
def encodeDataAddress (operation : Text) (operands : List Text) (nextArpIndex : ℕ) :
    Except Failure ℕ := do
  let first ← operand operands 0
  match indirectControl? (Interpreter.upper (first.filter (· ≠ ' '))) with
  | some control =>
      match operands[nextArpIndex]? with
      | some text => return (control &&& 0xF6) ||| (← nextArp symbols location line operation text)
      | none => return control
  | none =>
      if nextArpIndex < operands.length then
        throw
          (line.error (operation ++ " next ARP is valid only with indirect addressing".toList))
      else
        let limit : ℕ := if operation = "SST".toList then 15 else 127
        checked (← evaluate .encodeDataAddress first symbols location line) 0 limit line
          (operation ++ " direct address out of range 0..".toList ++ Text.decimal limit)

/-- An optional shift operand. -/
def optionalShift (operands : List Text) : Except Failure ℤ :=
  match operands[1]? with
  | some text => evaluate .encode text symbols location line
  | none => .ok 0

/-- `SACH` has three shifts. -/
def sachShift (value : ℤ) : Except Failure ℕ :=
  if value = 0 ∨ value = 1 ∨ value = 4 then .ok value.toNat
  else .error (line.errorWith "SACH shift must be exactly 0, 1, or 4".toList value)

/-- `SACL` has a placeholder for a shift. -/
def saclShift (value : ℤ) : Except Failure Unit :=
  if value = 0 then .ok ()
  else .error (line.errorWith "SACL has no shift; explicit placeholder must be 0".toList value)

/-- What `_encode` adds to the fixed bits of an entry. -/
def operandBits (mnemonic : Mnemonic) (operandText : Text) (operands : List Text) :
    Except Failure ℕ := do
  let operation := mnemonicText mnemonic
  match mnemonic with
  | .lack =>
      checked (← evaluate .encode operandText symbols location line) 0 0xFF line
        "LACK constant out of range 0..255".toList
  | .b | .banz | .bgez | .bgz | .bioz | .blez | .blz | .bnz | .bv | .bz | .call =>
      let _ ← checked (← evaluate .encode operandText symbols location line) 0 (programWords - 1)
        line (operation ++ " program address out of range 0..4095".toList)
      return 0
  | .add | .lac | .sub =>
      let shift ← checked (← optionalShift symbols location line operands) 0 15 line
        (operation ++ " shift out of range 0..15".toList)
      return shift <<< 8 ||| (← encodeDataAddress symbols location line operation operands 2)
  | .sacl =>
      saclShift line (← optionalShift symbols location line operands)
      encodeDataAddress symbols location line operation operands 2
  | .sach =>
      let shift ← sachShift line (← optionalShift symbols location line operands)
      return shift <<< 8 ||| (← encodeDataAddress symbols location line operation operands 2)
  | .in | .out =>
      let port ← ioPort (← operand operands 1) line
      return port <<< 8 ||| (← encodeDataAddress symbols location line operation operands 2)
  | .addh | .adds | .and | .dmov | .ldp | .lst | .lt | .lta | .ltd | .mar | .mpy | .or | .sst
  | .subc | .subh | .subs | .tblr | .tblw | .xor | .zalh | .zals =>
      encodeDataAddress symbols location line operation operands 1
  | .lar | .sar =>
      let register ← auxiliaryRegister (← operand operands 0) line
      return register <<< 8 |||
        (← encodeDataAddress symbols location line operation (operands.drop 1) 1)
  | .lark =>
      let register ← auxiliaryRegister (← operand operands 0) line
      let value ← checked (← evaluate .encode (← operand operands 1) symbols location line) 0 0xFF
        line "LARK constant out of range 0..255".toList
      return register <<< 8 ||| value
  | .larp =>
      let upper := Interpreter.upper (Text.strip operandText)
      let value ←
        if upper = "AR0".toList ∨ upper = "AR1".toList then
          (fun register : ℕ => (register : ℤ)) <$> auxiliaryRegister operandText line
        else evaluate .encode operandText symbols location line
      checked value 0 1 line (operation ++ " constant out of range 0..1".toList)
  | .ldpk =>
      checked (← evaluate .encode operandText symbols location line) 0 1 line
        (operation ++ " constant out of range 0..1".toList)
  | .mpyk =>
      let value ← evaluate .encode operandText symbols location line
      let _ ← checked value (-4096) 4095 line "MPYK constant out of range -4096..4095".toList
      return (value % 0x2000).toNat
  | _ => return 0

/-- `_encode`. -/
def encode (operation operandText : Text) : Except Failure ℕ := do
  let entry ← validateInstructionShape operation operandText line
  let operands ← instructionOperands operandText line
  return entry.opcode.value |||
    (← operandBits symbols location line entry.mnemonic operandText operands)

end Encoding

/-! ## Passes -/

section Passes

variable [Interpreter]

/-- The operations of `TWO_WORD_CONTROL_FLOW`. -/
def twoWordOperations : List Text :=
  ["B", "BANZ", "BGEZ", "BGZ", "BIOZ", "BLEZ", "BLZ", "BNZ", "BV", "BZ", "CALL"].map String.toList

/-- What the first pass carries from line to line. -/
structure Survey where
  symbols : List (Text × ℕ) := []
  location : ℕ := 0
  deriving DecidableEq, Repr

/-- The location after a statement. -/
def nextLocation (symbols : List (Text × ℕ)) (location : ℕ) (statement : Text)
    (line : SourceLine) : Except Failure ℕ := do
  let (operation, operandText) := splitOperation statement
  if operation = ".ORG".toList then
    checkedAddress (← evaluate .assemble operandText symbols location line) line
  else if operation = ".WORD".toList then
    checkedLocation (location + (← operandList operandText line).length) line
  else
    checkedLocation (location + (← validateInstructionShape operation operandText line).wordCount)
      line

/-- A line in the first pass. -/
def surveyLine (survey : Survey) (line : SourceLine) : Except Failure Survey := do
  let (statement, label) := splitLabel line
  let symbols ←
    match label with
    | some label =>
        if (survey.symbols.lookup label).isSome then
          throw (line.error ("duplicate label ".toList ++ label))
        else pure (survey.symbols ++ [(label, survey.location)])
    | none => pure survey.symbols
  if statement.isEmpty then return ⟨symbols, survey.location⟩
  else return ⟨symbols, ← nextLocation symbols survey.location statement line⟩

/-- What the second pass carries from line to line. -/
structure Emission where
  words : List (ℕ × ℤ) := []
  listing : List ListingRow := []
  location : ℕ := 0
  deriving DecidableEq, Repr

/-- `_emit` at the location, which it then passes. -/
def emit (emission : Emission) (word : ℤ) (line : SourceLine) : Except Failure Emission :=
  if ¬emission.location < programWords then
    .error
      (line.error ("program address out of range: ".toList ++ Text.decimal emission.location))
  else if (emission.words.lookup emission.location).isSome then
    .error
      (line.error
        ("address 0x".toList ++ Text.hexDigits 3 emission.location ++
          " already contains a word".toList))
  else
    .ok
      { words := emission.words ++ [(emission.location, word)]
        listing := emission.listing ++ [⟨emission.location, word, line⟩]
        location := emission.location + 1 }

/-- A value of a data directive. -/
def emitValue (line : SourceLine) (emission : Emission) (value : ℤ) : Except Failure Emission := do
  let _ ← checked value 0 0xFFFF line ".word value out of range".toList
  emit emission value line

/-- A statement in the second pass. -/
def emitStatement (symbols : List (Text × ℕ)) (emission : Emission) (statement : Text)
    (line : SourceLine) : Except Failure Emission := do
  let (operation, operandText) := splitOperation statement
  if operation = ".ORG".toList then
    let location ←
      checkedAddress (← evaluate .assemble operandText symbols emission.location line) line
    return { emission with location }
  else if operation = ".WORD".toList then
    let values ← ((← operandList operandText line).zipIdx).mapM fun (expression, offset) =>
      evaluate .comprehension expression symbols (emission.location + offset) line
    values.foldlM (emitValue line) emission
  else
    let word ← encode symbols emission.location line operation operandText
    let first ← emit emission word line
    if operation ∈ twoWordOperations then
      emit first (← evaluate .assemble operandText symbols emission.location line) line
    else return first

/-- A line in the second pass. -/
def emitLine (symbols : List (Text × ℕ)) (emission : Emission) (line : SourceLine) :
    Except Failure Emission :=
  if (splitLabel line).1.isEmpty then .ok emission
  else emitStatement symbols emission (splitLabel line).1 line

/-- `_assemble`. -/
def assemble (lines : List SourceLine) : Except Failure AssemblyResult := do
  let survey ← lines.foldlM surveyLine {}
  let emission ← lines.foldlM (emitLine survey.symbols) {}
  return ⟨emission.words, emission.listing, survey.symbols⟩

/-- `assemble_text`. -/
def assembleText (expandFile : Text → Except Failure (List SourceLine)) (sourceName text : Text) :
    Except Failure AssemblyResult := do
  assemble (← expandText expandFile sourceName text)

end Passes

/-! ## Images -/

/-- `address_range`, as its length. -/
def AssemblyResult.addressRange (result : AssemblyResult) : ℕ :=
  (result.words.map (·.1 + 1)).foldl max 0

/-- `to_bytes(2, byteorder)`. -/
def toBytes (byteorder : ByteOrder) (word : ℤ) : Except Failure (List ℕ) :=
  if 0 ≤ word ∧ word ≤ 0xFFFF then .ok (byteorder.bytes word.toNat) else .error .overflowError

/-- `raw_bytes`. -/
def AssemblyResult.rawBytes (result : AssemblyResult) (byteorder : ByteOrder) (fill : ℕ := 0) :
    Except Failure (List ℕ) := do
  if fill ≤ 0xFFFF then
    let bytes ← (List.range result.addressRange).mapM fun address =>
      toBytes byteorder ((result.words.lookup address).getD fill)
    return bytes.flatten
  else throw (.valueError "fill must be a 16-bit word".toList)

end Tms32010.Tools
