import Mathlib.Data.Rat.Defs
import Tms32010.Lib.Text

/-!
# Captures of the absent-RAM sentinel writes

`ram_invalid_write_capture.py`: the analysis of one direction. A run is the list of its
falling-edge samples. The analysis finds the `OUT` fetches of the fixture and the active
write cycles, pairs them by their position and reports the written words as what the
valid and the absent addresses read.
-/

namespace Tms32010.Tools.Capture

/-! ## Data -/

/-- A sample of the signals at one falling clock boundary. -/
structure EdgeSample where
  run : Text
  sample : ℤ
  timeNs : ℚ
  rsN : ℤ
  menN : ℤ
  weN : ℤ
  denN : ℤ
  address : ℤ
  data : ℤ
  deriving DecidableEq

/-- `DIRECTIONS`. -/
inductive Direction where
  | ascending | descending
  deriving DecidableEq, Repr

/-- The name of a direction. -/
def Direction.text : Direction → Text
  | .ascending => "ASCENDING".toList
  | .descending => "DESCENDING".toList

/-- What the analysis raises. -/
inductive Raised where
  | captureError (message : Text)
  | overflowError (message : Text)
  deriving DecidableEq, Repr

/-- The address and the word of a fetch. -/
abbrev Anchor := ℕ × ℕ

/-- `START_OUT`. -/
def startOut : Anchor := (0x012, 0x4F00)

/-- `VALID_SCAN_OUT`. -/
def validScanOut : Anchor := (0x01C, 0x4F88)

/-- `ABSENT_OUT`. -/
def absentOut : Direction → Anchor
  | .ascending => (0x022, 0x4FA1)
  | .descending => (0x022, 0x4F91)

/-- `END_OUT`. -/
def endOut : Anchor := (0x027, 0x4F00)

/-- `TERMINAL_BRANCH`. -/
def terminalBranch : Anchor := (0x029, 0xF900)

/-- `VALID_COUNT`. -/
def validCount : ℕ := 144

/-- `ABSENT_COUNT`. -/
def absentCount : ℕ := 112

/-- `COMPLETE_OUTPUT_COUNT`. -/
def completeOutputCount : ℕ := 258

/-- What an absent address read. -/
structure AbsentObservation where
  address : ℤ
  expectedSentinel : ℤ
  observed : ℤ
  relationship : Text
  deriving DecidableEq

/-- The analysis of a run. -/
structure Observation where
  direction : Direction
  run : Text
  classification : Text
  outputSequence : List ℤ
  outputSamples : List EdgeSample
  validScanSha256 : Option Text
  changedValidAddresses : List ℤ
  absentObservations : List AbsentObservation
  terminalSeen : Bool
  captureComplete : Bool
  fixtureValid : Bool
  warnings : List Text
  deriving DecidableEq

/-! ## Numerals -/

/-- `{value:03d}` of a count. -/
def count03 (value : ℕ) : Text := (Text.decimal value).leftpad 3 '0'

/-- `{value:04x}`. -/
def hex04 (value : ℤ) : Text :=
  if value < 0 then '-' :: (Nat.toDigits 16 value.natAbs).leftpad 3 '0'
  else (Nat.toDigits 16 value.natAbs).leftpad 4 '0'

/-- `0x{anchor[0]:03x}/0x{anchor[1]:04x}`. -/
def Anchor.text (anchor : Anchor) : Text :=
  "0x".toList ++ Text.hexDigits 3 anchor.1 ++ "/0x".toList ++ Text.hexDigits 4 anchor.2

/-- `word.to_bytes(2, byteorder="big")`. -/
def toBytes (word : ℤ) : Except Raised (List (BitVec 8)) :=
  if word < 0 then .error (.overflowError "can't convert negative int to unsigned".toList)
  else if 0xFFFF < word then .error (.overflowError "int too big to convert".toList)
  else .ok [BitVec.ofInt 8 (word / 256), BitVec.ofInt 8 word]

/-! ## Fetches -/

/-- `_program_read`. -/
def programRead (sample : EdgeSample) (address data : ℕ) : Bool :=
  sample.rsN == 1 && sample.menN == 0 && sample.weN == 1 && sample.denN == 1 &&
    sample.address == address && sample.data == data

/-- `_matches`. -/
def anchorMatches (samples : List EdgeSample) (anchor : Anchor) : List ℕ :=
  samples.findIdxs fun sample => programRead sample anchor.1 anchor.2

/-- `sample.we_n == 0`. -/
def writing (sample : EdgeSample) : Bool := sample.weN == 0

/-- An exclusive active-low port-7 write cycle. -/
def exclusive (sample : EdgeSample) : Bool :=
  sample.rsN == 1 && sample.menN == 1 && sample.weN == 0 && sample.denN == 1 && sample.address == 7

/-! ## Observations -/

/-- `_absent_address`. -/
def absentAddress : Direction → ℕ → ℤ
  | .ascending, index => 0x90 + index
  | .descending, index => 0xFF - index

/-- `_sentinel`. -/
def sentinel (index : ℕ) : ℤ := 0xA06F - index

/-- `_relationship`. -/
def relationship (observed expected : ℤ) : Text :=
  if observed = expected then "STORED_SENTINEL".toList
  else if observed = 0 then "ZERO_VALUE".toList
  else "OTHER_".toList ++ hex04 observed

/-- `_classify`. -/
def classify (outputCount changedCount : ℕ) (absent : List AbsentObservation) : Text :=
  if outputCount < completeOutputCount then "PARTIAL_OUTPUT_STREAM_".toList ++ count03 outputCount
  else if completeOutputCount < outputCount then
    "EXTRA_OUTPUT_STREAM_".toList ++ count03 outputCount
  else
    let sentinelMatches := absent.countP fun item => item.relationship == "STORED_SENTINEL".toList
    let zeroValues := absent.countP fun item => item.relationship == "ZERO_VALUE".toList
    let otherValues := absent.length - sentinelMatches - zeroValues
    "COMPLETE_VALID_CHANGED_".toList ++ count03 changedCount ++ "_SM_".toList ++
      count03 sentinelMatches ++ "_ZV_".toList ++ count03 zeroValues ++ "_OT_".toList ++
      count03 otherValues

/-- `changed_addresses`. -/
def changedAddresses (validScan : List ℤ) : List ℤ :=
  validScan.zipIdx.filterMap fun (value, index) => if value ≠ 0 then some (0x8F - index) else none

/-- `absent_observations`. -/
def absentObservations (direction : Direction) (absentValues : List ℤ) : List AbsentObservation :=
  absentValues.zipIdx.map fun (value, index) =>
    { address := absentAddress direction index
      expectedSentinel := sentinel index
      observed := value
      relationship := relationship value (sentinel index) }

/-! ## Warnings -/

/-- The warnings of the control levels. -/
def controlWarnings (outputs : List EdgeSample) : List Text :=
  outputs.zipIdx.flatMap fun (sample, index) =>
    if exclusive sample then []
    else ["output ".toList ++ Text.decimal (index + 1) ++
      " is not an exclusive active-low port-7 WE cycle".toList]

/-- `groups` with `expected_counts`. -/
def groups (direction : Direction) : List (Anchor × ℕ) :=
  [(startOut, 1), (validScanOut, validCount), (absentOut direction, absentCount), (endOut, 1)]

/-- The warnings of the counts. -/
def countWarnings (direction : Direction) (samples : List EdgeSample) : List Text :=
  (groups direction).flatMap fun (anchor, count) =>
    if (anchorMatches samples anchor).length ≠ count then
      ["OUT fetch ".toList ++ Anchor.text anchor ++ " appears ".toList ++
        Text.decimal (anchorMatches samples anchor).length ++ " times, expected ".toList ++
        Text.decimal count]
    else []

/-- The fetches that a complete capture pairs with its outputs. -/
def pairedAnchors (direction : Direction) (samples : List EdgeSample) : List ℕ :=
  if (groups direction).all fun (anchor, count) =>
      (anchorMatches samples anchor).length == count then
    anchorMatches samples startOut ++ anchorMatches samples validScanOut ++
      anchorMatches samples (absentOut direction) ++ anchorMatches samples endOut
  else []

/-- The warnings of the pairing. -/
def pairingWarnings (anchors outputs : List ℕ) : List Text :=
  (anchors.zip outputs).zipIdx.flatMap fun ((anchor, output), index) =>
    (if anchor ≥ output then
      ["output ".toList ++ Text.decimal index ++ " does not follow its checked OUT fetch".toList]
    else []) ++
    (if index + 1 < completeOutputCount ∧
        (anchors[index + 1]?).any (fun next => output ≥ next) then
      ["output ".toList ++ Text.decimal index ++ " overlaps the next checked OUT fetch".toList]
    else [])

/-- `expected_marker`. -/
def expectedMarker : Direction → ℕ
  | .ascending => 0x0041
  | .descending => 0x0042

/-- The warnings of the markers. -/
def markerWarnings (direction : Direction) (sequence : List ℤ) : List Text :=
  (if sequence.head? ≠ some ↑(expectedMarker direction) then
    ["start marker is not 0x".toList ++ Text.hexDigits 4 (expectedMarker direction)]
  else []) ++
  (if sequence.getLast? ≠ some 0x004F then ["terminal marker is not 0x004f".toList] else [])

/-- The warning of the terminal branch. -/
def terminalWarnings (terminal outputs : List ℕ) : List Text :=
  if (terminal.head?).all fun first => (outputs.getLast?).any fun last => first ≤ last then
    ["complete flow does not reach the terminal branch".toList]
  else []

/-- The warnings of an incomplete capture. -/
def partialWarnings (outputCount : ℕ) (terminal : List ℕ) : List Text :=
  (if completeOutputCount < outputCount then
    ["capture contains output cycles beyond the fixture".toList]
  else []) ++
  (if terminal ≠ [] then
    ["terminal branch appears before a complete output stream".toList]
  else [])

/-! ## The analysis -/

section Locals

variable (direction : Direction) (samples : List EdgeSample)

/-- `output_indexes`. -/
def outputIndexes : List ℕ := samples.findIdxs writing

/-- `outputs`. -/
def outputs : List EdgeSample := (outputIndexes samples).filterMap fun index => samples[index]?

/-- `sequence`. -/
def sequence : List ℤ := (outputs samples).map EdgeSample.data

/-- `capture_complete`. -/
def captureComplete : Bool := (sequence samples).length == completeOutputCount

/-- `anchor_indexes`. -/
def anchorIndexes : List ℕ :=
  if captureComplete samples then pairedAnchors direction samples else []

/-- `valid_scan`. -/
def validScan : List ℤ :=
  if captureComplete samples then ((sequence samples).drop 1).take validCount else []

/-- `absent_values`. -/
def absentValues : List ℤ :=
  if captureComplete samples then ((sequence samples).drop (1 + validCount)).dropLast else []

/-- `warnings`. -/
def warnings : List Text :=
  controlWarnings (outputs samples) ++
    if captureComplete samples then
      countWarnings direction samples ++
        pairingWarnings (anchorIndexes direction samples) (outputIndexes samples) ++
        markerWarnings direction (sequence samples) ++
        terminalWarnings (anchorMatches samples terminalBranch) (outputIndexes samples)
    else partialWarnings (sequence samples).length (anchorMatches samples terminalBranch)

/-- `last_event`. -/
def lastEvent : ℕ :=
  (anchorMatches samples startOut ++ anchorIndexes direction samples ++
    outputIndexes samples).foldl max 0

/-- The observation of a run, with the digest of its valid scan. -/
def observe (run : Text) (validScanSha256 : Option Text) : Observation where
  direction := direction
  run := run
  classification := classify (sequence samples).length (changedAddresses (validScan samples)).length
    (absentObservations direction (absentValues samples))
  outputSequence := sequence samples
  outputSamples := outputs samples
  validScanSha256 := validScanSha256
  changedValidAddresses := changedAddresses (validScan samples)
  absentObservations := absentObservations direction (absentValues samples)
  terminalSeen := anchorMatches samples terminalBranch ≠ []
  captureComplete := captureComplete samples
  fixtureValid := warnings direction samples = []
  warnings := warnings direction samples

end Locals

section Analysis

-- `sha256(data).hexdigest()`
variable (hexdigest : List (BitVec 8) → Text)

/-- `_hash_words`. -/
def hashWords (words : List ℤ) : Except Raised Text := do
  let bytes ← words.mapM toBytes
  return hexdigest bytes.flatten

/-- `analyze_direction` on one run. -/
def analyzeRun (direction : Direction) (run : Text) (samples : List EdgeSample) :
    Except Raised Observation :=
  if anchorMatches samples startOut = [] then
    .error (.captureError (direction.text ++ " run ".toList ++ Text.quoted run ++
      ": exact start-marker OUT fetch is absent".toList))
  else if lastEvent direction samples + 4 ≥ samples.length then
    .error (.captureError (direction.text ++ " run ".toList ++ Text.quoted run ++
      ": fewer than four falling boundaries follow the last checked fetch/output event".toList))
  else if (validScan samples).length = validCount then do
    let digest ← hashWords hexdigest (validScan samples)
    return observe direction samples run (some digest)
  else .ok (observe direction samples run none)

/-- `analyze_direction`. -/
def analyzeDirection (direction : Direction) (runs : List (Text × List EdgeSample)) :
    Except Raised (List Observation) :=
  runs.mapM fun (run, samples) => analyzeRun hexdigest direction run samples

end Analysis

end Tms32010.Tools.Capture
