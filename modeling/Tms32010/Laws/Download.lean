import Tms32010.Laws.AssembledRuns
import Tms32010.Laws.Boot

/-!
# Downloaded programs run as written

The whole way from the text to the processor: the assembler makes words of a text, the
local 68000 stores them in the program RAM with its bus cycles and releases the processor,
and the processor then executes the instructions of the text.
-/

namespace Tms32010.Board.SoundBoard

open Model (trajectory embed Along)
open Rtl
open Timeline (stored stored_some)
open Tools (AssemblyResult SourceLine Failure Spares AsWritten)

/-- The last word that transactions load at the address of an assembled word is that word. -/
def Delivered (result : AssemblyResult) (ts : List Transaction) : Prop :=
  ∀ address word, result.words.lookup address = some word →
    ∃ first t later, ts = first ++ t :: later ∧
      t.load? = some (BitVec.ofNat 12 address, BitVec.ofInt 16 word) ∧
      ∀ other ∈ later, other.load?.map Prod.fst ≠ some (BitVec.ofNat 12 address)

section Loads

variable {program : BitVec 12 → BitVec 16} {ts : List Transaction} {place : BitVec 12}

/-- Transactions that do not load an address leave it alone. -/
theorem loaded_of_spared (spared : ∀ t ∈ ts, t.load?.map Prod.fst ≠ some place) :
    loaded program ts place = program place := by
  induction ts generalizing program with
  | nil => rfl
  | cons t ts ih =>
      rw [List.forall_mem_cons] at spared
      refine (ih spared.2).trans ?_
      change stored program t.load? place = program place
      cases loads : t.load? with
      | none => rfl
      | some store =>
          rcases store with ⟨address, value⟩
          have apart : place ≠ address := by
            rintro rfl
            exact spared.1 (by rw [loads]; rfl)
          rw [stored_some]
          exact Function.update_of_ne apart _ _

theorem Delivered.loaded {result : AssemblyResult} (delivered : Delivered result ts)
    {address : ℕ} {word : ℤ} (found : result.words.lookup address = some word) :
    loaded program ts (BitVec.ofNat 12 address) = BitVec.ofInt 16 word := by
  rcases delivered address word found with ⟨first, t, later, rfl, loads, spared⟩
  unfold SoundBoard.loaded
  rw [List.foldl_append, List.foldl_cons, loads]
  refine (loaded_of_spared spared).trans ?_
  exact Function.update_self _ _ _

end Loads

/-! ## Downloads -/

section Download

variable [Tools.Interpreter] (start : State) (inputs : ℕ → Inputs) (last count : ℕ)

/-- The completed steps of the processor after a release are calls of the reference model
that execute the statements, as long as these are not stored over. -/
def ExecutesText (lines : List SourceLine) (result : AssemblyResult) : Prop :=
  ∀ pins,
    let origin := embed pins
      (SoundMister.architectureAt start.shared (sharedInputs inputs) (last + 1) 0)
    let clocks := SoundMister.sliceClocks start.shared (sharedInputs inputs) (last + 1) count
    let steps := Slice.Attached.device.steps []
      (SoundMister.hostedAt start.shared (sharedInputs inputs) (last + 1)).slice clocks
    ∃ calls, trajectory origin (steps.map fun step => Slice.stepPins step.1) = .ok calls ∧
      (∃ places : List ℕ, places.Pairwise (· < ·) ∧ places.length = steps.length ∧
        List.Forall₂ (fun shown call => SoundMister.ShowsBoard start.shared (sharedInputs inputs)
          (last + 1) count shown.1 shown.2 call) (places.zip steps) calls) ∧
      (Along (Spares result) origin (steps.map fun step => Slice.stepPins step.1) calls →
        Along (AsWritten lines result) origin (steps.map fun step => Slice.stepPins step.1) calls)

variable {start inputs last count} {release : ℕ} {lines : List SourceLine}
  {result : AssemblyResult}

/-- The processor starts on the words of the result. -/
theorem Boots.carried (boots : Boots start inputs release last count)
    (agreement : Tools.Agreement lines result)
    (delivered : Delivered result (transactionsBefore start inputs (last + 1)))
    (pins : Isa.Input) :
    Tools.Carried result (embed pins
      (SoundMister.architectureAt start.shared (sharedInputs inputs) (last + 1) 0)).program := by
  intro address word found
  rcases agreement.range _ (Tools.mem_of_lookup found) with ⟨small, low, high⟩
  have place : (BitVec.ofNat 12 address).toNat = address := by
    rw [BitVec.toNat_ofNat]
    exact Nat.mod_eq_of_lt small
  have stored : SoundMister.programAt start.shared (sharedInputs inputs) (last + 1)
      (BitVec.ofNat 12 address) = BitVec.ofInt 16 word := by
    rw [boots.program]
    exact delivered.loaded found
  have value : (BitVec.ofInt 16 word).toNat = word.toNat := by
    rw [BitVec.toNat_ofInt]
    omega
  have held := Model.embed_program pins
    (SoundMister.architectureAt start.shared (sharedInputs inputs) (last + 1) 0)
    (BitVec.ofNat 12 address)
  rw [place] at held
  rw [held, ← value, ← stored]
  rfl

/-- A text that is assembled and downloaded is executed as it is written. -/
theorem download_runs_as_written (expandFile : Text → Except Failure (List SourceLine))
    (sourceName text : Text) {result : AssemblyResult}
    (assembled : Tools.assembleText expandFile sourceName text = .ok result)
    (boots : Boots start inputs release last count)
    (delivered : Delivered result (transactionsBefore start inputs (last + 1))) :
    ∃ lines, Tools.expandText expandFile sourceName text = .ok lines ∧
      (∀ (n : ℕ) (line : SourceLine) operation operandText, lines[n]? = some line →
        line.operation? = some (operation, operandText) →
        operation ≠ ".ORG".toList ∧ operation ≠ ".WORD".toList →
        ∃ location said, Tools.Stated lines result location said) ∧
      ExecutesText start inputs last count lines result := by
  rcases Tools.assembleText_agrees assembled with ⟨lines, expanded, agreement⟩
  refine ⟨lines, expanded, ?_, fun pins => ?_⟩
  · intro n line _ _ element instruction plain
    rcases agreement.stated element instruction plain with ⟨location, said, -, stated⟩
    exact ⟨location, said, stated⟩
  rcases boots.runsModel.follows pins with ⟨-, calls, ran, shows, -⟩
  exact ⟨calls, ran, shows, fun spares => agreement.along (Model.embed_wellFormed _ _)
    (boots.carried agreement delivered pins) ran spares⟩

end Download

/-- The transactions that download the idle loop. -/
theorem download_delivers : transactionsBefore powerUp downloadInputs 37 =
    [⟨⟨0x40a000, false, false, false⟩, 0xf900⟩, ⟨⟨0x40a001, false, false, false⟩, 0⟩,
      ⟨⟨0x40880c, false, false, false⟩, 0⟩] := by
  rw [download_after (by decide)]
  decide +kernel

theorem download_runs_as_written_loop :
    ∃ result lines, @Tools.assembleText .plain (fun _ => .error .keyError) []
        "LOOP: B LOOP".toList = .ok result ∧
      @ExecutesText .plain powerUp downloadInputs 36 40 lines result := by
  have words : (@Tools.assembleText .plain (fun _ => .error .keyError) []
      "LOOP: B LOOP".toList).map (·.words) = .ok [(0, 0xF900), (1, 0)] := by
    decide +kernel
  cases assembled : @Tools.assembleText .plain (fun _ => .error .keyError) []
      "LOOP: B LOOP".toList with
  | error raised =>
      rw [assembled] at words
      cases words
  | ok result =>
      rw [assembled] at words
      have holds : result.words = [(0, 0xF900), (1, 0)] := Except.ok.inj words
      have delivered : Delivered result (transactionsBefore powerUp downloadInputs (36 + 1)) := by
        intro address word found
        rw [download_delivers]
        have among := Tools.mem_of_lookup found
        rw [holds] at among
        simp only [List.mem_cons, Prod.mk.injEq, List.not_mem_nil, or_false] at among
        rcases among with ⟨rfl, rfl⟩ | ⟨rfl, rfl⟩
        · exact ⟨[], _, _, rfl, by decide, by decide⟩
        · exact ⟨[_], _, _, rfl, by decide, by decide⟩
      rcases @download_runs_as_written .plain _ _ _ _ _ _ [] _ _ assembled download_boots
        delivered with
        ⟨lines, -, -, executes⟩
      exact ⟨result, lines, rfl, executes⟩

end Tms32010.Board.SoundBoard
