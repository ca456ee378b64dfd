import Tms32010.Laws.CoreRuns
import Tms32010.Rtl.PhaseSlice

/-!
# The bus trace of the phase slice

The bus cycles on the pins of the phase slice are, in order, the program-space and
I/O-space transactions the reference model records for its successive steps, one bus
cycle for every machine cycle.
-/

namespace Tms32010.Rtl

open Model (Tms32010Model StepTrace trajectory embed)
open Slice (Inputs lastModel)
open Tms32010.Rtl.Core (Hosted Cycle Stage Shown Takes Stuck Executes pins ShowsCall)

namespace Core

section Stages

variable {p : Params} {a : Isa.State} {σ : Hosted} {i : Inputs} {made : List Cycle}

/-- While a table access is underway no port transfer is. -/
theorem Stage.apart (stage : Stage p a σ made) (table : σ.core.tablePending = true) :
    σ.core.ioPending = false := by
  cases stage with
  | shown stage => exact stage.idle.io
  | control stage => exact stage.pending.io
  | computed stage => exact stage.pending.io
  | io stage => exact absurd (stage.pending.table.symm.trans table) Bool.false_ne_true
  | tableFirst stage => exact stage.pending.io
  | tableSecond stage => exact stage.pending.io
  | parkedWord stage => exact stage.idle.io
  | parkedOperand stage => exact stage.pending.io

/-- A core without a transfer underway reads program memory. -/
theorem Hosted.Runs.reads (runs : σ.Runs i) (io : σ.core.ioPending = false)
    (table : (σ.core.tablePending && σ.core.tableTransferPhase) = false) :
    programRead σ.core i = true := by
  unfold programRead
  rw [runs.noInitialize, runs.noReset, io, table]
  rfl

/-- In every stage one of the strobes is active. -/
theorem Stage.strobed (stage : Stage p a σ made) (runs : σ.Runs i) :
    (programRead σ.core i || programWrite σ.core i || ioRead σ.core i || ioWrite σ.core i) =
      true := by
  have reading (io : σ.core.ioPending = false)
      (table : (σ.core.tablePending && σ.core.tableTransferPhase) = false) :
      (programRead σ.core i || programWrite σ.core i || ioRead σ.core i || ioWrite σ.core i) =
        true := by
    rw [runs.reads io table, Bool.true_or, Bool.true_or, Bool.true_or]
  cases stage with
  | shown stage => exact reading stage.idle.io (by rw [stage.idle.table]; rfl)
  | control stage => exact reading stage.pending.io (by rw [stage.pending.table]; rfl)
  | computed stage => exact reading stage.pending.io (by rw [stage.pending.table]; rfl)
  | @io m _ stage =>
      have family := stage.family
      unfold ioRead ioWrite
      rw [runs.noInitialize, runs.noReset, stage.underway.entry, stage.pending.pending,
        stage.pending.operation]
      cases m <;> first | exact absurd family (by decide) | simp [Mnemonic.operation]
  | tableFirst stage =>
      exact reading stage.pending.io (by rw [stage.pending.phase, Bool.and_false])
  | @tableSecond m _ _ stage =>
      have family := stage.family
      unfold programRead programWrite
      rw [runs.noInitialize, runs.noReset, stage.underway.entry, stage.pending.pending,
        stage.pending.phase, stage.pending.operation, stage.pending.io]
      cases m <;> first | exact absurd family (by decide) | simp [Mnemonic.operation]
  | parkedWord stage => exact reading stage.idle.io (by rw [stage.idle.table]; rfl)
  | parkedOperand stage => exact reading stage.pending.io (by rw [stage.pending.table]; rfl)

/-- The bus cycles of a transfer in a completed step. -/
theorem Spanning.transfer_bus {m : Mnemonic} {c : Cycle} {low : Bool} (stage : Spanning a σ m c low)
    (family : (m.tableTransfer || m.ioTransfer) = true) {inputs : Isa.Input}
    {outcome : Isa.Outcome} (step : Isa.step inputs a = .ok outcome) :
    outcome.bus = Isa.straightBus m (a.program a.pc) inputs (Isa.latchRequest inputs a) := by
  rw [Isa.step_eq stage.underway.noEntry stage.found, Isa.stepInstruction_transfer family] at step
  exact Isa.stepStraight_bus step

/-- The cycles of a step underway are the first of the step, whatever its pins. -/
theorem Stage.begins (disabled : p.enableInferredComputedControl = false)
    (stage : Stage p a σ made) {inputs : Isa.Input} {outcome : Isa.Outcome}
    (step : Isa.step inputs a = .ok outcome) : made.map Cycle.bus <+: outcome.bus := by
  have branches {m : Mnemonic} {c : Cycle} {low : Bool} (stage : Control a σ m c low) :
      [c].map Cycle.bus <+: outcome.bus := by
    rw [Isa.step_eq stage.underway.noEntry stage.found,
      Isa.stepInstruction_control stage.family] at step
    rw [Isa.stepControl_bus step, List.map_singleton, stage.fetched]
    exact ⟨[_], rfl⟩
  cases stage with
  | shown | parkedWord => exact List.nil_prefix
  | control stage => exact branches stage
  | computed stage => exact absurd (disabled.symm.trans stage.enabled) Bool.false_ne_true
  | @io m _ stage =>
      have family := stage.family
      rw [stage.transfer_bus (by rw [family, Bool.or_true]) step, List.map_singleton, stage.fetched]
      cases m <;> first | exact absurd family (by decide) | exact ⟨[_], rfl⟩
  | @tableFirst m _ stage =>
      have family := stage.family
      rw [stage.transfer_bus (by rw [family, Bool.true_or]) step, List.map_singleton, stage.fetched]
      cases m <;> first | exact absurd family (by decide) | exact ⟨[_, _], rfl⟩
  | @tableSecond m _ _ stage =>
      have family := stage.family
      rw [stage.transfer_bus (by rw [family, Bool.true_or]) step, List.map_cons,
        List.map_singleton, stage.fetched, stage.prefetched]
      cases m <;> first | exact absurd family (by decide) | exact ⟨[_], rfl⟩
  | parkedOperand stage => exact branches stage.toControl

end Stages

end Core

namespace PhaseSlice

section Clock

variable {a : Isa.State} {σ : Attached} {i : Inputs} {made : List Cycle}

/-- A clock of a run is one of the core and its memories. -/
theorem advances (stage : Stage params a σ.hosted made) :
    (σ.step i).hosted = (Hosted.device params).next σ.hosted
      (coreInputs σ.slice i (executeBoundary σ.slice i)) := by
  apply Attached.step_hosted
  intro writes
  apply Attached.quiet_of_io
  apply stage.apart
  unfold logicalProgramWrite Core.programWrite at writes
  simp only [Bool.and_eq_true] at writes
  exact writes.1.1.2

end Clock

/-! ## Runs -/

section Run

variable {a b : Isa.State} {σ : Attached} {clocks : List Inputs} {made : List Cycle}

/-- A run of the slice is a run of the core. -/
theorem Attached.Admits.core (stage : Stage params a σ.hosted made) (admits : σ.Admits clocks) :
    (Hosted.device params).Admits Hosted.Runs σ.hosted (σ.coreClocks clocks) := by
  have simulates : Clocked.Simulates (Hosted.device params) _ _ _ := Hosted.simulates rfl
  induction clocks generalizing a σ made with
  | nil => trivial
  | cons i clocks ih =>
      rcases admits with ⟨runs, admits⟩
      refine ⟨runs.core, ?_⟩
      rcases simulates.preserves stage runs.core with ⟨a', made', next⟩
      rw [← advances stage] at next ⊢
      exact ih next admits

end Run

/-! ## The bus trace -/

end PhaseSlice

end Tms32010.Rtl
