import Mathlib.Data.List.Forall2
import Tms32010.Lib.Alternation
import Tms32010.Lib.Checks
import Tms32010.Tools.Capture

/-!
# Accepted captures

A run whose analysis is complete and without warnings is the alternation of the checked
`OUT` fetches, in the order of the fixture, with the active write cycles, and each word
the analysis reports is the one written after its own fetch.
-/

namespace Tms32010.Tools.Capture

open Alternation

/-! ## What is accepted -/

/-- The checked `OUT` fetches of a direction, in the order of the fixture. -/
def schedule (direction : Direction) : List Anchor :=
  [startOut] ++ List.replicate 144 validScanOut ++ List.replicate 112 (absentOut direction) ++
    [endOut]

/-- A sample matches one of the checked `OUT` fetches. -/
def checkedFetch (direction : Direction) (sample : EdgeSample) : Bool :=
  (groups direction).any fun (anchor, _) => programRead sample anchor.1 anchor.2

section Accepted

variable (direction : Direction) (samples : List EdgeSample)

/-- The samples of the checked `OUT` fetches. -/
def fetches : List ℕ := samples.findIdxs (checkedFetch direction)

/-- The word of the write that follows a sample. -/
def follower? (position : ℕ) : Option ℤ :=
  ((samples.drop (position + 1)).find? writing).map EdgeSample.data

/-- The evidence of an accepted observation. -/
structure Accepted (observation : Observation) : Prop where
  count : (outputIndexes samples).length = 258
  controls : ∀ sample ∈ samples, writing sample = true → exclusive sample = true
  scheduled : List.Forall₂
    (fun position anchor => ∃ sample, samples[position]? = some sample ∧
      programRead sample anchor.1 anchor.2 = true)
    (fetches direction samples) (schedule direction)
  alternates : Alternates (fetches direction samples) (outputIndexes samples)
  reaches : anchorMatches samples terminalBranch ≠ []
  terminal : ∀ branch ∈ anchorMatches samples terminalBranch, ∀ output ∈ outputIndexes samples,
    output < branch
  changed : ∀ address, address ∈ observation.changedValidAddresses ↔
    ∃ (index fetch : ℕ) (value : ℤ), (anchorMatches samples validScanOut)[index]? = some fetch ∧
      follower? samples fetch = some value ∧ value ≠ 0 ∧ address = 0x8F - index
  absent : List.Forall₂ (fun fetch item => follower? samples fetch = some item.observed)
    (anchorMatches samples (absentOut direction)) observation.absentObservations
  labelled : ∀ index item, observation.absentObservations[index]? = some item →
    item.address = absentAddress direction index ∧ item.expectedSentinel = sentinel index ∧
      item.relationship = relationship item.observed item.expectedSentinel

end Accepted

/-! ## Parts of a run -/

section Parts

variable {direction : Direction} {samples : List EdgeSample}

theorem mem_anchorMatches {anchor : Anchor} {position : ℕ} :
    position ∈ anchorMatches samples anchor ↔ ∃ sample, samples[position]? = some sample ∧
      programRead sample anchor.1 anchor.2 = true :=
  mem_findIdxs

theorem outputs_eq : outputs samples = samples.filter writing := filterMap_findIdxs

theorem length_sequence : (sequence samples).length = (outputIndexes samples).length := by
  unfold sequence outputIndexes
  rw [List.length_map, outputs_eq, List.length_findIdxs, List.countP_eq_length_filter]

theorem getElem?_sequence (n : ℕ) :
    (sequence samples)[n]? =
      ((outputIndexes samples)[n]?).bind fun position => (samples[position]?).map EdgeSample.data := by
  unfold sequence
  rw [List.getElem?_map, outputs_eq, getElem?_filter, Option.map_bind]
  rfl

theorem captureComplete_iff :
    captureComplete samples = true ↔ (outputIndexes samples).length = 258 := by
  unfold captureComplete
  rw [beq_iff_eq, length_sequence]
  rfl

/-! ## Silent warnings -/

theorem controls_of_silent (silent : controlWarnings (outputs samples) = [])
    {sample : EdgeSample} (among : sample ∈ samples) (active : writing sample = true) :
    exclusive sample = true := by
  have output : sample ∈ outputs samples := by
    rw [outputs_eq, List.mem_filter]
    exact ⟨among, active⟩
  rcases List.getElem?_of_mem output with ⟨index, found⟩
  unfold controlWarnings at silent
  rw [List.flatMap_eq_nil_iff] at silent
  have quiet := silent (sample, index) (List.mem_zipIdx_iff_getElem?.mpr found)
  by_contra shared
  dsimp only at quiet
  rw [if_neg shared] at quiet
  exact absurd quiet (List.cons_ne_nil _ _)

theorem counts_of_silent (silent : countWarnings direction samples = []) :
    ∀ group ∈ groups direction, (anchorMatches samples group.1).length = group.2 := by
  intro group among
  unfold countWarnings at silent
  rw [List.flatMap_eq_nil_iff] at silent
  have quiet := silent group among
  by_contra differs
  dsimp only at quiet
  rw [if_pos differs] at quiet
  exact absurd quiet (List.cons_ne_nil _ _)

/-- With the right counts the fetches are paired group by group. -/
theorem pairedAnchors_eq
    (counts : ∀ group ∈ groups direction, (anchorMatches samples group.1).length = group.2) :
    pairedAnchors direction samples =
      anchorMatches samples startOut ++ anchorMatches samples validScanOut ++
        anchorMatches samples (absentOut direction) ++ anchorMatches samples endOut := by
  unfold pairedAnchors
  rw [if_pos]
  rw [List.all_eq_true]
  intro group among
  exact beq_iff_eq.mpr (counts group among)

/-- A silent pairing alternates. -/
theorem alternates_of_silent {anchors outputs : List ℕ} (anchorCount : anchors.length = 258)
    (outputCount : outputs.length = 258) (silent : pairingWarnings anchors outputs = []) :
    Alternates anchors outputs := by
  have pair {n a b : ℕ} (anchor : anchors[n]? = some a) (output : outputs[n]? = some b) :
      a < b ∧ ∀ next, anchors[n + 1]? = some next → b < next := by
    unfold pairingWarnings at silent
    rw [List.flatMap_eq_nil_iff] at silent
    have zipped : ((a, b), n) ∈ (anchors.zip outputs).zipIdx := by
      rw [List.mem_zipIdx_iff_getElem?, List.getElem?_zip_eq_some]
      exact ⟨anchor, output⟩
    have quiet := silent _ zipped
    rw [List.append_eq_nil_iff] at quiet
    constructor
    · by_contra late
      rw [if_pos (not_lt.mp late)] at quiet
      exact absurd quiet.1 (List.cons_ne_nil _ _)
    · intro next following
      by_contra late
      have within : n + 1 < completeOutputCount := by
        have bound := (List.getElem?_eq_some_iff.mp following).1
        rw [anchorCount] at bound
        exact bound
      have overlaps : n + 1 < completeOutputCount ∧
          (anchors[n + 1]?).any (fun next => decide (b ≥ next)) = true := by
        rw [following]
        exact ⟨within, decide_eq_true (not_lt.mp late)⟩
      rw [if_pos overlaps] at quiet
      exact absurd quiet.2 (List.cons_ne_nil _ _)
  exact
    { length := anchorCount.trans outputCount.symm
      precedes := fun anchor output => (pair anchor output).1
      separates := by
        intro n b next output following
        have bound := (List.getElem?_eq_some_iff.mp output).1
        have anchor : anchors[n]? = some anchors[n] :=
          List.getElem?_eq_getElem (by omega)
        exact (pair anchor output).2 next following }

/-- A silent terminal stands after the last output. -/
theorem terminal_of_silent {terminal outputs : List ℕ} (increases : terminal.SortedLT)
    (sorted : outputs.SortedLT) (silent : terminalWarnings terminal outputs = []) :
    terminal ≠ [] ∧ ∀ branch ∈ terminal, ∀ output ∈ outputs, output < branch := by
  have quiet : ¬((terminal.head?).all fun first =>
      (outputs.getLast?).any fun last => decide (first ≤ last)) = true := by
    intro warned
    unfold terminalWarnings at silent
    rw [if_pos warned] at silent
    exact absurd silent (List.cons_ne_nil _ _)
  cases terminal with
  | nil => exact absurd rfl quiet
  | cons first rest =>
      refine ⟨List.cons_ne_nil _ _, ?_⟩
      intro branch among output written
      have earliest : first ≤ branch := by
        rcases List.mem_cons.mp among with rfl | later
        · exact le_refl _
        · exact le_of_lt ((List.pairwise_cons.mp increases.pairwise).1 branch later)
      cases last : outputs.getLast? with
      | none =>
          rw [List.getLast?_eq_none_iff] at last
          rw [last] at written
          exact absurd written List.not_mem_nil
      | some final =>
          have latest : output ≤ final := by
            rcases List.getLast?_eq_some_iff.mp last with ⟨init, rfl⟩
            rcases List.mem_append.mp written with before | here
            · exact le_of_lt ((List.pairwise_append.mp sorted.pairwise).2.2 output before final
                (List.mem_singleton.mpr rfl))
            · exact le_of_eq (List.mem_singleton.mp here)
          rw [last] at quiet
          have after : ¬first ≤ final := by simpa using quiet
          omega

/-! ## Pairing -/

theorem checkedFetch_iff {sample : EdgeSample} :
    checkedFetch direction sample = true ↔
      ∃ anchor ∈ [startOut, validScanOut, absentOut direction, endOut],
        programRead sample anchor.1 anchor.2 = true := by
  unfold checkedFetch groups
  simp

theorem mem_fetches {position : ℕ} :
    position ∈ fetches direction samples ↔
      position ∈ anchorMatches samples startOut ++ anchorMatches samples validScanOut ++
        anchorMatches samples (absentOut direction) ++ anchorMatches samples endOut := by
  unfold fetches
  rw [mem_findIdxs]
  simp only [checkedFetch_iff, List.mem_append, mem_anchorMatches, List.mem_cons,
    List.not_mem_nil, or_false, exists_eq_or_imp, exists_eq_left]
  constructor
  · rintro ⟨sample, here, start | valid | absent | final⟩
    · exact Or.inl (Or.inl (Or.inl ⟨sample, here, start⟩))
    · exact Or.inl (Or.inl (Or.inr ⟨sample, here, valid⟩))
    · exact Or.inl (Or.inr ⟨sample, here, absent⟩)
    · exact Or.inr ⟨sample, here, final⟩
  · rintro (((⟨sample, here, start⟩ | ⟨sample, here, valid⟩) | ⟨sample, here, absent⟩) |
      ⟨sample, here, final⟩)
    · exact ⟨sample, here, Or.inl start⟩
    · exact ⟨sample, here, Or.inr (Or.inl valid)⟩
    · exact ⟨sample, here, Or.inr (Or.inr (Or.inl absent))⟩
    · exact ⟨sample, here, Or.inr (Or.inr (Or.inr final))⟩

/-- The fetches of an anchor, one for each of its places in the schedule. -/
theorem anchorMatches_scheduled {anchor : Anchor} {count : ℕ}
    (counted : (anchorMatches samples anchor).length = count) :
    List.Forall₂ (fun position anchor => ∃ sample, samples[position]? = some sample ∧
      programRead sample anchor.1 anchor.2 = true)
      (anchorMatches samples anchor) (List.replicate count anchor) := by
  rw [List.forall₂_iff_get]
  refine ⟨by rw [counted, List.length_replicate], ?_⟩
  intro n within within'
  simp only [List.get_eq_getElem, List.getElem_replicate]
  exact mem_anchorMatches.mp (List.getElem_mem _)

/-- What the silent warnings of a complete run say of its fetches. -/
structure Paired (direction : Direction) (samples : List EdgeSample) : Prop where
  starts : (anchorMatches samples startOut).length = 1
  valid : (anchorMatches samples validScanOut).length = 144
  absent : (anchorMatches samples (absentOut direction)).length = 112
  ends : (anchorMatches samples endOut).length = 1
  outputs : (outputIndexes samples).length = 258
  fetches_eq : fetches direction samples =
    anchorMatches samples startOut ++ anchorMatches samples validScanOut ++
      anchorMatches samples (absentOut direction) ++ anchorMatches samples endOut
  alternates : Alternates (fetches direction samples) (outputIndexes samples)

theorem paired_of_silent (complete : captureComplete samples = true)
    (counts : countWarnings direction samples = [])
    (pairing : pairingWarnings (anchorIndexes direction samples) (outputIndexes samples) = []) :
    Paired direction samples := by
  have outputs := captureComplete_iff.mp complete
  have counted := counts_of_silent counts
  have starts : (anchorMatches samples startOut).length = 1 :=
    counted (startOut, 1) (by simp [groups])
  have valid : (anchorMatches samples validScanOut).length = 144 :=
    counted (validScanOut, validCount) (by simp [groups])
  have absent : (anchorMatches samples (absentOut direction)).length = 112 :=
    counted (absentOut direction, absentCount) (by simp [groups])
  have ends : (anchorMatches samples endOut).length = 1 :=
    counted (endOut, 1) (by simp [groups])
  have paired : anchorIndexes direction samples =
      anchorMatches samples startOut ++ anchorMatches samples validScanOut ++
        anchorMatches samples (absentOut direction) ++ anchorMatches samples endOut := by
    unfold anchorIndexes
    rw [if_pos complete, pairedAnchors_eq counted]
  have alternates := alternates_of_silent
    (by rw [paired, List.length_append, List.length_append, List.length_append, starts, valid,
      absent, ends]) outputs pairing
  -- the anchors increase, and so do all fetches: the same positions are the same list
  have same : fetches direction samples = anchorIndexes direction samples := by
    apply sorted_findIdxs.eq_of_mem_iff alternates.sorted
    intro position
    rw [paired]
    exact mem_fetches
  rw [← same] at alternates
  exact ⟨starts, valid, absent, ends, outputs, same.trans paired, alternates⟩

/-- The fetches follow the schedule. -/
theorem Paired.scheduled (paired : Paired direction samples) :
    List.Forall₂ (fun position anchor => ∃ sample, samples[position]? = some sample ∧
      programRead sample anchor.1 anchor.2 = true)
      (fetches direction samples) (schedule direction) := by
  rw [paired.fetches_eq]
  unfold schedule
  apply List.rel_append
  · apply List.rel_append
    · apply List.rel_append
      · exact anchorMatches_scheduled paired.starts
      · exact anchorMatches_scheduled paired.valid
    · exact anchorMatches_scheduled paired.absent
  · exact anchorMatches_scheduled paired.ends

/-- The write after a fetch is the one with its number. -/
theorem Paired.follower? (paired : Paired direction samples) {n fetch : ℕ}
    (found : (fetches direction samples)[n]? = some fetch) :
    follower? samples fetch = (sequence samples)[n]? := by
  have within : n < (outputIndexes samples).length := by
    rw [← paired.alternates.length]
    exact (List.getElem?_eq_some_iff.mp found).1
  have partner : (outputIndexes samples)[n]? = some (outputIndexes samples)[n] :=
    List.getElem?_eq_getElem within
  have next : (samples.drop (fetch + 1)).find? writing = samples[(outputIndexes samples)[n]]? := by
    apply find?_drop (paired.alternates.precedes found partner) (List.getElem_mem within)
    intro output among later
    exact paired.alternates.least sorted_findIdxs found partner among later
  unfold Capture.follower?
  rw [next, getElem?_sequence, partner]
  rfl

/-- The fetches of the valid scan. -/
theorem Paired.validScan_fetch (paired : Paired direction samples) {index : ℕ}
    (within : index < 144) :
    (fetches direction samples)[1 + index]? = (anchorMatches samples validScanOut)[index]? := by
  rw [paired.fetches_eq, List.append_assoc, List.append_assoc,
    List.getElem?_append_right (by rw [paired.starts]; omega),
    List.getElem?_append_left (by rw [paired.starts, paired.valid]; omega), paired.starts,
    Nat.add_sub_cancel_left]

/-- The fetches of the absent addresses. -/
theorem Paired.absent_fetch (paired : Paired direction samples) {index : ℕ}
    (within : index < 112) :
    (fetches direction samples)[145 + index]? =
      (anchorMatches samples (absentOut direction))[index]? := by
  have front : (anchorMatches samples startOut ++ anchorMatches samples validScanOut).length =
      145 := by
    rw [List.length_append, paired.starts, paired.valid]
  rw [paired.fetches_eq, List.append_assoc,
    List.getElem?_append_right (by rw [front]; omega),
    List.getElem?_append_left (by rw [front, paired.absent]; omega), front,
    Nat.add_sub_cancel_left]

/-! ## Reports -/

theorem mem_changedAddresses {values : List ℤ} {address : ℤ} :
    address ∈ changedAddresses values ↔
      ∃ (index : ℕ) (value : ℤ), values[index]? = some value ∧ value ≠ 0 ∧
        address = 0x8F - index := by
  unfold changedAddresses
  rw [List.mem_filterMap]
  constructor
  · rintro ⟨⟨value, index⟩, among, reported⟩
    rw [List.mem_zipIdx_iff_getElem?] at among
    dsimp only at among reported
    split_ifs at reported with changed
    exact ⟨index, value, among, changed, (Option.some.inj reported).symm⟩
  · rintro ⟨index, value, among, changed, rfl⟩
    refine ⟨(value, index), List.mem_zipIdx_iff_getElem?.mpr among, ?_⟩
    dsimp only
    rw [if_pos changed]

theorem getElem?_absentObservations {values : List ℤ} {index : ℕ} {item : AbsentObservation} :
    (absentObservations direction values)[index]? = some item ↔
      ∃ value, values[index]? = some value ∧
        item = ⟨absentAddress direction index, sentinel index, value,
          relationship value (sentinel index)⟩ := by
  unfold absentObservations
  rw [List.getElem?_map, List.getElem?_zipIdx]
  cases values[index]? with
  | none => simp
  | some value => simp [eq_comm]

/-- The slices of the outputs that the reports are made of. -/
theorem getElem?_validScan (complete : captureComplete samples = true) (index : ℕ) :
    (validScan samples)[index]? = if index < 144 then (sequence samples)[1 + index]? else none := by
  unfold validScan validCount
  rw [if_pos complete, List.getElem?_take, List.getElem?_drop]

theorem getElem?_absentValues (complete : captureComplete samples = true) (index : ℕ) :
    (absentValues samples)[index]? =
      if index < 112 then (sequence samples)[145 + index]? else none := by
  have length : ((sequence samples).drop (1 + validCount)).length - 1 = 112 := by
    rw [List.length_drop, length_sequence, captureComplete_iff.mp complete]
    rfl
  unfold absentValues
  rw [if_pos complete, List.getElem?_dropLast, length, List.getElem?_drop]
  rfl

/-- A changed address is one whose own fetch is followed by a word other than zero. -/
theorem Paired.changed (paired : Paired direction samples)
    (complete : captureComplete samples = true) (address : ℤ) :
    address ∈ changedAddresses (validScan samples) ↔
      ∃ (index fetch : ℕ) (value : ℤ),
        (anchorMatches samples validScanOut)[index]? = some fetch ∧
          Capture.follower? samples fetch = some value ∧ value ≠ 0 ∧ address = 0x8F - index := by
  rw [mem_changedAddresses]
  apply exists_congr
  intro index
  by_cases within : index < 144
  · have bound : index < (anchorMatches samples validScanOut).length := by
      rwa [paired.valid]
    have here := List.getElem?_eq_getElem bound
    have follows := paired.follower? ((paired.validScan_fetch within).trans here)
    rw [getElem?_validScan complete, if_pos within, ← follows, here]
    constructor
    · rintro ⟨value, written, changed⟩
      exact ⟨_, value, rfl, written, changed⟩
    · rintro ⟨fetch, value, found, written, changed⟩
      rw [Option.some.inj found]
      exact ⟨value, written, changed⟩
  · rw [getElem?_validScan complete, if_neg within,
      List.getElem?_eq_none (by rw [paired.valid]; omega)]
    simp

/-- An absent observation carries the word that follows its own fetch. -/
theorem Paired.observed (paired : Paired direction samples)
    (complete : captureComplete samples = true) :
    List.Forall₂ (fun fetch item => Capture.follower? samples fetch = some item.observed)
      (anchorMatches samples (absentOut direction))
      (absentObservations direction (absentValues samples)) := by
  have length : (absentObservations direction (absentValues samples)).length = 112 := by
    unfold absentObservations absentValues
    rw [if_pos complete, List.length_map, List.length_zipIdx, List.length_dropLast,
      List.length_drop, length_sequence, captureComplete_iff.mp complete]
    rfl
  rw [List.forall₂_iff_get]
  refine ⟨by rw [paired.absent, length], ?_⟩
  intro index within within'
  have bound : index < 112 := by rwa [paired.absent] at within
  have here := List.getElem?_eq_getElem within
  have follows := paired.follower? ((paired.absent_fetch bound).trans here)
  rcases getElem?_absentObservations.mp (List.getElem?_eq_getElem within') with
    ⟨value, written, item⟩
  rw [getElem?_absentValues complete, if_pos bound] at written
  simp only [List.get_eq_getElem]
  rw [follows, written, item]

end Parts

/-! ## Acceptance -/

section Acceptance

variable {hexdigest : List (BitVec 8) → Text} {direction : Direction} {run : Text}
  {samples : List EdgeSample} {observation : Observation}

/-- What the analysis of a run returns. -/
theorem analyzeRun_eq_ok
    (analyzed : analyzeRun hexdigest direction run samples = .ok observation) :
    ∃ digest, observation = observe direction samples run digest := by
  unfold analyzeRun at analyzed
  split_ifs at analyzed with absent late whole
  · rcases Checks.bind_eq_ok.mp analyzed with ⟨digest, -, returned⟩
    exact ⟨some digest, (Except.ok.inj returned).symm⟩
  · exact ⟨none, (Except.ok.inj analyzed).symm⟩

/-- A complete run without warnings is accepted. -/
theorem accepted_of_silent (complete : captureComplete samples = true)
    (silent : warnings direction samples = []) (digest : Option Text) :
    Accepted direction samples (observe direction samples run digest) := by
  unfold warnings at silent
  rw [if_pos complete] at silent
  simp only [List.append_eq_nil_iff] at silent
  rcases silent with ⟨controls, ⟨⟨counts, pairing⟩, -⟩, terminal⟩
  have paired := paired_of_silent complete counts pairing
  have stands := terminal_of_silent sorted_findIdxs sorted_findIdxs terminal
  exact
    { count := paired.outputs
      controls := fun _ among active => controls_of_silent controls among active
      scheduled := paired.scheduled
      alternates := paired.alternates
      reaches := stands.1
      terminal := stands.2
      changed := paired.changed complete
      absent := paired.observed complete
      labelled := by
        intro index item found
        rcases getElem?_absentObservations.mp found with ⟨value, -, rfl⟩
        exact ⟨rfl, rfl, rfl⟩ }

theorem analyzeDirection_cons {capture : Text × List EdgeSample}
    {runs : List (Text × List EdgeSample)} :
    analyzeDirection hexdigest direction (capture :: runs) =
      (do
        let observation ← analyzeRun hexdigest direction capture.1 capture.2
        let observations ← analyzeDirection hexdigest direction runs
        pure (observation :: observations)) :=
  List.mapM_cons

/-- Every observation that is complete and without warnings has its evidence in the samples
of its run. -/
theorem capture_accepted (hexdigest : List (BitVec 8) → Text) (direction : Direction)
    (runs : List (Text × List EdgeSample)) (observations : List Observation)
    (analyzed : analyzeDirection hexdigest direction runs = .ok observations) :
    List.Forall₂ (fun run observation => observation.run = run.1 ∧
      (observation.captureComplete = true → observation.warnings = [] →
        Accepted direction run.2 observation)) runs observations := by
  induction runs generalizing observations with
  | nil =>
      unfold analyzeDirection at analyzed
      rw [List.mapM_nil] at analyzed
      rw [← Except.ok.inj analyzed]
      exact .nil
  | cons run runs ih =>
      rw [analyzeDirection_cons, Checks.bind_eq_ok] at analyzed
      rcases analyzed with ⟨observation, first, rest⟩
      rw [Checks.bind_eq_ok] at rest
      rcases rest with ⟨others, analyzed, returned⟩
      rw [← Except.ok.inj returned]
      refine .cons ?_ (ih others analyzed)
      rcases analyzeRun_eq_ok first with ⟨digest, rfl⟩
      exact ⟨rfl, fun complete silent => accepted_of_silent complete silent digest⟩

end Acceptance

/-! ## A capture of the fixture -/

/-- A fetch of an anchor. -/
def fetchSample (anchor : Anchor) : EdgeSample := ⟨[], 0, 0, 1, 0, 1, 1, anchor.1, anchor.2⟩

/-- A port-7 write. -/
def writeSample (data : ℤ) : EdgeSample := ⟨[], 0, 0, 1, 1, 0, 1, 7, data⟩

/-- The samples of a run of the fixture in which all addresses read zero. -/
def zeroCapture (direction : Direction) : List EdgeSample :=
  [fetchSample startOut, writeSample (expectedMarker direction)] ++
    (List.replicate 144 [fetchSample validScanOut, writeSample 0]).flatten ++
    (List.replicate 112 [fetchSample (absentOut direction), writeSample 0]).flatten ++
    [fetchSample endOut, writeSample 0x004F, fetchSample terminalBranch] ++
    List.replicate 3 (fetchSample (0x028, 0x7F80))

/-- The digest of 288 zero bytes. -/
def zeroDigest : Text :=
  "2d5565fb483d8ea4525a7a9229677d1038ad34b6e22c8d5152e1d7f7b9817597".toList

theorem zeroCapture_complete : captureComplete (zeroCapture .descending) = true := by
  rw [captureComplete_iff]
  decide +kernel

theorem zeroCapture_silent : warnings .descending (zeroCapture .descending) = [] := by
  have pairing : pairingWarnings (pairedAnchors .descending (zeroCapture .descending))
      (outputIndexes (zeroCapture .descending)) = [] := by
    decide +kernel
  unfold warnings anchorIndexes sequence
  rw [if_pos zeroCapture_complete, if_pos zeroCapture_complete, pairing, outputs_eq]
  decide +kernel

/-- The valid scan of the run reads zero. -/
theorem zeroCapture_validScan : validScan (zeroCapture .descending) = List.replicate 144 0 := by
  unfold validScan sequence
  rw [if_pos zeroCapture_complete, outputs_eq]
  decide +kernel

theorem zeroCapture_lastEvent :
    ¬lastEvent .descending (zeroCapture .descending) + 4 ≥ (zeroCapture .descending).length := by
  unfold lastEvent anchorIndexes
  rw [if_pos zeroCapture_complete]
  decide +kernel

theorem capture_accepted_zero :
    let observation := observe .descending (zeroCapture .descending) [] (some zeroDigest)
    observation.captureComplete = true ∧ observation.warnings = [] ∧
      analyzeDirection (fun _ => zeroDigest) .descending [([], zeroCapture .descending)] =
        .ok [observation] ∧
      Accepted .descending (zeroCapture .descending) observation := by
  intro observation
  have starts : ¬anchorMatches (zeroCapture .descending) startOut = [] := by decide +kernel
  have whole : (List.replicate 144 (0 : ℤ)).length = validCount := List.length_replicate
  have hashed : hashWords (fun _ => zeroDigest) (List.replicate 144 0) = .ok zeroDigest := by
    decide +kernel
  have run : analyzeRun (fun _ => zeroDigest) .descending [] (zeroCapture .descending) =
      .ok observation := by
    unfold analyzeRun
    rw [if_neg starts, if_neg zeroCapture_lastEvent, zeroCapture_validScan, if_pos whole, hashed]
    rfl
  have analyzed : analyzeDirection (fun _ => zeroDigest) .descending
      [([], zeroCapture .descending)] = .ok [observation] := by
    rw [analyzeDirection_cons, run]
    rfl
  have each := capture_accepted (fun _ => zeroDigest) .descending
    [([], zeroCapture .descending)] [observation] analyzed
  exact ⟨zeroCapture_complete, zeroCapture_silent, analyzed,
    (List.forall₂_cons.mp each).1.2 zeroCapture_complete zeroCapture_silent⟩

end Tms32010.Tools.Capture
