import Mathlib.Data.List.Sort
import Mathlib.Tactic.SplitIfs

/-!
# Alternating positions

Two lists of positions alternate if each position of the first comes before the one of
the second with its number, and that one before the next of the first. The first list
then increases, and what the second has after a position of the first begins with its
partner.
-/

namespace Alternation

universe u

/-- The positions stand as first, second, first, second. -/
structure Alternates {α : Type u} [LT α] (first second : List α) : Prop where
  length : first.length = second.length
  precedes : ∀ {n : ℕ} {a b : α}, first[n]? = some a → second[n]? = some b → a < b
  separates : ∀ {n : ℕ} {b a : α}, second[n]? = some b → first[n + 1]? = some a → b < a

section Order

variable {α : Type u} [Preorder α] {first second : List α}

/-- The first positions increase. -/
theorem Alternates.sorted (alternates : Alternates first second) : first.SortedLT := by
  rw [List.sortedLT_iff_isChain, List.isChain_iff_getElem]
  intro n within
  have partner : n < second.length := by
    have same := alternates.length
    omega
  have here : first[n]? = some first[n] := List.getElem?_eq_getElem (by omega)
  have between : second[n]? = some second[n] := List.getElem?_eq_getElem partner
  have next : first[n + 1]? = some first[n + 1] := List.getElem?_eq_getElem within
  exact lt_trans (alternates.precedes here between) (alternates.separates between next)

end Order

section Least

variable {α : Type u} [LinearOrder α] {first second : List α}

/-- The partner of a position is the least of the second positions after it. -/
theorem Alternates.least (alternates : Alternates first second) (sorted : second.SortedLT)
    {n : ℕ} {a b c : α} (here : first[n]? = some a) (partner : second[n]? = some b)
    (among : c ∈ second) (later : a < c) : b ≤ c := by
  rcases List.getElem?_of_mem among with ⟨m, found⟩
  rcases List.getElem?_eq_some_iff.mp partner with ⟨bound, rfl⟩
  rcases List.getElem?_eq_some_iff.mp found with ⟨bound', rfl⟩
  by_contra before
  rw [not_le, sorted.getElem_lt_getElem_iff] at before
  -- an earlier one stands before the next first position, which is not after `a`
  have follows : m + 1 < first.length := by
    have same := alternates.length
    omega
  have separated := alternates.separates found (List.getElem?_eq_getElem follows)
  rcases List.getElem?_eq_some_iff.mp here with ⟨within, rfl⟩
  have upTo : first[m + 1] ≤ first[n] := by
    rw [alternates.sorted.getElem_le_getElem_iff]
    omega
  exact absurd (lt_trans later separated) (not_lt_of_ge upTo)

end Least

/-! ## Selected positions -/

section Selected

variable {α : Type u} {selects : α → Bool} {xs : List α}

theorem mem_findIdxs {n : ℕ} :
    n ∈ xs.findIdxs selects ↔ ∃ x, xs[n]? = some x ∧ selects x = true := by
  rw [List.mem_findIdxs_iff_exists_getElem_pos]
  constructor
  · rintro ⟨within, selected⟩
    exact ⟨xs[n], List.getElem?_eq_getElem within, selected⟩
  · rintro ⟨x, here, selected⟩
    rcases List.getElem?_eq_some_iff.mp here with ⟨within, rfl⟩
    exact ⟨within, selected⟩

theorem sorted_findIdxs : (xs.findIdxs selects).SortedLT :=
  List.pairwise_findIdxs.sortedLT

/-- The selected elements are those at the selected positions. -/
theorem filterMap_findIdxs :
    ((xs.findIdxs selects).filterMap fun n => xs[n]?) = xs.filter selects := by
  induction xs with
  | nil => rfl
  | cons x xs ih =>
      have rest : ((xs.findIdxs selects 1).filterMap fun n => (x :: xs)[n]?) =
          xs.filter selects := by
        rw [List.findIdxs_start, List.filterMap_map, ← ih]
        rfl
      rw [List.findIdxs_cons, List.filter_cons]
      split_ifs
      · rw [List.filterMap_cons, rest]
        rfl
      · exact rest

theorem getElem?_filter (n : ℕ) :
    (xs.filter selects)[n]? = ((xs.findIdxs selects)[n]?).bind fun m => xs[m]? := by
  by_cases within : n < (xs.filter selects).length
  · have within' : n < (xs.findIdxs selects).length := by
      rwa [List.length_findIdxs, List.countP_eq_length_filter]
    rw [List.getElem?_eq_getElem within, List.getElem?_eq_getElem within',
      List.getElem_filter_eq_getElem_getElem_findIdxs within]
    exact (List.getElem?_eq_getElem _).symm
  · have beyond : ¬n < (xs.findIdxs selects).length := by
      rwa [List.length_findIdxs, List.countP_eq_length_filter]
    rw [List.getElem?_eq_none (by omega), List.getElem?_eq_none (by omega)]
    rfl

/-- The first selected element after a position. -/
theorem find?_drop {n m : ℕ} (later : n < m) (selected : m ∈ xs.findIdxs selects)
    (least : ∀ k ∈ xs.findIdxs selects, n < k → m ≤ k) :
    (xs.drop (n + 1)).find? selects = xs[m]? := by
  rcases mem_findIdxs.mp selected with ⟨x, here, holds⟩
  rw [here, List.find?_eq_some_iff_getElem]
  rcases List.getElem?_eq_some_iff.mp here with ⟨within, rfl⟩
  refine ⟨holds, m - (n + 1), ?_, ?_, ?_⟩
  · rw [List.length_drop]
    omega
  · simp only [List.getElem_drop]
    congr 1
    omega
  · intro k before
    by_contra chosen
    rw [Bool.not_eq_true', Bool.not_eq_false, List.getElem_drop] at chosen
    have found : n + 1 + k ∈ xs.findIdxs selects :=
      mem_findIdxs.mpr ⟨_, List.getElem?_eq_getElem (by omega), chosen⟩
    have bound := least _ found (by omega)
    omega

end Selected

end Alternation
