import Mathlib.Data.List.Forall2

/-!
# Clocked devices and their steps

A clocked device advances on every clock, but only some clocks are cycles of the
work it does, and one or more cycles make up a step of that work. A reference
says what a whole step makes of an abstract state. The relation between the two
is kept within a step as well: it sees the cycles the step has made so far.
-/

namespace Clocked

universe u

variable {ι σ κ α : Type u}

/-- A clocked device: its next state, the cycle a clock makes, if any, and
whether that cycle is the last of a step. -/
structure Device (ι σ κ : Type u) where
  next : σ → ι → σ
  cycle? : σ → ι → Option κ
  completes : σ → ι → Bool

namespace Device

variable (device : Device ι σ κ)

/-- The state after a run. -/
def run (s : σ) : List ι → σ
  | [] => s
  | i :: inputs => run (device.next s i) inputs

/-- The completed steps of a run: the cycles of each and the state after it.
`made` are the cycles the first step has made before the run. -/
def steps (made : List κ) (s : σ) : List ι → List (List κ × σ)
  | [] => []
  | i :: inputs =>
      match device.cycle? s i with
      | none => steps made (device.next s i) inputs
      | some cycle =>
          if device.completes s i then
            (made ++ [cycle], device.next s i) :: steps [] (device.next s i) inputs
          else steps (made ++ [cycle]) (device.next s i) inputs

/-- The cycles made since the last completed step of a run. -/
def rest (made : List κ) (s : σ) : List ι → List κ
  | [] => made
  | i :: inputs =>
      match device.cycle? s i with
      | none => rest made (device.next s i) inputs
      | some cycle =>
          if device.completes s i then rest [] (device.next s i) inputs
          else rest (made ++ [cycle]) (device.next s i) inputs

/-- The cycles of a run. -/
def cycles (s : σ) : List ι → List κ
  | [] => []
  | i :: inputs => (device.cycle? s i).toList ++ cycles (device.next s i) inputs

/-- Every clock of a run is one its environment may make. -/
def Admits (admissible : σ → ι → Prop) (s : σ) : List ι → Prop
  | [] => True
  | i :: inputs => admissible s i ∧ Admits admissible (device.next s i) inputs

theorem admits_and {first second : σ → ι → Prop} (s : σ) (inputs : List ι) :
    device.Admits (fun s i => first s i ∧ second s i) s inputs ↔
      device.Admits first s inputs ∧ device.Admits second s inputs := by
  induction inputs generalizing s with
  | nil => exact ⟨fun _ => ⟨trivial, trivial⟩, fun _ => trivial⟩
  | cons i inputs ih =>
      unfold Admits
      rw [ih, and_and_and_comm]

theorem admits_append (admissible : σ → ι → Prop) (s : σ) (first second : List ι) :
    device.Admits admissible s (first ++ second) ↔
      device.Admits admissible s first ∧ device.Admits admissible (device.run s first) second := by
  induction first generalizing s with
  | nil => exact ⟨fun admits => ⟨trivial, admits⟩, And.right⟩
  | cons i first ih =>
      change admissible s i ∧ device.Admits admissible (device.next s i) (first ++ second) ↔
        (admissible s i ∧ device.Admits admissible (device.next s i) first) ∧
          device.Admits admissible (device.run (device.next s i) first) second
      rw [ih, and_assoc]

/-- The cycles of a run are those of its completed steps and of the last, begun one. -/
theorem cycles_eq (made : List κ) (s : σ) (inputs : List ι) :
    made ++ device.cycles s inputs =
      ((device.steps made s inputs).map Prod.fst).flatten ++ device.rest made s inputs := by
  induction inputs generalizing made s with
  | nil => simp [cycles, steps, rest]
  | cons i inputs ih =>
      unfold cycles steps rest
      cases cycle : device.cycle? s i with
      | none => exact ih made (device.next s i)
      | some made' =>
          cases device.completes s i
          · simpa using ih (made ++ [made']) (device.next s i)
          · simpa using ih [] (device.next s i)

/-- The completed steps of a run, in the order of the clocks that complete them. -/
theorem steps_places (made : List κ) (s : σ) (inputs : List ι) :
    ∃ places : List ℕ, places.Pairwise (· < ·) ∧
      List.Forall₂ (fun place step => place < inputs.length ∧
        step.2 = device.run s (inputs.take (place + 1))) places (device.steps made s inputs) := by
  induction inputs generalizing made s with
  | nil => exact ⟨[], .nil, .nil⟩
  | cons i inputs ih =>
      have later (made : List κ) :
          ∃ places : List ℕ, places.Pairwise (· < ·) ∧ (∀ place ∈ places, 0 < place) ∧
            List.Forall₂ (fun place step => place < (i :: inputs).length ∧
              step.2 = device.run s ((i :: inputs).take (place + 1))) places
              (device.steps made (device.next s i) inputs) := by
        rcases ih made (device.next s i) with ⟨places, sorted, shows⟩
        refine ⟨places.map (· + 1), ?_, ?_, ?_⟩
        · rw [List.pairwise_map]
          exact sorted.imp fun before => Nat.succ_lt_succ before
        · intro place among
          rcases List.mem_map.mp among with ⟨before, -, rfl⟩
          exact Nat.succ_pos before
        · rw [List.forall₂_map_left_iff]
          refine shows.imp ?_
          rintro place step ⟨inside, same⟩
          exact ⟨Nat.succ_lt_succ inside, same⟩
      unfold steps
      cases device.cycle? s i with
      | none =>
          rcases later made with ⟨places, sorted, -, shows⟩
          exact ⟨places, sorted, shows⟩
      | some cycle =>
          cases device.completes s i
          · rcases later (made ++ [cycle]) with ⟨places, sorted, -, shows⟩
            exact ⟨places, sorted, shows⟩
          · rcases later [] with ⟨places, sorted, positive, shows⟩
            exact ⟨0 :: places, .cons positive sorted, .cons ⟨Nat.succ_pos _, rfl⟩ shows⟩

/-- Every completed step is made of cycles of its clocks, of which the last is one. -/
theorem steps_forall {holds : κ → Prop} {made : List κ} (begun : ∀ cycle ∈ made, holds cycle)
    (s : σ) {inputs : List ι}
    (clocks : ∀ i ∈ inputs, ∀ s cycle, device.cycle? s i = some cycle → holds cycle) :
    ∀ step ∈ device.steps made s inputs, step.1 ≠ [] ∧ ∀ cycle ∈ step.1, holds cycle := by
  induction inputs generalizing made s with
  | nil => exact List.forall_mem_nil _
  | cons i inputs ih =>
      have later {made : List κ} (begun : ∀ cycle ∈ made, holds cycle) :=
        ih begun (device.next s i) fun j among => clocks j (List.mem_cons_of_mem i among)
      unfold steps
      cases made' : device.cycle? s i with
      | none => exact later begun
      | some cycle =>
          have longer : ∀ cycle' ∈ made ++ [cycle], holds cycle' := by
            intro cycle' among
            rcases List.mem_append.mp among with before | here
            · exact begun cycle' before
            · rw [List.mem_singleton.mp here]
              exact clocks i List.mem_cons_self s cycle made'
          dsimp only
          cases device.completes s i
          · exact later longer
          · rw [if_pos rfl, List.forall_mem_cons]
            exact ⟨⟨List.append_ne_nil_of_right_ne_nil _ (List.cons_ne_nil _ _), longer⟩,
              later (List.forall_mem_nil _)⟩

/-- The device with what is observed of it in each of its cycles. -/
def observing {β : Type u} (observe : σ → ι → β) : Device ι σ (κ × β) where
  next := device.next
  cycle? s i := (device.cycle? s i).map fun cycle => (cycle, observe s i)
  completes := device.completes

section Observing

variable {β : Type u} (observe : σ → ι → β)

theorem admits_observing {admissible : σ → ι → Prop} {s : σ} {inputs : List ι}
    (admits : device.Admits admissible s inputs) :
    (device.observing observe).Admits admissible s inputs := by
  induction inputs generalizing s with
  | nil => trivial
  | cons i inputs ih => exact ⟨admits.1, ih admits.2⟩

/-- The steps are those of the device itself. -/
theorem steps_observing (made : List (κ × β)) (s : σ) (inputs : List ι) :
    ((device.observing observe).steps made s inputs).map
        (fun step => (step.1.map Prod.fst, step.2)) =
      device.steps (made.map Prod.fst) s inputs := by
  induction inputs generalizing made s with
  | nil => rfl
  | cons i inputs ih =>
      have cycle : (device.observing observe).cycle? s i =
          (device.cycle? s i).map fun cycle => (cycle, observe s i) := rfl
      have completes : (device.observing observe).completes s i = device.completes s i := rfl
      have next : (device.observing observe).next s i = device.next s i := rfl
      unfold steps
      rw [cycle, completes, next]
      cases device.cycle? s i with
      | none => exact ih made (device.next s i)
      | some cycle =>
          dsimp only [Option.map_some]
          cases device.completes s i
          · simpa using ih (made ++ [(cycle, observe s i)]) (device.next s i)
          · simpa using ih [] (device.next s i)

end Observing

end Device

theorem forall₂_zip {β γ δ : Type*} {first : β → γ → Prop} {second : γ → δ → Prop}
    {xs : List β} {ys : List γ} {zs : List δ} (left : List.Forall₂ first xs ys)
    (right : List.Forall₂ second ys zs) :
    List.Forall₂ (fun pair z => first pair.1 pair.2 ∧ second pair.2 z) (xs.zip ys) zs := by
  induction left generalizing zs with
  | nil =>
      cases right
      exact .nil
  | cons head _ ih =>
      cases right with
      | cons next rest => exact .cons ⟨head, next⟩ (ih rest)

/-! ## Simulation -/

/-- The completed steps follow a reference from `a` to `b`: each one is a step of
the reference, and the state after it is related to the abstract one. -/
inductive Follows (step : α → List κ → α → Prop) (related : α → σ → Prop) :
    α → List (List κ × σ) → α → Prop where
  | done (a : α) : Follows step related a [] a
  | step {a b c : α} {cycles : List κ} {s : σ} {rest : List (List κ × σ)}
      (made : step a cycles b) (agrees : related b s) (tail : Follows step related b rest c) :
      Follows step related a ((cycles, s) :: rest) c

/-- A device simulates a reference under a relation that sees the cycles of the
step underway, as long as its environment makes admissible clocks. -/
structure Simulates (device : Device ι σ κ) (admissible : σ → ι → Prop)
    (step : α → List κ → α → Prop) (relation : α → List κ → σ → Prop) : Prop where
  pauses : ∀ {a made s i}, relation a made s → admissible s i → device.cycle? s i = none →
    relation a made (device.next s i)
  continues : ∀ {a made s i cycle}, relation a made s → admissible s i →
    device.cycle? s i = some cycle → device.completes s i = false →
    relation a (made ++ [cycle]) (device.next s i)
  completes : ∀ {a made s i cycle}, relation a made s → admissible s i →
    device.cycle? s i = some cycle → device.completes s i = true →
    ∃ b, step a (made ++ [cycle]) b ∧ relation b [] (device.next s i)

/-- A device keeps pace with a reference that is not stuck: every ticking clock
lowers a rank, or completes a step and raises the rank by less than a bound. -/
structure Paced (device : Device ι σ κ) (admissible : σ → ι → Prop)
    (relation : α → List κ → σ → Prop) (stuck : α → Prop) (tick : ι → Bool)
    (rank : List κ → σ → ℕ) (bound : ℕ) : Prop where
  pauses : ∀ {a made s i}, relation a made s → admissible s i → tick i = false →
    device.cycle? s i = none ∧ rank made (device.next s i) ≤ rank made s
  waits : ∀ {a made s i}, relation a made s → admissible s i → ¬stuck a → tick i = true →
    device.cycle? s i = none → rank made (device.next s i) < rank made s
  continues : ∀ {a made s i cycle}, relation a made s → admissible s i →
    device.cycle? s i = some cycle → device.completes s i = false →
    rank (made ++ [cycle]) (device.next s i) < rank made s
  completes : ∀ {a made s i cycle}, relation a made s → admissible s i →
    device.cycle? s i = some cycle → device.completes s i = true →
    rank [] (device.next s i) < rank made s + bound

section Run

variable {device : Device ι σ κ} {admissible : σ → ι → Prop} {step : α → List κ → α → Prop}
  {relation : α → List κ → σ → Prop}

/-- Every admissible clock leaves the device related to some point of the reference. -/
theorem Simulates.preserves (simulates : Simulates device admissible step relation) {a : α}
    {made : List κ} {s : σ} {i : ι} (related : relation a made s) (admitted : admissible s i) :
    ∃ b rest, relation b rest (device.next s i) := by
  cases cycle : device.cycle? s i with
  | none => exact ⟨a, made, simulates.pauses related admitted cycle⟩
  | some made' =>
      cases completes : device.completes s i
      · exact ⟨a, made ++ [made'], simulates.continues related admitted cycle completes⟩
      · rcases simulates.completes related admitted cycle completes with ⟨b, -, next⟩
        exact ⟨b, [], next⟩

/-- A device simulates the reference with what is observed of its cycles, where each
observation is the one expected of its cycle at its place in the step. -/
theorem Simulates.observing {β : Type u} {observe : σ → ι → β} {expected : α → ℕ → κ → β}
    (simulates : Simulates device admissible step relation)
    (shows : ∀ {a made s i cycle}, relation a made s → admissible s i →
      device.cycle? s i = some cycle → observe s i = expected a made.length cycle) :
    Simulates (device.observing observe) admissible
      (fun a made b => step a (made.map Prod.fst) b ∧
        made.map Prod.snd = (made.map Prod.fst).mapIdx (expected a))
      (fun a made s => relation a (made.map Prod.fst) s ∧
        made.map Prod.snd = (made.map Prod.fst).mapIdx (expected a)) := by
  have longer {a : α} {made : List (κ × β)} {s : σ} {i : ι} {cycle : κ}
      (related : relation a (made.map Prod.fst) s)
      (same : made.map Prod.snd = (made.map Prod.fst).mapIdx (expected a))
      (admitted : admissible s i) (cycles : device.cycle? s i = some cycle) :
      (made ++ [(cycle, observe s i)]).map Prod.fst = made.map Prod.fst ++ [cycle] ∧
        (made ++ [(cycle, observe s i)]).map Prod.snd =
          ((made ++ [(cycle, observe s i)]).map Prod.fst).mapIdx (expected a) := by
    refine ⟨List.map_append, ?_⟩
    simp only [List.map_append, List.map_cons, List.map_nil, List.mapIdx_concat, same,
      shows related admitted cycles]
  have split {s : σ} {i : ι} {cycle : κ × β}
      (cycles : (device.observing observe).cycle? s i = some cycle) :
      device.cycle? s i = some cycle.1 ∧ cycle = (cycle.1, observe s i) := by
    rcases Option.map_eq_some_iff.mp cycles with ⟨first, found, rfl⟩
    exact ⟨found, rfl⟩
  refine ⟨?_, ?_, ?_⟩
  · rintro a made s i ⟨related, same⟩ admitted none
    exact ⟨simulates.pauses related admitted (Option.map_eq_none_iff.mp none), same⟩
  · rintro a made s i cycle ⟨related, same⟩ admitted some goesOn
    rcases split some with ⟨found, shown⟩
    rcases longer related same admitted found with ⟨firsts, seconds⟩
    rw [shown]
    refine ⟨?_, seconds⟩
    rw [firsts]
    exact simulates.continues related admitted found goesOn
  · rintro a made s i cycle ⟨related, same⟩ admitted some ends
    rcases split some with ⟨found, shown⟩
    rcases longer related same admitted found with ⟨firsts, seconds⟩
    rcases simulates.completes related admitted found ends with ⟨b, takes, next⟩
    rw [shown]
    refine ⟨b, ⟨?_, seconds⟩, next, rfl⟩
    rw [firsts]
    exact takes

/-- Every run of a simulating device follows the reference, with what a completed step
establishes of the state after it. -/
theorem Simulates.follows_fresh (simulates : Simulates device admissible step relation)
    {fresh : α → σ → Prop}
    (establishes : ∀ {a made s i cycle b}, relation a made s → admissible s i →
      device.cycle? s i = some cycle → device.completes s i = true → step a (made ++ [cycle]) b →
      relation b [] (device.next s i) → fresh b (device.next s i))
    {a : α} {made : List κ} {s : σ} (related : relation a made s) {inputs : List ι}
    (admits : device.Admits admissible s inputs) :
    ∃ b, Follows step fresh a (device.steps made s inputs) b ∧
      relation b (device.rest made s inputs) (device.run s inputs) := by
  induction inputs generalizing a made s with
  | nil => exact ⟨a, .done a, related⟩
  | cons i inputs ih =>
      rcases admits with ⟨admitted, admits⟩
      unfold Device.steps Device.rest Device.run
      cases cycle : device.cycle? s i with
      | none => exact ih (simulates.pauses related admitted cycle) admits
      | some made' =>
          cases completes : device.completes s i
          · exact ih (simulates.continues related admitted cycle completes) admits
          · rcases simulates.completes related admitted cycle completes with ⟨b, made'', next⟩
            have shown := establishes related admitted cycle completes made'' next
            rcases ih next admits with ⟨c, tail, last⟩
            exact ⟨c, .step made'' shown tail, last⟩

/-- Every run of a simulating device follows the reference. -/
theorem Simulates.follows (simulates : Simulates device admissible step relation) {a : α}
    {made : List κ} {s : σ} (related : relation a made s) {inputs : List ι}
    (admits : device.Admits admissible s inputs) :
    ∃ b, Follows step (fun b s => relation b [] s) a (device.steps made s inputs) b ∧
      relation b (device.rest made s inputs) (device.run s inputs) :=
  simulates.follows_fresh (fun _ _ _ _ _ next => next) related admits

/-- The first completed steps follow the reference as well. -/
theorem Follows.take {related : α → σ → Prop} {a b : α} {made : List (List κ × σ)}
    (follows : Follows step related a made b) (count : ℕ) :
    ∃ c, Follows step related a (made.take count) c := by
  induction follows generalizing count with
  | done a => exact ⟨a, by simpa using .done a⟩
  | @step a b c cycles s rest made agrees _ ih =>
      cases count with
      | zero => exact ⟨a, .done a⟩
      | succ count =>
          rcases ih count with ⟨d, tail⟩
          exact ⟨d, .step made agrees tail⟩

/-- Two devices that follow references with the same outcomes agree at every step, as
long as what they observe in each step is the same. -/
theorem Follows.agree {κ' σ' ω : Type u} {step' : α → List κ' → α → Prop}
    {related : α → σ → Prop} {related' : α → σ' → Prop} {observe : List κ → ω}
    {observe' : List κ' → ω} {a c c' : α} {first : List (List κ × σ)}
    {second : List (List κ' × σ')} (follows : Follows step related a first c)
    (follows' : Follows step' related' a second c')
    (same : ∀ a made made' b b', step a made b → step' a made' b' →
      observe made = observe' made' → b = b')
    (observed : (first.map fun step => observe step.1) =
      second.map fun step => observe' step.1) :
    List.Forall₂ (fun x y => ∃ a b, step a x.1 b ∧ step' a y.1 b ∧
      observe x.1 = observe' y.1 ∧ related b x.2 ∧ related' b y.2) first second := by
  induction follows generalizing second with
  | done a =>
      have none : second = [] := List.map_eq_nil_iff.mp observed.symm
      subst none
      exact .nil
  | @step a b c cycles s rest made agrees _ ih =>
      cases follows' with
      | done => exact absurd observed (by simp)
      | @step a b' c' cycles' s' rest' made' agrees' tail' =>
          simp only [List.map_cons, List.cons.injEq] at observed
          obtain rfl := same _ _ _ _ _ made made' observed.1
          exact .cons ⟨a, b, made, made', observed.1, agrees, agrees'⟩ (ih tail' observed.2)

/-- A reference that is not stuck where it arrives was not stuck where it started. -/
theorem Follows.free {related : α → σ → Prop} {stuck : α → Prop} {a b : α}
    {made : List (List κ × σ)} (follows : Follows step related a made b)
    (free : ∀ a cycles b, step a cycles b → ¬stuck a) (last : ¬stuck b) : ¬stuck a := by
  cases follows with
  | done => exact last
  | step made _ _ => exact free _ _ _ made

/-- A run of a paced device completes a step in every `bound` ticks, until the
reference is stuck. -/
theorem Paced.ticks_le {stuck : α → Prop} {tick : ι → Bool} {rank : List κ → σ → ℕ} {bound : ℕ}
    (paced : Paced device admissible relation stuck tick rank bound)
    (simulates : Simulates device admissible step relation)
    (free : ∀ a cycles b, step a cycles b → ¬stuck a) {a b : α} {made : List κ} {s : σ}
    (related : relation a made s) {inputs : List ι} (admits : device.Admits admissible s inputs)
    (follows : Follows step (fun b s => relation b [] s) a (device.steps made s inputs) b)
    (last : ¬stuck b) :
    inputs.countP tick ≤ rank made s + bound * (device.steps made s inputs).length := by
  induction inputs generalizing a made s with
  | nil => simp
  | cons i inputs ih =>
      rcases admits with ⟨admitted, admits⟩
      have running := follows.free free last
      rw [List.countP_cons]
      unfold Device.steps at follows ⊢
      rcases Bool.eq_false_or_eq_true (tick i) with ticks | ticks
      · rw [ticks, if_pos rfl]
        cases cycle : device.cycle? s i with
        | none =>
            rw [cycle] at follows
            have rest := ih (simulates.pauses related admitted cycle) admits follows
            have lower := paced.waits related admitted running ticks cycle
            dsimp only
            omega
        | some made' =>
            rw [cycle] at follows
            cases completes : device.completes s i
            · rw [completes] at follows
              have rest := ih (simulates.continues related admitted cycle completes) admits follows
              have lower := paced.continues related admitted cycle completes
              simp only [Bool.false_eq_true, if_false]
              omega
            · rw [completes] at follows
              have higher := paced.completes related admitted cycle completes
              simp only [if_true, List.length_cons] at follows ⊢
              cases follows with
              | step first agrees tail =>
                  have rest := ih agrees admits tail
                  rw [Nat.mul_succ]
                  omega
      · rcases paced.pauses related admitted ticks with ⟨cycle, lower⟩
        rw [cycle] at follows ⊢
        have rest := ih (simulates.pauses related admitted cycle) admits follows
        rw [ticks]
        simp only [Bool.false_eq_true, if_false]
        omega

/-- What is shown after every step may be weakened. -/
theorem Follows.weaken {related other : α → σ → Prop} {a b : α} {made : List (List κ × σ)}
    (weaker : ∀ a s, related a s → other a s) (follows : Follows step related a made b) :
    Follows step other a made b := by
  induction follows with
  | done a => exact .done a
  | step made agrees _ ih => exact .step made (weaker _ _ agrees) ih

/-- A paced device is paced in fewer clocks. -/
theorem Paced.restrict {fewer : σ → ι → Prop} {stuck : α → Prop} {tick : ι → Bool}
    {rank : List κ → σ → ℕ} {bound : ℕ}
    (paced : Paced device admissible relation stuck tick rank bound)
    (stronger : ∀ s i, fewer s i → admissible s i) :
    Paced device fewer relation stuck tick rank bound where
  pauses related admitted := paced.pauses related (stronger _ _ admitted)
  waits related admitted := paced.waits related (stronger _ _ admitted)
  continues related admitted := paced.continues related (stronger _ _ admitted)
  completes related admitted := paced.completes related (stronger _ _ admitted)

end Run

end Clocked
