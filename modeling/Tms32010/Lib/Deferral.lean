import Mathlib.Data.List.Basic

/-!
# Deferred entry

A control unit latches a request and serves it by an entry, after one protected
instruction. Some instructions raise the mask, some lower it, and some prolong the
protection by another instruction. A run is a list of moves, each an instruction or an
entry; the law of a run says where its entries stand.
-/

namespace Deferral

universe u

variable {ι σ : Type u}

/-- What the instructions do to the mask and to the protection. -/
structure Policy (ι : Type u) where
  masks : ι → Bool
  unmasks : ι → Bool
  prolongs : ι → Bool

/-- The flags of the unit between two moves. -/
structure Flags where
  mask : Bool
  pending : Bool
  delay : Bool
  entry : Bool
  deriving DecidableEq

/-- A request that may be served. -/
def Flags.armed (f : Flags) : Bool := f.pending && !f.mask

/-- The flags after an entry. -/
def Flags.entered : Flags := ⟨true, false, false, false⟩

/-- The mask after an instruction. -/
def Policy.maskAfter (policy : Policy ι) (m : ι) (mask : Bool) : Bool :=
  if policy.masks m then true else if policy.unmasks m then false else mask

/-- The flags after an instruction, with or without a request during it. -/
def Policy.retire (policy : Policy ι) (m : ι) (request : Bool) (f : Flags) : Flags :=
  let mask := policy.maskAfter m f.mask
  let pending := f.pending || request
  if f.delay then
    if mask then ⟨mask, pending, false, false⟩
    else if policy.prolongs m then ⟨mask, pending, true, false⟩
    else ⟨mask, pending, false, true⟩
  else ⟨mask, pending, pending && !mask, false⟩

/-- An instruction, or an entry, from one state to the next. -/
structure Move (ι σ : Type u) where
  executed : Option ι
  request : Bool
  before : σ
  after : σ

section Runs

variable (policy : Policy ι) (flags : σ → Flags) (enters : σ → σ → Prop)

/-- A move the unit makes: an entry exactly when one is due. -/
def Policy.Makes (move : Move ι σ) : Prop :=
  match move.executed with
  | none => (flags move.before).entry = true ∧ flags move.after = .entered ∧
      enters move.before move.after
  | some m => (flags move.before).entry = false ∧
      flags move.after = policy.retire m move.request (flags move.before)

/-- Moves one after the other. -/
inductive Policy.Run : σ → List (Move ι σ) → Prop where
  | done (s : σ) : Policy.Run s []
  | move {move : Move ι σ} {rest : List (Move ι σ)} (made : policy.Makes flags enters move)
      (tail : Policy.Run move.after rest) : Policy.Run move.before (move :: rest)

/-- The moves from a protected instruction on: instructions that prolong the protection, and
then one that masks the request, or another and the entry. -/
inductive Policy.Served : List (Move ι σ) → Prop where
  | ended : Policy.Served []
  | prolonged {move : Move ι σ} {m : ι} {rest : List (Move ι σ)}
      (executed : move.executed = some m) (unmasked : policy.masks m = false)
      (prolongs : policy.prolongs m = true) (armed : (flags move.after).armed = true)
      (tail : Policy.Served rest) : Policy.Served (move :: rest)
  | cancelled {move : Move ι σ} {m : ι} {rest : List (Move ι σ)}
      (executed : move.executed = some m) (masks : policy.masks m = true)
      (pending : (flags move.after).pending = true)
      (next : ∀ e ∈ rest.head?, e.executed ≠ none) : Policy.Served (move :: rest)
  | entered {move : Move ι σ} {m : ι} {rest : List (Move ι σ)}
      (executed : move.executed = some m) (unmasked : policy.masks m = false)
      (plain : policy.prolongs m = false) (next : ∀ e ∈ rest.head?, e.executed = none) :
      Policy.Served (move :: rest)

/-- The law of a run. -/
structure Policy.Lawful (moves : List (Move ι σ)) : Prop where
  /-- A request stays pending until an entry. -/
  keeps : ∀ move ∈ moves, move.executed ≠ none →
    ((flags move.before).pending || move.request) = true → (flags move.after).pending = true
  /-- An entry serves a pending request that is not masked, masks and clears it. -/
  entry : ∀ move ∈ moves, move.executed = none →
    (flags move.before).pending = true ∧ (flags move.before).mask = false ∧
      (flags move.after).pending = false ∧ (flags move.after).mask = true ∧
      enters move.before move.after
  /-- No run starts with an entry. -/
  first : ∀ move ∈ moves.head?, move.executed ≠ none
  /-- Before an entry stands an instruction that neither prolongs the protection nor lowers
  the mask. -/
  last : ∀ before move entry rest, moves = before ++ move :: entry :: rest →
    entry.executed = none →
    ∃ m, move.executed = some m ∧ policy.prolongs m = false ∧ (flags move.before).mask = false
  /-- A request that becomes armed at the end of an instruction is served. -/
  served : ∀ before move rest, moves = before ++ move :: rest →
    (flags move.after).armed = true → (before = [] ∨ (flags move.before).armed = false) →
    policy.Served flags rest

end Runs

/-! ## Invariant -/

/-- An entry is due, or an instruction protected, for an armed request only. -/
structure Flags.Sound (f : Flags) : Prop where
  delay : f.delay = true → f.armed = true ∧ f.entry = false
  entry : f.entry = true → f.armed = true

theorem Flags.sound_of_unscheduled {f : Flags} (delay : f.delay = false) (entry : f.entry = false) :
    f.Sound :=
  ⟨fun h => absurd (delay.symm.trans h) Bool.false_ne_true,
    fun h => absurd (entry.symm.trans h) Bool.false_ne_true⟩

theorem Flags.armed_iff {f : Flags} : f.armed = true ↔ f.pending = true ∧ f.mask = false := by
  unfold Flags.armed
  rw [Bool.and_eq_true, Bool.not_eq_true']

section Retire

variable (policy : Policy ι) (m : ι) (request : Bool) (f : Flags)

theorem Policy.retire_pending : (policy.retire m request f).pending = (f.pending || request) := by
  unfold Policy.retire
  dsimp only
  split_ifs <;> rfl

theorem Policy.retire_mask :
    (policy.retire m request f).mask = policy.maskAfter m f.mask := by
  unfold Policy.retire
  dsimp only
  split_ifs <;> rfl

/-- An unprotected instruction is protected from when the request is armed at its end. -/
theorem Policy.retire_unprotected {f : Flags} (delay : f.delay = false) :
    (policy.retire m request f).delay = (policy.retire m request f).armed ∧
      (policy.retire m request f).entry = false := by
  unfold Policy.retire
  rw [delay]
  exact ⟨rfl, rfl⟩

/-- A protected instruction that masks the request cancels the entry. -/
theorem Policy.retire_masking {f : Flags} (delay : f.delay = true) (masks : policy.masks m = true) :
    (policy.retire m request f).delay = false ∧ (policy.retire m request f).entry = false := by
  unfold Policy.retire Policy.maskAfter
  rw [delay, masks]
  exact ⟨rfl, rfl⟩

/-- Another one makes the entry due, unless it prolongs the protection. -/
theorem Policy.retire_protected {f : Flags} (delay : f.delay = true) (mask : f.mask = false)
    (unmasked : policy.masks m = false) :
    (policy.retire m request f).delay = policy.prolongs m ∧
      (policy.retire m request f).entry = !policy.prolongs m := by
  have after : policy.maskAfter m f.mask = false := by
    unfold Policy.maskAfter
    rw [unmasked, mask, if_neg Bool.false_ne_true, ite_self]
  unfold Policy.retire
  rw [delay, after]
  cases policy.prolongs m <;> exact ⟨rfl, rfl⟩

/-- An entry is due only after a protected, unmasked instruction that does not prolong. -/
theorem Policy.retire_entry {f : Flags} (due : (policy.retire m request f).entry = true) :
    f.delay = true ∧ policy.maskAfter m f.mask = false ∧ policy.prolongs m = false := by
  unfold Policy.retire at due
  dsimp only at due
  split_ifs at due with delay mask prolongs
  exact ⟨delay, Bool.eq_false_iff.mpr mask, Bool.eq_false_iff.mpr prolongs⟩

theorem Policy.retire_sound {f : Flags} (sound : f.Sound) : (policy.retire m request f).Sound := by
  rcases Bool.eq_false_or_eq_true f.delay with delay | delay
  · have armed := Flags.armed_iff.mp (sound.delay delay).1
    have pending : (policy.retire m request f).pending = true := by
      rw [Policy.retire_pending, armed.1, Bool.true_or]
    rcases Bool.eq_false_or_eq_true (policy.masks m) with masks | unmasked
    · rcases policy.retire_masking m request delay masks with ⟨noDelay, noEntry⟩
      exact Flags.sound_of_unscheduled noDelay noEntry
    · rcases policy.retire_protected m request delay armed.2 unmasked with ⟨delayed, due⟩
      have armed' : (policy.retire m request f).armed = true := by
        rw [Flags.armed_iff, Policy.retire_mask]
        refine ⟨pending, ?_⟩
        unfold Policy.maskAfter
        rw [unmasked, armed.2, if_neg Bool.false_ne_true, ite_self]
      refine ⟨fun protects => ⟨armed', ?_⟩, fun _ => armed'⟩
      rw [due, ← delayed, protects]
      rfl
  · rcases policy.retire_unprotected m request delay with ⟨delayed, noEntry⟩
    exact ⟨fun protects => ⟨delayed.symm.trans protects, noEntry⟩,
      fun due => absurd (noEntry.symm.trans due) Bool.false_ne_true⟩

end Retire

section Run

variable {policy : Policy ι} {flags : σ → Flags} {enters : σ → σ → Prop}

theorem Policy.Makes.sound {move : Move ι σ} (made : policy.Makes flags enters move)
    (sound : (flags move.before).Sound) : (flags move.after).Sound := by
  unfold Policy.Makes at made
  cases executed : move.executed with
  | none =>
      rw [executed] at made
      rw [made.2.1]
      exact Flags.sound_of_unscheduled rfl rfl
  | some m =>
      rw [executed] at made
      rw [made.2]
      exact policy.retire_sound m move.request sound

/-- A move of one device is a move of another that shows the same flags. -/
theorem Policy.Makes.map {τ : Type u} {flags' : τ → Flags} {enters' : τ → τ → Prop}
    {move : Move ι σ} {move' : Move ι τ} (made : policy.Makes flags enters move)
    (executed : move'.executed = move.executed) (request : move'.request = move.request)
    (before : flags' move'.before = flags move.before)
    (after : flags' move'.after = flags move.after)
    (effect : enters move.before move.after → enters' move'.before move'.after) :
    policy.Makes flags' enters' move' := by
  unfold Policy.Makes at made ⊢
  rw [executed, request, before, after]
  cases which : move.executed with
  | none =>
      rw [which] at made
      exact ⟨made.1, made.2.1, effect made.2.2⟩
  | some m =>
      rw [which] at made
      exact made

/-- The first move of a run is an entry exactly when one is due. -/
theorem Policy.Run.head {s : σ} {moves : List (Move ι σ)} (run : policy.Run flags enters s moves) :
    ∀ move ∈ moves.head?, move.before = s ∧ policy.Makes flags enters move ∧
      (move.executed = none ↔ (flags s).entry = true) := by
  intro move first
  cases run with
  | done => exact absurd first (by simp)
  | @move move' rest made tail =>
      rw [List.head?_cons, Option.mem_some_iff] at first
      subst first
      refine ⟨rfl, made, ?_⟩
      unfold Policy.Makes at made
      cases executed : move'.executed with
      | none =>
          rw [executed] at made
          exact ⟨fun _ => made.1, fun _ => rfl⟩
      | some m =>
          rw [executed] at made
          rw [made.1]
          exact ⟨nofun, fun due => absurd due Bool.false_ne_true⟩

/-- A run from a later state. -/
theorem Policy.Run.drop {s : σ} {before rest : List (Move ι σ)}
    (run : policy.Run flags enters s (before ++ rest)) (sound : (flags s).Sound) :
    ∃ t, policy.Run flags enters t rest ∧ (flags t).Sound ∧ (before = [] → t = s) := by
  induction before generalizing s with
  | nil => exact ⟨s, run, sound, fun _ => rfl⟩
  | cons move before ih =>
      cases run with
      | move made tail =>
          rcases ih tail (made.sound sound) with ⟨t, run, sound, -⟩
          exact ⟨t, run, sound, nofun⟩

/-- From a protected instruction on, a run serves the request. -/
theorem Policy.Run.served {s : σ} {moves : List (Move ι σ)}
    (run : policy.Run flags enters s moves) (sound : (flags s).Sound)
    (delay : (flags s).delay = true) : policy.Served flags moves := by
  induction run with
  | done => exact .ended
  | @move move rest made tail ih =>
      rcases sound.delay delay with ⟨armed, noEntry⟩
      have next := made.sound sound
      have later := tail.head
      unfold Policy.Makes at made
      cases executed : move.executed with
      | none =>
          rw [executed] at made
          exact absurd (noEntry.symm.trans made.1) Bool.false_ne_true
      | some m =>
          rw [executed] at made
          rcases Flags.armed_iff.mp armed with ⟨pending, mask⟩
          rcases Bool.eq_false_or_eq_true (policy.masks m) with masks | unmasked
          · rcases policy.retire_masking m move.request delay masks with ⟨-, noEntry'⟩
            refine .cancelled executed masks ?_ ?_
            · rw [made.2, Policy.retire_pending, pending, Bool.true_or]
            · intro e first entered
              rw [(later e first).2.2, made.2, noEntry'] at entered
              exact absurd entered Bool.false_ne_true
          · rcases policy.retire_protected m move.request delay mask unmasked with
              ⟨delayed, due⟩
            rcases Bool.eq_false_or_eq_true (policy.prolongs m) with prolongs | plain
            · have delay' : (flags move.after).delay = true := by
                rw [made.2, delayed, prolongs]
              exact .prolonged executed unmasked prolongs (next.delay delay').1 (ih next delay')
            · refine .entered executed unmasked plain ?_
              intro e first
              rw [(later e first).2.2, made.2, due, plain]
              rfl

/-- A move within a run. -/
theorem Policy.Run.split {s : σ} {before rest : List (Move ι σ)} {move : Move ι σ}
    (run : policy.Run flags enters s (before ++ move :: rest)) (sound : (flags s).Sound) :
    policy.Makes flags enters move ∧ (flags move.before).Sound ∧
      policy.Run flags enters move.after rest ∧ (before = [] → move.before = s) := by
  rcases run.drop sound with ⟨t, run, sound, start⟩
  cases run with
  | move made tail => exact ⟨made, sound, tail, start⟩

end Run

/-! ## The law -/

/-- Every run from a state without a scheduled entry obeys the law. -/
theorem Policy.Run.lawful {policy : Policy ι} {flags : σ → Flags} {enters : σ → σ → Prop} {s : σ}
    {moves : List (Move ι σ)} (run : policy.Run flags enters s moves)
    (delay : (flags s).delay = false) (entry : (flags s).entry = false) :
    policy.Lawful flags enters moves := by
  have sound := Flags.sound_of_unscheduled delay entry
  have member : ∀ move ∈ moves,
      policy.Makes flags enters move ∧ (flags move.before).Sound := by
    intro move member
    rcases List.append_of_mem member with ⟨before, rest, rfl⟩
    rcases run.split sound with ⟨made, sound, -⟩
    exact ⟨made, sound⟩
  refine ⟨?_, ?_, ?_, ?_, ?_⟩
  · intro move inRun instruction pending
    rcases member move inRun with ⟨made, -⟩
    unfold Policy.Makes at made
    cases executed : move.executed with
    | none => exact absurd executed instruction
    | some m =>
        rw [executed] at made
        rw [made.2, Policy.retire_pending, pending]
  · intro move inRun entered
    rcases member move inRun with ⟨made, sound⟩
    unfold Policy.Makes at made
    rw [entered] at made
    rcases made with ⟨due, after, effect⟩
    rcases Flags.armed_iff.mp (sound.entry due) with ⟨pending, mask⟩
    rw [after]
    exact ⟨pending, mask, rfl, rfl, effect⟩
  · intro move first entered
    rw [(run.head move first).2.2, entry] at entered
    exact absurd entered Bool.false_ne_true
  · rintro before move next rest rfl entered
    rcases run.split sound with ⟨made, sound, tail, -⟩
    have due := (tail.head next rfl).2.2.mp entered
    unfold Policy.Makes at made
    cases executed : move.executed with
    | none =>
        rw [executed] at made
        rw [made.2.1] at due
        exact absurd due Bool.false_ne_true
    | some m =>
        rw [executed] at made
        rw [made.2] at due
        rcases policy.retire_entry m move.request due with ⟨delay, -, plain⟩
        exact ⟨m, rfl, plain, (Flags.armed_iff.mp (sound.delay delay).1).2⟩
  · rintro before move rest rfl armed fresh
    rcases run.split sound with ⟨made, sound', tail, start⟩
    have unprotected : (flags move.before).delay = false := by
      rcases fresh with first | unarmed
      · rw [start first, delay]
      · by_contra protects
        rw [Bool.not_eq_false] at protects
        exact absurd (unarmed.symm.trans (sound'.delay protects).1) Bool.false_ne_true
    apply tail.served (made.sound sound')
    unfold Policy.Makes at made
    cases executed : move.executed with
    | none =>
        rw [executed] at made
        rw [made.2.1] at armed
        exact absurd armed Bool.false_ne_true
    | some m =>
        rw [executed] at made
        rw [made.2] at armed ⊢
        exact (policy.retire_unprotected m move.request unprotected).1.trans armed

end Deferral
