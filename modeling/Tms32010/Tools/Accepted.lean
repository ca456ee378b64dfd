import Mathlib.Data.Int.ModEq
import Mathlib.Tactic.SplitIfs
import Tms32010.Lib.Checks
import Tms32010.Tools.Schema

/-!
# Accepted databases

What the checks of the loader establish: the fixed bits and the spans of the variable
fields of an entry divide its word, and every word is decoded by one entry at most.
-/

namespace Tms32010.Tools.Schema

open Checks

/-! ## Raising -/

@[simp]
theorem refuse_eq_ok {condition : Bool} {message : Text} :
    refuse condition message = .ok () ↔ condition = false := by
  unfold refuse
  cases condition
  · rw [if_neg Bool.false_ne_true]
    simp
  · rw [if_pos rfl]
    simp

/-- A check and what follows it. -/
theorem refuse_bind_eq_ok {condition : Bool} {message : Text} {α : Type}
    {rest : Unit → Except Failure α} {a : α} :
    (refuse condition message >>= rest) = .ok a ↔ condition = false ∧ rest () = .ok a := by
  rw [bind_eq_ok]
  constructor
  · rintro ⟨⟨⟩, passed, success⟩
    exact ⟨refuse_eq_ok.mp passed, success⟩
  · rintro ⟨passed, success⟩
    exact ⟨(), refuse_eq_ok.mpr passed, success⟩

/-! ## Entries -/

/-- The fixed bits and the variable fields of an entry divide the word. -/
structure Entry.Divides (entry : Entry) : Prop where
  fixed : Nat.ldiff entry.opcode.value entry.opcode.mask = 0
  positive : ∀ field ∈ entry.variableFields, 0 < field.width
  apart : entry.variableFields.Pairwise fun left right => left.span.Disjoint right.span
  outside : ∀ field ∈ entry.variableFields, entry.opcode.mask &&& field.span.mask = 0
  covers : masks Field.span entry.variableFields = Nat.ldiff 0xFFFF entry.opcode.mask

section Entries

variable {entry : Entry} {field : Field} {word : ℕ}

theorem validateField_spans {mnemonic : Text} {mask variableMask : ℕ}
    (accepted : validateField mnemonic mask variableMask field = .ok ()) :
    0 < field.width ∧ variableMask &&& field.span.mask = 0 ∧ mask &&& field.span.mask = 0 := by
  unfold validateField at accepted
  rw [refuse_bind_eq_ok, refuse_bind_eq_ok, refuse_bind_eq_ok, Bool.or_eq_false_iff,
    decide_eq_false_iff_not] at accepted
  rcases accepted with ⟨⟨positive, -⟩, before, fixed, -⟩
  exact ⟨Nat.pos_of_ne_zero (by omega), bne_eq_false_iff_eq.mp before,
    bne_eq_false_iff_eq.mp fixed⟩

theorem validateFields_spans {mnemonic : Text} {mask last : ℕ} {fields : List Field}
    {variableMask : ℕ} (accepted : validateFields mnemonic mask fields variableMask = .ok last) :
    last = variableMask ||| masks Field.span fields ∧ (∀ field ∈ fields, 0 < field.width) ∧
      (∀ field ∈ fields, variableMask &&& field.span.mask = 0) ∧
      (∀ field ∈ fields, mask &&& field.span.mask = 0) ∧
      fields.Pairwise fun left right => left.span.Disjoint right.span := by
  induction fields generalizing variableMask with
  | nil =>
      cases accepted
      exact ⟨(Nat.or_zero _).symm, List.forall_mem_nil _, List.forall_mem_nil _,
        List.forall_mem_nil _, List.Pairwise.nil⟩
  | cons field fields ih =>
      unfold validateFields at accepted
      rw [bind_eq_ok] at accepted
      rcases accepted with ⟨⟨⟩, first, rest⟩
      rcases validateField_spans first with ⟨wide, before, fixed⟩
      rcases ih rest with ⟨sum, positive, later, outside, apart⟩
      have split : ∀ other ∈ fields,
          variableMask &&& other.span.mask = 0 ∧ field.span.mask &&& other.span.mask = 0 := by
        intro other among
        have both := later other among
        rwa [Nat.and_or_distrib_right, Nat.or_eq_zero_iff] at both
      refine ⟨?_, List.forall_mem_cons.mpr ⟨wide, positive⟩, ?_, ?_, ?_⟩
      · rw [sum, masks_cons, Nat.or_assoc]
      · exact List.forall_mem_cons.mpr ⟨before, fun other among => (split other among).1⟩
      · exact List.forall_mem_cons.mpr ⟨fixed, outside⟩
      · exact List.Pairwise.cons (fun other among => (split other among).2) apart

/-- An accepted entry divides the word. -/
theorem validateEntry_divides {sourceIds : List Text}
    (accepted : validateEntry sourceIds entry = .ok ()) : entry.Divides := by
  unfold validateEntry at accepted
  rw [refuse_bind_eq_ok, refuse_bind_eq_ok, bind_eq_ok] at accepted
  rcases accepted with ⟨-, -, ⟨⟩, opcode, -⟩
  unfold validateOpcode at opcode
  rw [refuse_bind_eq_ok, refuse_bind_eq_ok, bind_eq_ok] at opcode
  rcases opcode with ⟨-, fixed, variableMask, fields, rest⟩
  rw [refuse_bind_eq_ok] at rest
  rcases validateFields_spans fields with ⟨sum, positive, -, outside, apart⟩
  refine ⟨bne_eq_false_iff_eq.mp fixed, positive, apart, outside, ?_⟩
  rw [← bne_eq_false_iff_eq.mp rest.1, sum, Nat.zero_or]

/-- A word that the opcode of an accepted entry matches is its fixed bits and the bits
of its fields. -/
theorem Entry.Divides.splits (divides : entry.Divides)
    (matched : matchesPattern entry.opcode word = true) (range : word ≤ 0xFFFF) :
    word &&& entry.opcode.mask = entry.opcode.value ∧
      word &&& entry.opcode.mask ||| word &&& masks Field.span entry.variableFields = word := by
  have kept : entry.opcode.value &&& entry.opcode.mask = entry.opcode.value := by
    apply Nat.eq_of_testBit_eq
    intro k
    have bit := congrArg (Nat.testBit · k) divides.fixed
    rw [Nat.testBit_ldiff, Nat.zero_testBit] at bit
    rw [Nat.testBit_and]
    revert bit
    cases entry.opcode.value.testBit k <;> cases entry.opcode.mask.testBit k <;> decide
  have same : word &&& entry.opcode.mask = _ := beq_iff_eq.mp matched
  refine ⟨same.trans kept, ?_⟩
  rw [divides.covers]
  have inside : word &&& 0xFFFF = word := by
    rw [show 0xFFFF = 2 ^ 16 - 1 from rfl, Nat.and_two_pow_sub_one_eq_mod]
    omega
  apply Nat.eq_of_testBit_eq
  intro k
  have bit := congrArg (Nat.testBit · k) inside
  simp only [Nat.testBit_and] at bit
  simp only [Nat.testBit_or, Nat.testBit_and, Nat.testBit_ldiff]
  revert bit
  cases word.testBit k <;> cases entry.opcode.mask.testBit k <;> cases Nat.testBit 0xFFFF k <;>
    decide

end Entries

/-! ## Decoding -/

section Decoding

variable {entry : Entry} {word : ℕ} {fields : Fields} {name : Text} {value : ℤ}

/-- A bit of a field: beyond its width a signed field goes on with its last bit. -/
def Field.bit (field : Field) (word k : ℕ) : Bool :=
  if k < field.width then word.testBit (field.lsb + k)
  else field.signed && word.testBit (field.lsb + (field.width - 1))

theorem Field.testBit_read {field : Field} {k : ℕ} (inside : k < field.width) (word : ℕ) :
    (field.span.read word).testBit k = field.bit word k := by
  have bit : (field.span.read word).testBit k =
      (word.testBit (field.lsb + k) && decide (k < field.width)) :=
    Span.testBit_read
  unfold Field.bit
  rw [bit, if_pos inside, decide_eq_true inside, Bool.and_true]

/-- The value of a field holds its bits, modulo any power of two. -/
theorem Field.testBit_raw {field : Field} (positive : 0 < field.width) {n k : ℕ} (inside : k < n)
    (word : ℕ) : (field.raw word % 2 ^ n).toNat.testBit k = field.bit word k := by
  have small : field.span.read word < 2 ^ field.width := Span.read_lt
  have bits (k : ℕ) : (field.span.read word).testBit k =
      (word.testBit (field.lsb + k) && decide (k < field.width)) :=
    Span.testBit_read
  have sign : (field.span.read word &&& 2 ^ (field.width - 1) != 0) =
      word.testBit (field.lsb + (field.width - 1)) := by
    have last := bits (field.width - 1)
    rw [decide_eq_true (Nat.sub_lt positive Nat.one_pos), Bool.and_true] at last
    rw [Nat.and_two_pow, last]
    cases word.testBit (field.lsb + (field.width - 1))
    · rw [Bool.toNat_false, Nat.zero_mul]
      rfl
    · rw [Bool.toNat_true, Nat.one_mul, bne_iff_ne]
      exact (Nat.two_pow_pos _).ne'
  unfold Field.raw Field.bit
  dsimp only
  rw [sign]
  cases field.signed && word.testBit (field.lsb + (field.width - 1))
  · rw [if_neg Bool.false_ne_true, testBit_emod inside, bits]
    by_cases low : k < field.width
    · simp [low]
    · simp [low]
  · rw [if_pos rfl, testBit_sub_emod small inside, bits]
    by_cases low : k < field.width
    · simp [low]
    · simp [low]

theorem Fields.lookup_put (fields : Fields) (name key : Text) (value : ℤ) :
    List.lookup key (fields.put name value) =
      if key = name then some value else List.lookup key fields := by
  induction fields with
  | nil =>
      unfold Fields.put
      by_cases same : key = name
      · simp [List.lookup, same]
      · have apart : (key == name) = false := beq_eq_false_iff_ne.mpr same
        simp [List.lookup, same, apart]
  | cons first rest ih =>
      rcases first with ⟨head, old⟩
      unfold Fields.put
      by_cases here : head = name
      · rw [if_pos here]
        by_cases same : key = name
        · simp [List.lookup, same, here]
        · have apart : (key == head) = false := beq_eq_false_iff_ne.mpr (here ▸ same)
          simp [List.lookup, same, apart]
      · rw [if_neg here]
        by_cases same : key = head
        · have other : key ≠ name := fun equal => here (same.symm.trans equal)
          simp [List.lookup, same, same ▸ other]
        · have apart : (key == head) = false := beq_eq_false_iff_ne.mpr same
          simp [List.lookup, apart, ih]

/-- The last field of a name in a list of fields. -/
def lastNamed (fields : List Field) (name : Text) : Option Field :=
  fields.reverse.find? fun field => field.name = name

theorem lastNamed_cons (field : Field) (fields : List Field) (name : Text) :
    lastNamed (field :: fields) name =
      (lastNamed fields name).or (if field.name = name then some field else none) := by
  unfold lastNamed
  rw [List.reverse_cons, List.find?_append]
  by_cases same : field.name = name
  · simp [same]
  · simp [same]

/-- The dictionary with the values of some fields put into it. -/
def putFields (word : ℕ) : List Field → Fields → Fields
  | [], fields => fields
  | field :: rest, fields => putFields word rest (fields.put field.name (field.raw word))

theorem decodeFields_eq_some {items : List Field} {start : Fields} :
    decodeFields word items start = some fields ↔
      (∀ field ∈ items, field.legal word = true) ∧ fields = putFields word items start := by
  induction items generalizing start with
  | nil =>
      unfold decodeFields putFields
      rw [Option.some_inj]
      constructor
      · intro same
        exact ⟨List.forall_mem_nil _, same.symm⟩
      · intro both
        exact both.2.symm
  | cons field items ih =>
      unfold decodeFields putFields
      rw [List.forall_mem_cons]
      by_cases legal : field.legal word = true
      · rw [if_pos legal, ih]
        simp [legal]
      · rw [if_neg legal]
        simp [legal]

/-- The dictionary has the last field of each name. -/
theorem lookup_putFields (items : List Field) (start : Fields) (key : Text) :
    List.lookup key (putFields word items start) =
      ((lastNamed items key).map (·.raw word)).or (List.lookup key start) := by
  induction items generalizing start with
  | nil => rfl
  | cons field items ih =>
      unfold putFields
      rw [ih, Fields.lookup_put, lastNamed_cons]
      cases lastNamed items key with
      | some last => rfl
      | none =>
          by_cases same : key = field.name
          · rw [if_pos same, if_pos same.symm]
            rfl
          · rw [if_neg same, if_neg (Ne.symm same)]
            rfl

/-- The pattern and the constraints of the entry hold, and its fields are legal. -/
def Entry.accepts (entry : Entry) (word : ℕ) : Bool :=
  matchesPattern entry.opcode word && entry.constraints.all (·.satisfied word) &&
    entry.variableFields.all (·.legal word)

theorem Entry.decode_eq_some (entry : Entry) (word : ℕ) (fields : Fields) :
    entry.decode word = some fields ↔
      entry.accepts word = true ∧ fields = putFields word entry.variableFields [] := by
  unfold Entry.decode Entry.accepts
  rw [Bool.and_eq_true, Bool.and_eq_true, List.all_eq_true (l := entry.variableFields)]
  cases matchesPattern entry.opcode word
  · simp
  · cases entry.constraints.all (·.satisfied word)
    · simp
    · simp [decodeFields_eq_some]

theorem Entry.decode_lookup (decoded : entry.decode word = some fields) (key : Text) :
    List.lookup key fields = (entry.lastNamed key).map (·.raw word) := by
  rw [Entry.decode_eq_some] at decoded
  rw [decoded.2, lookup_putFields]
  change ((entry.lastNamed key).map (·.raw word)).or none = _
  rw [Option.or_none]

/-- Within the range the entries that decode a word are found without raising. -/
theorem decodings_eq (range : word ≤ 0xFFFF) (entries : List Entry) :
    decodings word entries =
      .ok (entries.filterMap fun entry => (entry.decode word).map (entry, ·)) := by
  induction entries with
  | nil => rfl
  | cons entry entries ih =>
      unfold decodings decodeEntry
      rw [if_neg (by omega), ih, List.filterMap_cons]
      cases entry.decode word with
      | none => rfl
      | some fields => rfl

end Decoding

/-! ## Databases -/

/-- What the checks of a database establish. -/
structure Database.Accepted (database : Database) : Prop where
  divides : ∀ entry ∈ database.instructions, entry.Divides
  distinct : (database.instructions.map (·.mnemonic)).Nodup
  unique : ∀ word ≤ 0xFFFF, (database.instructions.filterMap fun entry =>
    (entry.decode word).map (entry, ·)).length ≤ 1

theorem tally_eq_ok {instructions : List Entry} {counts next : List (Text × ℕ)} {word : ℕ}
    (range : word ≤ 0xFFFF) :
    tally instructions counts word = .ok next ↔
      (instructions.filterMap fun entry => (entry.decode word).map (entry, ·)).length ≤ 1 ∧
        next = counts.map fun count => (count.1, count.2 +
          ((instructions.filterMap fun entry => (entry.decode word).map (entry, ·)).map
            (·.1.mnemonic)).count count.1) := by
  unfold tally
  rw [decodings_eq range, bind_eq_ok]
  constructor
  · rintro ⟨found, same, rest⟩
    rw [Except.ok.injEq] at same
    rw [refuse_bind_eq_ok, decide_eq_false_iff_not, List.length_map, pure_eq_ok] at rest
    rw [same]
    exact ⟨Nat.le_of_not_lt rest.1, rest.2.symm⟩
  · rintro ⟨single, same⟩
    refine ⟨_, rfl, ?_⟩
    rw [refuse_bind_eq_ok, decide_eq_false_iff_not, List.length_map, pure_eq_ok]
    exact ⟨Nat.not_lt_of_le single, same.symm⟩

/-- A database that the loader accepts. -/
theorem validateDatabase_accepted {sourceIds : List Text} {database : Database}
    (accepted : validateDatabase sourceIds database = .ok ()) : database.Accepted := by
  unfold validateDatabase at accepted
  rw [refuse_bind_eq_ok, refuse_bind_eq_ok, bind_eq_ok] at accepted
  rcases accepted with ⟨-, -, coverage, -, accepted⟩
  rw [bind_eq_ok] at accepted
  rcases accepted with ⟨supported, -, accepted⟩
  rw [bind_eq_ok] at accepted
  rcases accepted with ⟨audit, -, accepted⟩
  rw [bind_eq_ok] at accepted
  rcases accepted with ⟨definitions, -, accepted⟩
  rw [bind_eq_ok] at accepted
  rcases accepted with ⟨⟨⟩, entries, accepted⟩
  rw [bind_eq_ok] at accepted
  rcases accepted with ⟨⟨⟩, -, accepted⟩
  rw [refuse_bind_eq_ok, refuse_bind_eq_ok, Bool.not_eq_false', decide_eq_true_iff] at accepted
  rcases accepted with ⟨-, distinct, decodes⟩
  refine ⟨?_, distinct, ?_⟩
  · intro entry among
    exact validateEntry_divides (forM_eq_ok.mp entries entry among)
  · intro word range
    unfold validateDecode at decodes
    rw [bind_eq_ok] at decodes
    rcases decodes with ⟨counts, loop, -⟩
    have among : word ∈ List.range 0x10000 := List.mem_range.mpr (by omega)
    rcases foldlM_reaches among loop with ⟨before, after, here⟩
    exact ((tally_eq_ok range).mp here).1

end Tms32010.Tools.Schema
