import FormEngine.Proofs.Forest
import FormEngine.Schema.Encode
import FormEngine.Schema.Traits

set_option autoImplicit false

namespace FormEngine

open Reading

namespace Reading

variable {α β : Type}

theorem feed_ok_iff (x : Reading α) (f : Reading (α → β)) (b : β) :
    feed x f = .ok b ↔ ∃ g, f = .ok g ∧ ∃ a, x = .ok a ∧ g a = b := by
  cases f <;> cases x <;> simp [feed]

theorem below_ok_iff (step : Step) (x : Reading α) (a : α) : below step x = .ok a ↔ x = .ok a := by
  cases x with
  | error faults => constructor <;> intro same <;> cases same
  | ok b => exact Iff.rfl

end Reading

namespace Trait

variable {α : Type}

theorem read_in_given (t : Trait α) (origin : Origin) (found : Keyed Value) (v : Value) (a : α)
    (given : attribute? found t.name t.name = some v) :
    t.readIn origin found = .ok (t.of a) ↔ t.read origin v = .ok (t.of a) := by
  rw [readIn]
  cases t.fallback with
  | none => simp only [Reading.required, given, below_ok_iff]
  | some content => simp only [Reading.optional, given, below_ok_iff]

theorem read_in_same (t : Trait α) (origin : Origin) (found other : Keyed Value) (a : α)
    (same : Keyed.value? found t.name = Keyed.value? other t.name) :
    t.readIn origin found = .ok (t.of a) ↔ t.readIn origin other = .ok (t.of a) := by
  have given : attribute? found t.name t.name = attribute? other t.name t.name := by rw [attribute?, attribute?, same]
  rw [readIn, readIn]
  cases t.fallback with
  | none =>
      simp only [Reading.required, given]
      cases attribute? other t.name t.name with
      | none => constructor <;> intro read <;> cases read
      | some v => exact Iff.rfl
  | some content => simp only [Reading.optional, given]

end Trait

theorem Basics.read_iff (origin : Origin) (found : Keyed Value) (b : Basics) :
    Basics.read origin found = .ok b ↔ ∀ t ∈ Basics.traits, t.readIn origin found = .ok (t.of b) := by
  simp only [Basics.read, feed_ok_iff, traits, List.forall_mem_cons, List.not_mem_nil, false_imp_iff, implies_true,
    and_true, Trait.readIn]
  constructor
  · rintro ⟨_, ⟨_, ⟨_, ⟨_, ⟨_, ⟨_, made, _, id, rfl⟩, _, name, rfl⟩, _, label, rfl⟩, _, placeholder, rfl⟩, _, required,
      rfl⟩, _, rules, rfl⟩
    cases made
    exact ⟨id, name, label, placeholder, required, rules⟩
  · rintro ⟨id, name, label, placeholder, required, rules⟩
    exact ⟨_, ⟨_, ⟨_, ⟨_, ⟨_, ⟨_, rfl, _, id, rfl⟩, _, name, rfl⟩, _, label, rfl⟩, _, placeholder, rfl⟩, _, required,
      rfl⟩, _, rules, rfl⟩

theorem Trait.via_read_in {α β : Type} (f : β → α) (t : Trait α) (origin : Origin) (found : Keyed Value) :
    (t.via f).readIn origin found = t.readIn origin found := by
  rcases t with ⟨name, Content, fallback, read, of⟩
  cases fallback <;> rfl

theorem Trait.all_via {α β : Type} (f : β → α) (traits : List (Trait α)) (origin : Origin) (found : Keyed Value) (b : β) :
    (∀ t ∈ traits.map (Trait.via f), t.readIn origin found = .ok (t.of b)) ↔
      ∀ t ∈ traits, t.readIn origin found = .ok (t.of (f b)) := by
  rw [List.forall_mem_map]
  exact forall₂_congr fun t _ => by rw [via_read_in]; rfl

theorem Field.read_iff (origin : Origin) (found : Keyed Value) (f : Field) :
    Field.readEntries origin found = .ok f ↔ ∀ t ∈ Field.traits, t.readIn origin found = .ok (t.of f) := by
  rw [traits, List.forall_mem_append, Trait.all_via, ← Basics.read_iff]
  simp only [Field.readEntries, feed_ok_iff, List.forall_mem_cons, List.not_mem_nil, false_imp_iff, implies_true,
    and_true, Trait.readIn]
  constructor
  · rintro ⟨_, ⟨_, ⟨_, ⟨_, ⟨_, ⟨_, ⟨_, ⟨_, ⟨_, made, _, basics, rfl⟩, _, kind, rfl⟩, _, choices, rfl⟩, _, table, rfl⟩, _,
      mask, rfl⟩, _, currency, rfl⟩, _, scale, rfl⟩, _, tags, rfl⟩, _, heading, rfl⟩
    cases made
    exact ⟨basics, kind, choices, table, mask, currency, scale, tags, heading⟩
  · rintro ⟨basics, kind, choices, table, mask, currency, scale, tags, heading⟩
    exact ⟨_, ⟨_, ⟨_, ⟨_, ⟨_, ⟨_, ⟨_, ⟨_, ⟨_, rfl, _, basics, rfl⟩, _, kind, rfl⟩, _, choices, rfl⟩, _, table, rfl⟩, _,
      mask, rfl⟩, _, currency, rfl⟩, _, scale, rfl⟩, _, tags, rfl⟩, _, heading, rfl⟩

theorem Group.read_iff (origin : Origin) (found : Keyed Value) (n : Node) :
    Node.readGroup Node.read origin found = .ok n ↔ ∃ g children, n = .group g children ∧
      ∀ t ∈ Group.traits, t.readIn origin found = .ok (t.of (g, children)) := by
  simp only [traits, List.forall_mem_append, Trait.all_via, ← Basics.read_iff]
  simp only [Node.readGroup, feed_ok_iff, List.forall_mem_cons, List.not_mem_nil, false_imp_iff, implies_true, and_true,
    Trait.readIn]
  constructor
  · rintro ⟨_, ⟨_, ⟨_, ⟨_, made, basics, basicsRead, rfl⟩, _, type, rfl⟩, children, childrenRead, rfl⟩, condition,
      conditionRead, rfl⟩
    cases made
    exact ⟨⟨basics, condition⟩, children, rfl, basicsRead, type, childrenRead, conditionRead⟩
  · rintro ⟨g, children, rfl, basics, type, childrenRead, condition⟩
    exact ⟨_, ⟨_, ⟨_, ⟨_, rfl, _, basics, rfl⟩, _, type, rfl⟩, _, childrenRead, rfl⟩, _, condition, rfl⟩

-- What a patch names is as the patch gives it, and all else is as it was.
structure Patched {α : Type} (traits : List (Trait α)) (patch : Keyed Value) (before after : α) : Prop where
  known : ∀ key ∈ Keyed.names patch, ∃ t ∈ traits, t.name = key
  given : ∀ t ∈ traits, ∀ v, Keyed.value? patch t.name = some v → t.read .values v = .ok (t.of after)
  kept : ∀ t ∈ traits, t.name ∉ Keyed.names patch → t.of after = t.of before

def Node.Patched (patch : Keyed Value) : Node → Node → Prop
  | .field before, .field after => FormEngine.Patched Field.traits patch before after
  | .group before inside, .group after others => FormEngine.Patched Group.traits patch (before, inside) (after, others)
  | _, _ => False

theorem patched_of_read {α : Type} {traits : List (Trait α)} {found patch : Keyed Value} {before after : α}
    (distinct : (Keyed.names patch).Nodup) (known : ∀ key ∈ Keyed.names patch, ∃ t ∈ traits, t.name = key)
    (old : ∀ t ∈ traits, t.readIn .values found = .ok (t.of before))
    (new : ∀ t ∈ traits, t.readIn .values (Keyed.putAll found patch) = .ok (t.of after)) :
    Patched traits patch before after where
  known := known
  given t member v given := by
    have here : attribute? (Keyed.putAll found patch) t.name t.name = some v := by
      rw [attribute?, Keyed.value?_putAll found patch distinct, given]
      rfl
    exact (t.read_in_given .values _ v after here).mp (new t member)
  kept t member other := by
    have absent : Keyed.value? patch t.name = none := by
      rw [Keyed.mem_names_iff, not_exists] at other
      exact Option.eq_none_iff_forall_ne_some.mpr other
    have same : Keyed.value? (Keyed.putAll found patch) t.name = Keyed.value? found t.name := by
      rw [Keyed.value?_putAll found patch distinct, absent, Option.none_or]
    have read := (t.read_in_same .values _ found after same).mp (new t member)
    exact Except.ok.inj (read.symm.trans (old t member))

end FormEngine
