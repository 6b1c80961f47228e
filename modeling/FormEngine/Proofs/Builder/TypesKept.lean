import FormEngine.Proofs.Builder.Patched

set_option autoImplicit false

namespace FormEngine

open Reading

namespace Node

def TypesKept (before after : List Node) : Prop :=
  ∀ m ∈ nodesOf before, ∀ n ∈ nodesOf after, m.id = n.id → m.typeName = n.typeName

def types (nodes : List Node) : Keyed String := (nodesOf nodes).map fun n => (n.id, n.typeName)

theorem names_types (nodes : List Node) : Keyed.names (types nodes) = idsOf nodes := List.map_map

theorem types_append (a b : List Node) : types (a ++ b) = types a ++ types b := by
  rw [types, nodes_of_append, List.map_append]
  rfl

theorem types_kept_iff (before after : List Node) : TypesKept before after ↔
    ∀ id type other, (id, type) ∈ types before → (id, other) ∈ types after → type = other := by
  constructor
  · intro kept id type other here there
    obtain ⟨m, member, same⟩ := List.mem_map.mp here
    obtain ⟨n, arrived, alike⟩ := List.mem_map.mp there
    cases same
    injection alike with ids types
    exact (kept m member n arrived ids.symm).trans types
  · intro kept m member n arrived same
    exact kept m.id m.typeName n.typeName (List.mem_map_of_mem member)
      (same ▸ List.mem_map_of_mem (f := fun n => (n.id, n.typeName)) arrived)

theorem types_fill (hole : Hole) : ∃ above below, ∀ items, types (hole.fill items) = above ++ types items ++ below := by
  induction hole with
  | root => exact ⟨[], [], fun items => by simp [Hole.fill]⟩
  | inside before g hole after ih =>
      obtain ⟨above, below, filled⟩ := ih
      refine ⟨types before ++ (g.id, groupName) :: above, below ++ types after, fun items => ?_⟩
      have whole : types (.group g (hole.fill items) :: after) =
          (g.id, groupName) :: types (hole.fill items) ++ types after := by
        rw [types, nodesOf, List.map_append]
        rfl
      rw [Hole.fill, types_append, whole, filled]
      simp only [List.append_assoc, List.cons_append]

theorem mem_ids_of_iff (nodes : List Node) (id : String) : id ∈ idsOf nodes ↔ ∃ type, (id, type) ∈ types nodes := by
  rw [← names_types, Keyed.names, List.mem_map]
  constructor
  · rintro ⟨⟨_, type⟩, member, rfl⟩
    exact ⟨type, member⟩
  · rintro ⟨type, member⟩
    exact ⟨_, member, rfl⟩

theorem ids_of_single (n : Node) : idsOf [n] = n.ids := by
  rw [ids_of_cons, ids_of_nil, List.append_nil]

theorem type_unique {nodes : List Node} (distinct : (idsOf nodes).Nodup) {id type other : String}
    (here : (id, type) ∈ types nodes) (there : (id, other) ∈ types nodes) : type = other := by
  rw [← names_types] at distinct
  exact Option.some.inj ((Keyed.value?_of_mem distinct here).symm.trans (Keyed.value?_of_mem distinct there))

-- Nodes around the place of an exchange have no part in it.
theorem exchanged_types_kept_iff {old new : Node} {before after : List Node} (exchanged : old.Exchanged new before after)
    (distinct : (idsOf before).Nodup) (arrivals : ∀ id ∈ new.ids, id ∈ idsOf before → id ∈ old.ids) :
    TypesKept before after ↔ TypesKept [old] [new] := by
  obtain ⟨hole, left, right, rfl, rfl⟩ := exchanged
  obtain ⟨above, below, filled⟩ := types_fill hole
  have around : ∀ n : Node, types (hole.fill (left ++ [n] ++ right))
      = above ++ types left ++ types [n] ++ (types right ++ below) := by
    intro n
    rw [filled, types_append, types_append]
    simp only [List.append_assoc]
  have inside : ∀ n : Node, ∀ entry ∈ types [n], entry ∈ types (hole.fill (left ++ [n] ++ right)) := fun n entry member =>
    around n ▸ List.mem_append_left _ (List.mem_append_right _ member)
  rw [types_kept_iff, types_kept_iff]
  constructor
  · exact fun kept id type other here there => kept id type other (inside old _ here) (inside new _ there)
  · intro kept id type other here there
    rw [around, List.mem_append, List.mem_append] at there
    rcases there with (sooner | arrived) | later
    · exact type_unique distinct here (around old ▸ List.mem_append_left _ (List.mem_append_left _ sooner))
    · have known : id ∈ old.ids := arrivals id (ids_of_single new ▸ (mem_ids_of_iff _ _).mpr ⟨other, arrived⟩)
        ((mem_ids_of_iff _ _).mpr ⟨type, here⟩)
      obtain ⟨was, stood⟩ := (mem_ids_of_iff [old] id).mp (ids_of_single old ▸ known)
      exact (type_unique distinct here (inside old _ stood)).trans (kept _ was other stood arrived)
    · exact type_unique distinct here (around old ▸ List.mem_append_right _ later)

theorem types_field (f : Field) : types [.field f] = [(f.id, f.kind.name)] := rfl

theorem types_group (g : Group) (children : List Node) :
    types [.group g children] = (g.id, groupName) :: types children := by
  simp [types, nodesOf, nodes, id, basics, typeName]

theorem same_children_types_kept (before after : Group) (children : List Node)
    (was : (ids (.group before children)).Nodup) (is : (ids (.group after children)).Nodup) :
    TypesKept [.group before children] [.group after children] := by
  rw [← ids_of_single] at was is
  rw [types_kept_iff, types_group, types_group]
  intro id type other here there
  rcases List.mem_cons.mp there with own | inside
  · rcases List.mem_cons.mp here with same | standing
    · exact (Prod.mk.inj same).2.trans (Prod.mk.inj own).2.symm
    · have both : (id, type) ∈ types [.group after children] := types_group after children ▸ List.mem_cons_of_mem _ standing
      exact type_unique is both (types_group after children ▸ there)
  · have both : (id, other) ∈ types [.group before children] := types_group before children ▸ List.mem_cons_of_mem _ inside
    exact type_unique was (types_group before children ▸ here) both

end Node

namespace Store

theorem check_patch_type (n : Node) (patch : Keyed Value) (allowed : checkPatch n patch = .ok ()) (v : Value)
    (given : Keyed.value? patch "type" = some v) : v = .text n.typeName := by
  rw [checkPatch, given] at allowed
  split at allowed
  · cases allowed
  · by_contra other
    simp [Option.filter, other] at allowed

theorem patched_field_kind (before after : Field) (patch : Keyed Value)
    (allowed : checkPatch (.field before) patch = .ok ()) (changed : Patched Field.traits patch before after) :
    after.kind = before.kind := by
  have trait : ⟨"type", FieldKind, none, word FieldKind.ofName? (inQuotes FieldKind.names), Field.kind⟩ ∈ Field.traits :=
    List.mem_append_right _ List.mem_cons_self
  by_cases named : "type" ∈ Keyed.names patch
  · obtain ⟨v, given⟩ := (Keyed.mem_names_iff patch "type").mp named
    have read := changed.given _ trait v given
    rw [check_patch_type (.field before) patch allowed v given] at read
    exact Except.ok.inj (read.symm.trans (FieldKind.read_plain .values before.kind))
  · exact changed.kept _ trait named

theorem patched_group_children (before after : Group) (inside others : List Node) (patch : Keyed Value)
    (changed : Patched Group.traits patch (before, inside) (after, others)) (unnamed : "children" ∉ Keyed.names patch) :
    others = inside := by
  have trait : ⟨"children", List Node, some [], list Node.read, Prod.snd⟩ ∈ Group.traits :=
    List.mem_append_right _ (List.mem_cons_of_mem _ List.mem_cons_self)
  exact changed.kept _ trait unnamed

theorem patched_type (old new : Node) (patch : Keyed Value) (allowed : checkPatch old patch = .ok ())
    (changed : old.Patched patch new) : new.typeName = old.typeName := by
  cases old with
  | field f =>
      cases new with
      | field h => exact congrArg FieldKind.name (patched_field_kind f h patch allowed changed)
      | group _ _ => cases changed
  | group g children =>
      cases new with
      | field _ => cases changed
      | group h others => rfl

theorem patched_without_children (old new : Node) (patch : Keyed Value) (allowed : checkPatch old patch = .ok ())
    (changed : old.Patched patch new) (unnamed : "children" ∉ Keyed.names patch) (was : old.ids.Nodup)
    (is : new.ids.Nodup) : Node.TypesKept [old] [new] := by
  cases old with
  | field f =>
      cases new with
      | field h =>
          have same := patched_field_kind f h patch allowed changed
          rw [Node.types_kept_iff, Node.types_field, Node.types_field, same]
          intro id type other here there
          exact (Prod.mk.inj (List.mem_singleton.mp here)).2.trans (Prod.mk.inj (List.mem_singleton.mp there)).2.symm
      | group _ _ => cases changed
  | group g children =>
      cases new with
      | field _ => cases changed
      | group h others =>
          cases patched_group_children g h children others patch changed unnamed
          exact Node.same_children_types_kept g h children was is

-- The type of the node itself stays. Whether all other types do is a matter of the two subtrees, and of nothing else
-- in the tree, and it is settled when the patch has no word about children.
theorem update_types_kept_iff (title : String) (script : List Char) (ops : List Op) (old new : Node)
    (patch : Keyed Value) (left : Store) (here : old ∈ Node.nodesOf ((Store.new title script).run ops).nodes)
    (distinct : (Keyed.names patch).Nodup)
    (done : (update old.id patch).run ((Store.new title script).run ops) = .ok (some new) left) :
    new.typeName = old.typeName ∧
    (Node.TypesKept ((Store.new title script).run ops).nodes left.nodes ↔ Node.TypesKept [old] [new]) ∧
    ("children" ∉ Keyed.names patch → Node.TypesKept ((Store.new title script).run ops).nodes left.nodes) := by
  have sound := run_sound (Store.new title script) ops (sound_new title script)
  generalize (Store.new title script).run ops = s at sound here done ⊢
  obtain ⟨allowed, read, fits, exchanged⟩ := update_exchanges s left old new patch sound here done
  have changed := patched_changes old new patch distinct allowed read
  obtain ⟨_, single, apart⟩ := check_replacement_ok s old new fits
  have kept := Node.exchanged_types_kept_iff exchanged sound.distinct apart
  refine ⟨patched_type old new patch allowed changed, kept, fun unnamed => kept.mpr ?_⟩
  exact patched_without_children old new patch allowed changed unnamed (ids_nodup s sound old here) single

theorem deep_field_keeps_types : Node.TypesKept deepStore.nodes (deepNodes labelledCount) := by
  obtain ⟨left, done, nodes⟩ := count_updated
  have kept := update_types_kept_iff "Start" [] [.load ⟨"Deep", deepNodes count⟩] (.field count) (.field labelledCount)
    countPatch left count_inside (by decide) done
  exact nodes ▸ kept.2.2 (by decide)

def textInGroup : Store := (Store.new "Start" []).run
  [.load ⟨"Types", [.group (Group.create "g") [.field (Field.create "f" .text)]]⟩]

def retypingPatch : Keyed Value := [("children", .list [.object [("id", .text "f"), ("type", .text "number")]])]

theorem child_retyped : ∃ new left, (update "g" retypingPatch).run textInGroup = .ok (some new) left ∧
    new.ids = ["g", "f"] ∧ ¬ Node.TypesKept textInGroup.nodes left.nodes := by
  obtain ⟨new, left, done, ids, types⟩ : ∃ new left, (update "g" retypingPatch).run textInGroup = .ok (some new) left ∧
      new.ids = ["g", "f"] ∧ Node.types left.nodes = [("g", "group"), ("f", "number")] :=
    ⟨_, _, rfl, rfl, rfl⟩
  refine ⟨new, left, done, ids, fun kept => ?_⟩
  have was : ("f", "text") ∈ Node.types textInGroup.nodes := by decide +kernel
  have is : ("f", "number") ∈ Node.types left.nodes := types ▸ by decide
  exact absurd ((Node.types_kept_iff _ _).mp kept _ _ _ was is) (by decide)

end Store

end FormEngine
