import FormEngine.Builder.Store
import FormEngine.Proofs.Forest
import Mathlib.Data.List.Induction

set_option autoImplicit false

namespace FormEngine.Store

structure WellNamed (ids : List String) : Prop where
  named : "" ∉ ids
  distinct : ids.Nodup

inductive Objection (before : List String) (id : String) : ImportError → Prop where
  | blank (empty : id = "") : Objection before id .blankId
  | repeated (again : id ∈ before) : Objection before id (.duplicateId id)

theorem well_named_concat (ids : List String) (id : String) :
    WellNamed (ids ++ [id]) ↔ WellNamed ids ∧ id ≠ "" ∧ id ∉ ids := by
  constructor
  · intro fine
    obtain ⟨distinct, _, apart⟩ := List.nodup_append.mp fine.distinct
    refine ⟨⟨fun blank => fine.named (List.mem_append_left _ blank), distinct⟩, ?_, fun again => ?_⟩
    · rintro rfl
      exact fine.named (List.mem_append_right _ List.mem_cons_self)
    · exact apart id again id List.mem_cons_self rfl
  · rintro ⟨⟨named, distinct⟩, given, fresh⟩
    constructor
    · rw [List.mem_append, List.mem_singleton, not_or]
      exact ⟨named, Ne.symm given⟩
    · exact List.nodup_append.mpr ⟨distinct, List.pairwise_singleton _ _, fun other before last here same =>
        fresh (List.mem_singleton.mp here ▸ same ▸ before)⟩

-- Ids are well named, or there is a first one that spoils them.
theorem first_objection (ids : List String) : WellNamed ids ∨
    ∃ before id after why, ids = before ++ id :: after ∧ WellNamed before ∧ Objection before id why := by
  induction ids using List.reverseRecOn with
  | nil => exact .inl ⟨List.not_mem_nil, List.nodup_nil⟩
  | append_singleton ids last ih =>
      rcases ih with fine | ⟨before, id, after, why, split, fine, objection⟩
      · by_cases blank : last = ""
        · exact .inr ⟨ids, last, [], .blankId, rfl, fine, .blank blank⟩
        · by_cases again : last ∈ ids
          · exact .inr ⟨ids, last, [], .duplicateId last, rfl, fine, .repeated again⟩
          · exact .inl ((well_named_concat ids last).mpr ⟨fine, blank, again⟩)
      · exact .inr ⟨before, id, after ++ [last], why, by rw [split, List.append_assoc, List.cons_append], fine, objection⟩

theorem check_ids_accepts (ids : List String) (fine : WellNamed ids) : ids.foldlM checkId [] = .ok ids.reverse := by
  induction ids using List.reverseRecOn with
  | nil => rfl
  | append_singleton ids last ih =>
      obtain ⟨before, given, fresh⟩ := (well_named_concat ids last).mp fine
      have taken : checkId ids.reverse last = .ok (last :: ids.reverse) := by simp [checkId, given, fresh]
      rw [List.foldlM_append, ih before, List.reverse_append]
      exact congrArg (· >>= pure) taken

theorem check_ids_refuses (before after : List String) (id : String) (why : ImportError) (fine : WellNamed before)
    (objection : Objection before id why) : (before ++ id :: after).foldlM checkId [] = .error why := by
  have refused : checkId before.reverse id = .error why := by
    cases objection with
    | blank empty => simp [checkId, empty]
    | repeated again =>
        have given : id ≠ "" := fun blank => fine.named (blank ▸ again)
        simp [checkId, given, again]
  rw [List.foldlM_append, check_ids_accepts before fine]
  exact congrArg (· >>= after.foldlM checkId) refused

-- The way into the groups and out of them is the way along the document.
theorem check_nodes_in_order (seen : List String) (nodes : List Node) :
    checkNodes seen nodes = (Node.idsOf nodes).foldlM checkId seen := by
  induction nodes using Node.forest_induction generalizing seen with
  | nil => rfl
  | field f rest ih =>
      rw [checkNodes, Node.ids_of_cons, Node.ids_field, List.singleton_append, List.foldlM_cons]
      exact congrArg (checkId seen f.id >>= ·) (funext ih)
  | group g children rest inside after =>
      rw [checkNodes, checkNode, Node.ids_of_cons, Node.ids_group, List.cons_append, List.foldlM_cons, bind_assoc]
      refine congrArg (checkId seen g.id >>= ·) (funext fun seen => ?_)
      rw [List.foldlM_append, inside]
      exact congrArg (List.foldlM checkId seen (Node.idsOf children) >>= ·) (funext after)

theorem check_tree_in_order (nodes : List Node) :
    checkTree nodes = ((Node.idsOf nodes).foldlM checkId []).map fun _ => () :=
  congrArg (Except.map fun _ => ()) (check_nodes_in_order [] nodes)

theorem check_tree_ok_iff (nodes : List Node) : checkTree nodes = .ok () ↔ WellNamed (Node.idsOf nodes) := by
  rw [check_tree_in_order]
  constructor
  · intro accepted
    rcases first_objection (Node.idsOf nodes) with fine | ⟨before, id, after, why, split, fine, objection⟩
    · exact fine
    · rw [split, check_ids_refuses before after id why fine objection] at accepted
      cases accepted
  · intro fine
    rw [check_ids_accepts _ fine]
    rfl

theorem first_wrong_id_refused (nodes : List Node) :
    (checkTree nodes = .ok () ↔ WellNamed (Node.idsOf nodes)) ∧
    ∀ why, checkTree nodes = .error why ↔ ∃ before n after, Node.nodesOf nodes = before ++ n :: after ∧
      WellNamed (before.map Node.id) ∧ Objection (before.map Node.id) n.id why := by
  refine ⟨check_tree_ok_iff nodes, fun why => ⟨fun refused => ?_, ?_⟩⟩
  · rcases first_objection (Node.idsOf nodes) with fine | ⟨ids, id, rest, reason, split, fine, objection⟩
    · cases ((check_tree_ok_iff nodes).mpr fine).symm.trans refused
    · rw [check_tree_in_order, split, check_ids_refuses ids rest id reason fine objection] at refused
      cases refused
      obtain ⟨before, others, order, rfl, tail⟩ := List.map_eq_append_iff.mp split
      obtain ⟨n, after, rfl, rfl, -⟩ := List.map_eq_cons_iff.mp tail
      exact ⟨before, n, after, order, fine, objection⟩
  · rintro ⟨before, n, after, order, fine, objection⟩
    rw [check_tree_in_order, Node.idsOf, order, List.map_append, List.map_cons,
      check_ids_refuses _ _ n.id why fine objection]
    rfl

example : checkTree [.group (Group.create "g") [.field (Field.create "" .text)], .field (Field.create "g" .text)]
    = .error .blankId := rfl

end FormEngine.Store
