import FormEngine.Builder.Store
import FormEngine.Proofs.Builder.Hole
import Mathlib.Data.List.Perm.Basic

set_option autoImplicit false

namespace FormEngine

namespace Node

theorem ids_of_perm {a b : List Node} (perm : a.Perm b) : (idsOf a).Perm (idsOf b) := by
  rw [ids_of_flat_map, ids_of_flat_map]
  exact perm.flatMap_right ids

theorem perm_ids_fill (hole : Hole) (items : List Node) :
    (idsOf (hole.fill items)).Perm (idsOf items ++ (hole.idsBefore ++ hole.idsAfter)) := by
  rw [Hole.ids_fill]
  apply List.perm_iff_count.mpr
  intro id
  simp only [List.count_append]
  omega

theorem perm_ids_between (hole : Hole) (before items after : List Node) :
    (idsOf (hole.fill (before ++ items ++ after))).Perm (idsOf items ++ idsOf (hole.fill (before ++ after))) := by
  simp only [Hole.ids_fill, ids_of_append]
  apply List.perm_iff_count.mpr
  intro id
  simp only [List.count_append]
  omega

theorem item_at_split (items : List Node) (index : Int) (i : Nat) (item : Node)
    (taken : Store.itemAt items index = some (i, item)) :
    i < items.length ∧ items = items.take i ++ [item] ++ items.drop (i + 1) := by
  obtain ⟨k, _, found⟩ := Option.bind_eq_some_iff.mp taken
  obtain ⟨n, access, same⟩ := Option.map_eq_some_iff.mp found
  cases same
  obtain ⟨bound, here⟩ := List.getElem?_eq_some_iff.mp access
  refine ⟨bound, ?_⟩
  rw [List.append_assoc, List.singleton_append, ← here, List.getElem_cons_drop, List.take_append_drop]

theorem item_at_erased (items : List Node) (index : Int) (i : Nat) (item : Node)
    (taken : Store.itemAt items index = some (i, item)) : items.Perm (item :: items.eraseIdx i) := by
  have split := (item_at_split items index i item taken).2
  rw [List.eraseIdx_eq_take_drop_succ]
  calc items = items.take i ++ [item] ++ items.drop (i + 1) := split
    _ = items.take i ++ item :: items.drop (i + 1) := by simp
    _ |>.Perm (item :: (items.take i ++ items.drop (i + 1))) := List.perm_middle

theorem find_group_append (id : String) (a b : List Node) :
    findGroup? (a ++ b) id = (findGroup? a id).or (findGroup? b id) := by
  simp [findGroup?, nodes_of_append, List.find?_append]

theorem find_group_outside (id : String) (n : Node) (outside : id ∉ n.ids) : findGroup? [n] id = none := by
  simp only [findGroup?, nodesOf, List.append_nil, List.find?_eq_none, Bool.and_eq_true, beq_iff_eq, not_and]
  intro m member _ same
  exact outside (same ▸ List.mem_map_of_mem member)

theorem find_group_erased (id : String) (items : List Node) (index : Int) (i : Nat) (item : Node)
    (taken : Store.itemAt items index = some (i, item)) (outside : id ∉ item.ids) :
    findGroup? (items.eraseIdx i) id = findGroup? items id := by
  have split := (item_at_split items index i item taken).2
  rw [List.eraseIdx_eq_take_drop_succ]
  conv => rhs; rw [split]
  simp only [find_group_append, find_group_outside id item outside, Option.or_none]

theorem find_group_unchanged (id : String) (change : List Node → List Node) (nodes : List Node)
    (unchanged : changeChildren id change nodes = none) : findGroup? nodes id = none := by
  cases search : findGroup? nodes id with
  | none => rfl
  | some found =>
      obtain ⟨_, _, _, _, _, _, _, replaced⟩ := change_children_found id nodes found search
      cases unchanged.symm.trans (replaced change)

theorem change_children_length (id : String) (change : List Node → List Node) (nodes changed : List Node)
    (result : changeChildren id change nodes = some changed) : changed.length = nodes.length := by
  induction nodes using forest_induction generalizing changed with
  | nil => simp [changeChildren] at result
  | field f rest ih =>
      rw [changeChildren] at result
      obtain ⟨later, inside, rfl⟩ := Option.map_eq_some_iff.mp result
      simp [ih later inside]
  | group g children rest _ ih =>
      rw [changeChildren] at result
      split at result
      · cases result
        rfl
      · split at result
        · cases result
          rfl
        · obtain ⟨later, inside, rfl⟩ := Option.map_eq_some_iff.mp result
          simp [ih later inside]

-- A change of the children of one group seen from another: its list keeps its length, although there may have been a
-- change further inside.
theorem change_children_other (id other : String) (different : other ≠ id) (change : List Node → List Node)
    (nodes changed : List Node) (result : changeChildren id change nodes = some changed)
    (kept : ∀ found, findGroup? nodes id = some found →
      findGroup? (change found.children) other = findGroup? found.children other) :
    (findGroup? changed other).map (·.children.length) = (findGroup? nodes other).map (·.children.length) := by
  induction nodes using forest_induction generalizing changed with
  | nil => simp [changeChildren] at result
  | field f rest ih =>
      rw [changeChildren] at result
      obtain ⟨later, inside, rfl⟩ := Option.map_eq_some_iff.mp result
      rw [find_group_field, find_group_field]
      exact ih later inside (by simpa only [find_group_field] using kept)
  | group g children rest ihChildren ihRest =>
      rw [changeChildren] at result
      split at result
      · rename_i here
        cases result
        have same := kept (.group g children) (by simp [find_group_group, here])
        have apart : ¬ g.id = other := fun h => different (h.symm.trans here)
        simp only [Node.children] at same
        rw [find_group_group, find_group_group, if_neg apart, if_neg apart, same]
      · rename_i elsewhere
        split at result
        · rename_i within inside
          cases result
          have ih := ihChildren within inside fun found search =>
            kept found (by rw [find_group_group, if_neg elsewhere, search, Option.some_or])
          rw [find_group_group, find_group_group]
          split
          · simp [Node.children, change_children_length id change children within inside]
          · cases h : findGroup? children other <;> cases h' : findGroup? within other <;> simp_all
        · rename_i missing
          obtain ⟨later, inside, rfl⟩ := Option.map_eq_some_iff.mp result
          have nowhere := find_group_unchanged id change children missing
          have ih := ihRest later inside fun found search =>
            kept found (by rw [find_group_group, if_neg elsewhere, nowhere, search, Option.none_or])
          rw [find_group_group, find_group_group]
          split
          · rfl
          · cases h : findGroup? children other <;> simp_all

theorem change_children_self (id : String) (change : List Node → List Node) (nodes : List Node) (found : Node)
    (search : findGroup? nodes id = some found) :
    ∃ changed, changeChildren id change nodes = some changed ∧
      (findGroup? changed id).map Node.children = some (change found.children) := by
  induction nodes using forest_induction with
  | nil => simp [findGroup?, nodesOf] at search
  | field f rest ih =>
      rw [find_group_field] at search
      obtain ⟨later, inside, result⟩ := ih search
      exact ⟨.field f :: later, by simp [changeChildren, inside], by rw [find_group_field, result]⟩
  | group g children rest ihChildren ihRest =>
      by_cases here : g.id = id
      · simp only [find_group_group, if_pos here, Option.some.injEq] at search
        subst search
        exact ⟨.group g (change children) :: rest, by simp [changeChildren, here], by
          simp [find_group_group, here, Node.children]⟩
      · rw [find_group_group, if_neg here] at search
        cases inner : findGroup? children id with
        | some child =>
            simp only [inner, Option.some_or, Option.some.injEq] at search
            subst search
            obtain ⟨within, inside, result⟩ := ihChildren inner
            refine ⟨.group g within :: rest, by simp [changeChildren, here, inside], ?_⟩
            rw [find_group_group, if_neg here]
            cases h : findGroup? within id <;> simp_all
        | none =>
            simp only [inner, Option.none_or] at search
            obtain ⟨later, inside, result⟩ := ihRest search
            refine ⟨.group g children :: later, ?_, ?_⟩
            · simp [changeChildren, here, change_children_missing id change children inner, inside]
            · rw [find_group_group, if_neg here, inner, Option.none_or, result]

theorem list_at_self (nodes : List Node) (parent : Option String) (items : List Node) (change : List Node → List Node)
    (listed : listAt? nodes parent = some items) :
    ∃ changed, changeList nodes parent change = some changed ∧ listAt? changed parent = some (change items) := by
  cases parent with
  | none =>
      cases listed
      exact ⟨change nodes, rfl, rfl⟩
  | some id =>
      obtain ⟨found, search, rfl⟩ := Option.map_eq_some_iff.mp listed
      exact change_children_self id change nodes found search

-- A change of one list leaves every other list as long as it was, if the groups that are inside stay there.
theorem list_at_elsewhere (nodes : List Node) (parent other : Option String) (different : other ≠ parent)
    (items others : List Node) (change : List Node → List Node) (listed : listAt? nodes parent = some items)
    (awaited : listAt? nodes other = some others)
    (kept : ∀ id, other = some id → findGroup? (change items) id = findGroup? items id) (changed : List Node)
    (result : changeList nodes parent change = some changed) :
    ∃ rest, listAt? changed other = some rest ∧ rest.length = others.length := by
  cases other with
  | none =>
      cases parent with
      | none => exact absurd rfl different
      | some id =>
          cases awaited
          exact ⟨changed, rfl, change_children_length id _ nodes changed result⟩
  | some name =>
      obtain ⟨target, search, rfl⟩ := Option.map_eq_some_iff.mp awaited
      cases parent with
      | none =>
          cases listed
          cases result
          exact ⟨target.children, by simp only [listAt?, kept name rfl, search, Option.map_some], rfl⟩
      | some id =>
          obtain ⟨source, home, rfl⟩ := Option.map_eq_some_iff.mp listed
          have apart : name ≠ id := fun same => different (congrArg some same)
          have lengths := change_children_other id name apart change nodes changed result fun found same => by
            rw [home] at same
            cases same
            exact kept name rfl
          rw [search, Option.map_some] at lengths
          obtain ⟨rest, here, same⟩ := Option.map_eq_some_iff.mp lengths
          exact ⟨rest.children, by simp [listAt?, here], same⟩

theorem list_at_other (nodes : List Node) (parent other : Option String) (different : other ≠ parent)
    (items others : List Node) (index : Int) (i : Nat) (item : Node) (listed : listAt? nodes parent = some items)
    (taken : Store.itemAt items index = some (i, item)) (awaited : listAt? nodes other = some others)
    (outside : ∀ id, other = some id → id ∉ item.ids) (lifted : List Node)
    (result : changeList nodes parent (·.eraseIdx i) = some lifted) :
    ∃ rest, listAt? lifted other = some rest ∧ rest.length = others.length :=
  list_at_elsewhere nodes parent other different items others (·.eraseIdx i) listed awaited
    (fun id named => find_group_erased id items index i item taken (outside id named)) lifted result

end Node

end FormEngine
