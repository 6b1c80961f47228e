import FormEngine.Proofs.Builder.Lists

set_option autoImplicit false

namespace FormEngine

namespace Node

inductive Header where
  | field (f : Field)
  | group (g : Group)
deriving DecidableEq

structure Line where
  parent : Option String
  header : Header
deriving DecidableEq

mutual
def outline (parent : Option String) : Node → List Line
  | .field f => [⟨parent, .field f⟩]
  | .group g children => ⟨parent, .group g⟩ :: outlineOf (some g.id) children
def outlineOf (parent : Option String) : List Node → List Line
  | [] => []
  | n :: rest => outline parent n ++ outlineOf parent rest
end

theorem outline_of_append (parent : Option String) (a b : List Node) :
    outlineOf parent (a ++ b) = outlineOf parent a ++ outlineOf parent b := by
  induction a with
  | nil => rfl
  | cons n rest ih => simp only [List.cons_append, outlineOf, ih, List.append_assoc]

theorem outline_of_singleton (parent : Option String) (n : Node) : outlineOf parent [n] = outline parent n := by
  simp only [outlineOf, List.append_nil]

end Node

namespace Hole

theorem outline_fill (hole : Hole) (around : Option String) : ∃ above below, ∀ items,
    Node.outlineOf around (hole.fill items) = above ++ Node.outlineOf (hole.owner around) items ++ below := by
  induction hole generalizing around with
  | root => exact ⟨[], [], fun items => by simp [fill, owner]⟩
  | inside before g hole after ih =>
      obtain ⟨above, below, filled⟩ := ih (some g.id)
      refine ⟨Node.outlineOf around before ++ ⟨around, .group g⟩ :: above, below ++ Node.outlineOf around after, ?_⟩
      intro items
      simp only [fill, owner, Node.outline_of_append, Node.outlineOf, Node.outline, filled, List.append_assoc,
        List.cons_append]

end Hole

namespace Node

-- The one tree is the other without a node in the list of a group, and without what is inside that node. All other nodes
-- say the same of themselves, stand in the same groups and come in the same order.
def Cut (parent : Option String) (n : Node) (whole rest : List Node) : Prop :=
  ∃ above below, outlineOf none whole = above ++ outline parent n ++ below ∧ outlineOf none rest = above ++ below

theorem cut_between (hole : Hole) (before after : List Node) (n : Node) :
    Cut (hole.owner none) n (hole.fill (before ++ [n] ++ after)) (hole.fill (before ++ after)) := by
  obtain ⟨above, below, filled⟩ := hole.outline_fill none
  refine ⟨above ++ outlineOf (hole.owner none) before, outlineOf (hole.owner none) after ++ below, ?_, ?_⟩
  · rw [filled, outline_of_append, outline_of_append, outline_of_singleton]
    simp only [List.append_assoc]
  · rw [filled, outline_of_append]
    simp only [List.append_assoc]

theorem cut_erased (nodes items erased : List Node) (parent : Option String) (i : Nat) (n : Node)
    (listed : listAt? nodes parent = some items) (here : items[i]? = some n)
    (result : changeList nodes parent (·.eraseIdx i) = some erased) : Cut parent n nodes erased := by
  obtain ⟨hole, rfl, split, changed⟩ := list_found nodes parent items listed
  obtain ⟨bound, access⟩ := List.getElem?_eq_some_iff.mp here
  have whole : items = items.take i ++ [n] ++ items.drop (i + 1) := by
    rw [List.append_assoc, List.singleton_append, ← access, List.getElem_cons_drop, List.take_append_drop]
  have rest : erased = hole.fill (items.take i ++ items.drop (i + 1)) := by
    rw [← List.eraseIdx_eq_take_drop_succ]
    exact Option.some.inj (result.symm.trans (changed _))
  rw [rest, split]
  conv => arg 3; rw [whole]
  exact cut_between hole _ _ n

theorem insert_idx_split (items : List Node) (j : Nat) (n : Node) (room : j ≤ items.length) :
    items.insertIdx j n = items.take j ++ [n] ++ items.drop j := by
  induction items generalizing j with
  | nil =>
      cases Nat.le_zero.mp room
      rfl
  | cons m rest ih =>
      cases j with
      | zero => rfl
      | succ j =>
          rw [List.insertIdx_succ_cons, ih j (Nat.le_of_succ_le_succ room)]
          rfl

theorem cut_inserted (nodes items grown : List Node) (parent : Option String) (j : Nat) (n : Node)
    (listed : listAt? nodes parent = some items) (room : j ≤ items.length)
    (result : changeList nodes parent (·.insertIdx j n) = some grown) : Cut parent n grown nodes := by
  obtain ⟨hole, rfl, split, changed⟩ := list_found nodes parent items listed
  have whole : grown = hole.fill (items.take j ++ [n] ++ items.drop j) := by
    rw [← insert_idx_split items j n room]
    exact Option.some.inj (result.symm.trans (changed _))
  rw [whole, split]
  conv => arg 4; rw [← List.take_append_drop j items]
  exact cut_between hole _ _ n

def Stands (nodes : List Node) (parent : Option String) (index : Int) (n : Node) : Prop :=
  ∃ items, listAt? nodes parent = some items ∧ 0 ≤ index ∧ items[index.toNat]? = some n

theorem item_at_iff (items : List Node) (index : Int) (i : Nat) (n : Node) :
    Store.itemAt items index = some (i, n) ↔ 0 ≤ index ∧ index.toNat = i ∧ items[i]? = some n := by
  rw [Store.itemAt, position?]
  constructor
  · intro taken
    split at taken
    · rename_i range
      obtain ⟨m, access, same⟩ := Option.map_eq_some_iff.mp taken
      cases same
      exact ⟨range.1, rfl, access⟩
    · cases taken
  · rintro ⟨positive, rfl, access⟩
    have bound := (List.getElem?_eq_some_iff.mp access).1
    rw [if_pos ⟨positive, by omega⟩]
    simp only [Option.bind_some, access, Option.map_some]

end Node

end FormEngine
