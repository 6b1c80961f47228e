import FormEngine.Proofs.Builder.MovedBack

set_option autoImplicit false

namespace FormEngine

namespace Node

-- Nodes change places with their siblings, at the root or inside a group, any number of times.
inductive Rearranged : List Node → List Node → Prop where
  | siblings (hole : Hole) {items others : List Node} (perm : items.Perm others) :
      Rearranged (hole.fill items) (hole.fill others)
  | further {one two three : List Node} (first : Rearranged one two) (second : Rearranged two three) :
      Rearranged one three

section Views

universe u v

variable {ι : Type u} {β : Type v} (view : ι → List Node → List β)
  (along : ∀ i one two, view i (one ++ two) = view i one ++ view i two)

include along

theorem view_perm {items others : List Node} (perm : items.Perm others) (i : ι) : (view i items).Perm (view i others) := by
  have split (n : Node) (rest : List Node) : view i (n :: rest) = view i [n] ++ view i rest := along i [n] rest
  induction perm with
  | nil => exact .refl _
  | @cons n items others _ ih =>
      rw [split n items, split n others]
      exact ih.append_left _
  | swap n m rest =>
      rw [split m (n :: rest), split n rest, split n (m :: rest), split m rest, ← List.append_assoc, ← List.append_assoc]
      exact List.perm_append_comm.append_right _
  | trans _ _ ih others => exact ih.trans others

-- What is gathered may depend on the groups that are around, such as whether they are shown.
theorem Rearranged.view_perm
    (into : ∀ g children others, (∀ i, (view i children).Perm (view i others)) →
      ∀ i, (view i [.group g children]).Perm (view i [.group g others]))
    {nodes others : List Node} (rearranged : Rearranged nodes others) (i : ι) : (view i nodes).Perm (view i others) := by
  induction rearranged with
  | siblings hole perm =>
      induction hole generalizing i with
      | root => exact Node.view_perm view along perm i
      | inside before g hole after ih =>
          have split (items : List Node) : view i (before ++ .group g items :: after)
              = view i before ++ (view i [.group g items] ++ view i after) := by
            rw [along, ← List.singleton_append, along]
          rw [Hole.fill, Hole.fill, split, split]
          exact ((into g _ _ ih i).append_right _).append_left _
  | further _ _ ih others => exact ih.trans others

end Views

end Node

namespace Store

theorem reorder_rearranges (s left : Store) (order : List OrderItem) (distinct : s.ids.Nodup)
    (done : (reorder order).run s = .ok () left) : Node.Rearranged s.nodes left.nodes := by
  have roots := (Node.roots_sublist s.nodes).nodup distinct
  exact .siblings .root (reorder_orders s left order roots done).2.symm

theorem move_rearranges (s left : Store) (source target : PlaceInput) (from_ to_ : Place) (n : Node)
    (here : source.read = .ok from_) (there : target.read = .ok to_) (same : from_.parent = to_.parent)
    (done : (move source target).run s = .ok n left) : Node.Rearranged s.nodes left.nodes := by
  rcases move_outcome s source target with
    ⟨why, refused⟩ | ⟨sourcePlace, targetPlace, i, j, item, origin, goal, read, readToo, movable, moved⟩
  · cases refused.symm.trans done
  · cases moved.symm.trans done
    cases here.symm.trans read
    cases there.symm.trans readToo
    obtain ⟨rest, relocated⟩ := relocation s from_ to_ i j n origin goal movable
    obtain ⟨hole, _, split, changed⟩ := Node.list_found s.nodes from_.parent origin movable.listed
    -- Both halves of the move are changes of the one list.
    have moved := Node.change_list_again _ _ _ _ (·.insertIdx j n) relocated.lifted
    rw [same, relocated.placed, ← same, changed, Option.some.injEq] at moved
    have lifted : rest = origin.eraseIdx i := Option.some.inj (relocated.goal.symm.trans (same ▸ relocated.without))
    obtain ⟨bound, rfl⟩ := List.getElem?_eq_some_iff.mp ((Node.item_at_iff origin from_.index i n).mp movable.taken).2.2
    have perm : origin.Perm ((origin.eraseIdx i).insertIdx j origin[i]) :=
      (List.getElem_cons_eraseIdx_perm bound).symm.trans
        (List.perm_insertIdx origin[i] (origin.eraseIdx i) (lifted ▸ relocated.room)).symm
    rw [moved, split]
    exact .siblings hole perm

end Store

end FormEngine
