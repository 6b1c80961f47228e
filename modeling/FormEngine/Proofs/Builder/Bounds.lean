import FormEngine.Proofs.Builder.Arrivals
import FormEngine.Proofs.Builder.Structure
import FormEngine.Schema.Numbers
import Mathlib.Data.List.Induction

set_option autoImplicit false

namespace FormEngine

namespace Node

def Header.bounds : Header → List Binary64
  | .field f => Node.bounds (.field f)
  | .group g => g.toBasics.bounds

theorem bounds_outline (parent : Option String) (nodes : List Node) :
    BoundsFinite nodes ↔ ∀ line ∈ outlineOf parent nodes, ∀ x ∈ line.header.bounds, x.isFinite = true := by
  induction nodes using forest_induction generalizing parent with
  | nil => simp [BoundsFinite, nodesOf, outlineOf]
  | field f rest ih =>
      rw [bounds_finite_field, outlineOf, outline, List.singleton_append, List.forall_mem_cons, ih parent]
      rfl
  | group g children rest ihChildren ihRest =>
      rw [bounds_finite_group, outlineOf, outline, List.cons_append, List.forall_mem_cons, List.forall_mem_append,
        ihChildren (some g.id), ihRest parent]
      rfl

theorem bounds_cut {parent : Option String} {n : Node} {whole rest : List Node} (cut : Cut parent n whole rest) :
    BoundsFinite whole ↔ BoundsFinite [n] ∧ BoundsFinite rest := by
  obtain ⟨above, below, all, others⟩ := cut
  rw [bounds_outline none whole, bounds_outline parent [n], bounds_outline none rest, all, others,
    outline_of_singleton]
  simp only [List.forall_mem_append]
  tauto

theorem bounds_finite_nil : BoundsFinite [] := fun _ member => nomatch member

theorem bounds_each (nodes : List Node) : BoundsFinite nodes ↔ ∀ n ∈ nodes, BoundsFinite [n] := by
  induction nodes with
  | nil => exact iff_of_true bounds_finite_nil fun _ member => nomatch member
  | cons n rest ih =>
      rw [List.forall_mem_cons, ← ih]
      simp only [BoundsFinite, nodesOf, List.append_nil, List.forall_mem_append]

theorem bounds_perm {a b : List Node} (perm : a.Perm b) (finite : BoundsFinite a) : BoundsFinite b :=
  (bounds_each b).mpr fun n member => (bounds_each a).mp finite n (perm.mem_iff.mpr member)

end Node

namespace Store

def broughtForm {ε : Type} : EStateM.Result ε Store Form → List Node
  | .ok form _ => form.nodes
  | .error _ _ => []

def broughtNode {ε : Type} : EStateM.Result ε Store (Option Node) → List Node
  | .ok (some n) _ => [n]
  | _ => []

def brought (s : Store) : Op → List Node
  | .update id patch => broughtNode ((update id patch).run s)
  | .load form => broughtForm ((load form).run s)
  | .loadValue origin v => broughtForm ((loadValue origin v).run s)
  | .loadText text => broughtForm ((loadText text).run s)
  | _ => []

theorem new_bounds {s : Store} {type : String} {n : Node} {draws : Draws} (new : New s type n draws) :
    Node.BoundsFinite [n] := by
  cases new with
  | group id _ _ _ =>
      have unset : ∀ x ∈ (Group.create "").toBasics.bounds, x.isFinite = true := by decide
      exact (Node.bounds_finite_group _ [] []).mpr ⟨unset, Node.bounds_finite_nil, Node.bounds_finite_nil⟩
  | field kind id _ _ _ =>
      have usual : ∀ kind ∈ FieldKind.all, ∀ x ∈ Node.bounds (.field (Field.create "" kind)), x.isFinite = true := by
        decide +kernel
      have known : kind ∈ FieldKind.all := by cases kind <;> decide
      exact (Node.bounds_finite_field _ []).mpr ⟨usual kind known, Node.bounds_finite_nil⟩

variable (s : Store) (finite : Node.BoundsFinite s.nodes)
include finite

theorem create_bounds (type : String) : Node.BoundsFinite (left ((create type).run s)).nodes := by
  rcases create_outcome s type with ⟨why, refused⟩ | ⟨n, draws, _, created⟩
  · rw [refused]
    exact finite
  · rw [created]
    exact finite

theorem add_bounds (type : String) : Node.BoundsFinite (left ((add type).run s)).nodes := by
  rcases add_outcome s type with ⟨why, refused⟩ | ⟨n, draws, new, added⟩
  · rw [refused]
    exact finite
  · have others := (add_appends s _ type n added).others
    rw [added]
    exact (Node.bounds_cut others).mpr ⟨new_bounds new, finite⟩

theorem add_child_bounds (parent type : String) : Node.BoundsFinite (left ((addChild parent type).run s)).nodes := by
  rcases add_child_outcome s parent type with ⟨why, refused⟩ | ⟨_, nothing⟩ | ⟨group, n, draws, _, new, added⟩
  · rw [refused]
    exact finite
  · rw [nothing]
    exact finite
  · have others := (add_child_appends s _ parent type n added).others
    rw [added]
    exact (Node.bounds_cut others).mpr ⟨new_bounds new, finite⟩

theorem delete_bounds (id : String) : Node.BoundsFinite (left ((delete id).run s)).nodes := by
  rcases delete_outcome s id with ⟨_, nothing⟩ | ⟨removed, _, done⟩
  · rw [nothing]
    exact finite
  · obtain ⟨_, parent, cut⟩ := delete_cuts s _ id removed done
    rw [done]
    exact ((Node.bounds_cut cut).mp finite).2

theorem remove_child_bounds (parent : String) (index : Int) :
    Node.BoundsFinite (left ((removeChild parent index).run s)).nodes := by
  rcases remove_child_outcome s parent index with nothing | ⟨group, i, removed, _, _, done⟩
  · rw [nothing]
    exact finite
  · have cut := remove_child_cuts s _ parent index removed done
    rw [done]
    exact ((Node.bounds_cut cut).mp finite).2

theorem reorder_bounds (order : List OrderItem) (distinct : (s.nodes.map Node.id).Nodup) :
    Node.BoundsFinite (left ((reorder order).run s)).nodes := by
  rcases reorder_outcome s order with ⟨why, refused⟩ | ⟨_, ordered⟩
  · rw [refused]
    exact finite
  · have perm := (reorder_orders s _ order distinct ordered).2
    rw [ordered]
    exact Node.bounds_perm perm.symm finite

theorem move_bounds (source target : PlaceInput) : Node.BoundsFinite (left ((move source target).run s)).nodes := by
  rcases move_outcome s source target with ⟨why, refused⟩ | ⟨_, _, i, j, item, origin, goal, _, _, _, moved⟩
  · rw [refused]
    exact finite
  · obtain ⟨from_, to_, _, _, stands⟩ := move_moves s _ source target item moved
    obtain ⟨rest, lifted, placed⟩ := stands.others
    rw [moved]
    exact (Node.bounds_cut placed).mpr ((Node.bounds_cut lifted).mp finite)

theorem select_bounds (id : Option String) : Node.BoundsFinite (left ((select id).run s)).nodes := by
  rcases select_outcome s id with ⟨why, refused⟩ | ⟨_, selected⟩
  · rw [refused]
    exact finite
  · rw [selected]
    exact finite

theorem update_bounds_iff (id : String) (patch : Keyed Value) :
    Node.BoundsFinite (left ((update id patch).run s)).nodes ↔ Node.BoundsFinite (s.brought (.update id patch)) := by
  rw [brought]
  rcases update_outcome s id patch with ⟨why, refused⟩ | ⟨_, nothing⟩ | ⟨old, new, found, _, _, _, done⟩
  · rw [refused]
    exact iff_of_true finite Node.bounds_finite_nil
  · rw [nothing]
    exact iff_of_true finite Node.bounds_finite_nil
  · obtain ⟨hole, before, after, split, replaced⟩ := Node.replace_found s.nodes id old found
    have rest := Node.cut_between hole before after
    have around : Node.BoundsFinite (hole.fill (before ++ after)) := ((Node.bounds_cut (rest old)).mp (split ▸ finite)).2
    rw [done]
    show Node.BoundsFinite ((Node.replace? s.nodes id fun _ => [new]).getD s.nodes) ↔ Node.BoundsFinite [new]
    rw [replaced, Option.getD_some, Node.bounds_cut (rest new)]
    exact and_iff_left around

theorem load_bounds_iff (form : Form) :
    Node.BoundsFinite (left ((load form).run s)).nodes ↔ Node.BoundsFinite (broughtForm ((load form).run s)) := by
  rcases load_outcome s form with ⟨why, refused⟩ | ⟨_, loaded⟩
  · rw [refused]
    exact iff_of_true finite Node.bounds_finite_nil
  · rw [loaded]
    exact Iff.rfl

theorem load_value_bounds_iff (origin : Origin) (v : Value) :
    Node.BoundsFinite (left ((loadValue origin v).run s)).nodes ↔
      Node.BoundsFinite (broughtForm ((loadValue origin v).run s)) := by
  rcases load_value_outcome s origin v with ⟨why, refused⟩ | ⟨form, _, read⟩
  · rw [refused]
    exact iff_of_true finite Node.bounds_finite_nil
  · rw [read]
    exact load_bounds_iff s finite form

theorem load_text_bounds_iff (text : Json.Source) :
    Node.BoundsFinite (left ((loadText text).run s)).nodes ↔
      Node.BoundsFinite (broughtForm ((loadText text).run s)) := by
  rcases load_text_outcome s text with ⟨why, refused⟩ | ⟨v, _, read⟩
  · rw [refused]
    exact iff_of_true finite Node.bounds_finite_nil
  · rw [read]
    exact load_value_bounds_iff s finite .document v

theorem step_bounds_iff (op : Op) (sound : Sound s) :
    Node.BoundsFinite (step s op).nodes ↔ Node.BoundsFinite (s.brought op) := by
  have quiet {nodes : List Node} (kept : Node.BoundsFinite nodes) : Node.BoundsFinite nodes ↔ Node.BoundsFinite [] :=
    iff_of_true kept Node.bounds_finite_nil
  rw [step]
  cases op <;> simp only [perform, left_telling]
  case create type => exact quiet (create_bounds s finite type)
  case add type => exact quiet (add_bounds s finite type)
  case addChild parent type => exact quiet (add_child_bounds s finite parent type)
  case update id patch => exact update_bounds_iff s finite id patch
  case delete id => exact quiet (delete_bounds s finite id)
  case removeChild parent index => exact quiet (remove_child_bounds s finite parent index)
  case reorder order => exact quiet (reorder_bounds s finite order ((Node.roots_sublist s.nodes).nodup sound.distinct))
  case move source target => exact quiet (move_bounds s finite source target)
  case select id => exact quiet (select_bounds s finite id)
  case setTitle title => exact quiet finite
  case load form => exact load_bounds_iff s finite form
  case loadValue origin v => exact load_value_bounds_iff s finite origin v
  case loadText text => exact load_text_bounds_iff s finite text

end Store

end FormEngine
