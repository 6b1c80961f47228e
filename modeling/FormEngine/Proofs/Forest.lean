import FormEngine.Schema.Form

set_option autoImplicit false

namespace FormEngine.Node

-- The induction for whatever is defined along a list of nodes and inside its groups.
@[elab_as_elim] theorem forest_induction {motive : List Node → Prop} (nil : motive [])
    (field : ∀ f rest, motive rest → motive (.field f :: rest))
    (group : ∀ g children rest, motive children → motive rest → motive (.group g children :: rest)) :
    ∀ nodes, motive nodes
  | [] => nil
  | .field f :: rest => field f rest (forest_induction nil field group rest)
  | .group g children :: rest =>
      group g children rest (forest_induction nil field group children) (forest_induction nil field group rest)

theorem nodes_of_append (a b : List Node) : nodesOf (a ++ b) = nodesOf a ++ nodesOf b := by
  induction a with
  | nil => simp [nodesOf]
  | cons n rest ih => simp [nodesOf, ih]

@[simp] theorem ids_of_nil : idsOf [] = [] := rfl

@[simp] theorem ids_of_append (a b : List Node) : idsOf (a ++ b) = idsOf a ++ idsOf b := by
  simp [idsOf, nodes_of_append]

@[simp] theorem ids_of_cons (n : Node) (rest : List Node) : idsOf (n :: rest) = n.ids ++ idsOf rest := by
  simp [idsOf, ids, nodesOf]

@[simp] theorem ids_field (f : Field) : ids (.field f) = [f.id] := rfl

@[simp] theorem ids_group (g : Group) (children : List Node) : ids (.group g children) = g.id :: idsOf children := rfl

theorem id_mem_ids (n : Node) : n.id ∈ n.ids := by
  cases n <;> simp [id, basics]

theorem roots_sublist (nodes : List Node) : (nodes.map id).Sublist (idsOf nodes) := by
  induction nodes with
  | nil => exact List.Sublist.slnil
  | cons n rest ih =>
      rw [List.map_cons, ids_of_cons]
      exact (List.singleton_sublist.mpr (id_mem_ids n)).append ih

theorem ids_of_flat_map (nodes : List Node) : idsOf nodes = nodes.flatMap ids := by
  induction nodes with
  | nil => rfl
  | cons n rest ih => rw [ids_of_cons, ih, List.flatMap_cons]

end FormEngine.Node
