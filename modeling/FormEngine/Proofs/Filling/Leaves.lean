import FormEngine.Proofs.Filling.Visible

set_option autoImplicit false

namespace FormEngine

def Group.opens (index : Keyed Value) (g : Group) : Bool := g.condition.all (·.holds index)

theorem Group.opens_iff (index : Keyed Value) (g : Group) :
    g.opens index = true ↔ ∀ c, g.condition = some c → c.holds index = true := by
  rw [opens]
  cases g.condition <;> simp

namespace Node

structure Leaf where
  around : List Group
  field : Field

mutual
def leaves (around : List Group) : Node → List Leaf
  | .field f => [⟨around, f⟩]
  | .group g children => leavesOf (g :: around) children
def leavesOf (around : List Group) : List Node → List Leaf
  | [] => []
  | n :: rest => leaves around n ++ leavesOf around rest
end

def Leaf.isOpen (index : Keyed Value) (leaf : Leaf) : Bool := leaf.around.all (Group.opens index)

def openFields (index : Keyed Value) (nodes : List Node) : List Field :=
  ((leavesOf [] nodes).filter (Leaf.isOpen index)).map Leaf.field

theorem Leaf.open_iff (index : Keyed Value) (leaf : Leaf) :
    leaf.isOpen index = true ↔ ∀ g ∈ leaf.around, ∀ c, g.condition = some c → c.holds index = true := by
  rw [isOpen, List.all_eq_true]
  exact forall₂_congr fun g _ => g.opens_iff index

theorem mem_open_fields (index : Keyed Value) (nodes : List Node) (f : Field) :
    f ∈ openFields index nodes ↔ ∃ leaf ∈ leavesOf [] nodes, leaf.field = f ∧ leaf.isOpen index = true := by
  simp only [openFields, List.mem_map, List.mem_filter, and_assoc]
  exact exists_congr fun leaf => and_congr_right fun _ => and_comm

theorem leaves_sublist (nodes : List Node) (around : List Group) :
    ((leavesOf around nodes).map fun leaf => .field leaf.field).Sublist (nodesOf nodes) := by
  induction nodes using forest_induction generalizing around with
  | nil => exact List.Sublist.slnil
  | field f rest ih =>
      simp only [leavesOf, leaves, nodesOf, Node.nodes, List.map_append]
      exact (List.Sublist.refl _).append (ih around)
  | group g children rest inside after =>
      simp only [leavesOf, leaves, nodesOf, Node.nodes, List.map_append]
      exact ((inside (g :: around)).cons _).append (after around)

theorem leaf_ids_nodup (nodes : List Node) (distinct : (idsOf nodes).Nodup) :
    ((leavesOf [] nodes).map (·.field.id)).Nodup := by
  have ids := (leaves_sublist nodes []).map Node.id
  rw [List.map_map] at ids
  exact distinct.sublist ids

theorem open_ids_nodup (index : Keyed Value) (nodes : List Node) (distinct : (idsOf nodes).Nodup) :
    ((openFields index nodes).map (·.id)).Nodup := by
  rw [openFields, List.map_map]
  exact (leaf_ids_nodup nodes distinct).sublist (List.filter_sublist.map _)

theorem leaves_inside (nodes : List Node) (around : List Group) (leaf : Leaf) (member : leaf ∈ leavesOf around nodes) :
    around ⊆ leaf.around := by
  induction nodes using forest_induction generalizing around with
  | nil => cases member
  | field f rest ih =>
      simp only [leavesOf, leaves, List.singleton_append, List.mem_cons] at member
      rcases member with rfl | later
      · exact List.Subset.refl around
      · exact ih around later
  | group g children rest inside after =>
      rcases List.mem_append.mp member with within | later
      · exact List.Subset.trans (List.subset_cons_self g around) (inside (g :: around) within)
      · exact after around later

theorem leaves_closed (index : Keyed Value) (nodes : List Node) (around : List Group)
    (closed : around.all (Group.opens index) = false) : (leavesOf around nodes).filter (Leaf.isOpen index) = [] := by
  rw [List.filter_eq_nil_iff]
  intro leaf member opened
  have all : around.all (Group.opens index) = true := List.all_eq_true.mpr fun g inside =>
    List.all_eq_true.mp opened g (leaves_inside nodes around leaf member inside)
  rw [all] at closed
  cases closed

theorem shown_fields_open (index : Keyed Value) (visible : String → Bool) (nodes : List Node) (around : List Group)
    (marked : ∀ mark ∈ marksOf index (around.all (Group.opens index)) nodes, visible mark.1 = mark.2) :
    shownFieldsOf visible nodes = ((leavesOf around nodes).filter (Leaf.isOpen index)).map Leaf.field := by
  induction nodes using forest_induction generalizing around with
  | nil => rfl
  | field f rest ih =>
      have own := marked (f.id, around.all (Group.opens index)) (by simp [marksOf, marks])
      have later := ih around fun mark member => marked mark (by simp [marksOf, member])
      simp only [shownFieldsOf, shownFields, leavesOf, leaves, List.filter_append, List.map_append, later, own]
      congr 1
      cases opened : around.all (Group.opens index) <;> simp [Leaf.isOpen, opened]
  | group g children rest inside after =>
      have opens : (around.all (Group.opens index) && admits index (.group g children))
          = (g :: around).all (Group.opens index) := by
        rw [List.all_cons, Bool.and_comm, Group.opens, admits]
        cases g.condition <;> rfl
      have later := after around fun mark member => marked mark (by simp [marksOf, member])
      have own := marked (g.id, (g :: around).all (Group.opens index)) (by rw [← opens]; simp [marksOf, marks])
      have within : ∀ mark ∈ marksOf index ((g :: around).all (Group.opens index)) children,
          visible mark.1 = mark.2 := fun mark member =>
        marked mark (by rw [← opens] at member; simp [marksOf, marks, member])
      simp only [shownFieldsOf, shownFields, leavesOf, leaves, List.filter_append, List.map_append, later, own]
      congr 1
      cases opened : (g :: around).all (Group.opens index) with
      | true => exact inside (g :: around) within
      | false =>
          -- The walk stops here; what is inside is not open either.
          rw [leaves_closed index children (g :: around) opened]
          rfl

end Node

theorem visible_fields_open (nodes : List Node) (values : Keyed Value) (distinct : (Node.idsOf nodes).Nodup) :
    visibleFields nodes (visibilityOf nodes values) = Node.openFields (valueIndex nodes values) nodes :=
  Node.shown_fields_open (valueIndex nodes values) _ nodes [] (shows_mark nodes values distinct)

end FormEngine
