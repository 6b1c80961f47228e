import FormEngine.Builder.Store
import FormEngine.Filling.Visibility
import FormEngine.Proofs.Forest

set_option autoImplicit false

namespace FormEngine

-- The nodes on the way from the root to a node, which is the last of them.
inductive Node.PathTo : List Node → List Node → Node → Prop where
  | here {nodes : List Node} {n : Node} (member : n ∈ nodes) : PathTo nodes [n] n
  | inside {nodes children path : List Node} {g : Group} {n : Node} (member : .group g children ∈ nodes)
      (inner : PathTo children path n) : PathTo nodes (.group g children :: path) n

namespace Node

theorem PathTo.wider {nodes path : List Node} {n : Node} (reached : PathTo nodes path n) (first : Node) :
    PathTo (first :: nodes) path n := by
  cases reached with
  | here member => exact .here (List.mem_cons_of_mem first member)
  | inside member inner => exact .inside (List.mem_cons_of_mem first member) inner

theorem path_exists (nodes : List Node) (n : Node) (member : n ∈ nodesOf nodes) : ∃ path, PathTo nodes path n := by
  induction nodes using forest_induction with
  | nil => cases member
  | field f rest ih =>
      simp only [nodesOf, Node.nodes, List.singleton_append, List.mem_cons] at member
      rcases member with rfl | later
      · exact ⟨_, .here List.mem_cons_self⟩
      · obtain ⟨path, reached⟩ := ih later
        exact ⟨path, reached.wider _⟩
  | group g children rest ihChildren ihRest =>
      simp only [nodesOf, Node.nodes, List.cons_append, List.mem_cons, List.mem_append] at member
      rcases member with rfl | inside | later
      · exact ⟨_, .here List.mem_cons_self⟩
      · obtain ⟨path, reached⟩ := ihChildren inside
        exact ⟨_, .inside List.mem_cons_self reached⟩
      · obtain ⟨path, reached⟩ := ihRest later
        exact ⟨path, reached.wider _⟩

theorem nodes_subset (nodes : List Node) (n : Node) (member : n ∈ nodes) : n.nodes ⊆ nodesOf nodes := by
  induction nodes with
  | nil => cases member
  | cons first rest ih =>
      rw [nodesOf]
      rcases List.mem_cons.mp member with rfl | later
      · exact List.subset_append_left _ _
      · exact List.Subset.trans (ih later) (List.subset_append_right _ _)

theorem PathTo.mem {nodes path : List Node} {n : Node} (reached : PathTo nodes path n) : n ∈ nodesOf nodes := by
  induction reached with
  | @here nodes n member =>
      have self : n ∈ n.nodes := by cases n <;> simp [Node.nodes]
      exact nodes_subset nodes n member self
  | @inside nodes children path g n member _ ih =>
      exact nodes_subset nodes _ member (by simp [Node.nodes, ih])

theorem admits_group (index : Keyed Value) (g : Group) (children : List Node) :
    admits index (.group g children) = true ↔ ∀ c, g.condition = some c → c.holds index = true := by
  rw [admits]
  cases g.condition <;> simp

theorem marks_names (index : Keyed Value) (nodes : List Node) (shown : Bool) :
    Keyed.names (marksOf index shown nodes) = idsOf nodes := by
  unfold Keyed.names
  induction nodes using forest_induction generalizing shown with
  | nil => rfl
  | field f rest ih => rw [marksOf, marks, List.map_append, ih, ids_of_cons, ids_field, List.map_singleton]
  | group g children rest ihChildren ihRest => simp [marksOf, marks, ihChildren, ihRest]

theorem marks_subset (index : Keyed Value) (shown : Bool) (nodes : List Node) (n : Node) (member : n ∈ nodes) :
    marks index shown n ⊆ marksOf index shown nodes := by
  induction nodes with
  | nil => cases member
  | cons first rest ih =>
      rw [marksOf]
      rcases List.mem_cons.mp member with rfl | later
      · exact List.subset_append_left _ _
      · exact List.Subset.trans (ih later) (List.subset_append_right _ _)

-- The mark of a node says whether everything on the way to it admits what is inside.
theorem mark_of_path (index : Keyed Value) {nodes path : List Node} {n : Node} (reached : PathTo nodes path n)
    (shown : Bool) : (n.id, shown && path.all (admits index)) ∈ marksOf index shown nodes := by
  induction reached generalizing shown with
  | @here nodes n member =>
      apply marks_subset index shown nodes n member
      cases n with
      | field f => simp [marks, Node.id, basics, admits]
      | group g children => simp [marks, Node.id, basics]
  | @inside nodes children path g n member _ ih =>
      apply marks_subset index shown nodes _ member
      have below := ih (shown && admits index (.group g children))
      rw [Bool.and_assoc] at below
      rw [marks]
      exact List.mem_cons_of_mem _ below

theorem marks_hidden (index : Keyed Value) (nodes : List Node) (mark : String × Bool)
    (member : mark ∈ marksOf index false nodes) : mark.2 = false := by
  induction nodes using forest_induction with
  | nil => cases member
  | field f rest ih =>
      simp only [marksOf, marks, List.singleton_append, List.mem_cons] at member
      rcases member with rfl | later
      · rfl
      · exact ih later
  | group g children rest ihChildren ihRest =>
      simp only [marksOf, marks, Bool.false_and, List.cons_append, List.mem_cons, List.mem_append] at member
      rcases member with rfl | inside | later
      · rfl
      · exact ihChildren inside
      · exact ihRest later

def isShown (visible : String → Bool) (n : Node) : Bool := !n.isGroup && visible n.id

theorem none_shown (visible : String → Bool) (nodes : List Node) (hidden : ∀ id ∈ idsOf nodes, visible id = false) :
    (nodesOf nodes).filter (isShown visible) = [] := by
  rw [List.filter_eq_nil_iff]
  intro n member
  simp [isShown, hidden n.id (List.mem_map_of_mem member)]

theorem shown_fields_eq_filter (index : Keyed Value) (visible : String → Bool) (nodes : List Node) (shown : Bool)
    (marked : ∀ mark ∈ marksOf index shown nodes, visible mark.1 = mark.2) :
    (shownFieldsOf visible nodes).map .field = (nodesOf nodes).filter (isShown visible) := by
  induction nodes using forest_induction generalizing shown with
  | nil => rfl
  | field f rest ih =>
      have later := ih shown fun mark member => marked mark (by simp [marksOf, member])
      simp only [shownFieldsOf, shownFields, nodesOf, Node.nodes, List.map_append, List.filter_append, later]
      congr 1
      have same : isShown visible (.field f) = visible f.id := by simp [isShown, isGroup, Node.id, basics]
      cases seen : visible f.id <;> simp [same, seen]
  | group g children rest ihChildren ihRest =>
      have later := ihRest shown fun mark member => marked mark (by simp [marksOf, member])
      have own := marked (g.id, shown && admits index (.group g children)) (by simp [marksOf, marks])
      have within : ∀ mark ∈ marksOf index (shown && admits index (.group g children)) children,
          visible mark.1 = mark.2 := fun mark member => marked mark (by simp [marksOf, marks, member])
      simp only [shownFieldsOf, shownFields, nodesOf, Node.nodes, List.map_append, List.filter_append, later]
      congr 1
      have head : isShown visible (.group g children) = false := by simp [isShown, isGroup]
      rw [List.filter_cons_of_neg (by simp [head])]
      cases seen : visible g.id with
      | true => exact (if_pos rfl).symm ▸ ihChildren _ within
      | false =>
          -- The walk stops here, so everything inside has to be marked as hidden.
          have closed : (shown && admits index (.group g children)) = false := own.symm.trans seen
          rw [closed] at within
          rw [none_shown visible children, if_neg Bool.false_ne_true]
          · rfl
          · intro id member
            rw [← marks_names index children false] at member
            obtain ⟨mark, here, rfl⟩ := List.mem_map.mp member
            exact (within mark here).trans (marks_hidden index children mark here)

end Node

theorem visibility_eq_marks (nodes : List Node) (values : Keyed Value) (distinct : (Node.idsOf nodes).Nodup) :
    visibilityOf nodes values = Node.marksOf (valueIndex nodes values) true nodes := by
  rw [visibilityOf, Keyed.putAll_of_fresh]
  · rfl
  · rw [List.nil_append, Node.marks_names]
    exact distinct

theorem visibility_of_path (nodes : List Node) (values : Keyed Value) (distinct : (Node.idsOf nodes).Nodup)
    {path : List Node} {n : Node} (reached : Node.PathTo nodes path n) :
    Keyed.value? (visibilityOf nodes values) n.id = some (path.all (Node.admits (valueIndex nodes values))) := by
  rw [visibility_eq_marks nodes values distinct]
  apply Keyed.value?_of_mem
  · rw [Node.marks_names]
    exact distinct
  · have mark := Node.mark_of_path (valueIndex nodes values) reached true
    rwa [Bool.true_and] at mark

theorem path_admits_iff (index : Keyed Value) (path : List Node) :
    path.all (Node.admits index) = true ↔
      ∀ g children c, .group g children ∈ path → g.condition = some c → c.holds index = true := by
  rw [List.all_eq_true]
  constructor
  · intro all g children c member conditioned
    exact (Node.admits_group index g children).mp (all _ member) c conditioned
  · intro all n member
    cases n with
    | field f => rfl
    | group g children => exact (Node.admits_group index g children).mpr fun c => all g children c member

theorem shows_mark (nodes : List Node) (values : Keyed Value) (distinct : (Node.idsOf nodes).Nodup)
    (mark : String × Bool) (member : mark ∈ Node.marksOf (valueIndex nodes values) true nodes) :
    shows (visibilityOf nodes values) mark.1 = mark.2 := by
  have names := Node.marks_names (valueIndex nodes values) nodes true
  rw [visibility_eq_marks nodes values distinct, shows, Keyed.value?_of_mem (names ▸ distinct) member]
  rfl

theorem visible_fields_eq_filter (nodes : List Node) (values : Keyed Value) (distinct : (Node.idsOf nodes).Nodup) :
    (visibleFields nodes (visibilityOf nodes values)).map .field
      = (Node.nodesOf nodes).filter (Node.isShown (shows (visibilityOf nodes values))) :=
  Node.shown_fields_eq_filter (valueIndex nodes values) _ nodes true (shows_mark nodes values distinct)

theorem shows_iff (visibility : Keyed Bool) (id : String) :
    shows visibility id = true ↔ Keyed.value? visibility id = some true := by
  rw [shows]
  cases Keyed.value? visibility id <;> simp

theorem visible_iff_conditions_hold (nodes : List Node) (values : Keyed Value) (distinct : (Node.idsOf nodes).Nodup) :
    Keyed.names (visibilityOf nodes values) = Node.idsOf nodes ∧
    (∀ n, n ∈ Node.nodesOf nodes ↔ ∃ path, Node.PathTo nodes path n) ∧
    (∀ path n, Node.PathTo nodes path n →
      (Keyed.value? (visibilityOf nodes values) n.id = some true ↔
        ∀ g children c, .group g children ∈ path → g.condition = some c →
          c.holds (valueIndex nodes values) = true)) ∧
    (visibleFields nodes (visibilityOf nodes values)).map .field
      = (Node.nodesOf nodes).filter
          (fun n => !n.isGroup && decide (Keyed.value? (visibilityOf nodes values) n.id = some true)) ∧
    ((visibleFields nodes (visibilityOf nodes values)).map (·.id)).Nodup := by
  have fields := visible_fields_eq_filter nodes values distinct
  refine ⟨?_, fun n => ⟨Node.path_exists nodes n, fun ⟨path, reached⟩ => reached.mem⟩, fun path n reached => ?_, ?_, ?_⟩
  · rw [visibility_eq_marks nodes values distinct, Node.marks_names]
  · rw [visibility_of_path nodes values distinct reached, Option.some.injEq]
    exact path_admits_iff _ path
  · rw [fields]
    apply List.filter_congr
    intro n _
    rw [Node.isShown]
    congr 1
    rw [Bool.eq_iff_iff, shows_iff, decide_eq_true_iff]
  · have ids : ((visibleFields nodes (visibilityOf nodes values)).map Node.field).map Node.id
        = (visibleFields nodes (visibilityOf nodes values)).map (·.id) := by
      rw [List.map_map]
      rfl
    rw [← ids, fields]
    exact distinct.sublist (List.filter_sublist.map Node.id)

def nestedConditions : List Node :=
  let adult : Group := { Group.create "adult" with condition := some ⟨"age", .greaterOrEqual, .int 18⟩ }
  let pro : Group := { Group.create "pro" with condition := some ⟨"plan", .equals, .text "pro"⟩ }
  [.group adult [.group pro [.field (Field.create "deep" .text)], .field (Field.create "near" .text)]]

theorem nested_conditions_visible :
    (Node.idsOf nestedConditions).Nodup ∧
    Keyed.value? (visibilityOf nestedConditions [("age", .int 20), ("plan", .text "basic")]) "near" = some true ∧
    Keyed.value? (visibilityOf nestedConditions [("age", .int 20), ("plan", .text "basic")]) "deep" ≠ some true := by
  have distinct : (Node.idsOf nestedConditions).Nodup := by decide +kernel
  obtain ⟨_, _, visible, _⟩ :=
    visible_iff_conditions_hold nestedConditions [("age", .int 20), ("plan", .text "basic")] distinct
  refine ⟨distinct, ?_, fun shown => ?_⟩
  · have reached : Node.PathTo nestedConditions _ (.field (Field.create "near" .text)) :=
      .inside List.mem_cons_self (.here (List.mem_cons_of_mem _ List.mem_cons_self))
    apply (visible _ _ reached).mpr
    intro g children c member conditioned
    simp only [List.mem_cons, Node.group.injEq, reduceCtorEq, List.not_mem_nil, or_false] at member
    obtain ⟨rfl, _⟩ := member
    cases conditioned
    decide +kernel
  · have reached : Node.PathTo nestedConditions _ (.field (Field.create "deep" .text)) :=
      .inside List.mem_cons_self (.inside List.mem_cons_self (.here List.mem_cons_self))
    have holds := (visible _ _ reached).mp shown _ _ _ (List.mem_cons_of_mem _ List.mem_cons_self) rfl
    revert holds
    decide +kernel

end FormEngine
