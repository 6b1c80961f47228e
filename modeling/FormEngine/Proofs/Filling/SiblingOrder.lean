import FormEngine.Proofs.Builder.Rearranged
import FormEngine.Proofs.Filling.UpToDate
import FormEngine.Proofs.Filling.Visible
import FormEngine.Proofs.Maps

set_option autoImplicit false

namespace FormEngine

structure Node.Unambiguous (nodes : List Node) : Prop where
  ids : (idsOf nodes).Nodup
  names : ∀ n ∈ nodesOf nodes, ∀ m ∈ nodesOf nodes, ∀ name,
    n.basics.alias? = some name → m.basics.alias? = some name → n.id = m.id
  apart : ∀ n ∈ nodesOf nodes, ∀ m ∈ nodesOf nodes, n.basics.alias? = some m.id → n.id = m.id

-- The same messages, or none because the validation breaks off; what it meets first may depend on the order.
def SameMessages : Except Breakdown (Keyed String) → Except Breakdown (Keyed String) → Prop
  | .ok errors, .ok others => errors.SameMap others
  | .error _, .error _ => True
  | _, _ => False

structure SameMeaning (nodes others : List Node) (values : Keyed Value) : Prop where
  visibility : (visibilityOf nodes values).SameMap (visibilityOf others values)
  messages : SameMessages (validate nodes values) (validate others values)
  payload : (payload nodes values).SameMap (payload others values)
  shown : ∀ visibility, SameMessages (validateShown nodes values visibility) (validateShown others values visibility) ∧
    (payloadShown nodes values visibility).SameMap (payloadShown others values visibility)

namespace Node

variable {nodes others : List Node}

def basicsOf (nodes : List Node) : List Basics := (nodesOf nodes).map basics

theorem Rearranged.basics (rearranged : Rearranged nodes others) : (basicsOf nodes).Perm (basicsOf others) := by
  apply Rearranged.view_perm (fun (_ : Unit) nodes => basicsOf nodes) _ _ rearranged ()
  · intro _ one two
    rw [basicsOf, nodes_of_append, List.map_append]
    rfl
  · intro g children inner same _
    simp only [basicsOf, nodesOf, Node.nodes, List.append_nil, List.map_cons]
    exact (same ()).cons _

theorem ids_of_basics (nodes : List Node) : idsOf nodes = (basicsOf nodes).map Basics.id := by
  rw [idsOf, basicsOf, List.map_map]
  rfl

theorem Rearranged.ids (rearranged : Rearranged nodes others) : (idsOf nodes).Perm (idsOf others) := by
  rw [ids_of_basics, ids_of_basics]
  exact rearranged.basics.map _

theorem Rearranged.marks (rearranged : Rearranged nodes others) (index : Keyed Value) (shown : Bool) :
    (marksOf index shown nodes).Perm (marksOf index shown others) := by
  apply Rearranged.view_perm (fun shown nodes => marksOf index shown nodes) _ _ rearranged shown
  · intro shown one two
    induction one with
    | nil => rfl
    | cons n rest ih => rw [List.cons_append, marksOf, ih, marksOf, List.append_assoc]
  · intro g children inner same shown
    simp only [marksOf, Node.marks, List.append_nil]
    exact (same _).cons _

theorem Rearranged.shown (rearranged : Rearranged nodes others) (visible : String → Bool) :
    (shownFieldsOf visible nodes).Perm (shownFieldsOf visible others) := by
  apply Rearranged.view_perm (fun (_ : Unit) nodes => shownFieldsOf visible nodes) _ _ rearranged ()
  · intro _ one two
    induction one with
    | nil => rfl
    | cons n rest ih => rw [List.cons_append, shownFieldsOf, ih, shownFieldsOf, List.append_assoc]
  · intro g children inner same _
    simp only [shownFieldsOf, shownFields, List.append_nil]
    split
    · exact same ()
    · exact .refl _

end Node

-- What is found first is found in any order, if no two things found differ.
theorem find_some_perm {α β : Type} {f : α → Option β} {one two : List α} (perm : one.Perm two)
    (alone : ∀ x ∈ one, ∀ y ∈ one, ∀ v w, f x = some v → f y = some w → v = w) : one.findSome? f = two.findSome? f := by
  cases first : one.findSome? f with
  | none =>
      rw [List.findSome?_eq_none_iff] at first
      exact (List.findSome?_eq_none_iff.mpr fun y there => first y (perm.mem_iff.mpr there)).symm
  | some v =>
      obtain ⟨x, here, found⟩ := List.exists_of_findSome?_eq_some first
      cases second : two.findSome? f with
      | none =>
          have missing := List.findSome?_eq_none_iff.mp second x (perm.mem_iff.mp here)
          cases missing.symm.trans found
      | some w =>
          obtain ⟨y, there, same⟩ := List.exists_of_findSome?_eq_some second
          rw [alone x here y (perm.mem_iff.mpr there) v w found same]

section Filling

variable {nodes others : List Node} (clear : Node.Unambiguous nodes) (rearranged : Node.Rearranged nodes others)
  (values : Keyed Value)

include clear rearranged

theorem others_distinct : (Node.idsOf others).Nodup := rearranged.ids.nodup_iff.mp clear.ids

theorem same_lent (key : String) : lent? nodes values key = lent? others values key := by
  let lends (b : Basics) : Option Value := if b.alias? = some key then Keyed.value? values b.id else none
  have told (nodes : List Node) : lent? nodes values key = (Node.basicsOf nodes).findSome? lends := by
    rw [lent?, Node.basicsOf, List.findSome?_map]
    rfl
  rw [told, told]
  apply find_some_perm rearranged.basics
  rintro _ here _ there v w found foundToo
  obtain ⟨n, member, rfl⟩ := List.mem_map.mp here
  obtain ⟨m, memberToo, rfl⟩ := List.mem_map.mp there
  obtain ⟨called, given⟩ := Option.ite_none_right_eq_some.mp found
  obtain ⟨calledToo, givenToo⟩ := Option.ite_none_right_eq_some.mp foundToo
  have same : n.basics.id = m.basics.id := clear.names n member m memberToo key called calledToo
  rw [same, givenToo] at given
  exact Option.some.inj given.symm

theorem same_index : SameValues (valueIndex nodes values) (valueIndex others values) := by
  intro key
  rw [value_index_passes, value_index_passes, same_lent clear rearranged values key]
  congr 1
  by_cases inside : key ∈ Node.idsOf nodes
  · obtain ⟨n, member, rfl⟩ := List.mem_map.mp inside
    obtain ⟨m, memberToo, same⟩ := List.mem_map.mp (rearranged.basics.mem_iff.mp (List.mem_map_of_mem member))
    have first := value_ids values n _ values clear.ids member
    have second := value_ids values m _ values (others_distinct clear rearranged) memberToo
    have id : m.id = n.id := congrArg Basics.id same
    rw [first, ← id, second, named, named, same]
  · have quiet (nodes : List Node) (outside : key ∉ Node.idsOf nodes) (n : Node) (member : n ∈ Node.nodesOf nodes)
        (same : n.id = key) : Keyed.value? values key ≠ none := absurd (same ▸ List.mem_map_of_mem member) outside
    have beyond : key ∉ Node.idsOf others := fun there => inside (rearranged.ids.mem_iff.mpr there)
    rw [value_ids_quiet _ _ _ _ (quiet nodes inside), value_ids_quiet _ _ _ _ (quiet others beyond)]

theorem same_visibility : (visibilityOf nodes values).SameMap (visibilityOf others values) := by
  rw [visibilityOf, visibilityOf, (same_index clear rearranged values).marks]
  apply Keyed.same_map_put_all
  · rw [Node.marks_names]
    exact clear.ids
  · exact rearranged.marks _ _

end Filling

theorem SameValues.held {one two : Keyed Value} (same : SameValues one two) : heldValue one = heldValue two := by
  funext f
  rw [heldValue, heldValue, same f.id]

theorem messages_of_perm (index : Keyed Value) (fields others : List Field) (distinct : (fields.map (·.id)).Nodup)
    (perm : fields.Perm others) :
    SameMessages (fields.foldlM (complain index) []) (others.foldlM (complain index) []) := by
  have ids := perm.map fun f : Field => f.id
  have finishes := complain_finishes_iff index fields []
  have finishesToo := complain_finishes_iff index others []
  cases done : fields.foldlM (complain index) [] with
  | error why =>
      cases doneToo : others.foldlM (complain index) [] with
      | error other => trivial
      | ok errors =>
          have fine := finishesToo.mp ⟨errors, doneToo⟩
          obtain ⟨out, ended⟩ := finishes.mpr fun f member => fine f (perm.mem_iff.mp member)
          cases done.symm.trans ended
  | ok errors =>
      have fine := finishes.mp ⟨errors, done⟩
      obtain ⟨out, ended⟩ := finishesToo.mpr fun f member => fine f (perm.mem_iff.mpr member)
      rw [ended]
      intro key
      obtain ⟨silent, said⟩ := errors_tell fields index [] errors distinct done
      obtain ⟨silentToo, saidToo⟩ := errors_tell others index [] out (ids.nodup_iff.mp distinct) ended
      by_cases about : key ∈ fields.map (·.id)
      · obtain ⟨f, member, rfl⟩ := List.mem_map.mp about
        have first := said f member rfl
        rw [saidToo f (perm.mem_iff.mp member) rfl] at first
        exact (Except.ok.inj first).symm
      · rw [silent key about, silentToo key fun there => about (ids.mem_iff.mpr there)]

def deliveries (index : Keyed Value) (fields : List Field) : Keyed Value :=
  (fields.filter (!·.kind.displayOnly)).map fun f => (f.payloadKey, f.coerce (heldValue index f))

theorem payload_put_all (index sent : Keyed Value) (fields : List Field) :
    fields.foldl (deliver index) sent = Keyed.putAll sent (deliveries index fields) := by
  induction fields generalizing sent with
  | nil => rfl
  | cons f rest ih =>
      rw [List.foldl_cons, ih, deliver, deliveries, deliveries, List.filter_cons]
      cases f.kind.displayOnly with
      | true => rfl
      | false => rfl

theorem payload_of_perm (index : Keyed Value) (fields others : List Field) (distinct : (fields.map (·.payloadKey)).Nodup)
    (perm : fields.Perm others) :
    (fields.foldl (deliver index) []).SameMap (others.foldl (deliver index) []) := by
  rw [payload_put_all, payload_put_all]
  apply Keyed.same_map_put_all
  · rw [Keyed.names, deliveries, List.map_map]
    exact distinct.sublist (List.filter_sublist.map _)
  · exact (perm.filter _).map _

section Shown

variable {nodes others : List Node} (clear : Node.Unambiguous nodes) (visible : String → Bool)

include clear

theorem clear_ids : ((Node.shownFieldsOf visible nodes).map (·.id)).Nodup := by
  have ids := (shown_fields_sublist visible nodes).map Node.id
  rw [List.map_map] at ids
  exact clear.ids.sublist ids

theorem payload_keys_apart (n m : Node) (here : n ∈ Node.nodesOf nodes) (there : m ∈ Node.nodesOf nodes)
    (same : n.basics.payloadKey = m.basics.payloadKey) : n.id = m.id := by
  rw [Basics.payloadKey, Basics.payloadKey] at same
  cases name : n.basics.alias? with
  | some key =>
      cases other : m.basics.alias? with
      | some _ =>
          rw [name, other] at same
          cases same
          exact clear.names n here m there key name other
      | none =>
          rw [name, other] at same
          cases same
          exact clear.apart n here m there name
  | none =>
      cases other : m.basics.alias? with
      | some _ =>
          rw [name, other] at same
          cases same
          exact (clear.apart m there n here other).symm
      | none =>
          rw [name, other] at same
          exact same

theorem clear_keys : ((Node.shownFieldsOf visible nodes).map (·.payloadKey)).Nodup := by
  have ids := clear_ids clear visible
  apply List.Nodup.map_on _ (List.Nodup.of_map _ ids)
  intro f shown g shownToo same
  have here := shown_field_mem visible nodes f shown
  have there := shown_field_mem visible nodes g shownToo
  exact List.inj_on_of_nodup_map ids shown shownToo (payload_keys_apart clear (.field f) (.field g) here there same)

end Shown

theorem same_shown {nodes others : List Node} (clear : Node.Unambiguous nodes) (rearranged : Node.Rearranged nodes others)
    (values : Keyed Value) {visibility same : Keyed Bool} (alike : visibility.SameMap same) :
    SameMessages (validateShown nodes values visibility) (validateShown others values same) ∧
      (payloadShown nodes values visibility).SameMap (payloadShown others values same) := by
  have index := same_index clear rearranged values
  have visible : shows visibility = shows same := by
    funext id
    rw [shows, shows, alike id]
  have perm := rearranged.shown (shows same)
  have complains : complain (valueIndex nodes values) = complain (valueIndex others values) := by
    funext errors f
    rw [complain, complain, index.held]
  have delivers : deliver (valueIndex nodes values) = deliver (valueIndex others values) := by
    funext sent f
    rw [deliver, deliver, index.held]
  rw [validateShown, validateShown, payloadShown, payloadShown, visibleFields, visibleFields, visible, complains, delivers]
  exact ⟨messages_of_perm _ _ _ (clear_ids clear _) perm, payload_of_perm _ _ _ (clear_keys clear _) perm⟩

theorem same_meaning {nodes others : List Node} (clear : Node.Unambiguous nodes)
    (rearranged : Node.Rearranged nodes others) (values : Keyed Value) : SameMeaning nodes others values := by
  have visibility := same_visibility clear rearranged values
  obtain ⟨messages, payload⟩ := same_shown clear rearranged values visibility
  exact ⟨visibility, messages, payload, fun given => same_shown clear rearranged values fun _ => rfl⟩

-- Nodes in any order among their siblings come to the same for every collection of values, and a new order of the roots and
-- a move within a list are such orders.
theorem sibling_order_means_nothing :
    (∀ (nodes others : List Node) (values : Keyed Value), Node.Unambiguous nodes → Node.Rearranged nodes others →
      SameMeaning nodes others values) ∧
    (∀ (s left : Store) (order : List Store.OrderItem), s.ids.Nodup → (Store.reorder order).run s = .ok () left →
      Node.Rearranged s.nodes left.nodes) ∧
    ∀ (s left : Store) (source target : Store.PlaceInput) (from_ to_ : Place) (n : Node), source.read = .ok from_ →
      target.read = .ok to_ → from_.parent = to_.parent → (Store.move source target).run s = .ok n left →
        Node.Rearranged s.nodes left.nodes :=
  ⟨fun _ _ values clear rearranged => same_meaning clear rearranged values, Store.reorder_rearranges,
    Store.move_rearranges⟩

def adults : Group := { Group.create "adult" with condition := some ⟨"age", .greaterThan, .int 17⟩ }

def ageEntry : Node := .field { Field.create "a" .number with name := some "age" }

def mailEntry : Node := .field { Field.create "e" .email with name := some "mail", required := true }

def tangled : List Node :=
  [ageEntry, .group adults [.field (Field.create "n" .text),
    .group (Group.create "inner") [.field (Field.create "s" .switch), mailEntry]]]

def turned : List Node :=
  [.group adults [.group (Group.create "inner") [mailEntry, .field (Field.create "s" .switch)],
    .field (Field.create "n" .text)], ageEntry]

def tangledValues : Keyed Value := [("age", .text "40"), ("s", .text "on")]

theorem tangled_clear : Node.Unambiguous tangled := by
  have names : ∀ n ∈ Node.nodesOf tangled, ∀ m ∈ Node.nodesOf tangled,
      n.basics.alias? = m.basics.alias? → n.basics.alias? = none ∨ n.id = m.id := by decide +kernel
  refine ⟨by decide +kernel, fun n here m there name called calledToo => ?_, by decide +kernel⟩
  rcases names n here m there (called.trans calledToo.symm) with unnamed | same
  · cases unnamed.symm.trans called
  · exact same

theorem tangled_turned : Node.Rearranged tangled turned := by
  let inner : Group := Group.create "inner"
  let text : Node := .field (Field.create "n" .text)
  have innermost := Node.Rearranged.siblings (.inside [ageEntry] adults (.inside [text] inner .root []) [])
    (.swap mailEntry (.field (Field.create "s" .switch)) [])
  have middle := Node.Rearranged.siblings (.inside [ageEntry] adults .root [])
    (.swap (.group inner [mailEntry, .field (Field.create "s" .switch)]) text [])
  have outermost := Node.Rearranged.siblings .root (.swap (.group adults [.group inner
    [mailEntry, .field (Field.create "s" .switch)], text]) ageEntry [])
  exact innermost.further (middle.further outermost)

theorem turned_form_means_the_same :
    SameMeaning tangled turned tangledValues ∧
    Keyed.value? (payload turned tangledValues) "age" = some (.int 40) ∧
    payload tangled tangledValues ≠ payload turned tangledValues ∧
    (∃ left, (Store.reorder [.named "b", .named "outer"]).run Store.nestedStore = .ok () left ∧
      Node.Rearranged Store.nestedStore.nodes left.nodes) ∧
    ∃ n left, (Store.move (.place ⟨some "outer", 0⟩) (.place ⟨some "outer", 1⟩)).run Store.nestedStore = .ok n left ∧
      n.id = "a" ∧ Node.Rearranged Store.nestedStore.nodes left.nodes := by
  obtain ⟨meaning, reordered, moved⟩ := sibling_order_means_nothing
  have same := meaning tangled turned tangledValues tangled_clear tangled_turned
  refine ⟨same, ?_, by decide +kernel, ?_, ?_⟩
  · rw [← same.payload "age"]
    decide +kernel
  · have done : ∃ left, (Store.reorder [.named "b", .named "outer"]).run Store.nestedStore = .ok () left := ⟨_, rfl⟩
    obtain ⟨left, done⟩ := done
    exact ⟨left, done, reordered _ left _ (by decide +kernel) done⟩
  · have done : ∃ n left, (Store.move (.place ⟨some "outer", 0⟩) (.place ⟨some "outer", 1⟩)).run Store.nestedStore
        = .ok n left ∧ n.id = "a" := ⟨_, _, rfl, rfl⟩
    obtain ⟨n, left, done, named⟩ := done
    exact ⟨n, left, done, named, moved _ left _ _ ⟨some "outer", 0⟩ ⟨some "outer", 1⟩ n rfl rfl rfl done⟩

end FormEngine
