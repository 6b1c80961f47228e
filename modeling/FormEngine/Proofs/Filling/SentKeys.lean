import FormEngine.Proofs.Filling.Leaves
import FormEngine.Proofs.Filling.Payload
import FormEngine.Proofs.Filling.ValueIndex

set_option autoImplicit false

namespace FormEngine

theorem payload_key_unnamed (f : Field) (unnamed : f.name = none ∨ f.name = some "") : f.payloadKey = f.id := by
  rcases unnamed with absent | blank
  · rw [Basics.payloadKey, Basics.alias?, absent]
    rfl
  · rw [Basics.payloadKey, Basics.alias?, blank]
    rfl

theorem payload_key_named (f : Field) (name : String) (given : f.name = some name) (filled : name ≠ "") :
    f.payloadKey = name := by
  have called : f.alias? = some name := (alias_iff f.toBasics name).mpr ⟨given, filled⟩
  rw [Basics.payloadKey, called]
  rfl

theorem names_of_deliveries (fields : List Field) (index sent : Keyed Value) :
    Keyed.names (fields.foldl (deliver index) sent) = Keyed.names sent ++
      (((fields.filter (!·.kind.displayOnly)).map (·.payloadKey)).filter
        fun key => !(Keyed.names sent).contains key).eraseDups := by
  induction fields generalizing sent with
  | nil => simp
  | cons f rest ih =>
      rw [List.foldl_cons, ih, deliver]
      cases shown : f.kind.displayOnly with
      | true => simp [shown]
      | false =>
          simp only [Bool.false_eq_true, if_false, List.filter_cons, shown, Bool.not_false, if_true, List.map_cons,
            Keyed.names_put, Keyed.has_iff_mem_names]
          by_cases present : f.payloadKey ∈ Keyed.names sent
          · simp [present]
          · have further (key : String) : (!decide (key ∈ Keyed.names sent ++ [f.payloadKey]))
                = (!key == f.payloadKey && !decide (key ∈ Keyed.names sent)) := by
              simp [Bool.and_comm, Bool.beq_eq_decide_eq]
            simp only [present, further, if_false, List.contains_eq_mem, decide_false, Bool.not_false, if_true,
              List.eraseDups_cons, List.filter_filter, List.append_assoc, List.singleton_append]

def sentLeaves (nodes : List Node) (values : Keyed Value) : List Field :=
  (Node.openFields (valueIndex nodes values) nodes).filter (!·.kind.displayOnly)

theorem payload_names (nodes : List Node) (values : Keyed Value) (distinct : (Node.idsOf nodes).Nodup) :
    Keyed.names (payload nodes values) = ((sentLeaves nodes values).map (·.payloadKey)).eraseDups := by
  rw [payload, payloadShown, visible_fields_open nodes values distinct, names_of_deliveries, sentLeaves]
  exact congrArg List.eraseDups (List.filter_eq_self.mpr fun _ _ => rfl)

theorem payload_value (nodes : List Node) (values : Keyed Value) (distinct : (Node.idsOf nodes).Nodup) (key : String) :
    Keyed.value? (payload nodes values) key
      = ((sentLeaves nodes values).filter (·.payloadKey == key)).getLast?.map
          fun f => f.coerce (heldValue (valueIndex nodes values) f) := by
  rw [payload, payloadShown, visible_fields_open nodes values distinct, value_of_deliveries, lastWord?, sentLeaves,
    List.filter_filter]
  simp only [Bool.and_comm]
  exact Option.or_none

theorem payload_from_leaves (nodes : List Node) (values : Keyed Value) (distinct : (Node.idsOf nodes).Nodup) :
    Keyed.names (payload nodes values) = ((sentLeaves nodes values).map (·.payloadKey)).eraseDups ∧
    (∀ key, Keyed.value? (payload nodes values) key
      = ((sentLeaves nodes values).filter (·.payloadKey == key)).getLast?.map
          fun f => f.coerce (heldValue (valueIndex nodes values) f)) ∧
    (∀ f, f ∈ sentLeaves nodes values ↔ f.kind.displayOnly = false ∧
      ∃ leaf ∈ Node.leavesOf [] nodes, leaf.field = f ∧
        ∀ g ∈ leaf.around, ∀ c, g.condition = some c → c.holds (valueIndex nodes values) = true) ∧
    ∀ f : Field, (f.name = none ∨ f.name = some "" → f.payloadKey = f.id) ∧
      ∀ name, f.name = some name → name ≠ "" → f.payloadKey = name := by
  refine ⟨payload_names nodes values distinct, payload_value nodes values distinct, fun f => ?_, fun f => ?_⟩
  · rw [sentLeaves, List.mem_filter, Node.mem_open_fields]
    simp [Node.Leaf.open_iff, and_comm]
  · exact ⟨payload_key_unnamed f, payload_key_named f⟩

def sharedName : List Node :=
  let hidden : Group := { Group.create "g" with condition := some ⟨"d", .equals, .bool false⟩ }
  let shown : Group := { Group.create "o" with condition := some ⟨"n", .equals, .text "Ann"⟩ }
  [.field { Field.create "a" .text with name := some "n" }, .field { Field.create "h" .heading with name := some "t" },
    .group (Group.create "p")
      [.group shown [.field { Field.create "c" .number with name := some "n" }],
        .group hidden [.field { Field.create "b" .text with name := some "n" }]],
    .field { Field.create "d" .switch with name := some "" }]

def sharedValues : Keyed Value :=
  [("t", .int 1), ("b", .text "x"), ("n", .text "Ann"), ("c", .text " 40 "), ("d", .text "on")]

theorem shared_name_once :
    (Node.idsOf sharedName).Nodup ∧ Keyed.names (payload sharedName sharedValues) = ["n", "d"] ∧
    Keyed.value? (payload sharedName sharedValues) "n" = some (.int 40) := by
  have distinct : (Node.idsOf sharedName).Nodup := by decide
  obtain ⟨names, value, _, _⟩ := payload_from_leaves sharedName sharedValues distinct
  exact ⟨distinct, names.trans (by decide +kernel), (value "n").trans (by decide +kernel)⟩

end FormEngine
