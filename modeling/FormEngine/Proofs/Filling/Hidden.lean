import FormEngine.Proofs.Builder.Sound
import FormEngine.Proofs.Filling.Payload
import FormEngine.Proofs.Filling.ValueIndex
import Mathlib.Data.List.Nodup

set_option autoImplicit false

namespace FormEngine

theorem shown_fields_sublist (visible : String → Bool) (nodes : List Node) :
    ((Node.shownFieldsOf visible nodes).map Node.field).Sublist (Node.nodesOf nodes) := by
  induction nodes using Node.forest_induction with
  | nil => exact List.Sublist.slnil
  | field f rest ih =>
      simp only [Node.shownFieldsOf, Node.shownFields, Node.nodesOf, Node.nodes, List.map_append]
      refine List.Sublist.append ?_ ih
      split
      · exact List.Sublist.refl _
      · exact List.nil_sublist _
  | group g children rest inside after =>
      simp only [Node.shownFieldsOf, Node.shownFields, Node.nodesOf, Node.nodes, List.map_append]
      refine List.Sublist.append ?_ after
      split
      · exact inside.cons _
      · exact List.nil_sublist _

theorem shown_field_mem (visible : String → Bool) (nodes : List Node) (f : Field)
    (shown : f ∈ Node.shownFieldsOf visible nodes) : Node.field f ∈ Node.nodesOf nodes :=
  (shown_fields_sublist visible nodes).subset (List.mem_map_of_mem shown)

theorem check_tree_nodup (nodes : List Node) (tree : Store.checkTree nodes = .ok ()) : (Node.idsOf nodes).Nodup :=
  ((Store.check_tree_ok_iff nodes).mp tree).distinct

theorem shown_ids_nodup (visible : String → Bool) (nodes : List Node) (tree : Store.checkTree nodes = .ok ()) :
    ((Node.shownFieldsOf visible nodes).map (·.id)).Nodup := by
  have ids := (shown_fields_sublist visible nodes).map Node.id
  rw [List.map_map] at ids
  exact (check_tree_nodup nodes tree).sublist ids

def ownValue? (values : Keyed Value) (f : Field) : Option Value :=
  (Keyed.value? values f.id).or (f.alias?.bind (Keyed.value? values))

def lent (nodes : List Node) (values : Keyed Value) (f : Field) : Value := (lent? nodes values f.id).getD .null

theorem held_value (nodes : List Node) (values : Keyed Value) (visible : String → Bool) (f : Field)
    (distinct : (Node.idsOf nodes).Nodup) (shown : f ∈ Node.shownFieldsOf visible nodes) :
    heldValue (valueIndex nodes values) f = (ownValue? values f).getD (lent nodes values f) := by
  have here := shown_field_mem visible nodes f shown
  have found : Keyed.value? (valueIndex nodes values) f.id = (ownValue? values f).or (lent? nodes values f.id) :=
    value_index nodes values (.field f) distinct here
  rw [heldValue, lent]
  rw [found]
  cases ownValue? values f <;> rfl

structure AgreeOn (one two : Keyed Value) (f : Field) : Prop where
  id : Keyed.value? one f.id = Keyed.value? two f.id
  name : ∀ name, f.alias? = some name → Keyed.value? one name = Keyed.value? two name

theorem own_value_agrees (one two : Keyed Value) (f : Field) (agree : AgreeOn one two f) :
    ownValue? one f = ownValue? two f := by
  unfold ownValue?
  rw [agree.id]
  cases called : f.alias? with
  | none => rfl
  | some name => rw [Option.bind_some, Option.bind_some, agree.name name called]

def Field.message (f : Field) (v : Value) : Except Breakdown (Option String) :=
  (f.complaint v).map (Option.map Complaint.message)

-- Two values of a field that nobody can tell apart by the outcome.
structure SameOutcome (f : Field) (v w : Value) : Prop where
  message : f.message v = f.message w
  sent : f.kind.displayOnly = false → f.coerce v = f.coerce w

theorem complain_message (index : Keyed Value) (errors : Keyed String) (f : Field) :
    complain index errors f = (f.message (heldValue index f)).map fun
      | some message => Keyed.put errors f.id message
      | none => errors := by
  rw [complain, Field.message]
  cases f.complaint (heldValue index f) with
  | error why => rfl
  | ok wrong => cases wrong <;> rfl

theorem errors_of_same (fields : List Field) (one two : Keyed Value) (errors : Keyed String)
    (same : ∀ f ∈ fields, SameOutcome f (heldValue one f) (heldValue two f)) :
    fields.foldlM (complain one) errors = fields.foldlM (complain two) errors := by
  induction fields generalizing errors with
  | nil => rfl
  | cons f rest ih =>
      have first : complain one errors f = complain two errors f := by
        rw [complain_message, complain_message, (same f List.mem_cons_self).message]
      rw [List.foldlM_cons, List.foldlM_cons, first]
      exact congrArg _ (funext fun found => ih found fun g member => same g (List.mem_cons_of_mem f member))

theorem payload_of_same (fields : List Field) (one two sent : Keyed Value)
    (same : ∀ f ∈ fields, SameOutcome f (heldValue one f) (heldValue two f)) :
    fields.foldl (deliver one) sent = fields.foldl (deliver two) sent := by
  induction fields generalizing sent with
  | nil => rfl
  | cons f rest ih =>
      have first : deliver one sent f = deliver two sent f := by
        unfold deliver
        cases shown : f.kind.displayOnly with
        | true => rfl
        | false => rw [(same f List.mem_cons_self).sent shown]
      rw [List.foldl_cons, List.foldl_cons, first]
      exact ih _ fun g member => same g (List.mem_cons_of_mem f member)

theorem errors_tell (fields : List Field) (index : Keyed Value) (errors out : Keyed String)
    (distinct : (fields.map (·.id)).Nodup) (done : fields.foldlM (complain index) errors = .ok out) :
    (∀ key, key ∉ fields.map (·.id) → Keyed.value? out key = Keyed.value? errors key) ∧
    ∀ f ∈ fields, Keyed.value? errors f.id = none → f.message (heldValue index f) = .ok (Keyed.value? out f.id) := by
  induction fields generalizing errors with
  | nil =>
      cases done
      exact ⟨fun _ _ => rfl, fun f member => absurd member List.not_mem_nil⟩
  | cons f rest ih =>
      rw [List.foldlM_cons, complain_message] at done
      rw [List.map_cons, List.nodup_cons] at distinct
      cases said : f.message (heldValue index f) with
      | error why =>
          rw [said] at done
          cases done
      | ok wrong =>
          rw [said] at done
          obtain ⟨others, told⟩ := ih _ distinct.2 done
          have put (key : String) (other : key ≠ f.id) :
              Keyed.value? (match wrong with
                | some message => Keyed.put errors f.id message
                | none => errors) key = Keyed.value? errors key := by
            cases wrong with
            | none => rfl
            | some message => exact Keyed.value?_put_of_ne errors message (Ne.symm other)
          refine ⟨fun key outside => ?_, fun g member blank => ?_⟩
          · rw [List.map_cons, List.mem_cons, not_or] at outside
            exact (others key outside.2).trans (put key outside.1)
          · rcases List.mem_cons.mp member with rfl | later
            · rw [said, others g.id distinct.1]
              cases wrong with
              | none => exact congrArg Except.ok blank.symm
              | some message => exact congrArg Except.ok (Keyed.value?_put_self errors g.id message).symm
            · have other : g.id ≠ f.id := fun same => distinct.1 (same ▸ List.mem_map_of_mem later)
              exact told g later ((put g.id other).trans blank)

theorem payload_tells (fields : List Field) (index sent : Keyed Value)
    (distinct : ((fields.filter (!·.kind.displayOnly)).map (·.payloadKey)).Nodup) :
    (∀ key, key ∉ (fields.filter (!·.kind.displayOnly)).map (·.payloadKey) →
      Keyed.value? (fields.foldl (deliver index) sent) key = Keyed.value? sent key) ∧
    ∀ f ∈ fields, f.kind.displayOnly = false →
      Keyed.value? (fields.foldl (deliver index) sent) f.payloadKey = some (f.coerce (heldValue index f)) := by
  refine ⟨fun key absent => ?_, fun f here counts => ?_⟩ <;> rw [value_of_deliveries]
  · cases word : lastWord? fields key with
    | none => rfl
    | some last =>
        obtain ⟨rfl, before, after, split, _⟩ := last_word_split fields key last word
        exact absurd (List.mem_map_of_mem (by rw [split]; simp)) absent
  · obtain ⟨last, word⟩ := last_word_exists fields f here counts
    obtain ⟨named, before, after, split, _⟩ := last_word_split fields _ last word
    have among : last ∈ fields.filter (!·.kind.displayOnly) := by rw [split]; simp
    have same : last = f := List.inj_on_of_nodup_map distinct among (List.mem_filter.mpr ⟨here, by simp [counts]⟩) named
    rw [word, same]
    rfl

def LoansAlike (nodes : List Node) (one two : Keyed Value) : Prop :=
  ∀ f ∈ visibleFields nodes (visibilityOf nodes one), ownValue? one f = none →
    SameOutcome f (lent nodes one f) (lent nodes two f)

theorem loans_alike_iff_held (nodes : List Node) (one two : Keyed Value) (tree : Store.checkTree nodes = .ok ())
    (agree : ∀ f ∈ visibleFields nodes (visibilityOf nodes one), AgreeOn one two f) :
    LoansAlike nodes one two ↔ ∀ f ∈ visibleFields nodes (visibilityOf nodes one),
      SameOutcome f (heldValue (valueIndex nodes one) f) (heldValue (valueIndex nodes two) f) := by
  have distinct := check_tree_nodup nodes tree
  refine forall₂_congr fun f shown => ?_
  rw [held_value nodes one _ f distinct shown, held_value nodes two _ f distinct shown,
    ← own_value_agrees one two f (agree f shown)]
  cases ownValue? one f with
  | none => simp
  | some v => simpa using ⟨rfl, fun _ => rfl⟩

theorem outcome_of_loans (nodes : List Node) (one two : Keyed Value) (tree : Store.checkTree nodes = .ok ())
    (visible : visibilityOf nodes one = visibilityOf nodes two)
    (agree : ∀ f ∈ visibleFields nodes (visibilityOf nodes one), AgreeOn one two f) :
    (LoansAlike nodes one two → validate nodes one = validate nodes two ∧ payload nodes one = payload nodes two) ∧
    (∀ errors, validate nodes one = .ok errors →
      (((visibleFields nodes (visibilityOf nodes one)).filter (!·.kind.displayOnly)).map (·.payloadKey)).Nodup →
      validate nodes one = validate nodes two → payload nodes one = payload nodes two → LoansAlike nodes one two) := by
  rw [loans_alike_iff_held nodes one two tree agree]
  have ids := shown_ids_nodup (shows (visibilityOf nodes one)) nodes tree
  simp only [validate, validateShown, payload, payloadShown]
  rw [← visible]
  refine ⟨fun same => ⟨errors_of_same _ _ _ [] same, payload_of_same _ _ _ [] same⟩, ?_⟩
  intro errors done keys sameErrors samePayload f shown
  constructor
  · have first := (errors_tell _ _ _ _ ids done).2 f shown rfl
    have second := (errors_tell _ _ _ _ ids (sameErrors.symm.trans done)).2 f shown rfl
    exact first.trans second.symm
  · intro counts
    have first := (payload_tells _ (valueIndex nodes one) [] keys).2 f shown counts
    have second := (payload_tells _ (valueIndex nodes two) [] keys).2 f shown counts
    rw [samePayload, second] at first
    exact (Option.some.inj first).symm

def namesakeForm : List Node :=
  let inner : Field := { Field.create "x" .text with name := some "v" }
  let hidden : Group := { Group.create "g" with condition := some ⟨"nowhere", .equals, .int 1⟩ }
  [.field { Field.create "v" .text with required := true }, .group hidden [.field inner]]

theorem namesake_leaks :
    Store.checkTree namesakeForm = .ok () ∧
    visibilityOf namesakeForm [("x", .text "secret")] = visibilityOf namesakeForm [] ∧
    (∀ f ∈ visibleFields namesakeForm (visibilityOf namesakeForm [("x", .text "secret")]),
      AgreeOn [("x", .text "secret")] [] f) ∧
    validate namesakeForm [("x", .text "secret")] = .ok [] ∧
    validate namesakeForm [] = .ok [("v", "Text is required")] ∧
    payload namesakeForm [("x", .text "secret")] = [("v", .text "secret")] ∧
    payload namesakeForm [] = [("v", .null)] := by
  refine ⟨rfl, by decide +kernel, fun f shown => ?_, rfl, rfl, by decide +kernel, by decide +kernel⟩
  have only : visibleFields namesakeForm (visibilityOf namesakeForm [("x", .text "secret")])
      = [{ Field.create "v" .text with required := true }] := by decide +kernel
  rw [only, List.mem_singleton] at shown
  subst shown
  exact ⟨rfl, fun name called => nomatch called⟩

theorem namesake_with_own_value :
    validate namesakeForm [("v", .text "mine"), ("x", .text "secret")] = validate namesakeForm [("v", .text "mine")] ∧
    payload namesakeForm [("v", .text "mine"), ("x", .text "secret")] = payload namesakeForm [("v", .text "mine")] := by
  have only : visibleFields namesakeForm (visibilityOf namesakeForm [("v", .text "mine"), ("x", .text "secret")])
      = [{ Field.create "v" .text with required := true }] := by decide +kernel
  have agree : ∀ f ∈ visibleFields namesakeForm
      (visibilityOf namesakeForm [("v", .text "mine"), ("x", .text "secret")]),
      AgreeOn [("v", .text "mine"), ("x", .text "secret")] [("v", .text "mine")] f := by
    intro f shown
    rw [only, List.mem_singleton] at shown
    subst shown
    exact ⟨rfl, fun name called => nomatch called⟩
  have same := outcome_of_loans namesakeForm [("v", .text "mine"), ("x", .text "secret")] [("v", .text "mine")] rfl
    (by decide +kernel) agree
  apply same.1
  intro f shown nothing
  rw [only, List.mem_singleton] at shown
  subst shown
  cases nothing

end FormEngine
