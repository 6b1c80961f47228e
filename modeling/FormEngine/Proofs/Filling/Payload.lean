import FormEngine.Builder.Store
import FormEngine.Filling.Submission

set_option autoImplicit false

namespace FormEngine

-- The field that has the last word on a key: of those sent under it the last one.
def lastWord? (fields : List Field) (key : String) : Option Field :=
  (fields.filter fun f => !f.kind.displayOnly && f.payloadKey == key).getLast?

theorem last_word_cons (f : Field) (rest : List Field) (key : String) :
    lastWord? (f :: rest) key
      = (lastWord? rest key).or (if f.kind.displayOnly = false ∧ f.payloadKey = key then some f else none) := by
  rw [lastWord?, lastWord?, List.filter_cons]
  by_cases own : f.kind.displayOnly = false ∧ f.payloadKey = key
  · simp only [own.1, own.2, Bool.not_false, beq_self_eq_true, Bool.and_self, if_true, and_self, List.getLast?_cons]
    cases (rest.filter fun f => !f.kind.displayOnly && f.payloadKey == key).getLast? <;> rfl
  · have other : (!f.kind.displayOnly && f.payloadKey == key) = false := by simpa using own
    simp only [other, Bool.false_eq_true, if_false, if_neg own, Option.or_none]

theorem value_of_deliveries (fields : List Field) (index sent : Keyed Value) (key : String) :
    Keyed.value? (fields.foldl (deliver index) sent) key
      = ((lastWord? fields key).map fun f => f.coerce (heldValue index f)).or (Keyed.value? sent key) := by
  induction fields generalizing sent with
  | nil => rfl
  | cons f rest ih =>
      rw [List.foldl_cons, ih, last_word_cons]
      cases lastWord? rest key with
      | some last => rfl
      | none =>
          rw [deliver]
          cases shown : f.kind.displayOnly with
          | true => simp
          | false =>
              by_cases same : f.payloadKey = key
              · simp [same]
              · simp [Keyed.value?_put, same]

theorem last_word_exists (fields : List Field) (f : Field) (here : f ∈ fields) (counts : f.kind.displayOnly = false) :
    ∃ last, lastWord? fields f.payloadKey = some last := by
  induction fields with
  | nil => cases here
  | cons first rest ih =>
      rw [last_word_cons]
      rcases List.mem_cons.mp here with rfl | later
      · rw [if_pos ⟨counts, rfl⟩]
        cases lastWord? rest f.payloadKey with
        | none => exact ⟨f, rfl⟩
        | some last => exact ⟨last, rfl⟩
      · obtain ⟨last, found⟩ := ih later
        exact ⟨last, by rw [found]; rfl⟩

theorem last_word_split (fields : List Field) (key : String) (last : Field) (found : lastWord? fields key = some last) :
    last.payloadKey = key ∧ ∃ before after, fields.filter (!·.kind.displayOnly) = before ++ last :: after ∧
      ∀ g ∈ after, g.payloadKey ≠ key := by
  induction fields with
  | nil => cases found
  | cons f rest ih =>
      rw [last_word_cons] at found
      cases later : lastWord? rest key with
      | some g =>
          rw [later, Option.some_or] at found
          cases found
          obtain ⟨named, before, after, split, alone⟩ := ih later
          refine ⟨named, ?_⟩
          cases shown : f.kind.displayOnly with
          | true => exact ⟨before, after, by simp [shown, split], alone⟩
          | false => exact ⟨f :: before, after, by simp [shown, split], alone⟩
      | none =>
          rw [later, Option.none_or] at found
          split at found
          · rename_i own
            cases found
            refine ⟨own.2, [], rest.filter (!·.kind.displayOnly), by simp [own.1], fun g here same => ?_⟩
            obtain ⟨inside, counts⟩ := List.mem_filter.mp here
            obtain ⟨last, word⟩ := last_word_exists rest g inside (by simpa using counts)
            rw [same, later] at word
            cases word
          · cases found

theorem complaints_none (fields : List Field) (index : Keyed Value) (errors : Keyed String)
    (done : fields.foldlM (complain index) errors = .ok []) :
    errors = [] ∧ ∀ f ∈ fields, f.complaint (heldValue index f) = .ok none := by
  induction fields generalizing errors with
  | nil =>
      cases done
      exact ⟨rfl, fun f here => absurd here List.not_mem_nil⟩
  | cons f rest ih =>
      rw [List.foldlM_cons, complain] at done
      cases said : f.complaint (heldValue index f) with
      | error why =>
          rw [said] at done
          cases done
      | ok wrong =>
          rw [said] at done
          cases wrong with
          | none =>
              obtain ⟨blank, others⟩ := ih errors done
              refine ⟨blank, fun g here => ?_⟩
              rcases List.mem_cons.mp here with rfl | later
              · exact said
              · exact others g later
          | some wrong => exact absurd (ih _ done).1 (Keyed.put_ne_nil errors f.id wrong.message)

theorem coerce_not_null (f : Field) (v : Value) (counts : f.kind.displayOnly = false) (present : f.isMissing v = false)
    (accepted : f.complaint v = .ok none) : f.coerce v ≠ .null := by
  rw [Field.complaint, if_neg (by simp [counts]), if_neg (by simp [present])] at accepted
  rw [Field.coerce]
  cases boolean : f.kind.isBoolean with
  | true => simp
  | false =>
      have filled : v.isEmpty = false := by simpa [Field.isMissing, boolean] using present
      cases numeric : f.kind.isNumeric with
      | false =>
          rintro rfl
          cases filled
      | true =>
          have number : f.numberComplaint v = none := by
            cases wrong : f.kindComplaint v with
            | some complaint => simp [boolean, wrong] at accepted
            | none =>
                rw [← wrong, Field.kindComplaint]
                cases kind : f.kind <;> simp [kind, FieldKind.isNumeric] at numeric ⊢
          cases read : v.toNumber with
          | none => simp [Field.numberComplaint, read] at number
          | some x =>
              simp only [filled, Bool.false_eq_true, if_false, if_true, Value.ofNumber]
              cases x.toInt? <;> simp

theorem required_present (f : Field) (v : Value) (counts : f.kind.displayOnly = false) (required : f.required = true)
    (accepted : f.complaint v = .ok none) : f.isMissing v = false := by
  rw [Field.complaint, if_neg (by simp [counts])] at accepted
  cases missing : f.isMissing v with
  | false => rfl
  | true => simp [missing, required] at accepted

def sentFields (nodes : List Node) (values : Keyed Value) : List Field :=
  (visibleFields nodes (visibilityOf nodes values)).filter (!·.kind.displayOnly)

def sentValue (nodes : List Node) (values : Keyed Value) (f : Field) : Value :=
  f.coerce (heldValue (valueIndex nodes values) f)

theorem submit_accepted_outcome (form : Form) (values sent : Keyed Value)
    (accepted : submit form values = .ok (.accepted sent)) :
    validate form.nodes values = .ok [] ∧ sent = payload form.nodes values := by
  rw [submit] at accepted
  cases checked : validate form.nodes values with
  | error why =>
      rw [checked] at accepted
      cases accepted
  | ok errors =>
      rw [checked] at accepted
      cases errors with
      | nil =>
          cases accepted
          exact ⟨rfl, rfl⟩
      | cons entry rest => cases accepted

theorem last_word_carried (form : Form) (values sent : Keyed Value)
    (accepted : submit form values = .ok (.accepted sent)) (f : Field) (here : f ∈ sentFields form.nodes values) :
    (∃ before last after, sentFields form.nodes values = before ++ last :: after ∧ last.payloadKey = f.payloadKey ∧
      (∀ g ∈ after, g.payloadKey ≠ f.payloadKey) ∧
      Keyed.value? sent f.payloadKey = some (sentValue form.nodes values last) ∧
      (Keyed.value? sent f.payloadKey = some (sentValue form.nodes values f) ↔
        sentValue form.nodes values last = sentValue form.nodes values f)) ∧
    (f.required = true →
      f.isMissing (heldValue (valueIndex form.nodes values) f) = false ∧ sentValue form.nodes values f ≠ .null) := by
  obtain ⟨checked, rfl⟩ := submit_accepted_outcome form values sent accepted
  obtain ⟨shown, counts⟩ := List.mem_filter.mp here
  rw [Bool.not_eq_true'] at counts
  constructor
  · obtain ⟨last, word⟩ := last_word_exists _ f shown counts
    obtain ⟨named, before, after, split, alone⟩ := last_word_split _ _ last word
    have value : Keyed.value? (payload form.nodes values) f.payloadKey = some (sentValue form.nodes values last) := by
      rw [payload, payloadShown, value_of_deliveries, word]
      rfl
    exact ⟨before, last, after, split, named, alone, value, by rw [value, Option.some.injEq]⟩
  · intro required
    have passed := (complaints_none _ _ _ checked).2 f shown
    have present := required_present f _ counts required passed
    exact ⟨present, coerce_not_null f _ counts present passed⟩

def twins : Form :=
  ⟨"Twins",
    [.field { Field.create "a" .text with name := some "n", required := true },
      .field { Field.create "b" .number with name := some "n" }]⟩

theorem twin_overwritten :
    Store.checkTree twins.nodes = .ok () ∧
    ∃ f ∈ sentFields twins.nodes [("a", .text "Ann")], f.required = true ∧ f.payloadKey = "n" ∧
      sentValue twins.nodes [("a", .text "Ann")] f = .text "Ann" ∧
      submit twins [("a", .text "Ann")] = .ok (.accepted [("n", .null)]) := by
  refine ⟨rfl, { Field.create "a" .text with name := some "n", required := true }, ?_, rfl, by decide +kernel, ?_, ?_⟩
  · decide +kernel
  · decide +kernel
  · rfl

def hiddenTwin : Form :=
  let hidden : Group := { Group.create "g" with condition := some ⟨"nowhere", .equals, .int 1⟩ }
  ⟨"Hidden twin",
    [.field { Field.create "a" .text with name := some "n", required := true },
      .group hidden [.field { Field.create "b" .number with name := some "n" }], .field (Field.create "c" .switch)]⟩

def twinValues : Keyed Value := [("a", .text "Ann"), ("b", .int 7), ("c", .text "on")]

theorem hidden_twin_harmless :
    ∃ sent, submit hiddenTwin twinValues = .ok (.accepted sent) ∧ Keyed.value? sent "n" = some (.text "Ann") := by
  let f : Field := { Field.create "a" .text with name := some "n", required := true }
  have accepted : submit hiddenTwin twinValues = .ok (.accepted [("n", .text "Ann"), ("c", .bool true)]) := rfl
  have shown : sentFields hiddenTwin.nodes twinValues = [f, Field.create "c" .switch] := by decide +kernel
  have here : f ∈ sentFields hiddenTwin.nodes twinValues := by rw [shown]; exact List.mem_cons_self
  obtain ⟨⟨before, last, after, split, named, _, value, _⟩, _⟩ :=
    last_word_carried hiddenTwin twinValues _ accepted f here
  have among : last ∈ [f, Field.create "c" .switch] := by
    rw [← shown, split]
    simp
  rcases List.mem_cons.mp among with rfl | other
  · exact ⟨_, accepted, value⟩
  · rw [List.mem_singleton.mp other] at named
    exact absurd named (by decide)

end FormEngine
