import FormEngine.Proofs.Page.Occurrences
import FormEngine.Proofs.Page.Picking

set_option autoImplicit false

namespace FormEngine

open Seen (hasName isControl isFor hasId controlName)

namespace Markup

structure Quiet (id : String) (l : List Markup) : Prop where
  labels : picked isFor l = []
  ids : picked (hasId id) l = []
  controls : picked isControl l = []

structure ControlFor (kind : FieldKind) (id : String) (m : Markup) (e : Seen) : Prop where
  name : e.name = controlName kind
  labels : picked isFor [m] = []
  ids : picked (hasId id) [m] = [e]
  controls : picked isControl [m] = e :: (if kind = .radio then e.tagged "input" else [])

theorem not_for (tag : Tag) (attributes : List Attribute) (children : List Markup)
    (absent : Attribute.lacks .labelFor attributes = true) : isFor (self tag attributes children) = false := by
  have nothing : (self tag attributes children).attribute? "for" = none := attribute_absent tag .labelFor _ _ absent
  rw [isFor, nothing]
  rfl

theorem has_no_id (tag : Tag) (attributes : List Attribute) (children : List Markup) (id : String)
    (absent : Attribute.lacks .id attributes = true) : hasId id (self tag attributes children) = false := by
  have nothing : (self tag attributes children).attribute? "id" = none := attribute_absent tag .id _ _ absent
  rw [hasId, nothing]
  rfl

theorem has_id_iff (e : Seen) (id own : String) (found : e.attribute? "id" = some (escaped own)) :
    hasId id e = true ↔ own = id := by
  rw [hasId, found, beq_iff_eq, Option.some.injEq, escaped, escaped, String.ofList_inj]
  exact ⟨escape_injective, congrArg escape⟩

theorem longer_id (id more : String) (some : more ≠ "") : id ++ more ≠ id := by
  intro same
  have letters := congrArg String.toList same
  exact some (by simpa using letters)

namespace Quiet

variable {id : String}

theorem nil : Quiet id [] := ⟨rfl, rfl, rfl⟩

theorem text (s : String) : Quiet id [.text s] := ⟨picked_text _ s, picked_text _ s, picked_text _ s⟩

theorem all (l : List Markup) (each : ∀ m ∈ l, Quiet id [m]) : Quiet id l :=
  ⟨picked_none _ l fun m here => (each m here).labels, picked_none _ l fun m here => (each m here).ids,
    picked_none _ l fun m here => (each m here).controls⟩

theorem element (tag : Tag) (attributes : List Attribute) (children : List Markup)
    (noFor : Attribute.lacks .labelFor attributes = true) (unknown : hasId id (self tag attributes children) = false)
    (other : isControl (self tag attributes children) = false) (inside : Quiet id children) :
    Quiet id [.element tag attributes children] := by
  refine ⟨?_, ?_, ?_⟩
  · rw [picked_element, not_for _ _ _ noFor, inside.labels]
    rfl
  · rw [picked_element, unknown, inside.ids]
    rfl
  · rw [picked_element, other, inside.controls]
    rfl

end Quiet

theorem control_for (kind : FieldKind) (id : String) (tag : Tag) (attributes : List Attribute) (children : List Markup)
    (noFor : Attribute.lacks .labelFor attributes = true) (quiet : Quiet id children) (alone : kind ≠ .radio)
    (named : tag.name = controlName kind) :
    ControlFor kind id (.element tag (.value .id id :: attributes) children)
      (self tag (.value .id id :: attributes) children) := by
  have notFor : isFor (self tag (.value .id id :: attributes) children) = false :=
    not_for tag _ _ (by simp [Attribute.name, noFor])
  have known : hasId id (self tag (.value .id id :: attributes) children) = true :=
    (has_id_iff _ id id (attribute_first tag .id children id attributes)).mpr rfl
  have control : isControl (self tag (.value .id id :: attributes) children) = true := by
    have listed : ["input", "textarea", "select"].contains (controlName kind) = true := by
      cases kind <;> first | exact absurd rfl alone | rfl
    rw [isControl, self, Seen.name, named, listed]
    rfl
  refine ⟨named, ?_, ?_, ?_⟩
  · rw [picked_element, notFor, quiet.labels]
    rfl
  · rw [picked_element, known, quiet.ids]
    rfl
  · rw [picked_element, control, quiet.controls, if_neg alone]
    rfl

theorem control_for_void (kind : FieldKind) (id : String) (tag : Tag) (attributes : List Attribute)
    (noFor : Attribute.lacks .labelFor attributes = true) (alone : kind ≠ .radio) (named : tag.name = controlName kind) :
    ControlFor kind id (.void tag (.value .id id :: attributes)) (self tag (.value .id id :: attributes) []) := by
  obtain ⟨name, labels, ids, controls⟩ := control_for kind id tag attributes [] noFor .nil alone named
  exact ⟨name, labels, ids, controls⟩

end Markup

open Markup

namespace Field

theorem textarea_for (f : Field) (v : Value) (kind : f.kind = .textarea) :
    ∃ e, ControlFor f.kind f.id (f.textareaControl v) e := by
  let rest := [Attribute.value .controlName f.id] ++ f.hint ++ f.mandatory
  refine ⟨_, control_for f.kind f.id .textarea rest [.text v.asText] ?_ (.text _) ?_ ?_⟩
  · simp [rest, Attribute.name, hint, mandatory]
  · simp [kind]
  · rw [kind]
    rfl

theorem box_for (f : Field) (v : Value) (kind : f.kind = .checkbox ∨ f.kind = .switch) :
    ∃ e, ControlFor f.kind f.id (f.boxControl v) e := by
  let role := if f.kind = .switch then [Attribute.value .role "switch"] else []
  let rest := [Attribute.value .controlName f.id, .value .type "checkbox"] ++ role ++ Attribute.flagIf .checked v.toBool
    ++ f.mandatory
  have noRole : Attribute.lacks .labelFor role = true := by
    dsimp only [role]
    split <;> rfl
  refine ⟨_, control_for_void f.kind f.id .input rest ?_ ?_ ?_⟩
  · simp [rest, Attribute.name, noRole, mandatory]
  · rcases kind with kind | kind <;> simp [kind]
  · rcases kind with kind | kind <;> rw [kind] <;> rfl

theorem select_for (f : Field) (v : Value) (kind : f.kind = .select) :
    ∃ e, ControlFor f.kind f.id (f.selectControl v) e := by
  have choice (c : Choice) : Quiet f.id [selectChoice v c] := by
    apply Quiet.element
    · simp [Attribute.name]
    · apply has_no_id
      simp [Attribute.name]
    · rfl
    · exact .text _
  let rest := Attribute.value .controlName f.id :: f.mandatory
  refine ⟨_, control_for f.kind f.id .select rest _ ?_ ?_ ?_ ?_⟩
  · simp [rest, Attribute.name, mandatory]
  · apply Quiet.all
    rw [List.forall_mem_cons, List.forall_mem_map]
    exact ⟨⟨rfl, rfl, rfl⟩, fun c _ => choice c⟩
  · simp [kind]
  · rw [kind]
    rfl

theorem range_for (f : Field) (v : Value) (kind : f.kind = .range) :
    ∃ e, ControlFor f.kind f.id (f.rangeControl v) e := by
  let scale := (f.scale.map scaleAttributes).getD []
  let rest := [Attribute.value .controlName f.id, .value .type "range", .value .value v.asText] ++ scale
  have noScale : Attribute.lacks .labelFor scale = true := by
    dsimp only [scale]
    cases f.scale with
    | none => rfl
    | some scale =>
        rw [Option.map_some, Option.getD_some, scaleAttributes]
        split <;> rfl
  refine ⟨_, control_for_void f.kind f.id .input rest ?_ ?_ ?_⟩
  · simp [rest, Attribute.name, noScale]
  · simp [kind]
  · rw [kind]
    rfl

theorem input_for (f : Field) (v : Value) (alone : f.kind ≠ .radio) (named : controlName f.kind = "input") :
    ∃ e, ControlFor f.kind f.id (f.inputControl v) e := by
  let rest := [Attribute.value .controlName f.id, .value .type (inputType f.kind), .value .value v.asText] ++ f.hint
    ++ f.inputDetails ++ f.mandatory
  have noDetails : Attribute.lacks .labelFor f.inputDetails = true := by
    unfold inputDetails
    split
    · simp
    · split <;> rfl
    · rfl
  refine ⟨_, control_for_void f.kind f.id .input rest ?_ alone named.symm⟩
  simp [rest, Attribute.name, noDetails, hint, mandatory]

def buttonAttributes (f : Field) (v : Value) (index : Nat) (c : Choice) : List Attribute :=
  [.value .id (f.id ++ "-" ++ toString index), .value .controlName f.id, .value .type "radio", .value .value c.value]
    ++ Attribute.flagIf .checked (v.asText == c.value)

theorem picked_choice (p : Seen → Bool) (f : Field) (v : Value) (index : Nat) (c : Choice)
    (other : ∀ children, p (self .label [] children) = false) :
    picked p [f.radioChoice v index c]
      = if p (self .input (f.buttonAttributes v index c) []) then [self .input (f.buttonAttributes v index c) []]
        else [] := by
  have parts : f.radioChoice v index c
      = .element .label [] [.void .input (f.buttonAttributes v index c), .text (" " ++ c.label)] := rfl
  rw [parts, picked_element, other, picked_cons, picked_void, picked_text, List.append_nil]
  rfl

theorem choice_not_for (f : Field) (v : Value) (index : Nat) (c : Choice) :
    picked isFor [f.radioChoice v index c] = [] := by
  have button : Attribute.lacks .labelFor (f.buttonAttributes v index c) = true := by
    simp [buttonAttributes, Attribute.name]
  rw [picked_choice isFor f v index c fun _ => rfl, not_for _ _ _ button]
  rfl

theorem choice_other_id (f : Field) (v : Value) (index : Nat) (c : Choice) :
    picked (hasId f.id) [f.radioChoice v index c] = [] := by
  have button : hasId f.id (self .input (f.buttonAttributes v index c) []) = false := by
    have given := attribute_first .input .id [] (f.id ++ "-" ++ toString index) (f.buttonAttributes v index c).tail
    have longer : f.id ++ "-" ++ toString index ≠ f.id := by
      rw [String.append_assoc]
      exact longer_id f.id _ (by simp)
    rw [← Bool.not_eq_true]
    exact fun same => longer ((has_id_iff _ _ _ given).mp same)
  rw [picked_choice (hasId f.id) f v index c fun _ => rfl, button]
  rfl

theorem choice_button (f : Field) (v : Value) (index : Nat) (c : Choice) :
    picked isControl [f.radioChoice v index c] = picked (hasName "input") [f.radioChoice v index c] := by
  rw [picked_choice isControl f v index c fun _ => rfl, picked_choice (hasName "input") f v index c fun _ => rfl]
  rfl

theorem radio_for (f : Field) (v : Value) (kind : f.kind = .radio) :
    ∃ e, ControlFor f.kind f.id (f.radioControl v) e := by
  let choices := (f.choices.getD []).mapIdx (f.radioChoice v)
  have each {property : Markup → Prop} (holds : ∀ index c, property (f.radioChoice v index c)) :
      ∀ m ∈ choices, property m := by
    intro m listed
    obtain ⟨index, _, rfl⟩ := List.mem_mapIdx.mp listed
    exact holds index _
  let root := self .div [.value .classes "radio-group", .value .id f.id] choices
  have id : root.attribute? "id" = some (escaped f.id) := by
    have later := attribute_later .div .id choices (.value .classes "radio-group") [.value .id f.id] (by decide)
    exact later.trans (attribute_first .div .id choices f.id [])
  have known : hasId f.id root = true := (has_id_iff root f.id f.id id).mpr rfl
  have control : isControl root = true := by
    have classes : root.classes = (escape "radio-group").splitOn ' ' := classes_seen .div _ _ _
    have group : root.classes.contains "radio-group".toList = true := by
      rw [classes]
      decide
    rw [isControl, group]
    rfl
  have notFor : isFor root = false := not_for .div _ _ (by simp [Attribute.name])
  refine ⟨root, ?_, ?_, ?_, ?_⟩
  · rw [kind]
    rfl
  · rw [radioControl, picked_element, notFor, picked_none _ _ (each (f.choice_not_for v))]
    rfl
  · rw [radioControl, picked_element, known, picked_none _ _ (each (f.choice_other_id v))]
    rfl
  · have buttons : root.tagged "input" = picked (hasName "input") choices := by
      rw [Seen.tagged, picked_self, picked_element]
      rfl
    rw [radioControl, picked_element, control, if_pos kind, buttons, picked_congr _ _ _ (each (f.choice_button v))]
    rfl

theorem control_for_kind (f : Field) (v : Value) : ∃ e, ControlFor f.kind f.id (f.control v) e := by
  unfold control
  split
  · exact f.textarea_for v ‹_›
  · exact f.box_for v (.inl ‹_›)
  · exact f.box_for v (.inr ‹_›)
  · exact f.radio_for v ‹_›
  · exact f.select_for v ‹_›
  · exact f.range_for v ‹_›
  · rename_i noTextarea _ _ noRadio noSelect _
    apply f.input_for v noRadio
    cases kind : f.kind with
    | textarea => exact absurd kind noTextarea
    | radio => exact absurd kind noRadio
    | select => exact absurd kind noSelect
    | _ => rfl

end Field

theorem div_no_control (c : String) (attributes : List Attribute) (children : List Markup)
    (other : "radio-group".toList ∉ (escape c).splitOn ' ') :
    isControl (self .div (.value .classes c :: attributes) children) = false := by
  have classes : (self .div (.value .classes c :: attributes) children).classes = (escape c).splitOn ' ' :=
    classes_seen .div _ _ _
  have outside : ((escape c).splitOn ' ').contains "radio-group".toList = false := by simpa using other
  rw [isControl, classes, outside]
  rfl

namespace Session

variable (s : Session)

theorem error_quiet (id : String) : Quiet id (s.errorView id) := by
  unfold errorView
  split
  · rename_i message _
    have given : (self .p [.value .classes "error", .value .id (id ++ "-error")] [.text message]).attribute? "id"
        = some (escaped (id ++ "-error")) := by
      have later := attribute_later .p .id [.text message] (.value .classes "error") [.value .id (id ++ "-error")]
        (by decide)
      exact later.trans (attribute_first .p .id _ _ [])
    apply Quiet.element
    · simp [Attribute.name]
    · rw [← Bool.not_eq_true]
      exact fun same => longer_id id "-error" (by decide) ((has_id_iff _ _ _ given).mp same)
    · rfl
    · exact .text _
  · exact .nil

theorem input_asks (f : Field) : ∃ e, (s.inputView f).seen = [e] ∧ e.Asks f.kind f.id := by
  obtain ⟨control, fits⟩ := f.control_for_kind (s.shownValue f.toBasics)
  have quiet := s.error_quiet f.id
  let label := self .label [.value .labelFor f.id] [.text f.label]
  let parts := .element .label [.value .labelFor f.id] [.text f.label] :: f.control (s.shownValue f.toBasics)
    :: s.errorView f.id
  let view := self .div [.value .classes "field"] parts
  have elements (p : Seen → Bool) (outside : p view = false) : view.elements.filter p
      = (if p label then [label] else [])
        ++ (picked p [f.control (s.shownValue f.toBasics)] ++ picked p (s.errorView f.id)) := by
    rw [picked_self, picked_element, outside, picked_cons, picked_element, picked_text, List.append_nil, picked_cons]
    rfl
  have given : label.attribute? "for" = some (escaped f.id) := attribute_first .label .labelFor _ _ []
  refine ⟨view, rfl, rfl, ⟨label, ?_, rfl, given⟩, control, ?_, fits.name, ?_⟩
  · have here : isFor label = true := by
      rw [isFor, given]
      rfl
    rw [elements isFor rfl, here, fits.labels, quiet.labels]
    rfl
  · rw [elements (hasId f.id) rfl, fits.ids, quiet.ids]
    rfl
  · rw [elements isControl (div_no_control "field" [] parts (by decide)), fits.controls, quiet.controls, List.append_nil]
    rfl

end Session

end FormEngine
