import FormEngine.Page.Looks
import FormEngine.Proofs.Page.Reading
import FormEngine.Proofs.Page.ShownValue

set_option autoImplicit false

namespace FormEngine

open Markup (bare bareAll)

namespace Markup

theorem bare_all_map (l : List Markup) : bareAll l = l.map bare := by
  induction l with
  | nil => rfl
  | cons m rest ih => rw [bareAll, ih, List.map_cons]

theorem bare_all_append (a b : List Markup) : bareAll (a ++ b) = bareAll a ++ bareAll b := by
  rw [bare_all_map, bare_all_map, bare_all_map, List.map_append]

theorem bare_element (tag : Tag) (attributes : List Attribute) (children : List Markup) :
    (element tag attributes children).bare = .element tag (attributes.map Attribute.bare) (bareAll children) := rfl

theorem bare_void (tag : Tag) (attributes : List Attribute) :
    (void tag attributes).bare = .void tag (attributes.map Attribute.bare) := rfl

theorem bare_all_marked {α β μ : Type} (view : α → Markup) (other : β → Markup) (mark : α → μ) (otherMark : β → μ)
    (same : ∀ a b, mark a = otherMark b → (view a).bare = (other b).bare) (l : List α) (m : List β)
    (marks : l.map mark = m.map otherMark) : bareAll (l.map view) = bareAll (m.map other) := by
  induction l generalizing m with
  | nil =>
      cases m with
      | nil => rfl
      | cons b rest => cases marks
  | cons a rest ih =>
      cases m with
      | nil => cases marks
      | cons b others =>
          rw [List.map_cons, List.map_cons, List.cons.injEq] at marks
          rw [List.map_cons, List.map_cons, bareAll, bareAll, same a b marks.1, ih others marks.2]

theorem bare_all_counted {α β : Type} (view : α → Markup) (other : β → Markup)
    (same : ∀ a b, (view a).bare = (other b).bare) (l : List α) (m : List β) (counts : l.length = m.length) :
    bareAll (l.map view) = bareAll (m.map other) := by
  have marks : l.map (fun _ => ()) = m.map (fun _ => ()) := by rw [List.map_const', List.map_const', counts]
  exact bare_all_marked view other _ _ (fun a b _ => same a b) l m marks

theorem bare_all_indexed {α : Type} (view : Nat → α → Markup) (plain : α → Markup)
    (same : ∀ i a, (view i a).bare = (plain a).bare) (l : List α) :
    bareAll (l.mapIdx view) = bareAll (l.map plain) := by
  induction l generalizing view with
  | nil => rfl
  | cons a rest ih =>
      rw [List.mapIdx_cons, List.map_cons, bareAll, bareAll, same, ih]
      intro i b
      exact same (i + 1) b

end Markup

theorem Attribute.bare_given (name : AttributeName) (text : Option String) :
    (given name text).map bare = if isWritten text then [.value name ""] else [] := by
  unfold given isWritten
  cases text.filter (· != "") <;> rfl

theorem Attribute.bare_flag_if (name : AttributeName) (applies : Bool) :
    (flagIf name applies).map bare = flagIf name applies := by
  cases applies <;> rfl

namespace Field

theorem look_kind (f : Field) (v : Value) (wrong : Bool) (table : TableLook) : (f.look v wrong table).kind = f.kind := by
  unfold look
  split <;> rfl

theorem bare_hint (f g : Field) (same : isWritten f.placeholder = isWritten g.placeholder) :
    f.hint.map Attribute.bare = g.hint.map Attribute.bare := by
  rw [hint, hint, Attribute.bare_given, Attribute.bare_given, same]

theorem bare_radio_choice (f g : Field) (v w : Value) (i j : Nat) (c d : Choice)
    (same : (v.asText == c.value) = (w.asText == d.value)) :
    (f.radioChoice v i c).bare = (g.radioChoice w j d).bare := by
  simp only [radioChoice, Markup.bare_element, Markup.bare_void, bareAll, same, List.map_append,
    Attribute.bare_flag_if]
  rfl

theorem bare_radio_control (f g : Field) (v w : Value) (same : f.marks v = g.marks w) :
    (f.radioControl v).bare = (g.radioControl w).bare := by
  have choices : bareAll ((f.choices.getD []).mapIdx (f.radioChoice v))
      = bareAll ((g.choices.getD []).mapIdx (g.radioChoice w)) := by
    rw [Markup.bare_all_indexed _ (f.radioChoice v 0) fun i c => bare_radio_choice f f v v i 0 c c rfl,
      Markup.bare_all_indexed _ (g.radioChoice w 0) fun i c => bare_radio_choice g g w w i 0 c c rfl]
    exact Markup.bare_all_marked _ _ _ _ (bare_radio_choice f g v w 0 0) _ _ same
  rw [radioControl, radioControl, Markup.bare_element, Markup.bare_element, choices]
  rfl

theorem bare_select_choice (v w : Value) (c d : Choice) (same : (v.asText == c.value) = (w.asText == d.value)) :
    (selectChoice v c).bare = (selectChoice w d).bare := by
  rw [selectChoice, selectChoice, Markup.bare_element, Markup.bare_element, List.map_cons, List.map_cons,
    Attribute.bare_flag_if, Attribute.bare_flag_if, same]
  rfl

theorem bare_select_control (f g : Field) (v w : Value) (required : f.required = g.required)
    (same : f.marks v = g.marks w) : (f.selectControl v).bare = (g.selectControl w).bare := by
  have choices : bareAll ((f.choices.getD []).map (selectChoice v))
      = bareAll ((g.choices.getD []).map (selectChoice w)) :=
    Markup.bare_all_marked _ _ _ _ (bare_select_choice v w) _ _ same
  rw [selectControl, selectControl, mandatory, mandatory, required, Markup.bare_element, Markup.bare_element, bareAll,
    bareAll, choices, List.map_append, List.map_append]
  rfl

theorem bare_scale (scale other : Option Scale) (same : scale.map (·.step.isSome) = other.map (·.step.isSome)) :
    ((scale.map scaleAttributes).getD []).map Attribute.bare = ((other.map scaleAttributes).getD []).map Attribute.bare := by
  cases scale with
  | none =>
      cases other with
      | none => rfl
      | some t => cases same
  | some s =>
      cases other with
      | none => cases same
      | some t =>
          have steps : s.step.isSome = t.step.isSome := Option.some.inj same
          cases step : s.step with
          | none => cases stepToo : t.step <;> simp_all [scaleAttributes, Attribute.bare]
          | some x => cases stepToo : t.step <;> simp_all [scaleAttributes, Attribute.bare]

theorem bare_range_control (f g : Field) (v w : Value)
    (same : f.scale.map (·.step.isSome) = g.scale.map (·.step.isSome)) :
    (f.rangeControl v).bare = (g.rangeControl w).bare := by
  rw [rangeControl, rangeControl, Markup.bare_void, Markup.bare_void, List.map_append, List.map_append, bare_scale _ _ same]
  rfl

theorem bare_textarea_control (f g : Field) (v w : Value) (required : f.required = g.required)
    (hinted : isWritten f.placeholder = isWritten g.placeholder) :
    (f.textareaControl v).bare = (g.textareaControl w).bare := by
  rw [textareaControl, textareaControl, mandatory, mandatory, required, Markup.bare_element, Markup.bare_element]
  simp only [List.map_append, bare_hint f g hinted]
  rfl

theorem bare_box_control (f g : Field) (v w : Value) (kind : f.kind = g.kind) (required : f.required = g.required)
    (checked : v.toBool = w.toBool) : (f.boxControl v).bare = (g.boxControl w).bare := by
  rw [boxControl, boxControl, mandatory, mandatory, required, kind, checked, Markup.bare_void, Markup.bare_void]
  simp only [List.map_append]
  rfl

theorem bare_input_control (f g : Field) (v w : Value) (required : f.required = g.required)
    (hinted : isWritten f.placeholder = isWritten g.placeholder)
    (details : f.inputDetails.map Attribute.bare = g.inputDetails.map Attribute.bare) :
    (f.inputControl v).bare = (g.inputControl w).bare := by
  rw [inputControl, inputControl, mandatory, mandatory, required, Markup.bare_void, Markup.bare_void]
  simp only [List.map_append, bare_hint f g hinted, details]
  rfl

theorem control_alike (f g : Field) (v w : Value) (wrong wrongToo : Bool) (table other : TableLook)
    (same : f.look v wrong table = g.look w wrongToo other) (input : f.IsInput) :
    (f.control v).bare = (g.control w).bare ∧ wrong = wrongToo := by
  have kinds : f.kind = g.kind := by
    rw [← look_kind f v wrong table, same, look_kind]
  rw [look, look, ← kinds] at same
  rw [control, control, ← kinds]
  cases kind : f.kind with
  | heading | divider =>
      have displayed := input.2
      rw [kind] at displayed
      cases displayed
  | table => exact absurd kind input.1
  | textarea =>
      simp only [kind, FieldLook.mk.injEq, true_and, and_true] at same
      obtain ⟨required, hinted, wrongs⟩ := same
      exact ⟨bare_textarea_control f g v w required hinted, wrongs⟩
  | checkbox | switch =>
      simp only [kind, FieldLook.mk.injEq, true_and, and_true] at same
      obtain ⟨required, checked, wrongs⟩ := same
      exact ⟨bare_box_control f g v w kinds required checked, wrongs⟩
  | radio =>
      simp only [kind, FieldLook.mk.injEq, true_and, and_true] at same
      obtain ⟨marks, wrongs⟩ := same
      exact ⟨bare_radio_control f g v w marks, wrongs⟩
  | select =>
      simp only [kind, FieldLook.mk.injEq, true_and, and_true] at same
      obtain ⟨required, marks, wrongs⟩ := same
      exact ⟨bare_select_control f g v w required marks, wrongs⟩
  | range =>
      simp only [kind, FieldLook.mk.injEq, true_and, and_true] at same
      obtain ⟨scale, wrongs⟩ := same
      exact ⟨bare_range_control f g v w scale, wrongs⟩
  | masked =>
      simp only [kind, FieldLook.mk.injEq, true_and, and_true] at same
      obtain ⟨required, hinted, masked, wrongs⟩ := same
      have details : f.inputDetails.map Attribute.bare = g.inputDetails.map Attribute.bare := by
        rw [inputDetails, inputDetails, ← kinds, kind]
        simp only [Attribute.bare_given, masked]
      exact ⟨bare_input_control f g v w required hinted details, wrongs⟩
  | currency =>
      simp only [kind, FieldLook.mk.injEq, true_and, and_true] at same
      obtain ⟨required, hinted, priced, wrongs⟩ := same
      have details : f.inputDetails.map Attribute.bare = g.inputDetails.map Attribute.bare := by
        rw [inputDetails, inputDetails, ← kinds, kind]
        cases price : f.currency <;> cases priceToo : g.currency <;> simp_all [Attribute.bare]
      exact ⟨bare_input_control f g v w required hinted details, wrongs⟩
  | text | number | date | email | tags =>
      simp only [kind, FieldLook.mk.injEq, true_and, and_true] at same
      obtain ⟨required, hinted, wrongs⟩ := same
      have details : f.inputDetails.map Attribute.bare = g.inputDetails.map Attribute.bare := by
        rw [inputDetails, inputDetails, ← kinds, kind]
      exact ⟨bare_input_control f g v w required hinted details, wrongs⟩

theorem bare_heading (f g : Field) (same : f.heading.map Heading.level = g.heading.map Heading.level) :
    f.headingView.bare = g.headingView.bare := by
  unfold headingView
  cases heading : f.heading with
  | none =>
      cases headingToo : g.heading with
      | none => rfl
      | some h => simp [heading, headingToo] at same
  | some h =>
      cases headingToo : g.heading with
      | none => simp [heading, headingToo] at same
      | some k =>
          have levels : h.level = k.level := by simpa [heading, headingToo] using same
          simp only [levels]
          rfl

theorem bare_data_table (f g : Field) (rows others : List Row)
    (sameColumns : (columns rows).length = (columns others).length) (sameRows : rows.length = others.length) :
    (f.dataTable rows).bare = (g.dataTable others).bare := by
  have titles : bareAll ((columns rows).map fun name => .element .th [] [.text name])
      = bareAll ((columns others).map fun name => .element .th [] [.text name]) :=
    Markup.bare_all_counted (fun name => .element .th [] [.text name]) (fun name => .element .th [] [.text name])
      (fun _ _ => rfl) _ _ sameColumns
  have cells (row other : Row) : bareAll ((columns rows).map (cell row)) = bareAll ((columns others).map (cell other)) :=
    Markup.bare_all_counted (cell row) (cell other) (fun _ _ => rfl) _ _ sameColumns
  have lines : bareAll (rows.map fun row => .element .tr [] ((columns rows).map (cell row)))
      = bareAll (others.map fun row => .element .tr [] ((columns others).map (cell row))) := by
    refine Markup.bare_all_counted _ _ ?_ _ _ sameRows
    intro row other
    rw [Markup.bare_element, Markup.bare_element, cells row other]
  simp only [dataTable, Markup.bare_element, bareAll, titles, lines]
  rfl

theorem table_content_sketch (f : Field) (state : Option TableState) (reason : SketchReason)
    (look : tableLook state = .sketch reason) : f.tableContent state = f.tableSketch reason := by
  unfold tableLook at look
  unfold tableContent
  generalize state.map TableState.status = status at look ⊢
  split at look <;> cases look <;> rfl

theorem table_content_data (f : Field) (state : Option TableState) (width height : Nat)
    (look : tableLook state = .data width height) :
    ∃ rows, f.tableContent state = f.dataTable rows ∧ (columns rows).length = width ∧ rows.length = height := by
  unfold tableLook at look
  unfold tableContent
  generalize state.map TableState.status = status at look ⊢
  split at look <;> cases look
  exact ⟨_, rfl, rfl, rfl⟩

theorem bare_table_content (f g : Field) (state other : Option TableState) (same : tableLook state = tableLook other) :
    (f.tableContent state).bare = (g.tableContent other).bare := by
  cases look : tableLook state with
  | sketch reason =>
      rw [table_content_sketch f state reason look, table_content_sketch g other reason (same ▸ look)]
      rfl
  | data width height =>
      obtain ⟨rows, shown, wide, high⟩ := table_content_data f state width height look
      obtain ⟨others, shownToo, wideToo, highToo⟩ := table_content_data g other width height (same ▸ look)
      rw [shown, shownToo]
      exact bare_data_table f g rows others (wide.trans wideToo.symm) (high.trans highToo.symm)

theorem bare_table_view (f g : Field) (state other : Option TableState) (same : tableLook state = tableLook other) :
    (f.tableView state).bare = (g.tableView other).bare := by
  rw [tableView, tableView, Markup.bare_element, Markup.bare_element, bareAll, bareAll, bareAll, bareAll,
    bare_table_content f g state other same]
  rfl

end Field

namespace Sight

theorem alike_all_nil (a b : Sight) (more : List Node) (alike : a.AlikeAll b [] more) : more = [] := by
  cases more with
  | nil => rfl
  | cons _ _ => exact alike.elim

theorem alike_all_field (a b : Sight) (f : Field) (rest more : List Node) (alike : a.AlikeAll b (.field f :: rest) more) :
    ∃ g others, more = .field g :: others ∧ a.shown f.id = b.shown g.id ∧ (a.shown f.id → a.look f = b.look g)
      ∧ a.AlikeAll b rest others := by
  match more, alike with
  | .field g :: others, ⟨⟨seen, looks⟩, later⟩ => exact ⟨g, others, rfl, seen, looks, later⟩
  | .group _ _ :: _, ⟨here, _⟩ => exact here.elim

theorem alike_all_group (a b : Sight) (g : Group) (children rest more : List Node)
    (alike : a.AlikeAll b (.group g children :: rest) more) :
    ∃ h inner others, more = .group h inner :: others ∧ a.shown g.id = b.shown h.id
      ∧ (a.shown g.id → a.AlikeAll b children inner) ∧ a.AlikeAll b rest others := by
  match more, alike with
  | .group h inner :: others, ⟨⟨seen, inside⟩, later⟩ => exact ⟨h, inner, others, rfl, seen, inside, later⟩
  | .field _ :: _, ⟨here, _⟩ => exact here.elim

end Sight

namespace Session

theorem bare_error_view (s t : Session) (id other : String)
    (same : isWritten (Keyed.value? s.errors id) = isWritten (Keyed.value? t.errors other)) :
    bareAll (s.errorView id) = bareAll (t.errorView other) := by
  unfold isWritten at same
  unfold errorView
  generalize (Keyed.value? s.errors id).filter (· != "") = message at same ⊢
  generalize (Keyed.value? t.errors other).filter (· != "") = messageToo at same ⊢
  cases message with
  | none =>
      cases messageToo with
      | none => rfl
      | some _ => cases same
  | some _ =>
      cases messageToo with
      | none => cases same
      | some _ => rfl

theorem bare_field_view (s t : Session) (tables others : TableSource) (f g : Field)
    (same : s.look tables f = t.look others g) : (s.fieldView tables f).bare = (t.fieldView others g).bare := by
  have kinds : f.kind = g.kind := by
    rw [← Field.look_kind f (s.shownValue f.toBasics) _ _, ← look, same, look, Field.look_kind]
  by_cases input : f.IsInput
  · obtain ⟨controls, wrongs⟩ := Field.control_alike f g _ _ _ _ _ _ same input
    have inputToo : g.IsInput := by rwa [Field.IsInput, ← kinds]
    rw [field_view_input s tables f input, field_view_input t others g inputToo, inputView, inputView,
      Markup.bare_element, Markup.bare_element, bareAll, bareAll, bareAll, bareAll, controls,
      bare_error_view s t f.id g.id wrongs]
    rfl
  · rw [look, look, Field.look, Field.look, ← kinds] at same
    rw [fieldView, fieldView, ← kinds]
    cases kind : f.kind with
    | heading =>
        simp only [kind, FieldLook.mk.injEq, true_and, and_true] at same
        exact Field.bare_heading f g same
    | divider => rfl
    | table =>
        simp only [kind, FieldLook.mk.injEq, true_and, Option.some.injEq] at same
        exact Field.bare_table_view f g _ _ same
    | _ => simp [Field.IsInput, kind, FieldKind.displayOnly] at input

theorem bare_node_views (s t : Session) (tables others : TableSource) (nodes more : List Node)
    (alike : (s.sight tables).AlikeAll (t.sight others) nodes more) :
    bareAll (s.nodeViews tables nodes) = bareAll (t.nodeViews others more) := by
  induction nodes using Node.forest_induction generalizing more with
  | nil =>
      rw [Sight.alike_all_nil _ _ more alike]
      rfl
  | field f rest ih =>
      obtain ⟨g, later, rfl, seen, looks, alikeLater⟩ := Sight.alike_all_field _ _ f rest more alike
      have here : bareAll (s.nodeView tables (.field f)) = bareAll (t.nodeView others (.field g)) := by
        rw [nodeView, nodeView, ← show s.isVisible f.id = t.isVisible g.id from seen]
        by_cases shown : s.isVisible f.id = true
        · rw [if_pos shown, if_pos shown, bareAll, bareAll, bare_field_view s t tables others f g (looks shown)]
          rfl
        · rw [if_neg shown, if_neg shown]
      rw [nodeViews, nodeViews, Markup.bare_all_append, Markup.bare_all_append, here, ih later alikeLater]
  | group g children rest inside ih =>
      obtain ⟨h, inner, later, rfl, seen, alikeInside, alikeLater⟩ :=
        Sight.alike_all_group _ _ g children rest more alike
      have here : bareAll (s.nodeView tables (.group g children)) = bareAll (t.nodeView others (.group h inner)) := by
        rw [nodeView, nodeView, ← show s.isVisible g.id = t.isVisible h.id from seen]
        by_cases shown : s.isVisible g.id = true
        · rw [if_pos shown, if_pos shown]
          simp only [bareAll, Markup.bare_element, inside inner (alikeInside shown)]
          rfl
        · rw [if_neg shown, if_neg shown]
      rw [nodeViews, nodeViews, Markup.bare_all_append, Markup.bare_all_append, here, ih later alikeLater]

end Session

namespace Node

theorem bare_sketch (f g : Field) (same : f.sketchLook = g.sketchLook) : f.sketch.bare = g.sketch.bare := by
  have kinds : f.kind = g.kind := by
    have kind (h : Field) : h.sketchLook.kind = h.kind := by
      unfold Field.sketchLook
      split <;> rfl
    rw [← kind f, same, kind g]
  rw [Field.sketchLook, Field.sketchLook, ← kinds] at same
  rw [Field.sketch, Field.sketch, ← kinds]
  cases kind : f.kind with
  | heading =>
      simp only [kind, FieldLook.mk.injEq, true_and, and_true] at same
      exact Field.bare_heading f g same
  | divider | table => rfl
  | _ =>
      simp only [kind, FieldLook.mk.injEq, true_and, and_true] at same
      simp only [Markup.bare_void, List.map_append, Field.bare_hint f g same]

theorem bare_canvas_item (selected other : Option String) (n m : Node) (preview sketch : Markup)
    (same : preview.bare = sketch.bare) : (canvasItem selected n preview).bare = (canvasItem other m sketch).bare := by
  rw [canvasItem, canvasItem, Markup.bare_element, Markup.bare_element, bareAll, bareAll, bareAll, bareAll, same]
  rfl

theorem bare_canvas_views (selected other : Option String) (nodes more : List Node)
    (alike : Sight.canvas.AlikeAll Sight.canvas nodes more) :
    bareAll (canvasViews selected nodes) = bareAll (canvasViews other more) := by
  induction nodes using Node.forest_induction generalizing more with
  | nil =>
      rw [Sight.alike_all_nil _ _ more alike]
      rfl
  | field f rest ih =>
      obtain ⟨g, later, rfl, -, looks, alikeLater⟩ := Sight.alike_all_field _ _ f rest more alike
      rw [canvasViews, canvasViews, canvasView, canvasView, bareAll, bareAll, ih later alikeLater,
        bare_canvas_item selected other _ _ _ _ (bare_sketch f g (looks rfl))]
  | group g children rest inside ih =>
      obtain ⟨h, inner, later, rfl, -, alikeInside, alikeLater⟩ :=
        Sight.alike_all_group _ _ g children rest more alike
      have sketches : (Markup.element .div [.value .classes "canvas-children"] (canvasViews selected children)).bare
          = (Markup.element .div [.value .classes "canvas-children"] (canvasViews other inner)).bare := by
        rw [Markup.bare_element, Markup.bare_element, inside inner (alikeInside rfl)]
      rw [canvasViews, canvasViews, canvasView, canvasView, bareAll, bareAll, ih later alikeLater,
        bare_canvas_item selected other _ _ _ _ sketches]

end Node

end FormEngine
