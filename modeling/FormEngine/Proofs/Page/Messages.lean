import FormEngine.Proofs.Filling.Complaints
import FormEngine.Proofs.Page.NoInjection
import FormEngine.Proofs.Page.Occurrences

set_option autoImplicit false

namespace FormEngine

instance (f : Field) : Decidable f.IsInput := inferInstanceAs (Decidable (_ ∧ _))

namespace Markup

def isParagraph : Markup → Bool
  | .element tag _ _ | .void tag _ => tag == .p
  | _ => false

def paragraphs (l : List Markup) : List Markup := (elementsOf l).filter isParagraph

theorem paragraphs_cons (m : Markup) (rest : List Markup) : paragraphs (m :: rest) = paragraphs [m] ++ paragraphs rest := by
  simp [paragraphs, elementsOf]

theorem paragraphs_append (a b : List Markup) : paragraphs (a ++ b) = paragraphs a ++ paragraphs b := by
  induction a with
  | nil => rfl
  | cons m rest ih => rw [List.cons_append, paragraphs_cons, ih, paragraphs_cons m rest, List.append_assoc]

theorem paragraphs_text (s : String) : paragraphs [.text s] = [] := rfl

theorem paragraphs_void (tag : Tag) (attributes : List Attribute) (other : tag ≠ .p) :
    paragraphs [.void tag attributes] = [] := by
  simp [paragraphs, elementsOf, elements, isParagraph, other]

theorem paragraphs_element (tag : Tag) (attributes : List Attribute) (children : List Markup) (other : tag ≠ .p) :
    paragraphs [.element tag attributes children] = paragraphs children := by
  simp [paragraphs, elementsOf, elements, isParagraph, other]

theorem no_paragraphs (l : List Markup) (each : ∀ m ∈ l, paragraphs [m] = []) : paragraphs l = [] := by
  induction l with
  | nil => rfl
  | cons m rest ih =>
      rw [List.forall_mem_cons] at each
      rw [paragraphs_cons, each.1, ih each.2]
      rfl

theorem paragraph_tag (tag : Tag) (cs rest : List Char) (same : tag.name.toList ++ cs <+: 'p' :: rest) : tag = .p := by
  have first : tag.name.toList.head? = some 'p' := by
    obtain ⟨after, whole⟩ := same
    have heads := congrArg List.head? whole
    cases tag <;> exact heads
  revert first
  cases tag <;> decide

theorem is_paragraph (e : Markup) (opens : e.print.head? = some '<') (rest : List Char)
    (printed : e.print <+: '<' :: 'p' :: rest) : e.isParagraph = true := by
  cases e with
  | text s => exact absurd rfl (escape_safe s '<' (List.mem_of_mem_head? opens)).1
  | sign s => cases s <;> cases opens
  | style rules =>
      rw [print_style] at printed
      obtain ⟨after, whole⟩ := printed
      exact absurd (List.cons.inj (List.cons.inj whole).2).1 (by decide)
  | element tag attributes children =>
      have name : tag.name.toList ++ (attributes.flatMap attributeText ++ '>' :: printAll children ++ closing tag)
          <+: 'p' :: rest := by
        simpa [print_element, opening] using printed
      exact beq_iff_eq.mpr (paragraph_tag tag _ rest name)
  | void tag attributes =>
      have name : tag.name.toList ++ (attributes.flatMap attributeText ++ " />".toList) <+: 'p' :: rest := by
        simpa [print_void, opening] using printed
      exact beq_iff_eq.mpr (paragraph_tag tag _ rest name)

theorem paragraph_begins (m : Markup) (tidy : m.Tidy) {before rest : List Char}
    (split : m.document.toList = before ++ '<' :: 'p' :: rest) :
    ∃ e ∈ paragraphs [m], e.print <+: '<' :: 'p' :: rest := by
  rw [document_text] at split
  rcases split_append split with ⟨after, first, later⟩ | ⟨sooner, inside⟩
  · have declared : after = "!DOCTYPE html>".toList := only_at_start (by decide) first
    subst declared
    exact absurd (List.cons.inj later).1 (by decide)
  · rcases tag_begins m tidy inside with ⟨e, member, printed⟩ | ⟨name, closing⟩
    · refine ⟨e, ?_, printed⟩
      rw [paragraphs, elementsOf, elementsOf, List.append_nil, List.mem_filter]
      exact ⟨member, is_paragraph e (element_opens m e member) rest printed⟩
    · exact absurd (List.cons.inj closing).1 (by decide)

end Markup

open Markup

namespace Field

theorem control_paragraphs (f : Field) (v : Value) : paragraphs [f.control v] = [] := by
  unfold control
  split
  · exact paragraphs_element _ _ _ (by decide)
  · exact paragraphs_void _ _ (by decide)
  · exact paragraphs_void _ _ (by decide)
  · rw [radioControl, paragraphs_element _ _ _ (by decide)]
    apply no_paragraphs
    intro m shown
    obtain ⟨i, _, rfl⟩ := List.mem_mapIdx.mp shown
    rw [radioChoice, paragraphs_element _ _ _ (by decide), paragraphs_cons, paragraphs_void _ _ (by decide)]
    rfl
  · rw [selectControl, paragraphs_element _ _ _ (by decide)]
    apply no_paragraphs
    rw [List.forall_mem_cons, List.forall_mem_map]
    exact ⟨rfl, fun c _ => paragraphs_element _ _ _ (by decide)⟩
  · exact paragraphs_void _ _ (by decide)
  · exact paragraphs_void _ _ (by decide)

theorem heading_paragraphs (f : Field) : paragraphs [f.headingView] = [] := by
  unfold headingView
  split
  · rename_i h _
    cases h.level <;> exact paragraphs_element _ _ _ (by decide)
  · exact paragraphs_element _ _ _ (by decide)

theorem table_sketch_paragraphs (f : Field) (reason : SketchReason) : paragraphs [f.tableSketch reason] = [] := rfl

theorem data_table_paragraphs (f : Field) (rows : List Row) : paragraphs [f.dataTable rows] = [] := by
  have titles : paragraphs ((columns rows).map fun name => .element .th [] [.text name]) = [] := by
    apply no_paragraphs
    rw [List.forall_mem_map]
    exact fun name _ => paragraphs_element _ _ _ (by decide)
  have lines : paragraphs (rows.map fun row => .element .tr [] ((columns rows).map (cell row))) = [] := by
    apply no_paragraphs
    rw [List.forall_mem_map]
    intro row _
    rw [paragraphs_element _ _ _ (by decide)]
    apply no_paragraphs
    rw [List.forall_mem_map]
    exact fun name _ => paragraphs_element _ _ _ (by decide)
  rw [dataTable, paragraphs_element _ _ _ (by decide), paragraphs_cons, paragraphs_element _ _ _ (by decide),
    paragraphs_element _ _ _ (by decide), paragraphs_element _ _ _ (by decide), titles, lines]
  rfl

theorem table_paragraphs (f : Field) (state : Option TableState) : paragraphs [f.tableView state] = [] := by
  have content : paragraphs [f.tableContent state] = [] := by
    unfold tableContent
    split
    · exact f.data_table_paragraphs _
    · exact f.table_sketch_paragraphs _
    · exact f.table_sketch_paragraphs _
    · exact f.table_sketch_paragraphs _
    · exact f.table_sketch_paragraphs _
  rw [tableView, paragraphs_element _ _ _ (by decide), paragraphs_cons, content]
  rfl

end Field

def errorParagraph (id message : String) : Markup :=
  .element .p [.value .classes "error", .value .id (id ++ "-error")] [.text message]

namespace Session

variable (s : Session)

theorem error_view_written (written : s.Written) (id : String) :
    s.errorView id = ((Keyed.value? s.errors id).map (errorParagraph id)).toList := by
  rw [errorView]
  cases found : Keyed.value? s.errors id with
  | none => rfl
  | some message =>
      have kept : (some message).filter (· != "") = some message := by simp [written id message found]
      rw [kept]
      rfl

theorem error_paragraphs (id : String) : paragraphs (s.errorView id) = s.errorView id := by
  unfold errorView
  split <;> rfl

def placedMessages (f : Field) : List Markup := if f.IsInput then s.errorView f.id else []

theorem field_paragraphs (tables : TableSource) (f : Field) : paragraphs [s.fieldView tables f] = s.placedMessages f := by
  by_cases input : f.IsInput
  · rw [s.field_view_input tables f input, inputView, paragraphs_element _ _ _ (by decide), paragraphs_cons,
      paragraphs_element _ _ _ (by decide), paragraphs_text, paragraphs_cons, f.control_paragraphs, s.error_paragraphs,
      placedMessages, if_pos input]
    rfl
  · rw [placedMessages, if_neg input]
    unfold fieldView
    split
    · exact f.heading_paragraphs
    · exact paragraphs_void _ _ (by decide)
    · exact f.table_paragraphs _
    · rename_i heading divider table
      refine absurd ⟨table, ?_⟩ input
      cases kind : f.kind with
      | heading => exact absurd kind heading
      | divider => exact absurd kind divider
      | _ => rfl

theorem node_paragraphs (tables : TableSource) (nodes : List Node) :
    paragraphs (s.nodeViews tables nodes) = (Node.shownFieldsOf s.isVisible nodes).flatMap s.placedMessages := by
  induction nodes using Node.forest_induction with
  | nil => rfl
  | field f rest ih =>
      rw [nodeViews, nodeView, paragraphs_append, ih, Node.shownFieldsOf, Node.shownFields, List.flatMap_append]
      congr 1
      split
      · rw [s.field_paragraphs, List.flatMap_singleton]
      · rfl
  | group g children rest ihChildren ihRest =>
      rw [nodeViews, nodeView, paragraphs_append, ihRest, Node.shownFieldsOf, Node.shownFields, List.flatMap_append]
      congr 1
      split
      · rw [paragraphs_element _ _ _ (by decide), paragraphs_cons, paragraphs_element _ _ _ (by decide), paragraphs_text,
          ihChildren]
        rfl
      · rfl

def formTree (tables : TableSource) : Markup := pageTree s.form.title (s.formContent tables)

theorem page_paragraphs (tables : TableSource) :
    paragraphs [s.formTree tables] = s.visibleFields.flatMap s.placedMessages := by
  have layout (content : List Markup) : paragraphs [pageTree s.form.title content] = paragraphs content := by
    rw [pageTree, paragraphs_element _ _ _ (by decide), paragraphs_cons, paragraphs_element _ _ _ (by decide),
      paragraphs_element _ _ _ (by decide), paragraphs_element _ _ _ (by decide)]
    rfl
  have button : paragraphs [.element .button [.value .type "submit"] [.text "Submit"]] = [] := rfl
  rw [formTree, layout, formContent, paragraphs_cons, paragraphs_element _ _ _ (by decide), paragraphs_text,
    paragraphs_element _ _ _ (by decide), paragraphs_append, button, s.node_paragraphs, List.append_nil]
  rfl

theorem form_tree_tidy (tables : TableSource) : (s.formTree tables).Tidy := by
  simp [formTree, pageTree, formContent, Markup.tidy_append, style_sheet_tidy,
    s.node_views_tidy tables]

theorem form_page_document (tables : TableSource) : s.formPage tables = (s.formTree tables).document := rfl

theorem placed_message_iff (written : s.Written) (f : Field) (e : Markup) : e ∈ s.placedMessages f ↔
    f.IsInput ∧ ∃ message, Keyed.value? s.errors f.id = some message ∧ e = errorParagraph f.id message := by
  rw [placedMessages, s.error_view_written written]
  split
  · rename_i input
    rw [and_iff_right input]
    cases Keyed.value? s.errors f.id with
    | none => simp
    | some message => simp
  · rename_i other
    simp [other]

end Session

def errorOpening (id : String) : List Char := opening .p [.value .classes "error", .value .id (id ++ "-error")]

theorem error_paragraph_print (id message : String) :
    (errorParagraph id message).print = errorOpening id ++ '>' :: (escape message ++ closing .p) := by
  have inside : printAll [.text message] = escape message := List.append_nil _
  rw [errorParagraph, print_element, inside, List.append_assoc, List.cons_append, errorOpening]

theorem error_opening_print : ∃ cs, ∀ id more,
    errorOpening id ++ more = '<' :: 'p' :: cs ++ (escape (id ++ "-error") ++ '"' :: more) := by
  refine ⟨attributeText (.value .classes "error") ++ ' ' :: "id".toList ++ ['=', '"'], fun id more => ?_⟩
  simp [errorOpening, opening, attributeText, Tag.name, AttributeName.text]

theorem error_opening_injective {id other : String} {x y : List Char}
    (same : errorOpening id ++ x = errorOpening other ++ y) : id = other ∧ x = y := by
  obtain ⟨cs, print⟩ := error_opening_print
  rw [print, print] at same
  obtain ⟨ids, rest⟩ := escaped_injective (.inl rfl) (List.append_cancel_left same)
  have letters := congrArg String.toList ids
  rw [String.toList_append, String.toList_append] at letters
  exact ⟨String.toList_inj.mp (List.append_cancel_right letters), rest⟩

namespace Session

variable (s : Session) (written : s.Written) (tables : TableSource)

include written

theorem paragraph_at {id : String} {before after : List Char}
    (split : (s.formPage tables).toList = before ++ (errorOpening id ++ after)) :
    ∃ message, Keyed.value? s.errors id = some message ∧ (∃ f ∈ s.visibleFields, f.id = id ∧ f.IsInput) ∧
      '>' :: (escape message ++ closing .p) <+: after := by
  obtain ⟨cs, print⟩ := error_opening_print
  rw [s.form_page_document, print] at split
  obtain ⟨e, member, printed⟩ := paragraph_begins (s.formTree tables) (s.form_tree_tidy tables) split
  rw [s.page_paragraphs, List.mem_flatMap] at member
  obtain ⟨f, visible, placed⟩ := member
  obtain ⟨input, message, found, rfl⟩ := (s.placed_message_iff written f e).mp placed
  obtain ⟨more, whole⟩ := printed
  rw [error_paragraph_print, List.append_assoc] at whole
  obtain ⟨rfl, rest⟩ := error_opening_injective (whole.trans (print id after).symm)
  exact ⟨message, found, ⟨f, visible, rfl, input⟩, more, rest⟩

theorem paragraph_on_page_iff (id message : String) :
    (errorParagraph id message).print <:+: (s.formPage tables).toList ↔
      Keyed.value? s.errors id = some message ∧ ∃ f ∈ s.visibleFields, f.id = id ∧ f.IsInput := by
  constructor
  · rintro ⟨before, after, whole⟩
    rw [error_paragraph_print, List.append_assoc, List.append_assoc] at whole
    obtain ⟨found, given, field, more, rest⟩ := s.paragraph_at written tables whole.symm
    rw [List.cons_append, List.cons_append, List.append_assoc, List.append_assoc, List.cons.injEq] at rest
    obtain ⟨rfl, _⟩ := escaped_injective (.inr rfl) rest.2
    exact ⟨given, field⟩
  · rintro ⟨given, f, visible, rfl, input⟩
    have placed : errorParagraph f.id message ∈ paragraphs [s.formTree tables] := by
      rw [s.page_paragraphs, List.mem_flatMap]
      exact ⟨f, visible, (s.placed_message_iff written f _).mpr ⟨input, message, given, rfl⟩⟩
    have member : errorParagraph f.id message ∈ (s.formTree tables).elements := by
      simpa [elementsOf] using (List.mem_filter.mp placed).1
    rw [s.form_page_document, document_text]
    exact (element_printed _ _ member).trans (List.infix_append_right ..)

end Session

theorem visible_alone (s : Session) (distinct : (Node.idsOf s.form.nodes).Nodup) (f g : Field)
    (shown : f ∈ s.visibleFields) (shownToo : g ∈ s.visibleFields) (same : f.id = g.id) : f = g := by
  have nodes := List.inj_on_of_nodup_map distinct (shown_field_mem _ _ f shown) (shown_field_mem _ _ g shownToo) same
  cases nodes
  rfl

-- A message stands on the page exactly if the field it is about is visible and has a control, and no paragraph begins
-- there that is not one of a message. When validation came to an end, a message has no place only if it is about a table.
theorem messages_on_page (h : FormHistory) (tables : TableSource) (distinct : (Node.idsOf h.session.form.nodes).Nodup) :
    (∀ id message, (errorParagraph id message).print <:+: (h.session.formPage tables).toList ↔
      Keyed.value? h.session.errors id = some message ∧ ∃ f ∈ h.session.visibleFields, f.id = id ∧ f.IsInput) ∧
    (∀ id, errorOpening id <:+: (h.session.formPage tables).toList →
      ∃ message, Keyed.value? h.session.errors id = some message) ∧
    (h.session.UpToDate → ∀ id message, Keyed.value? h.session.errors id = some message →
      ∃ f ∈ h.session.visibleFields, f.id = id ∧
        ((errorParagraph id message).print <:+: (h.session.formPage tables).toList ↔ f.kind ≠ .table)) := by
  have written := h.messages_written
  have places := h.session.paragraph_on_page_iff written tables
  refine ⟨places, fun id ⟨before, after, whole⟩ => ?_, fun current id message given => ?_⟩
  · rw [List.append_assoc] at whole
    obtain ⟨message, given, _⟩ := h.session.paragraph_at written tables whole.symm
    exact ⟨message, given⟩
  · obtain ⟨f, visible, rfl, filled⟩ := h.session.message_about current id message given
    refine ⟨f, visible, rfl, ?_⟩
    rw [places, and_iff_right given]
    constructor
    · rintro ⟨g, shown, same, input⟩
      cases visible_alone h.session distinct g f shown visible same
      exact input.1
    · exact fun noTable => ⟨f, visible, rfl, noTable, filled⟩

def wantedText : Field := { Field.create "f" .text with required := true }

def wantedTable : Field := { Field.create "t" .table with required := true }

def blockedHistory : FormHistory :=
  ⟨⟨"Wanted", [.field wantedText, .field wantedTable]⟩, [], 0, TableSource.new defaultPatience, ⟨[], []⟩, [.submit]⟩

def blocked : Session := blockedHistory.session

def blockedPage : List Char := (blocked.formPage blockedHistory.tables).toList

theorem table_message_unsaid :
    blocked.submit.2 = .ok .blocked ∧
    blocked.errors = [("f", "Text is required"), ("t", "Table is required")] ∧ ¬ errorOpening "t" <:+: blockedPage := by
  refine ⟨by rfl, by decide +kernel, fun ⟨before, after, whole⟩ => ?_⟩
  rw [List.append_assoc] at whole
  obtain ⟨_, _, ⟨f, visible, named, input⟩, _⟩ :=
    blocked.paragraph_at blockedHistory.messages_written blockedHistory.tables whole.symm
  have fields : blocked.visibleFields = [wantedText, wantedTable] := by decide +kernel
  rw [fields] at visible
  rcases List.mem_cons.mp visible with rfl | last
  · exact absurd named (by decide)
  · cases List.mem_singleton.mp last
    exact input.1 rfl

theorem text_message_said :
    (errorParagraph "f" "Text is required").print <:+: blockedPage ∧
    ¬ (errorParagraph "t" "Table is required").print <:+: blockedPage := by
  have distinct : (Node.idsOf blocked.form.nodes).Nodup := by decide +kernel
  have current : blocked.UpToDate := ⟨blockedHistory.session_follows.visibility, by decide +kernel⟩
  obtain ⟨places, _, missing⟩ := messages_on_page blockedHistory blockedHistory.tables distinct
  have shown : wantedText ∈ blocked.visibleFields := by decide +kernel
  refine ⟨(places "f" "Text is required").mpr ⟨by decide +kernel, wantedText, shown, rfl, by decide, rfl⟩, ?_⟩
  obtain ⟨f, visible, named, place⟩ := missing current "t" "Table is required" (by decide +kernel)
  have other : wantedTable ∈ blocked.visibleFields := by decide +kernel
  cases visible_alone blocked distinct f wantedTable visible other named
  exact fun said => place.mp said rfl

end FormEngine
