import FormEngine.Proofs.Page.Asking
import FormEngine.Proofs.Page.Messages
import FormEngine.Proofs.Page.RowsShown

set_option autoImplicit false

namespace FormEngine

open Markup

theorem heading_shown (f : Field) : ∃ name text, name ∈ ["h1", "h2", "h3"] ∧
    f.headingView.seen = [.element name [] (written text)] := by
  unfold Field.headingView
  split
  · rename_i h _
    refine ⟨h.level.tag.name, h.text, ?_, seen_line _ _ _⟩
    cases h.level <;> decide
  · exact ⟨"h2", f.label, by decide, seen_line _ _ _⟩

theorem leaves_alone (e : Seen) (name : e.name ≠ "" ∧ e.name ≠ "fieldset" ∧ e.name ≠ "legend") : e.leaves = [e] := by
  cases e with
  | char c => exact absurd rfl name.1
  | element tag attributes inside => exact (if_neg name.2.1).trans (if_neg name.2.2)

namespace Session

variable (s : Session) (tables : TableSource)

theorem field_renders (f : Field) :
    ∃ e, (s.fieldView tables f).seen = [e] ∧ f.Renders tables e ∧ e.leaves = [e] := by
  have framed (e : Seen) (frame : e.name = "div") : e.leaves = [e] := by
    apply leaves_alone
    rw [frame]
    decide
  unfold fieldView
  split
  · rename_i kind
    obtain ⟨name, text, level, view⟩ := heading_shown f
    have plain : ∀ name ∈ ["h1", "h2", "h3"], name ≠ "" ∧ name ≠ "fieldset" ∧ name ≠ "legend" := by decide
    refine ⟨_, view, ?_, leaves_alone _ (plain name level)⟩
    rw [Field.Renders, kind]
    exact ⟨name, level, text, rfl⟩
  · rename_i kind
    refine ⟨_, rfl, ?_, leaves_alone _ (by decide)⟩
    rw [Field.Renders, kind]
    rfl
  · rename_i kind
    obtain ⟨e, view, shown⟩ := f.table_shown (tables.state? f.id)
    refine ⟨e, view, ?_, framed e shown.frame⟩
    rw [Field.Renders, kind]
    exact shown
  · rename_i noHeading noDivider noTable
    obtain ⟨e, view, shown⟩ := s.input_asks f
    refine ⟨e, view, ?_, framed e shown.frame⟩
    unfold Field.Renders
    split
    · exact absurd ‹_› noHeading
    · exact absurd ‹_› noDivider
    · exact absurd ‹_› noTable
    · exact shown

theorem group_seen (g : Group) (inside rest : List Markup) :
    seenAll ([.element .fieldset [.value .classes "group", .value .id g.id]
        (.element .legend [] [.text g.label] :: inside)] ++ rest)
      = .element "fieldset" [("class", some "group"), ("id", some (escaped g.id))]
          (.element "legend" [] (written g.label) :: seenAll inside) :: seenAll rest := by
  rw [List.singleton_append, seenAll, seen, seenAll, seen_line]
  rfl

theorem views_shown (nodes : List Node) : s.Shows tables nodes (seenAll (s.nodeViews tables nodes)) := by
  induction nodes using Node.forest_induction with
  | nil => exact .nil
  | field f rest ih =>
      rw [nodeViews, nodeView]
      split
      · rename_i shown
        obtain ⟨e, view, renders, _⟩ := s.field_renders tables f
        rw [List.singleton_append, seenAll, view]
        exact .field f rest e _ shown renders ih
      · rename_i hidden
        exact .hidden (.field f) rest _ (Bool.not_eq_true _ ▸ hidden) ih
  | group g children rest inner ih =>
      rw [nodeViews, nodeView]
      split
      · rename_i shown
        rw [group_seen]
        exact .group g children rest _ _ shown inner ih
      · rename_i hidden
        exact .hidden (.group g children) rest _ (Bool.not_eq_true _ ▸ hidden) ih

theorem leaves_rendered (nodes : List Node) :
    List.Forall₂ (Field.Renders tables) (Node.shownFieldsOf s.isVisible nodes)
      (Seen.leavesOf (seenAll (s.nodeViews tables nodes))) := by
  induction nodes using Node.forest_induction with
  | nil => exact .nil
  | field f rest ih =>
      rw [nodeViews, nodeView, Node.shownFieldsOf, Node.shownFields]
      by_cases shown : s.isVisible f.id = true
      · obtain ⟨e, view, renders, leaf⟩ := s.field_renders tables f
        have views : seenAll ([s.fieldView tables f] ++ s.nodeViews tables rest)
            = e :: seenAll (s.nodeViews tables rest) := by
          rw [List.singleton_append, seenAll, view]
          rfl
        rw [if_pos shown, if_pos shown, views, Seen.leavesOf, leaf]
        exact .cons renders ih
      · rw [if_neg shown, if_neg shown]
        exact ih
  | group g children rest inner ih =>
      rw [nodeViews, nodeView, Node.shownFieldsOf, Node.shownFields]
      by_cases shown : s.isVisible g.id = true
      · have entered (inside : List Seen) : Seen.leaves (.element "fieldset"
            [("class", some "group"), ("id", some (escaped g.id))] (.element "legend" [] (written g.label) :: inside))
              = Seen.leavesOf inside := rfl
        rw [if_pos shown, if_pos shown, group_seen, Seen.leavesOf, entered]
        exact List.rel_append inner ih
      · rw [if_neg shown, if_neg shown]
        exact ih

end Session

theorem page_views (s : Session) (tables : TableSource) :
    seenOn (s.formPage tables) = Seen.formPage s.form.title (seenAll (s.nodeViews tables s.form.nodes)) := by
  rw [s.form_page_document, document_read _ (s.form_tree_tidy tables)]
  simp only [Session.formTree, pageTree, Session.formContent, seen, seenAll, seen_all_append, List.append_nil,
    List.singleton_append]
  rfl

-- What stands on the page of a form between its title and its button are the fragments of the fields that are visible, one
-- for each and in the same order, in the fieldsets of the groups around them.
theorem page_shows_visible (s : Session) (tables : TableSource) :
    ∃ views, seenOn (s.formPage tables) = Seen.formPage s.form.title views ∧ s.Shows tables s.form.nodes views ∧
      List.Forall₂ (Field.Renders tables) s.visibleFields (Seen.leavesOf views) :=
  ⟨_, page_views s tables, s.views_shown tables s.form.nodes, s.leaves_rendered tables s.form.nodes⟩

end FormEngine
