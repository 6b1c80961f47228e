import FormEngine.Proofs.Page.Outlines

set_option autoImplicit false

namespace FormEngine

namespace Field

theorem control_tidy (f : Field) (v : Value) : (f.control v).Tidy := by
  unfold control
  split
  · simp [textareaControl]
  · trivial
  · trivial
  · rw [radioControl, Markup.Tidy, Markup.tidy_all_iff]
    intro m shown
    obtain ⟨i, _, rfl⟩ := List.mem_mapIdx.mp shown
    simp [radioChoice]
  · simp [selectControl, Markup.tidy_all_iff, selectChoice]
  · trivial
  · trivial

theorem heading_tidy (f : Field) : f.headingView.Tidy := by
  unfold headingView
  split <;> simp

theorem table_sketch_tidy (f : Field) (reason : SketchReason) : (f.tableSketch reason).Tidy := by
  simp [tableSketch]

theorem data_table_tidy (f : Field) (rows : List Row) : (f.dataTable rows).Tidy := by
  simp [dataTable, cell, Markup.tidy_all_iff]

theorem table_view_tidy (f : Field) (state : Option TableState) : (f.tableView state).Tidy := by
  have content : (f.tableContent state).Tidy := by
    unfold tableContent
    split
    · exact f.data_table_tidy _
    · exact f.table_sketch_tidy _
    · exact f.table_sketch_tidy _
    · exact f.table_sketch_tidy _
    · exact f.table_sketch_tidy _
  simp [tableView, content]

end Field

namespace Markup

theorem tidy_append (a b : List Markup) : TidyAll (a ++ b) ↔ TidyAll a ∧ TidyAll b := by
  rw [tidy_all_iff, tidy_all_iff, tidy_all_iff, List.forall_mem_append]

end Markup

theorem Session.field_view_tidy (s : Session) (tables : TableSource) (f : Field) : (s.fieldView tables f).Tidy := by
  unfold fieldView
  split
  · exact f.heading_tidy
  · trivial
  · exact f.table_view_tidy _
  · have message : Markup.TidyAll (s.errorView f.id) := by
      unfold errorView
      split <;> simp
    simp [inputView, f.control_tidy, message]

theorem Session.node_views_tidy (s : Session) (tables : TableSource) (nodes : List Node) :
    Markup.TidyAll (s.nodeViews tables nodes) := by
  induction nodes using Node.forest_induction with
  | nil => trivial
  | field f rest ih =>
      have here : Markup.TidyAll (s.nodeView tables (.field f)) := by
        unfold nodeView
        split
        · exact ⟨s.field_view_tidy tables f, trivial⟩
        · trivial
      rw [nodeViews, Markup.tidy_append]
      exact ⟨here, ih⟩
  | group g children rest inside ih =>
      have here : Markup.TidyAll (s.nodeView tables (.group g children)) := by
        unfold nodeView
        split
        · simp [inside]
        · trivial
      rw [nodeViews, Markup.tidy_append]
      exact ⟨here, ih⟩

theorem Field.sketch_tidy (f : Field) : f.sketch.Tidy := by
  unfold sketch
  split
  · exact f.table_sketch_tidy _
  · exact f.heading_tidy
  · trivial
  · trivial

theorem Node.canvas_views_tidy (selected : Option String) (nodes : List Node) :
    Markup.TidyAll (canvasViews selected nodes) := by
  induction nodes using Node.forest_induction with
  | nil => trivial
  | field f rest ih =>
      simp [canvasViews, canvasView, canvasItem, f.sketch_tidy, ih]
  | group g children rest inside ih =>
      simp [canvasViews, canvasView, canvasItem, inside, ih]

def pageTree (title : String) (content : List Markup) : Markup :=
  .element .html []
    [.element .head [] [.element .title [] [.text title], .style styleSheet],
     .element .body [] [.element .div [.value .classes "form-body"] content]]

-- A literal is taken as a list of characters before it is looked through: evaluating it otherwise takes far longer.
theorem style_rules_tidy : ∀ rule ∈ styleRules, rule.toList.all (· != '<') = true := by
  simp only [styleRules, List.forall_mem_cons, List.not_mem_nil, false_imp_iff, implies_true, and_true]
  and_intros
  all_goals
    rw [String.toList_ofList]
    rfl

theorem style_sheet_tidy : '<' ∉ styleSheet.toList := by
  have lines (rule : String) (listed : rule ∈ styleRules) : '<' ∉ rule.toList := by
    have tidy := style_rules_tidy rule listed
    rw [List.all_eq_true] at tidy
    intro inside
    exact absurd (tidy '<' inside) (by decide)
  rw [styleSheet, String.toList_append, String.toList_join]
  simpa using lines

theorem page_alike (title other : String) (content contents : List Markup) (tidy : Markup.TidyAll content)
    (tidyToo : Markup.TidyAll contents) (same : Markup.bareAll content = Markup.bareAll contents) :
    ReadAlike (pageTree title content).outline (page title content) (page other contents) := by
  have tidyTree (text : String) (parts : List Markup) (tidyParts : Markup.TidyAll parts) :
      (pageTree text parts).Tidy := by
    simp [pageTree, style_sheet_tidy, tidyParts]
  have bare : (pageTree title content).bare = (pageTree other contents).bare := by
    simp only [pageTree, Markup.bare_element, Markup.bareAll, same]
    rfl
  exact Markup.read_alike_of_bare _ _ (tidyTree title content tidy) (tidyTree other contents tidyToo) bare

namespace Session

def formContent (s : Session) (tables : TableSource) : List Markup :=
  [.element .h1 [] [.text s.form.title],
   .element .form [.flag .novalidate]
     (s.nodeViews tables s.form.nodes ++ [.element .button [.value .type "submit"] [.text "Submit"]])]

theorem form_page_alike (s t : Session) (tables others : TableSource)
    (alike : (s.sight tables).AlikeAll (t.sight others) s.form.nodes t.form.nodes) :
    ReadAlike (pageTree s.form.title (s.formContent tables)).outline (s.formPage tables) (t.formPage others) := by
  have tidy (u : Session) (source : TableSource) : Markup.TidyAll (u.formContent source) := by
    simp [formContent, Markup.tidy_append, u.node_views_tidy source]
  have same : Markup.bareAll (s.formContent tables) = Markup.bareAll (t.formContent others) := by
    simp only [formContent, Markup.bareAll, Markup.bare_element, Markup.bare_all_append,
      bare_node_views s t tables others _ _ alike]
    rfl
  exact page_alike s.form.title t.form.title _ _ (tidy s tables) (tidy t others) same

end Session

theorem Form.canvas_page_alike (f g : Form) (selected other : Option String)
    (alike : Sight.canvas.AlikeAll Sight.canvas f.nodes g.nodes) :
    ReadAlike (pageTree f.title (.element .h1 [] [.text f.title] :: Node.canvasViews selected f.nodes)).outline
      (f.canvasPage selected) (g.canvasPage other) := by
  have tidy (h : Form) (chosen : Option String) :
      Markup.TidyAll (.element .h1 [] [.text h.title] :: Node.canvasViews chosen h.nodes) :=
    ⟨⟨trivial, trivial⟩, Node.canvas_views_tidy chosen h.nodes⟩
  have same : Markup.bareAll (.element .h1 [] [.text f.title] :: Node.canvasViews selected f.nodes)
      = Markup.bareAll (.element .h1 [] [.text g.title] :: Node.canvasViews other g.nodes) := by
    rw [Markup.bareAll, Markup.bareAll, Node.bare_canvas_views selected other f.nodes g.nodes alike]
    rfl
  exact page_alike f.title g.title _ _ (tidy f selected) (tidy g other) same

-- All forms that look the same give pages of one outline, in which a reader finds the same elements and attributes.
-- What is written at the blanks can neither begin nor end a tag or a value, and is read back as what it was.
theorem pages_read_alike :
    (∀ (s : Session) (tables : TableSource), ∃ outline, ∀ (t : Session) (others : TableSource),
      (s.sight tables).AlikeAll (t.sight others) s.form.nodes t.form.nodes →
        ReadAlike outline (s.formPage tables) (t.formPage others)) ∧
    (∀ (f : Form) (selected : Option String), ∃ outline, ∀ (g : Form) (other : Option String),
      Sight.canvas.AlikeAll Sight.canvas f.nodes g.nodes →
        ReadAlike outline (f.canvasPage selected) (g.canvasPage other)) ∧
    ∀ s : String, (∀ c ∈ Markup.escape s, c ≠ '<' ∧ c ≠ '>' ∧ c ≠ '"' ∧ c ≠ '\'') ∧
      Markup.unescape (Markup.escape s) = s.toList :=
  ⟨fun s tables => ⟨_, fun t others alike => s.form_page_alike t tables others alike⟩,
   fun f selected => ⟨_, fun g other alike => f.canvas_page_alike g selected other alike⟩,
   fun s => ⟨Markup.escape_safe s, Markup.unescape_escape s⟩⟩

def wordEntry (word : String) : Field :=
  { Field.create (word ++ "t") .masked with
    label := word, placeholder := some word, required := true, mask := some word }

def wordChoice (word : String) : Field :=
  { Field.create (word ++ "r") .radio with label := word, choices := some [⟨word, word⟩, ⟨"none", word⟩] }

def wordHeading (word : String) : Field :=
  { Field.create (word ++ "h") .heading with heading := some ⟨word, .three⟩ }

def wordTable (word : String) : Field := { Field.create (word ++ "rows") .table with label := word }

def wordForm (word : String) : Form :=
  ⟨word,
   [.group { Group.create (word ++ "g") with label := word } [.field (wordEntry word), .field (wordChoice word)],
    .field (wordHeading word), .field (wordTable word)]⟩

def wordSession (word : String) : Session :=
  (Session.start (wordForm word) [(word ++ "r", .text word)] 0).validate.1

def wordTables (word : String) : TableSource :=
  { TableSource.new defaultPatience with
    states := [(word ++ "rows", ⟨word, 0, .loaded [[(word, .text word)], [("other", .null)]]⟩)] }

def hostileWord : String := "\"><script>alert('x')</script>&"

theorem hostile_pages_read_alike :
    (∃ outline, ReadAlike outline ((wordSession "word").formPage (wordTables "word"))
      ((wordSession hostileWord).formPage (wordTables hostileWord))) ∧
    ∃ outline, ReadAlike outline ((wordForm "word").canvasPage none)
      ((wordForm hostileWord).canvasPage (some (hostileWord ++ "g"))) := by
  obtain ⟨outline, filled⟩ := pages_read_alike.1 (wordSession "word") (wordTables "word")
  obtain ⟨canvasOutline, built⟩ := pages_read_alike.2.1 (wordForm "word") none
  refine ⟨⟨outline, filled _ _ ?_⟩, canvasOutline, built _ _ ?_⟩
  · have entry : (wordSession "word").look (wordTables "word") (wordEntry "word")
        = (wordSession hostileWord).look (wordTables hostileWord) (wordEntry hostileWord) := by decide +kernel
    have choice : (wordSession "word").look (wordTables "word") (wordChoice "word")
        = (wordSession hostileWord).look (wordTables hostileWord) (wordChoice hostileWord) := by decide +kernel
    have heading : (wordSession "word").look (wordTables "word") (wordHeading "word")
        = (wordSession hostileWord).look (wordTables hostileWord) (wordHeading hostileWord) := by decide +kernel
    have table : (wordSession "word").look (wordTables "word") (wordTable "word")
        = (wordSession hostileWord).look (wordTables hostileWord) (wordTable hostileWord) := by decide +kernel
    have seen : ∀ last ∈ ["g", "t", "r", "h", "rows"], (wordSession "word").isVisible ("word" ++ last)
        = (wordSession hostileWord).isVisible (hostileWord ++ last) := by decide +kernel
    have inner : (wordSession "word").sight (wordTables "word") |>.AlikeAll
        ((wordSession hostileWord).sight (wordTables hostileWord))
        [.field (wordEntry "word"), .field (wordChoice "word")]
        [.field (wordEntry hostileWord), .field (wordChoice hostileWord)] :=
      ⟨⟨seen "t" (by simp), fun _ => entry⟩, ⟨seen "r" (by simp), fun _ => choice⟩, trivial⟩
    exact ⟨⟨seen "g" (by simp), fun _ => inner⟩, ⟨seen "h" (by simp), fun _ => heading⟩,
      ⟨seen "rows" (by simp), fun _ => table⟩, trivial⟩
  · exact ⟨⟨rfl, fun _ => ⟨⟨rfl, fun _ => by decide +kernel⟩, ⟨rfl, fun _ => by decide +kernel⟩, trivial⟩⟩,
      ⟨rfl, fun _ => by decide +kernel⟩, ⟨rfl, fun _ => by decide +kernel⟩, trivial⟩

end FormEngine
