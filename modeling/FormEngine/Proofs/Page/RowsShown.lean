import FormEngine.Proofs.Page.Picking

set_option autoImplicit false

namespace FormEngine

open Seen (hasName)

namespace Markup

def column (title : String) : Markup := .element .th [] [.text title]

def line (cells : List Markup) : Markup := .element .tr [] (cells.map fun m => .element .td [] [m])

def tableOf (attributes : List Attribute) (titles : List String) (lines : List (List Markup)) : Markup :=
  .element .table attributes
    [.element .thead [] [.element .tr [] (titles.map column)], .element .tbody [] (lines.map line)]

def tableSelf (attributes : List Attribute) (titles : List String) (lines : List (List Markup)) : Seen :=
  self .table attributes
    [.element .thead [] [.element .tr [] (titles.map column)], .element .tbody [] (lines.map line)]

def Plain (m : Markup) : Prop := ∀ p, picked p [m] = []

theorem picked_around (p : Seen → Bool) (tag : Tag) (m : Markup) (plain : m.Plain) :
    picked p [.element tag [] [m]] = if p (self tag [] [m]) then [self tag [] [m]] else [] := by
  rw [picked_element, plain p, List.append_nil]

theorem columns_tagged (titles : List String) :
    picked (hasName "th") (titles.map column) = titles.map fun title => self .th [] [.text title] :=
  picked_map _ _ _ titles fun title _ => picked_around _ .th (.text title) fun p => picked_text p title

theorem no_columns (name : String) (other : "th" ≠ name) (titles : List String) :
    picked (hasName name) (titles.map column) = [] := by
  apply picked_none
  rw [List.forall_mem_map]
  intro title _
  have outside : hasName name (self .th [] [.text title]) = false := beq_false_of_ne other
  rw [column, picked_around _ _ _ fun p => picked_text p title, outside]
  rfl

section Lines

variable (cells : List Markup) (plain : ∀ m ∈ cells, m.Plain)

include plain

theorem cells_tagged : (self .tr [] (cells.map fun m => .element .td [] [m])).tagged "td"
    = cells.map fun m => self .td [] [m] := by
  rw [Seen.tagged, picked_self, picked_element]
  exact picked_map _ _ _ cells fun m here => picked_around _ .td m (plain m here)

theorem line_tagged : picked (hasName "tr") [line cells] = [self .tr [] (cells.map fun m => .element .td [] [m])] := by
  have inside : picked (hasName "tr") (cells.map fun m => .element .td [] [m]) = [] := by
    apply picked_none
    rw [List.forall_mem_map]
    exact fun m here => picked_around _ .td m (plain m here)
  rw [line, picked_element, inside]
  rfl

theorem no_line (name : String) (noLine : "tr" ≠ name) (noCell : "td" ≠ name) :
    picked (hasName name) [line cells] = [] := by
  have inside : picked (hasName name) (cells.map fun m => .element .td [] [m]) = [] := by
    apply picked_none
    rw [List.forall_mem_map]
    intro m here
    have outside : hasName name (self .td [] [m]) = false := beq_false_of_ne noCell
    rw [picked_around _ _ _ (plain m here), outside]
    rfl
  have outside : hasName name (self .tr [] (cells.map fun m => .element .td [] [m])) = false := beq_false_of_ne noLine
  rw [line, picked_element, inside, outside]
  rfl

end Lines

section Tables

variable (attributes : List Attribute) (titles : List String) (lines : List (List Markup))
  (plain : ∀ cells ∈ lines, ∀ m ∈ cells, m.Plain)

include plain

theorem table_tagged (name : String) (noLine : "tr" ≠ name) (noCell : "td" ≠ name) :
    picked (hasName name) [tableOf attributes titles lines]
      = (if name = "table" then [tableSelf attributes titles lines] else [])
        ++ ((if name = "thead" then [self .thead [] [.element .tr [] (titles.map column)]] else [])
          ++ picked (hasName name) (titles.map column)
          ++ if name = "tbody" then [self .tbody [] (lines.map line)] else []) := by
  have within : picked (hasName name) (lines.map line) = [] := by
    apply picked_none
    rw [List.forall_mem_map]
    exact fun cells here => no_line cells (plain cells here) name noLine noCell
  have named (tag : Tag) (attributes : List Attribute) (children : List Markup) :
      hasName name (self tag attributes children) = true ↔ name = tag.name := by
    rw [hasName, beq_iff_eq]
    exact eq_comm
  have row : hasName name (self .tr [] (titles.map column)) = false := beq_false_of_ne noLine
  rw [tableOf, picked_element, picked_cons, picked_element, picked_element, picked_element, within, row]
  simp only [named, Tag.name, List.append_nil, Bool.false_eq_true, if_false, List.nil_append, tableSelf]

theorem table_alone :
    picked (hasName "table") [tableOf attributes titles lines] = [tableSelf attributes titles lines] := by
  rw [table_tagged attributes titles lines plain "table" (by decide) (by decide), no_columns "table" (by decide)]
  rfl

theorem table_without (name : String) (control : name ∈ ["input", "select", "textarea"]) :
    picked (hasName name) [tableOf attributes titles lines] = [] := by
  have others : name ≠ "table" ∧ name ≠ "thead" ∧ name ≠ "tbody" ∧ "tr" ≠ name ∧ "th" ≠ name ∧ "td" ≠ name := by
    simp only [List.mem_cons, List.not_mem_nil, or_false] at control
    rcases control with rfl | rfl | rfl <;> decide
  obtain ⟨noTable, noHead, noBody, noLine, noTitle, noCell⟩ := others
  rw [table_tagged attributes titles lines plain name noLine noCell, no_columns name noTitle, if_neg noTable,
    if_neg noHead, if_neg noBody]
  rfl

theorem table_titles : (tableSelf attributes titles lines).tagged "th"
    = titles.map fun title => self .th [] [.text title] := by
  have found := table_tagged attributes titles lines plain "th" (by decide) (by decide)
  rw [tableOf, columns_tagged] at found
  rw [Seen.tagged, tableSelf, picked_self, found]
  exact List.append_nil _

theorem table_body : (tableSelf attributes titles lines).tagged "tbody" = [self .tbody [] (lines.map line)] := by
  have found := table_tagged attributes titles lines plain "tbody" (by decide) (by decide)
  rw [tableOf, no_columns "tbody" (by decide)] at found
  rw [Seen.tagged, tableSelf, picked_self, found]
  rfl

theorem body_tagged : (self .tbody [] (lines.map line)).tagged "tr"
    = lines.map fun cells => self .tr [] (cells.map fun m => .element .td [] [m]) := by
  rw [Seen.tagged, picked_self, picked_element]
  exact picked_map _ _ _ lines fun cells here => line_tagged cells (plain cells here)

end Tables

end Markup

open Markup

namespace Field

theorem text_plain (text : String) : (Markup.text text).Plain := fun p => picked_text p text

def cellTexts (rows : List Row) : List (List String) :=
  rows.map fun row => (columns rows).map fun c => ((Keyed.value? row c).getD .null).asText

theorem data_table_of (f : Field) (rows : List Row) : f.dataTable rows = tableOf
    [.value .classes "data-table", .value .fieldId f.id] (columns rows) ((cellTexts rows).map (·.map .text)) := by
  have titles : (columns rows).map (fun name => .element .th [] [.text name]) = (columns rows).map column := rfl
  have lines : rows.map (fun row => .element .tr [] ((columns rows).map (cell row)))
      = ((cellTexts rows).map (·.map .text)).map line := by
    rw [cellTexts, List.map_map, List.map_map]
    apply List.map_congr_left
    intro row _
    rw [Function.comp_apply, Function.comp_apply, line, List.map_map, List.map_map]
    rfl
  rw [dataTable, titles, lines]
  rfl

theorem table_sketch_of (f : Field) (reason : SketchReason) : f.tableSketch reason = tableOf
    [.value .classes "table-preview", .value .testId "table-preview", .value .fieldId f.id, .value .status reason.name]
    ["Column A", "Column B", "Column C"] [List.replicate 3 (.sign .ellipsis)] := rfl

theorem texts_plain (lines : List (List String)) : ∀ cells ∈ lines.map (·.map Markup.text), ∀ m ∈ cells, m.Plain := by
  rw [List.forall_mem_map]
  intro texts _
  rw [List.forall_mem_map]
  exact fun text _ => text_plain text

theorem sketch_plain : ∀ cells ∈ [List.replicate 3 (Markup.sign .ellipsis)], ∀ m ∈ cells, m.Plain := by
  rw [List.forall_mem_singleton]
  intro m here
  rw [List.eq_of_mem_replicate here]
  exact fun p => rfl

theorem text_inside (tag : Tag) (text : String) : (self tag [] [.text text]).inside = written text := by
  rw [self, Seen.inside, seenAll, seenAll, List.append_nil, seen]

theorem data_table_shown (f : Field) (rows : List Row) : (tableSelf
    [.value .classes "data-table", .value .fieldId f.id] (columns rows) ((cellTexts rows).map (·.map .text))).IsDataTable
      rows := by
  have plain := texts_plain (cellTexts rows)
  refine ⟨rfl, ?_, _, table_body _ _ _ plain, ?_⟩
  · rw [table_titles _ _ _ plain, List.map_map]
    exact List.map_congr_left fun title _ => text_inside .th title
  · have cells (texts : List String) :
        ((self .tr [] ((texts.map Markup.text).map fun m => .element .td [] [m])).tagged "td").map Seen.inside
          = texts.map written := by
      rw [cells_tagged _ (List.forall_mem_map.mpr fun text _ => text_plain text), List.map_map, List.map_map]
      exact List.map_congr_left fun text _ => text_inside .td text
    rw [body_tagged _ plain, List.map_map, List.map_map, cellTexts, List.map_map]
    apply List.map_congr_left
    intro row _
    exact (cells _).trans (List.map_map ..)

theorem preview_shown (f : Field) (reason : SketchReason) : (tableSelf
    [.value .classes "table-preview", .value .testId "table-preview", .value .fieldId f.id, .value .status reason.name]
    ["Column A", "Column B", "Column C"] [List.replicate 3 (.sign .ellipsis)]).IsPreview reason.name := by
  refine ⟨rfl, ?_⟩
  cases reason <;> rfl

def TableFits (state : Option TableState) (m : Markup) : Prop :=
  ∃ attributes titles lines, (∀ cells ∈ lines, ∀ m ∈ cells, m.Plain) ∧ m = tableOf attributes titles lines ∧
    ((∃ rows, state.map TableState.status = some (.loaded rows) ∧ rows ≠ [] ∧
        (tableSelf attributes titles lines).IsDataTable rows) ∨
      ((∀ rows, state.map TableState.status = some (.loaded rows) → rows = []) ∧
        (tableSelf attributes titles lines).IsPreview (Seen.previewStatus state)))

theorem sketch_fits (f : Field) (state : Option TableState) (reason : SketchReason)
    (noRows : ∀ rows, state.map TableState.status = some (.loaded rows) → rows = [])
    (status : Seen.previewStatus state = reason.name) : TableFits state (f.tableSketch reason) :=
  ⟨_, _, _, sketch_plain, f.table_sketch_of reason, .inr ⟨noRows, status ▸ f.preview_shown reason⟩⟩

theorem content_fits (f : Field) (state : Option TableState) : TableFits state (f.tableContent state) := by
  unfold tableContent
  split <;> rename_i status
  · rename_i first rest
    exact ⟨_, _, _, texts_plain _, f.data_table_of _, .inl ⟨_, status, List.cons_ne_nil _ _, f.data_table_shown _⟩⟩
  all_goals
    apply f.sketch_fits
    · intro rows loaded
      cases status.symm.trans loaded <;> rfl
    · rw [Seen.previewStatus, status]
      rfl

theorem table_shown (f : Field) (state : Option TableState) :
    ∃ e, (f.tableView state).seen = [e] ∧ e.ShowsTable state := by
  obtain ⟨attributes, titles, lines, plain, content, shown⟩ := f.content_fits state
  let parts := [.element .span [.value .classes "label"] [.text f.label], f.tableContent state]
  let view := self .div [.value .classes "field table-field"] parts
  have elements (name : String) (outside : name ≠ "div" ∧ name ≠ "span") :
      view.tagged name = picked (hasName name) [tableOf attributes titles lines] := by
    have noDiv : hasName name view = false := beq_false_of_ne outside.1.symm
    have noSpan : hasName name (self .span [.value .classes "label"] [.text f.label]) = false :=
      beq_false_of_ne outside.2.symm
    rw [Seen.tagged, picked_self, picked_element, noDiv, picked_cons, picked_element, noSpan, picked_text, content]
    rfl
  refine ⟨view, rfl, rfl, fun name control => ?_, _, ?_, shown⟩
  · have outside : name ≠ "div" ∧ name ≠ "span" := by
      simp only [List.mem_cons, List.not_mem_nil, or_false] at control
      rcases control with rfl | rfl | rfl <;> decide
    rw [elements name outside, table_without _ _ _ plain name control]
  · rw [elements "table" (by decide), table_alone _ _ _ plain]

end Field

end FormEngine
