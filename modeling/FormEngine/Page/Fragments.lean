import FormEngine.Page.Elements
import FormEngine.Page.FormPage

set_option autoImplicit false

namespace FormEngine

namespace Seen

def hasName (name : String) (s : Seen) : Bool := s.name == name

def tagged (name : String) (s : Seen) : List Seen := s.elements.filter (hasName name)

def IsHeading (s : Seen) : Prop :=
  ∃ name ∈ ["h1", "h2", "h3"], ∃ text, s = .element name [] (Markup.written text)

def IsRule (s : Seen) : Prop := s = .element "hr" [] []

structure IsDataTable (rows : List Row) (s : Seen) : Prop where
  kind : s.attribute? "class" = some "data-table"
  titles : (s.tagged "th").map inside = (columns rows).map Markup.written
  body : ∃ body, s.tagged "tbody" = [body] ∧
    (body.tagged "tr").map (fun line => (line.tagged "td").map inside)
      = rows.map fun row => (columns rows).map fun c => Markup.written ((Keyed.value? row c).getD .null).asText

structure IsPreview (status : String) (s : Seen) : Prop where
  kind : s.attribute? "class" = some "table-preview"
  status : s.attribute? "data-status" = some status

def previewStatus (state : Option TableState) : String :=
  match state.map TableState.status with
  | some (.failed _) => "failed"
  | some (.loaded _) => "empty"
  | some .pending | none => "pending"

structure ShowsTable (state : Option TableState) (s : Seen) : Prop where
  frame : s.name = "div"
  noControl : ∀ name ∈ ["input", "select", "textarea"], s.tagged name = []
  table : ∃ table, s.tagged "table" = [table] ∧
    ((∃ rows, state.map TableState.status = some (.loaded rows) ∧ rows ≠ [] ∧ table.IsDataTable rows) ∨
      ((∀ rows, state.map TableState.status = some (.loaded rows) → rows = []) ∧ table.IsPreview (previewStatus state)))

def isControl (s : Seen) : Bool :=
  ["input", "textarea", "select"].contains s.name || (s.name == "div" && s.classes.contains "radio-group".toList)

def controlName : FieldKind → String
  | .textarea => "textarea"
  | .select => "select"
  | .radio => "div"
  | _ => "input"

def isFor (s : Seen) : Bool := (s.attribute? "for").isSome

def hasId (id : String) (s : Seen) : Bool := s.attribute? "id" == some (Markup.escaped id)

structure Asks (kind : FieldKind) (id : String) (s : Seen) : Prop where
  frame : s.name = "div"
  label : ∃ label, s.elements.filter isFor = [label] ∧ label.name = "label" ∧
    label.attribute? "for" = some (Markup.escaped id)
  control : ∃ control, s.elements.filter (hasId id) = [control] ∧ control.name = controlName kind ∧
    s.elements.filter isControl = control :: (if kind = .radio then control.tagged "input" else [])

mutual
-- What stands in fieldsets and outside them, without the legends.
def leaves : Seen → List Seen
  | .char c => [.char c]
  | .element name attributes inside =>
      if name = "fieldset" then leavesOf inside
      else if name = "legend" then []
      else [.element name attributes inside]
def leavesOf : List Seen → List Seen
  | [] => []
  | s :: rest => leaves s ++ leavesOf rest
end

end Seen

def Field.Renders (tables : TableSource) (f : Field) (s : Seen) : Prop :=
  match f.kind with
  | .heading => s.IsHeading
  | .divider => s.IsRule
  | .table => s.ShowsTable (tables.state? f.id)
  | kind => s.Asks kind f.id

-- What is to be seen of a list of nodes.
inductive Session.Shows (s : Session) (tables : TableSource) : List Node → List Seen → Prop where
  | nil : Shows s tables [] []
  | hidden (n : Node) (rest : List Node) (views : List Seen) (hidden : s.isVisible n.id = false)
      (others : Shows s tables rest views) : Shows s tables (n :: rest) views
  | field (f : Field) (rest : List Node) (fragment : Seen) (views : List Seen) (shown : s.isVisible f.id = true)
      (renders : f.Renders tables fragment) (others : Shows s tables rest views) :
      Shows s tables (.field f :: rest) (fragment :: views)
  | group (g : Group) (children rest : List Node) (inside views : List Seen) (shown : s.isVisible g.id = true)
      (inner : Shows s tables children inside) (others : Shows s tables rest views) :
      Shows s tables (.group g children :: rest)
        (.element "fieldset" [("class", some "group"), ("id", some (Markup.escaped g.id))]
          (.element "legend" [] (Markup.written g.label) :: inside) :: views)

def Seen.formPage (title : String) (views : List Seen) : List Seen :=
  [.element "html" []
    [.element "head" [] [.element "title" [] (Markup.written title), .element "style" [] (styleSheet.toList.map .char)],
     .element "body" [] [.element "div" [("class", some "form-body")]
       [.element "h1" [] (Markup.written title),
        .element "form" [("novalidate", none)]
          (views ++ [.element "button" [("type", some "submit")] (Markup.written "Submit")])]]]]

end FormEngine
