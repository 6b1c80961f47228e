import FormEngine.Page.FormPage

set_option autoImplicit false

namespace FormEngine

def Field.sketch (f : Field) : Markup :=
  match f.kind with
  | .table => f.tableSketch .empty
  | .heading => f.headingView
  | .divider => .void .hr []
  | _ => .void .input ([.value .type "text", .flag .disabled] ++ f.hint)

namespace Node

def canvasItem (selected : Option String) (n : Node) (preview : Markup) : Markup :=
  .element .div
    [.value .classes (if selected = some n.id then "canvas-item selected" else "canvas-item"),
     .value .fieldId n.id, .value .fieldType n.typeName]
    [.element .span [.value .classes "canvas-label"] [.text n.basics.label], preview]

mutual
def canvasView (selected : Option String) : Node → Markup
  | .field f => canvasItem selected (.field f) f.sketch
  | .group g children =>
      canvasItem selected (.group g children)
        (.element .div [.value .classes "canvas-children"] (canvasViews selected children))
def canvasViews (selected : Option String) : List Node → List Markup
  | [] => []
  | n :: rest => canvasView selected n :: canvasViews selected rest
end

end Node

def Form.canvasPage (f : Form) (selected : Option String) : String :=
  page f.title (.element .h1 [] [.text f.title] :: Node.canvasViews selected f.nodes)

end FormEngine
