import FormEngine.Filling.Session
import FormEngine.Page.Control
import FormEngine.Page.Layout
import FormEngine.Page.TableView

set_option autoImplicit false

namespace FormEngine

def HeadingLevel.tag : HeadingLevel → Tag
  | .one => .h1
  | .two => .h2
  | .three => .h3

def Field.headingView (f : Field) : Markup :=
  match f.heading with
  | some h => .element h.level.tag [] [.text h.text]
  | none => .element .h2 [] [.text f.label]

namespace Session

def shownValue (s : Session) (b : Basics) : Value :=
  match (Keyed.value? s.values b.id).filter (· != .null) with
  | some value => value
  | none => (b.alias?.bind (Keyed.value? s.values)).getD .null

def errorView (s : Session) (id : String) : List Markup :=
  match (Keyed.value? s.errors id).filter (· != "") with
  | some message => [.element .p [.value .classes "error", .value .id (id ++ "-error")] [.text message]]
  | none => []

def inputView (s : Session) (f : Field) : Markup :=
  .element .div [.value .classes "field"]
    (.element .label [.value .labelFor f.id] [.text f.label] :: f.control (s.shownValue f.toBasics) :: s.errorView f.id)

def fieldView (s : Session) (tables : TableSource) (f : Field) : Markup :=
  match f.kind with
  | .heading => f.headingView
  | .divider => .void .hr []
  | .table => f.tableView (tables.state? f.id)
  | _ => s.inputView f

mutual
def nodeView (s : Session) (tables : TableSource) : Node → List Markup
  | .field f => if s.isVisible f.id then [s.fieldView tables f] else []
  | .group g children =>
      if s.isVisible g.id then
        [.element .fieldset [.value .classes "group", .value .id g.id]
          (.element .legend [] [.text g.label] :: nodeViews s tables children)]
      else []
def nodeViews (s : Session) (tables : TableSource) : List Node → List Markup
  | [] => []
  | n :: rest => nodeView s tables n ++ nodeViews s tables rest
end

def formPage (s : Session) (tables : TableSource) : String :=
  page s.form.title
    [.element .h1 [] [.text s.form.title],
     .element .form [.flag .novalidate]
       (s.nodeViews tables s.form.nodes ++ [.element .button [.value .type "submit"] [.text "Submit"]])]

end Session

end FormEngine
