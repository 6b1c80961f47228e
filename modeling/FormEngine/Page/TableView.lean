import FormEngine.Page.Markup
import FormEngine.Tables.Source

set_option autoImplicit false

namespace FormEngine

inductive SketchReason where
  | empty
  | pending
  | failed
deriving DecidableEq

def SketchReason.name : SketchReason → String
  | .empty => "empty"
  | .pending => "pending"
  | .failed => "failed"

namespace Field

def tableSketch (f : Field) (reason : SketchReason) : Markup :=
  .element .table
    [.value .classes "table-preview", .value .testId "table-preview", .value .fieldId f.id, .value .status reason.name]
    [.element .thead []
      [.element .tr [] (["Column A", "Column B", "Column C"].map fun title => .element .th [] [.text title])],
     .element .tbody [] [.element .tr [] (List.replicate 3 (.element .td [] [.sign .ellipsis]))]]

def cell (row : Row) (column : String) : Markup :=
  .element .td [] [.text ((Keyed.value? row column).getD .null).asText]

def dataTable (f : Field) (rows : List Row) : Markup :=
  let names := columns rows
  .element .table [.value .classes "data-table", .value .fieldId f.id]
    [.element .thead [] [.element .tr [] (names.map fun name => .element .th [] [.text name])],
     .element .tbody [] (rows.map fun row => .element .tr [] (names.map (cell row)))]

def tableContent (f : Field) (state : Option TableState) : Markup :=
  match state.map TableState.status with
  | some (.loaded (first :: rest)) => f.dataTable (first :: rest)
  | some (.loaded []) => f.tableSketch .empty
  | some (.failed _) => f.tableSketch .failed
  | some .pending | none => f.tableSketch .pending

def tableView (f : Field) (state : Option TableState) : Markup :=
  .element .div [.value .classes "field table-field"]
    [.element .span [.value .classes "label"] [.text f.label], f.tableContent state]

end Field

end FormEngine
