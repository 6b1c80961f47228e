import FormEngine.Filling.Validation

set_option autoImplicit false

namespace FormEngine

def Field.coerce (f : Field) (v : Value) : Value :=
  if f.kind.isBoolean then .bool v.toBool
  else if f.kind.isNumeric then
    if v.isEmpty then .null
    else match v.toNumber with
      | some x => Value.ofNumber x
      | none => .null
  else v

def deliver (index : Keyed Value) (payload : Keyed Value) (f : Field) : Keyed Value :=
  if f.kind.displayOnly then payload else Keyed.put payload f.payloadKey (f.coerce (heldValue index f))

-- The values of the fields that a map of visibility shows, whether they are valid or not.
def payloadShown (nodes : List Node) (values : Keyed Value) (visibility : Keyed Bool) : Keyed Value :=
  (visibleFields nodes visibility).foldl (deliver (valueIndex nodes values)) []

def payload (nodes : List Node) (values : Keyed Value) : Keyed Value :=
  payloadShown nodes values (visibilityOf nodes values)

inductive Submission where
  | rejected (errors : Keyed String)
  | accepted (payload : Keyed Value)

def submit (form : Form) (values : Keyed Value) : Except Breakdown Submission := do
  let errors ← validate form.nodes values
  return if errors.isEmpty then .accepted (payload form.nodes values) else .rejected errors

end FormEngine
