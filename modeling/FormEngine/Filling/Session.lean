import FormEngine.Filling.Submission

set_option autoImplicit false

namespace FormEngine

structure Session where
  form : Form
  values : Keyed Value
  listeners : Nat
  attempted : Bool
  visibility : Keyed Bool
  errors : Keyed String

-- What a submission leads to: messages in the form, or a payload that every listener gets, in order.
inductive Delivery where
  | blocked
  | sent (payload : Keyed Value) (received : List (Nat × Keyed Value))

namespace Session

-- Brings visibility and messages up to date. After a breakdown the messages are those of before.
def recompute (s : Session) : Session × Option Breakdown :=
  let s := { s with visibility := visibilityOf s.form.nodes s.values }
  if s.attempted then
    match validateShown s.form.nodes s.values s.visibility with
    | .ok errors => ({ s with errors := errors }, none)
    | .error why => (s, some why)
  else (s, none)

def start (form : Form) (values : Keyed Value) (listeners : Nat) : Session :=
  (recompute ⟨form, values, listeners, false, [], []⟩).1

def replaceForm (s : Session) (form : Form) : Session × Option Breakdown := { s with form := form }.recompute

def setValue (s : Session) (key : String) (value : Value) : Session × Option Breakdown :=
  { s with values := Keyed.put s.values key value }.recompute

def setValues (s : Session) (values : Keyed Value) : Session × Option Breakdown :=
  { s with values := Keyed.putAll s.values values }.recompute

def listen (s : Session) : Session := { s with listeners := s.listeners + 1 }

def isVisible (s : Session) (id : String) : Bool := shows s.visibility id

def visibleFields (s : Session) : List Field := FormEngine.visibleFields s.form.nodes s.visibility

def visibleTables (s : Session) : List Field := s.visibleFields.filter (·.kind == .table)

def validate (s : Session) : Session × Option Breakdown := { s with attempted := true }.recompute

def submit (s : Session) : Session × Except Breakdown Delivery :=
  match s.validate with
  | (s, some why) => (s, .error why)
  | (s, none) =>
      if s.errors.isEmpty then
        let payload := payloadShown s.form.nodes s.values s.visibility
        (s, .ok (.sent payload ((List.range s.listeners).map (·, payload))))
      else (s, .ok .blocked)

end Session

end FormEngine
