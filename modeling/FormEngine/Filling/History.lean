import FormEngine.Tables.History
import FormEngine.Tables.Sync

set_option autoImplicit false

namespace FormEngine

structure LiveForm where
  session : Session
  tables : TableSource
  network : Network

namespace LiveForm

inductive Op where
  | setValue (key : String) (value : Value)
  | setValues (values : Keyed Value)
  | replaceForm (form : Form)
  | listen
  | validate
  | submit
  | refreshTables
  | syncTables
  | rows (event : TableHistory.Event)

def Op.form (before : Form) : Op → Form
  | .replaceForm form => form
  | _ => before

def Op.values (before : Keyed Value) : Op → Keyed Value
  | .setValue key value => Keyed.put before key value
  | .setValues values => Keyed.putAll before values
  | _ => before

def Op.attempts : Op → Bool
  | .validate | .submit => true
  | _ => false

def keep (l : LiveForm) (s : Session) : LiveForm := { l with session := s }

def withRows (l : LiveForm) (rows : TableSource × Network) : LiveForm :=
  { l with tables := rows.1, network := rows.2 }

def step (l : LiveForm) : Op → LiveForm
  | .setValue key value => l.keep (l.session.setValue key value).1
  | .setValues values => l.keep (l.session.setValues values).1
  | .replaceForm form => l.keep (l.session.replaceForm form).1
  | .listen => l.keep l.session.listen
  | .validate => l.keep l.session.validate.1
  | .submit => l.keep l.session.submit.1
  | .refreshTables => l.withRows (l.session.refreshTables l.tables, l.network)
  | .syncTables => l.withRows (l.session.syncTables l.tables l.network)
  | .rows event => l.withRows (event.apply l.tables l.network)

def run (l : LiveForm) (ops : List Op) : LiveForm := ops.foldl step l

end LiveForm

structure FormHistory where
  form : Form
  values : Keyed Value
  listeners : Nat
  tables : TableSource
  network : Network
  ops : List LiveForm.Op

namespace FormHistory

def opened (h : FormHistory) : LiveForm := ⟨Session.start h.form h.values h.listeners, h.tables, h.network⟩

def session (h : FormHistory) : Session := (h.opened.run h.ops).session

end FormHistory

end FormEngine
