import FormEngine.Filling.History

set_option autoImplicit false

namespace FormEngine

namespace Session

def tableIds (s : Session) : List String := s.visibleTables.map (·.id)

def refresh (s : Session) (h : TableHistory) : TableHistory :=
  s.visibleTables.foldl (fun h f => h.request f.id f.tableApi) (h.retain s.tableIds)

end Session

def TableSource.awaited (s : TableSource) : List Nat :=
  (s.tasks.filter fun task => (s.load? task.2).isSome).map (·.2)

namespace TableHistory

inductive LoadStep where
  | start (heeding : Bool) (load : Nat)
  | release (gate : Nat)
  | finish (load : Nat)

def LoadStep.event : LoadStep → Event
  | .start heeding load => .start heeding load
  | .release gate => .release gate
  | .finish load => .finish load

def advance (h : TableHistory) (steps : List LoadStep) : TableHistory := h.run (steps.map LoadStep.event)

-- What can come between while a form waits.
inductive Meanwhile where
  | refreshed (other : Session)
  | load (step : LoadStep)

def pass (h : TableHistory) : Meanwhile → TableHistory
  | .refreshed other => other.refresh h
  | .load step => h.step step.event

def passAll (h : TableHistory) (meanwhile : List Meanwhile) : TableHistory := meanwhile.foldl pass h

def Meanwhile.latest (first : Session) (meanwhile : List Meanwhile) : Session :=
  meanwhile.foldl (fun last now => match now with
    | .refreshed other => other
    | .load _ => last) first

def Ended (h : TableHistory) (awaited : List Nat) : Prop := ∀ load ∈ awaited, h.source.load? load = none

end TableHistory

structure NotedForm where
  session : Session
  tables : TableHistory

namespace NotedForm

def opened (form : Form) (values : Keyed Value) (listeners : Nat) (patience : Value) (network : Network) : NotedForm :=
  ⟨Session.start form values listeners, TableHistory.new patience network⟩

def live (n : NotedForm) : LiveForm := ⟨n.session, n.tables.source, n.tables.network⟩

def step (n : NotedForm) : LiveForm.Op → NotedForm
  | .refreshTables => { n with tables := n.session.refresh n.tables }
  | .syncTables => { n with tables := (n.session.refresh n.tables).wait }
  | .rows event => { n with tables := n.tables.step event }
  | op => { n with session := (n.live.step op).session }

def run (n : NotedForm) (ops : List LiveForm.Op) : NotedForm := ops.foldl step n

end NotedForm

namespace LiveForm.Op

-- Nobody but the form asks for rows or gives them up: what else happens to the source are the steps of its loads.
def Own : LiveForm.Op → Prop
  | .rows event => ∃ step : TableHistory.LoadStep, event = step.event
  | _ => True

def Refreshes : LiveForm.Op → Prop
  | .refreshTables | .syncTables => True
  | _ => False

end LiveForm.Op

end FormEngine
