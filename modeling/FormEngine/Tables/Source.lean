import FormEngine.Tables.Fetch
import FormEngine.Tables.Fingerprint

set_option autoImplicit false

namespace FormEngine

inductive TableStatus where
  | pending
  | loaded (rows : List Row)
  | failed (error : FetchError)
deriving DecidableEq

structure TableState where
  fingerprint : String
  load : Nat
  status : TableStatus
deriving DecidableEq

namespace TableState

def rows (s : TableState) : List Row :=
  match s.status with
  | .loaded rows => rows
  | _ => []

def hasRows (s : TableState) : Bool := !s.rows.isEmpty

def error? (s : TableState) : Option String :=
  match s.status with
  | .failed error => some error.message
  | _ => none

def isPending (s : TableState) : Bool := s.status == .pending

end TableState

inductive Phase where
  | fresh
  | called (outcome : Except FetchError (List Row)) (gate : Option Nat)

structure Load where
  number : Nat
  field : String
  fingerprint : String
  api : TableApi
  phase : Phase
  cancelled : Bool

-- All states by field id, the number of the load that counts for each field, the loads that have not ended from the
-- oldest to the newest, and how many loads and gates there have been.
structure TableSource where
  states : Keyed TableState
  tasks : Keyed Nat
  loads : List Load
  begun : Nat
  gates : Nat
  patience : Value

namespace Load

def cancel (l : Load) : Load := { l with cancelled := true }

def called (l : Load) (outcome : Except FetchError (List Row)) (gate : Option Nat) : Load :=
  { l with phase := .called outcome gate }

def isFresh (l : Load) : Bool :=
  match l.phase with
  | .fresh => true
  | .called _ _ => false

def gate? (l : Load) : Option Nat :=
  match l.phase with
  | .called _ gate => gate
  | .fresh => none

def openGate (gate : Nat) (l : Load) : Load :=
  match l.phase with
  | .called outcome (some g) => if g = gate then l.called outcome none else l
  | _ => l

end Load

namespace TableSource

def new (patience : Value) : TableSource := ⟨[], [], [], 0, 0, patience⟩

def state? (s : TableSource) (field : String) : Option TableState := Keyed.value? s.states field

def load? (s : TableSource) (number : Nat) : Option Load := s.loads.find? (·.number == number)

def changeLoad (s : TableSource) (number : Nat) (change : Load → Load) : TableSource :=
  { s with loads := s.loads.map fun l => if l.number = number then change l else l }

def endLoad (s : TableSource) (number : Nat) : TableSource :=
  { s with loads := s.loads.filter (·.number != number) }

def inFlight (s : TableSource) : Nat := (s.tasks.filter fun task => (s.load? task.2).isSome).length

def cancel (s : TableSource) (field : String) : TableSource :=
  match Keyed.value? s.tasks field with
  | none => s
  | some number => { s with tasks := Keyed.without s.tasks field }.changeLoad number Load.cancel

def begin (s : TableSource) (field : String) (api : TableApi) : TableState × TableSource :=
  let s := s.cancel field
  let state : TableState := ⟨api.fingerprint, s.begun, .pending⟩
  (state,
   { s with
     states := Keyed.put s.states field state
     tasks := Keyed.put s.tasks field s.begun
     loads := s.loads ++ [⟨s.begun, field, api.fingerprint, api, .fresh, false⟩]
     begun := s.begun + 1 })

def request (s : TableSource) (field : String) (api : TableApi) : TableState × TableSource :=
  match s.state? field with
  | some state => if state.fingerprint = api.fingerprint then (state, s) else s.begin field api
  | none => s.begin field api

def discard (s : TableSource) (field : String) : TableSource :=
  let s := s.cancel field
  { s with states := Keyed.without s.states field }

def dropped (s : TableSource) (fields : List String) : List String :=
  (Keyed.names s.states).filter (!fields.contains ·)

def retain (s : TableSource) (fields : List String) : TableSource := (s.dropped fields).foldl discard s

-- Starts a load: its call is made, and a gate if the answer is held back and that is heeded. One that was called off
-- before ends at once.
def start (heeding : Bool) (s : TableSource) (number : Nat) (n : Network) : TableSource × Network :=
  match s.load? number with
  | none => (s, n)
  | some l =>
      match l.phase with
      | .called _ _ => (s, n)
      | .fresh =>
          if l.cancelled then (s.endLoad number, n)
          else
            let (fetched, n) := l.api.fetch s.patience n
            if heeding && fetched.held then
              ({ s.changeLoad number (·.called fetched.outcome (some s.gates)) with gates := s.gates + 1 }, n)
            else (s.changeLoad number (·.called fetched.outcome none), n)

def statusOf : Except FetchError (List Row) → TableStatus
  | .ok rows => .loaded rows
  | .error error => .failed error

def leave (s : TableSource) (l : Load) : TableSource :=
  if Keyed.value? s.tasks l.field = some l.number then { s with tasks := Keyed.without s.tasks l.field } else s

def isStale (s : TableSource) (l : Load) : Bool :=
  match s.state? l.field with
  | none => true
  | some state => state.fingerprint != l.fingerprint

def settleState (s : TableSource) (l : Load) (outcome : Except FetchError (List Row)) : TableSource :=
  { s with states := Keyed.put s.states l.field ⟨l.fingerprint, l.number, statusOf outcome⟩ }

inductive Ending where
  | waiting
  | cancelled
  | stored
  | stale
deriving DecidableEq

-- Finishes a load that has its answer and no closed gate before it, or that was called off.
def finish (s : TableSource) (number : Nat) : Ending × TableSource :=
  match s.load? number with
  | none => (.waiting, s)
  | some l =>
      match l.phase with
      | .fresh => (.waiting, s)
      | .called outcome gate =>
          let ended := (s.leave l).endLoad number
          if l.cancelled then (.cancelled, ended)
          else if gate.isSome then (.waiting, s)
          else if ended.isStale l then (.stale, ended)
          else (.stored, ended.settleState l outcome)

def release (s : TableSource) (gate : Nat) : Bool × TableSource :=
  (s.loads.any fun l => !l.cancelled && l.gate? == some gate, { s with loads := s.loads.map (Load.openGate gate) })

def closedGates (s : TableSource) : List Nat := s.loads.filterMap Load.gate?

def releaseAll (s : TableSource) : TableSource := s.closedGates.foldl (fun s gate => (s.release gate).2) s

def freshLoads (s : TableSource) : List Nat := (s.loads.filter Load.isFresh).map Load.number

def startAll (heeding : Bool) (s : TableSource) (n : Network) : TableSource × Network :=
  s.freshLoads.foldl (fun (s, n) number => s.start heeding number n) (s, n)

def finishAll (s : TableSource) : TableSource :=
  (s.loads.map Load.number).foldl (fun s number => (s.finish number).2) s

def settle (heeding : Bool) (s : TableSource) (n : Network) : TableSource × Network :=
  let (s, n) := s.startAll heeding n
  (s.finishAll, n)

def wait (s : TableSource) (n : Network) : TableSource × Network := s.releaseAll.settle false n

def resolve (s : TableSource) (field : String) (api : TableApi) (n : Network) :
    TableState × TableSource × Network :=
  let (state, s) := s.releaseAll.request field api
  let (s, n) := if Keyed.has s.tasks field then s.settle false n else (s, n)
  ((s.state? field).getD state, s, n)

end TableSource

def Field.tableApi (f : Field) : TableApi := f.table.getD .unset

end FormEngine
