import FormEngine.Tables.Source

set_option autoImplicit false

namespace FormEngine

abbrev Exchange := Option (Call × Answer)

def TableApi.exchange (a : TableApi) (patience : Value) (n : Network) : Exchange :=
  (a.call? patience).map fun call => (call, (n.send call).1.answer)

def Exchange.outcome : Exchange → Except FetchError (List Row)
  | none => .error .noUrl
  | some (_, answer) => answer.rows

inductive TableNote where
  | asked (field : String) (api : TableApi)
  | begun (load : Nat) (field : String) (api : TableApi)
  | forgotten (field : String)
  | fetched (load : Nat) (api : TableApi) (exchange : Exchange)
  | turned (load : Nat) (ending : TableSource.Ending)
deriving DecidableEq

namespace TableNote

def stand (field : String) (before : Option (Nat × TableApi)) : TableNote → Option (Nat × TableApi)
  | .begun load name api => if name = field then some (load, api) else before
  | .forgotten name => if name = field then none else before
  | _ => before

def standing (notes : List TableNote) (field : String) : Option (Nat × TableApi) := notes.foldl (stand field) none

def want (field : String) (before : Option TableApi) : TableNote → Option TableApi
  | .asked name api => if name = field then some api else before
  | .forgotten name => if name = field then none else before
  | _ => before

def wanted (notes : List TableNote) (field : String) : Option TableApi := notes.foldl (want field) none

def begun? : TableNote → Option Nat
  | .begun load _ _ => some load
  | _ => none

def numbers (notes : List TableNote) : List Nat := notes.filterMap begun?

def fetchedBy? (load : Nat) : TableNote → Option (TableApi × Exchange)
  | .fetched number api exchange => if number = load then some (api, exchange) else none
  | _ => none

def fetches (notes : List TableNote) (load : Nat) : List (TableApi × Exchange) := notes.filterMap (fetchedBy? load)

def call? : TableNote → Option Call
  | .fetched _ _ exchange => exchange.map (·.1)
  | _ => none

def calls (notes : List TableNote) : List Call := notes.filterMap call?

def Supersedes (field : String) : TableNote → Prop
  | .begun _ name _ => name = field
  | .forgotten name => name = field
  | _ => False

-- Whether, since a load was begun, its field was forgotten or another load begun for it.
def Superseded (notes : List TableNote) (load : Nat) : Prop :=
  ∃ before field api after, notes = before ++ .begun load field api :: after ∧ ∃ note ∈ after, note.Supersedes field

end TableNote

structure TableHistory where
  source : TableSource
  network : Network
  notes : List TableNote

namespace TableHistory

def new (patience : Value) (network : Network) : TableHistory := ⟨TableSource.new patience, network, []⟩

def request (h : TableHistory) (field : String) (api : TableApi) : TableHistory :=
  let known := (h.source.state? field).any (·.fingerprint == api.fingerprint)
  { h with
    source := (h.source.request field api).2
    notes := h.notes ++ .asked field api :: if known then [] else [.begun h.source.begun field api] }

def discard (h : TableHistory) (field : String) : TableHistory :=
  { h with source := h.source.discard field, notes := h.notes ++ [.forgotten field] }

def fetching (h : TableHistory) (load : Nat) : List TableNote :=
  match h.source.load? load with
  | none => []
  | some l =>
      match l.phase, l.cancelled with
      | .fresh, false => [.fetched load l.api (l.api.exchange h.source.patience h.network)]
      | _, _ => []

def start (heeding : Bool) (h : TableHistory) (load : Nat) : TableHistory :=
  let (source, network) := h.source.start heeding load h.network
  { source := source, network := network, notes := h.notes ++ h.fetching load }

def release (h : TableHistory) (gate : Nat) : TableHistory := { h with source := (h.source.release gate).2 }

def finish (h : TableHistory) (load : Nat) : TableHistory :=
  let (ending, source) := h.source.finish load
  { h with source := source, notes := h.notes ++ [.turned load ending] }

def retain (h : TableHistory) (fields : List String) : TableHistory := (h.source.dropped fields).foldl discard h

def releaseAll (h : TableHistory) : TableHistory := h.source.closedGates.foldl release h

def startAll (heeding : Bool) (h : TableHistory) : TableHistory := h.source.freshLoads.foldl (start heeding) h

def finishAll (h : TableHistory) : TableHistory := (h.source.loads.map Load.number).foldl finish h

def settle (heeding : Bool) (h : TableHistory) : TableHistory := (h.startAll heeding).finishAll

def wait (h : TableHistory) : TableHistory := h.releaseAll.settle false

def resolve (h : TableHistory) (field : String) (api : TableApi) : TableHistory :=
  let h := h.releaseAll.request field api
  if Keyed.has h.source.tasks field then h.settle false else h

-- What can happen. A wait or a resolve that other things come between is the request it begins with, if any, and
-- those things.
inductive Event where
  | request (field : String) (api : TableApi)
  | discard (field : String)
  | retain (fields : List String)
  | wait
  | resolve (field : String) (api : TableApi)
  | start (heeding : Bool) (load : Nat)
  | release (gate : Nat)
  | finish (load : Nat)

def step (h : TableHistory) : Event → TableHistory
  | .request field api => h.request field api
  | .discard field => h.discard field
  | .retain fields => h.retain fields
  | .wait => h.wait
  | .resolve field api => h.resolve field api
  | .start heeding load => h.start heeding load
  | .release gate => h.release gate
  | .finish load => h.finish load

def run (h : TableHistory) (events : List Event) : TableHistory := events.foldl step h

def Event.apply (s : TableSource) (n : Network) : Event → TableSource × Network
  | .request field api => ((s.request field api).2, n)
  | .discard field => (s.discard field, n)
  | .retain fields => (s.retain fields, n)
  | .wait => s.wait n
  | .resolve field api => (s.resolve field api n).2
  | .start heeding load => s.start heeding load n
  | .release gate => ((s.release gate).2, n)
  | .finish load => ((s.finish load).2, n)

end TableHistory

end FormEngine
