import FormEngine.Json.Reader
import FormEngine.Schema.Form

set_option autoImplicit false

namespace FormEngine

abbrev Row := Keyed Value

structure Call where
  method : Method
  url : String
  headers : Keyed String
  data : Option String
  patience : Value
deriving DecidableEq

inductive Answer where
  | response (status : Int) (body : String)
  | unreachable (message : String)
  | breakdown (kind message : String)
deriving DecidableEq

structure Reply where
  answer : Answer
  held : Bool
deriving DecidableEq

structure Network where
  routes : Keyed (List Reply)
  calls : List Call

-- Makes a call. Each call takes the next reply of its address, and the last one stays.
def Network.send (n : Network) (call : Call) : Reply × Network :=
  let n := { n with calls := n.calls ++ [call] }
  match Keyed.value? n.routes call.url with
  | some (reply :: next :: more) => (reply, { n with routes := Keyed.put n.routes call.url (next :: more) })
  | some [reply] => (reply, n)
  | _ => (⟨.unreachable ("no route to " ++ call.url), false⟩, n)

inductive FetchError where
  | noUrl
  | unreachable (message : String)
  | status (code : Int) (body : String)
  | notJson
  | notList
  | notObjects
  | breakdown (kind message : String)
deriving DecidableEq

def shownBody : Nat := 400

def FetchError.message : FetchError → String
  | .noUrl => "table api url is not configured"
  | .unreachable message => "request failed: " ++ message
  | .status code body => toString code ++ " " ++ String.ofList (body.toList.take shownBody)
  | .notJson => "response is not JSON"
  | .notList => "expected a JSON array of objects"
  | .notObjects => "expected every row to be a JSON object"
  | .breakdown _ message => message

def refusedFrom : Int := 400

def bodyLimits : Json.Limits := ⟨100000, true⟩

def Value.row? : Value → Option Row
  | .object entries => some entries
  | _ => none

def readRows (body : String) : Except FetchError (List Row) :=
  match Json.readDocument bodyLimits (Json.source body) with
  | .error _ => .error .notJson
  | .ok (.list items) =>
      match items.mapM Value.row? with
      | some rows => .ok rows
      | none => .error .notObjects
  | .ok _ => .error .notList

def Answer.rows : Answer → Except FetchError (List Row)
  | .response status body => if refusedFrom ≤ status then .error (.status status body) else readRows body
  | .unreachable message => .error (.unreachable message)
  | .breakdown kind message => .error (.breakdown kind message)

def columns : List Row → List String
  | [] => []
  | first :: _ => Keyed.names first

def defaultPatience : Value := .float (.ofInt 15)

-- The call for a table; none is made for a blank address. Only what is posted carries data.
def TableApi.call? (a : TableApi) (patience : Value) : Option Call :=
  if Text.isBlankText a.url then none
  else some ⟨a.method, a.url, a.headers, if a.method = .post then a.body.filter (· != "") else none, patience⟩

structure Fetched where
  outcome : Except FetchError (List Row)
  held : Bool

def TableApi.fetch (a : TableApi) (patience : Value) (n : Network) : Fetched × Network :=
  match a.call? patience with
  | none => (⟨.error .noUrl, false⟩, n)
  | some call => let (reply, n) := n.send call; (⟨reply.answer.rows, reply.held⟩, n)

end FormEngine
