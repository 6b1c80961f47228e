import FormEngine.Data.Finite
import FormEngine.Json.Complaint
import FormEngine.Json.Encoding
import FormEngine.Schema.Fault

set_option autoImplicit false

namespace FormEngine

inductive Body where
  | empty
  | value (v : Value)
  | bytes (content : List UInt8)

structure Request where
  method : String
  path : String
  body : Body

inductive Response where
  | json (status : Nat) (content : Value)
  | text (status : Nat) (content : String)

namespace Response

def status : Response → Nat
  | .json status _ => status
  | .text status _ => status

def bare (r : Response) : Response := .text r.status ""

def internalError : Response := .text 500 "Internal Server Error"

def reply (status : Nat) (content : Value) : Response :=
  if content.isFinite then .json status content else internalError

def refuse (status : Nat) (detail : Value) : Response := reply status (.object [("detail", detail)])

def refuseText (status : Nat) (detail : String) : Response := refuse status (.text detail)

end Response

def reservedStart : List Char := ['_', 's', 'a']

def isReserved (key : String) : Bool := reservedStart.isPrefixOf key.toList

namespace Value

mutual
def sendable : Value → Value
  | .list items => .list (sendableItems items)
  | .object entries => .object (sendableEntries entries)
  | value => value
def sendableItems : List Value → List Value
  | [] => []
  | item :: rest => sendable item :: sendableItems rest
def sendableEntries : List (String × Value) → List (String × Value)
  | [] => []
  | (key, value) :: rest =>
      if isReserved key then sendableEntries rest else (key, sendable value) :: sendableEntries rest
end

end Value

def Response.ok (content : Value) : Response := .reply 200 content.sendable

def Step.value : Step → Value
  | .key name => .text name
  | .index n => .int n

-- A fault as an answer lists it; what was expected is repeated when there were only certain words to choose from.
def Fault.toValue (origin : Origin) (fault : Fault) : Value :=
  let context : List (String × Value) := match fault.cause with
    | .choice expected => [("ctx", .object [("expected", .text (alternatives expected))])]
    | _ => []
  .object ([("type", .text (fault.cause.code origin)), ("loc", .list (fault.path.map Step.value)),
    ("msg", .text (fault.cause.message origin)), ("input", fault.input)] ++ context)

def Response.unreadable (faults : List Value) : Response := .refuse 422 (Value.list faults).sendable

def Response.faulty (faults : List Fault) : Response := .unreadable (faults.map (Fault.toValue .request))

namespace Body

def limits (halves : Bool) : Json.Limits := ⟨100000, halves⟩

def garbled : Response := .refuseText 400 "There was an error parsing the body"

def parse (content : List UInt8) : Except Response Value :=
  match Json.decode content with
  | none => .error garbled
  | some text =>
      match Json.readDocument (limits true) text with
      | .ok v => .ok v
      | .error failure =>
          match failure.problem with
          | .longNumber => .error garbled
          | _ =>
              let (message, offset) := failure.requestText text
              .error (.unreadable [.object
                [("type", .text "json_invalid"), ("loc", .list [.text "body", .int offset]),
                 ("msg", .text "JSON decode error"), ("input", .object []),
                 ("ctx", .object [("error", .text message)])]])

def value? : Body → Except Response (Option Value)
  | .empty => .ok none
  | .value v => .ok (if v = .null then none else some v)
  | .bytes content =>
      if content.isEmpty then .ok none else (parse content).map fun v => if v = .null then none else some v

-- No half of a surrogate pair stands by itself where the reader comes to it: such a text no String holds.
def Whole : Body → Prop
  | .bytes content =>
      ∀ text ∈ Json.decode content, Json.readDocument (limits true) text = Json.readDocument (limits false) text
  | _ => True

def read {α : Type} (body : Body) (reader : Origin → Value → Reading α) : Except Response α :=
  match body.value? with
  | .error response => .error response
  | .ok none => .error (.faulty [⟨[.key "body"], .missing, .null⟩])
  | .ok (some v) =>
      match Reading.below (.key "body") (reader .request v) with
      | .ok x => .ok x
      | .error faults => .error (.faulty faults)

end Body

def percentDecode : List UInt8 → List UInt8
  | a :: b :: c :: rest =>
      match a == 0x25, Json.hexDigit? (.char (Char.ofNat b.toNat)), Json.hexDigit? (.char (Char.ofNat c.toNat)) with
      | true, some high, some low => (high * 16 + low).toUInt8 :: percentDecode rest
      | _, _, _ => a :: percentDecode (b :: c :: rest)
  | short => short

def Request.target (r : Request) : String :=
  let bare := r.path.toList.takeWhile fun c => c != '?' && c != '#'
  Json.textOf (Json.sourceOfBytes (percentDecode (String.ofList bare).toUTF8.toList))

def Request.verb (r : Request) : String := String.ofList (r.method.toList.map Char.toUpper)

def segments (target : String) : List String :=
  match Numeral.splitAtChar '/' target.toList with
  | [] :: parts => parts.map String.ofList
  | _ => []

end FormEngine
