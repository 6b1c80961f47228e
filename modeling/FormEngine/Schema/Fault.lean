import FormEngine.Data.Value

set_option autoImplicit false

namespace FormEngine

inductive Step where
  | key (name : String)
  | index (n : Nat)
deriving DecidableEq

def Step.text : Step → String
  | .key name => name
  | .index n => toString n

inductive Origin where
  | values
  | document
  | request
deriving DecidableEq

inductive FaultCause where
  | missing
  | text
  | bool
  | boolReading
  | int
  | intReading
  | intFraction
  | intSize
  | finite
  | number
  | numberReading
  | list
  | dictionary
  | model (name : String)
  | attributes
  | choice (expected : List String)
  | tagMissing (key : String)
  | tagUnknown (key tag : String) (expected : List String)
deriving DecidableEq

structure Fault where
  path : List Step
  cause : FaultCause
  input : Value
deriving DecidableEq

def alternatives : List String → String
  | [] => ""
  | [only] => only
  | [a, b] => a ++ " or " ++ b
  | a :: rest => a ++ ", " ++ alternatives rest

namespace FaultCause

def code (origin : Origin) : FaultCause → String
  | .missing => "missing"
  | .text => "string_type"
  | .bool => "bool_type"
  | .boolReading => "bool_parsing"
  | .int => "int_type"
  | .intReading => "int_parsing"
  | .intFraction => "int_from_float"
  | .intSize => "int_parsing_size"
  | .finite => "finite_number"
  | .number => "float_type"
  | .numberReading => "float_parsing"
  | .list => "list_type"
  | .dictionary => "dict_type"
  | .model _ => if origin = .request then "model_attributes_type" else "model_type"
  | .attributes => "model_attributes_type"
  | .choice _ => "literal_error"
  | .tagMissing _ => "union_tag_not_found"
  | .tagUnknown _ _ _ => "union_tag_invalid"

def message (origin : Origin) : FaultCause → String
  | .missing => "Field required"
  | .text => "Input should be a valid string"
  | .bool => "Input should be a valid boolean"
  | .boolReading => "Input should be a valid boolean, unable to interpret input"
  | .int => "Input should be a valid integer"
  | .intReading => "Input should be a valid integer, unable to parse string as an integer"
  | .intFraction => "Input should be a valid integer, got a number with a fractional part"
  | .intSize => "Unable to parse input string as an integer, exceeded maximum size"
  | .finite => "Input should be a finite number"
  | .number => "Input should be a valid number"
  | .numberReading => "Input should be a valid number, unable to parse string as a number"
  | .list => if origin = .document then "Input should be a valid array" else "Input should be a valid list"
  | .dictionary => if origin = .document then "Input should be an object" else "Input should be a valid dictionary"
  | .model name => match origin with
      | .document => "Input should be an object"
      | .request => "Input should be a valid dictionary or object to extract fields from"
      | .values => "Input should be a valid dictionary or instance of " ++ name
  | .attributes =>
      if origin = .document then "Input should be an object"
      else "Input should be a valid dictionary or object to extract fields from"
  | .choice expected => "Input should be " ++ alternatives expected
  | .tagMissing key => "Unable to extract tag using discriminator '" ++ key ++ "'"
  | .tagUnknown key tag expected =>
      "Input tag '" ++ tag ++ "' found using '" ++ key ++ "' does not match any of the expected tags: "
        ++ ", ".intercalate expected

end FaultCause

def Fault.line (origin : Origin) (fault : Fault) : String :=
  let place := ".".intercalate (fault.path.map Step.text)
  let message := fault.cause.message origin
  if place = "" then message else place ++ ": " ++ message

def Fault.firstLine (origin : Origin) : List Fault → String
  | [] => ""
  | fault :: _ => fault.line origin

abbrev Reading (α : Type) := Except (List Fault) α

namespace Reading

variable {α β : Type}

def fault (cause : FaultCause) (input : Value) : Reading α := .error [⟨[], cause, input⟩]

-- Gives what is built so far its next part; the faults of both are kept, those of what comes first in front.
def feed (x : Reading α) (f : Reading (α → β)) : Reading β :=
  match f, x with
  | .ok f, .ok x => .ok (f x)
  | .ok _, .error later => .error later
  | .error earlier, .ok _ => .error earlier
  | .error earlier, .error later => .error (earlier ++ later)

def below (step : Step) (x : Reading α) : Reading α :=
  x.mapError fun faults => faults.map fun f => { f with path := step :: f.path }

def items (read : Value → Reading α) : Nat → List Value → Reading (List α)
  | _, [] => .ok []
  | n, item :: rest => (below (.index n) (read item)).map List.cons |> feed (items read (n + 1) rest)

def members (read : Value → Reading α) : List (String × Value) → Reading (Keyed α)
  | [] => .ok []
  | (key, value) :: rest => ((below (.key key) (read value)).map fun x more => (key, x) :: more) |> feed (members read rest)

end Reading

end FormEngine
