import FormEngine.Data.Value

set_option autoImplicit false

namespace FormEngine

inductive FieldKind where
  | text | textarea | number | checkbox | radio | select | date | table | masked | email | currency | range | switch
  | tags | heading | divider
deriving DecidableEq

namespace FieldKind

def all : List FieldKind :=
  [.text, .textarea, .number, .checkbox, .radio, .select, .date, .table, .masked, .email, .currency, .range, .switch,
   .tags, .heading, .divider]

def name : FieldKind → String
  | .text => "text"
  | .textarea => "textarea"
  | .number => "number"
  | .checkbox => "checkbox"
  | .radio => "radio"
  | .select => "select"
  | .date => "date"
  | .table => "table"
  | .masked => "masked"
  | .email => "email"
  | .currency => "currency"
  | .range => "range"
  | .switch => "switch"
  | .tags => "tags"
  | .heading => "heading"
  | .divider => "divider"

def ofName? (name : String) : Option FieldKind := all.find? (·.name == name)

def displayOnly : FieldKind → Bool
  | .heading | .divider => true
  | _ => false

def isBoolean : FieldKind → Bool
  | .checkbox | .switch => true
  | _ => false

def isNumeric : FieldKind → Bool
  | .number | .currency | .range => true
  | _ => false

def isChoice : FieldKind → Bool
  | .radio | .select => true
  | _ => false

end FieldKind

def groupName : String := "group"

structure Choice where
  value : String
  label : String
deriving DecidableEq

structure Rules where
  minLength : Option Int
  maxLength : Option Int
  min : Option Binary64
  max : Option Binary64
  pattern : Option String
  requiredMessage : Option String
deriving DecidableEq

inductive Method where
  | get
  | post
deriving DecidableEq

def Method.name : Method → String
  | .get => "GET"
  | .post => "POST"

structure TableApi where
  url : String
  method : Method
  headers : Keyed String
  body : Option String
deriving DecidableEq

def TableApi.unset : TableApi := ⟨"", .get, [], none⟩

structure Currency where
  code : String
  locale : Option String
  min : Option Binary64
  max : Option Binary64
deriving DecidableEq

structure Scale where
  min : Binary64
  max : Binary64
  step : Option Binary64
  showValue : Option Bool
deriving DecidableEq

structure TagRules where
  separator : Option String
  maxTags : Option Int
deriving DecidableEq

inductive HeadingLevel where
  | one
  | two
  | three
deriving DecidableEq

def HeadingLevel.number : HeadingLevel → Nat
  | .one => 1
  | .two => 2
  | .three => 3

structure Heading where
  text : String
  level : HeadingLevel
deriving DecidableEq

inductive Operator where
  | equals | notEquals | greaterThan | greaterOrEqual | lessThan | lessOrEqual | contains | notContains
deriving DecidableEq

namespace Operator

def all : List Operator :=
  [.equals, .notEquals, .greaterThan, .greaterOrEqual, .lessThan, .lessOrEqual, .contains, .notContains]

def name : Operator → String
  | .equals => "equals"
  | .notEquals => "notEquals"
  | .greaterThan => "greaterThan"
  | .greaterOrEqual => "greaterOrEqual"
  | .lessThan => "lessThan"
  | .lessOrEqual => "lessOrEqual"
  | .contains => "contains"
  | .notContains => "notContains"

def ofName? (name : String) : Option Operator := all.find? (·.name == name)

end Operator

structure Condition where
  whenField : String
  operator : Operator
  value : Value
deriving DecidableEq

structure Basics where
  id : String
  name : Option String
  label : String
  placeholder : Option String
  required : Bool
  rules : Option Rules
deriving DecidableEq

structure Field extends Basics where
  kind : FieldKind
  choices : Option (List Choice)
  table : Option TableApi
  mask : Option String
  currency : Option Currency
  scale : Option Scale
  tags : Option TagRules
  heading : Option Heading
deriving DecidableEq

structure Group extends Basics where
  condition : Option Condition
deriving DecidableEq

inductive Node where
  | field (f : Field)
  | group (g : Group) (children : List Node)

def Basics.alias? (b : Basics) : Option String := b.name.filter (· != "")

def Basics.payloadKey (b : Basics) : String := b.alias?.getD b.id

namespace Node

def basics : Node → Basics
  | .field f => f.toBasics
  | .group g _ => g.toBasics

def id (n : Node) : String := n.basics.id

def isGroup : Node → Bool
  | .field _ => false
  | .group _ _ => true

def typeName : Node → String
  | .field f => f.kind.name
  | .group _ _ => groupName

def children : Node → List Node
  | .field _ => []
  | .group _ children => children

mutual
def nodes : Node → List Node
  | .field f => [.field f]
  | .group g children => .group g children :: nodesOf children
-- All nodes of a list and inside it, in document order, each group before what it encloses.
def nodesOf : List Node → List Node
  | [] => []
  | n :: rest => nodes n ++ nodesOf rest
end

def idsOf (nodes : List Node) : List String := (nodesOf nodes).map Node.id

def ids (n : Node) : List String := (nodes n).map Node.id

end Node

structure Form where
  title : String
  nodes : List Node

end FormEngine
