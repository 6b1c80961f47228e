import FormEngine.Schema.Form
import FormEngine.Schema.Scalars

set_option autoImplicit false

namespace FormEngine

open Reading

namespace Value

mutual
def height : Value → Nat
  | .list items => heightOfItems items + 1
  | .object entries => heightOfEntries entries + 1
  | _ => 0
def heightOfItems : List Value → Nat
  | [] => 0
  | item :: rest => max (height item) (heightOfItems rest)
def heightOfEntries : List (String × Value) → Nat
  | [] => 0
  | (_, value) :: rest => max (height value) (heightOfEntries rest)
end

end Value

def inQuotes (names : List String) : List String := names.map fun name => "'" ++ name ++ "'"

def Choice.read : Reader Choice := fun origin v => do
  let found ← entries "FieldOption" v
  .ok Choice.mk |> feed (Reading.required origin found "value" "value" text) |> feed (Reading.required origin found "label" "label" text)

def Rules.read : Reader Rules := fun origin v => do
  let found ← entries "FieldValidation" v
  .ok Rules.mk
    |> feed (Reading.optional origin found "minLength" "min_length" none (nullable int))
    |> feed (Reading.optional origin found "maxLength" "max_length" none (nullable int))
    |> feed (Reading.optional origin found "min" "min" none (nullable number))
    |> feed (Reading.optional origin found "max" "max" none (nullable number))
    |> feed (Reading.optional origin found "pattern" "pattern" none (nullable text))
    |> feed (Reading.optional origin found "requiredMessage" "required_message" none (nullable text))

def Method.ofName? (name : String) : Option Method := [Method.get, .post].find? (·.name == name)

def TableApi.read : Reader TableApi := fun origin v => do
  let found ← entries "TableApiConfig" v
  .ok TableApi.mk
    |> feed (Reading.optional origin found "url" "url" "" text)
    |> feed (Reading.optional origin found "method" "method" .get (word Method.ofName? (inQuotes ["GET", "POST"])))
    |> feed (Reading.optional origin found "headers" "headers" [] (dictionary text))
    |> feed (Reading.optional origin found "body" "body" none (nullable text))

def TableApi.readTable : Reader TableApi := fun origin v => do
  let found ← entries "TableConfig" v
  Reading.optional origin found "api" "api" .unset TableApi.read

def Currency.read : Reader Currency := fun origin v => do
  let found ← entries "CurrencyConfig" v
  .ok Currency.mk
    |> feed (Reading.required origin found "code" "code" text)
    |> feed (Reading.optional origin found "locale" "locale" none (nullable text))
    |> feed (Reading.optional origin found "min" "min" none (nullable number))
    |> feed (Reading.optional origin found "max" "max" none (nullable number))

def Scale.read : Reader Scale := fun origin v => do
  let found ← entries "RangeConfig" v
  .ok Scale.mk
    |> feed (Reading.optional origin found "min" "min" .zero number)
    |> feed (Reading.optional origin found "max" "max" (.ofInt 100) number)
    |> feed (Reading.optional origin found "step" "step" none (nullable number))
    |> feed (Reading.optional origin found "showValue" "show_value" none (nullable bool))

def TagRules.read : Reader TagRules := fun origin v => do
  let found ← entries "TagsConfig" v
  .ok TagRules.mk
    |> feed (Reading.optional origin found "separator" "separator" none (nullable text))
    |> feed (Reading.optional origin found "maxTags" "max_tags" none (nullable int))

def HeadingLevel.read : Reader HeadingLevel := fun _ v =>
  let number? : Option Int := match v with
    | .int n => some n
    | .bool b => some (if b then 1 else 0)
    | .float x => x.toInt?
    | _ => none
  match [HeadingLevel.one, .two, .three].find? fun level => number? == some (level.number : Int) with
  | some level => .ok level
  | none => fault (.choice ["1", "2", "3"]) v

def Heading.read : Reader Heading := fun origin v => do
  let found ← entries "HeadingConfig" v
  .ok Heading.mk
    |> feed (Reading.required origin found "text" "text" Reading.text)
    |> feed (Reading.optional origin found "level" "level" .two HeadingLevel.read)

def Condition.read : Reader Condition := fun origin v => do
  let found ← entries "VisibilityCondition" v
  .ok Condition.mk
    |> feed (Reading.required origin found "whenField" "when_field" text)
    |> feed (Reading.required origin found "operator" "operator"
        (word Operator.ofName? (inQuotes (Operator.all.map Operator.name))))
    |> feed (Reading.optional origin found "value" "value" .null fun _ v => .ok v)

def Basics.read (origin : Origin) (found : List (String × Value)) : Reading Basics :=
  .ok Basics.mk
    |> feed (Reading.required origin found "id" "id" text)
    |> feed (Reading.optional origin found "name" "name" none (nullable text))
    |> feed (Reading.optional origin found "label" "label" "" text)
    |> feed (Reading.optional origin found "placeholder" "placeholder" none (nullable text))
    |> feed (Reading.optional origin found "required" "required" false bool)
    |> feed (Reading.optional origin found "validation" "validation" none (nullable Rules.read))

def FieldKind.names : List String := all.map name

def Field.readEntries (origin : Origin) (found : List (String × Value)) : Reading Field :=
  .ok Field.mk
    |> feed (Basics.read origin found)
    |> feed (Reading.required origin found "type" "type" (word FieldKind.ofName? (inQuotes FieldKind.names)))
    |> feed (Reading.optional origin found "options" "options" none (nullable (list Choice.read)))
    |> feed (Reading.optional origin found "table" "table" none (nullable TableApi.readTable))
    |> feed (Reading.optional origin found "mask" "mask" none (nullable text))
    |> feed (Reading.optional origin found "currency" "currency" none (nullable Currency.read))
    |> feed (Reading.optional origin found "range" "range" none (nullable Scale.read))
    |> feed (Reading.optional origin found "tags" "tags" none (nullable TagRules.read))
    |> feed (Reading.optional origin found "heading" "heading" none (nullable Heading.read))

def Field.read : Reader Field := fun origin v => do
  let found ← entries "FormField" v
  Field.readEntries origin found

namespace Node

def tagKey : String := "type"

def tagNames : List String := FieldKind.names ++ [groupName]

def readTag (origin : Origin) (v : Value) : Except Fault (List (String × Value) × String) :=
  match v with
  | .object found =>
      match Keyed.value? found tagKey with
      | none => .error ⟨[], .tagMissing tagKey, v⟩
      | some tag =>
          let known := match tag with
            | .text name => tagNames.contains name
            | _ => false
          if known then .ok (found, tag.shown)
          else .error ⟨[], .tagUnknown tagKey tag.shown (inQuotes tagNames), v⟩
  | _ => .error ⟨[], if origin = .document then .dictionary else .attributes, v⟩

def readGroup (child : Reader Node) (origin : Origin) (found : List (String × Value)) : Reading Node :=
  .ok (fun basics (_ : Unit) children condition => Node.group ⟨basics, condition⟩ children)
    |> feed (Basics.read origin found)
    |> feed (Reading.optional origin found "type" "type" ()
        (word (fun name => if name = groupName then some () else none) (inQuotes [groupName])))
    |> feed (Reading.optional origin found "children" "children" [] (list child))
    |> feed (Reading.optional origin found "condition" "condition" none (nullable Condition.read))

-- A node from a value; the tag is a step of the path of its faults. The fuel bounds how deep groups nest.
def readDeep : Nat → Reader Node
  | 0 => fun _ v => fault .attributes v
  | fuel + 1 => fun origin v =>
      match readTag origin v with
      | .error wrong => .error [wrong]
      | .ok (found, tag) =>
          below (.key tag) (if tag = groupName then readGroup (readDeep fuel) origin found
            else (Field.readEntries origin found).map .field)

end Node

def Form.read : Reader Form := fun origin v => do
  let found ← entries "FormSchema" v
  .ok Form.mk
    |> feed (Reading.optional origin found "formTitle" "form_title" "Untitled Form" text)
    |> feed (Reading.optional origin found "fields" "fields" [] (list (Node.readDeep v.height)))

structure Place where
  parent : Option String
  index : Int
deriving DecidableEq

def Place.read : Reader Place := fun origin v => do
  let found ← entries "FieldPath" v
  .ok Place.mk
    |> feed (Reading.optional origin found "parentId" "parent_id" none (nullable text))
    |> feed (Reading.required origin found "index" "index" int)

end FormEngine
