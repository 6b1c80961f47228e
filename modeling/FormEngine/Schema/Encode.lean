import FormEngine.Data.Finite
import FormEngine.Json.Writer
import FormEngine.Schema.Form

set_option autoImplicit false

namespace FormEngine

inductive Style where
  | document
  | plain
deriving DecidableEq

structure Slot where
  key : String
  plain : String
  value : Option Value

def Slot.same (name : String) (value : Option Value) : Slot := ⟨name, name, value⟩

namespace Style

def record (style : Style) (slots : List Slot) : Value :=
  match style with
  | .document => .object (slots.filterMap fun slot => slot.value.map (slot.key, ·))
  | .plain => .object (slots.map fun slot => (slot.plain, slot.value.getD .null))

def free (style : Style) (value : Value) : Option Value :=
  match style, value with
  | _, .null => none
  | .document, value => some value.finiteOnly
  | .plain, value => some value

end Style

def Choice.slots (c : Choice) : List Slot :=
  [.same "value" (some (.text c.value)), .same "label" (some (.text c.label))]

def Choice.toValue (style : Style) (c : Choice) : Value := style.record c.slots

def Rules.slots (r : Rules) : List Slot :=
  [⟨"minLength", "min_length", r.minLength.map .int⟩, ⟨"maxLength", "max_length", r.maxLength.map .int⟩,
   .same "min" (r.min.map .float), .same "max" (r.max.map .float), .same "pattern" (r.pattern.map .text),
   ⟨"requiredMessage", "required_message", r.requiredMessage.map .text⟩]

def Rules.toValue (style : Style) (r : Rules) : Value := style.record r.slots

def TableApi.slots (a : TableApi) : List Slot :=
  [.same "url" (some (.text a.url)), .same "method" (some (.text a.method.name)),
   .same "headers" (some (.object (Keyed.mapValues .text a.headers))), .same "body" (a.body.map .text)]

def TableApi.toValue (style : Style) (a : TableApi) : Value := style.record a.slots

def TableApi.tableValue (style : Style) (a : TableApi) : Value := style.record [.same "api" (some (a.toValue style))]

def Currency.slots (c : Currency) : List Slot :=
  [.same "code" (some (.text c.code)), .same "locale" (c.locale.map .text), .same "min" (c.min.map .float),
   .same "max" (c.max.map .float)]

def Currency.toValue (style : Style) (c : Currency) : Value := style.record c.slots

def Scale.slots (s : Scale) : List Slot :=
  [.same "min" (some (.float s.min)), .same "max" (some (.float s.max)), .same "step" (s.step.map .float),
   ⟨"showValue", "show_value", s.showValue.map .bool⟩]

def Scale.toValue (style : Style) (s : Scale) : Value := style.record s.slots

def TagRules.slots (t : TagRules) : List Slot :=
  [.same "separator" (t.separator.map .text), ⟨"maxTags", "max_tags", t.maxTags.map .int⟩]

def TagRules.toValue (style : Style) (t : TagRules) : Value := style.record t.slots

def Heading.slots (h : Heading) : List Slot :=
  [.same "text" (some (.text h.text)), .same "level" (some (.int h.level.number))]

def Heading.toValue (style : Style) (h : Heading) : Value := style.record h.slots

def Condition.slots (style : Style) (c : Condition) : List Slot :=
  [⟨"whenField", "when_field", some (.text c.whenField)⟩, .same "operator" (some (.text c.operator.name)),
   .same "value" (style.free c.value)]

def Condition.toValue (style : Style) (c : Condition) : Value := style.record (c.slots style)

def Basics.slots (style : Style) (b : Basics) : List Slot :=
  [.same "id" (some (.text b.id)), .same "name" (b.name.map .text), .same "label" (some (.text b.label)),
   .same "placeholder" (b.placeholder.map .text), .same "required" (some (.bool b.required)),
   .same "validation" (b.rules.map (·.toValue style))]

def Field.slots (style : Style) (f : Field) : List Slot :=
  f.toBasics.slots style ++
    [.same "type" (some (.text f.kind.name)),
     .same "options" (f.choices.map fun all => .list (all.map (·.toValue style))),
     .same "table" (f.table.map (·.tableValue style)), .same "mask" (f.mask.map .text),
     .same "currency" (f.currency.map (·.toValue style)), .same "range" (f.scale.map (·.toValue style)),
     .same "tags" (f.tags.map (·.toValue style)), .same "heading" (f.heading.map (·.toValue style))]

def Group.slots (style : Style) (g : Group) (children : Value) : List Slot :=
  g.toBasics.slots style ++
    [.same "type" (some (.text groupName)), .same "children" (some children),
     .same "condition" (g.condition.map (·.toValue style))]

namespace Node

mutual
def toValue (style : Style) : Node → Value
  | .field f => style.record (f.slots style)
  | .group g children => style.record (g.slots style (.list (toValues style children)))
def toValues (style : Style) : List Node → List Value
  | [] => []
  | n :: rest => toValue style n :: toValues style rest
end

end Node

mutual
-- How many values enclose one another at the deepest place, the innermost one among them.
def Value.levels : Value → Nat
  | .list items => Value.levelsOfItems items + 1
  | .object entries => Value.levelsOfEntries entries + 1
  | _ => 1
def Value.levelsOfItems : List Value → Nat
  | [] => 0
  | item :: rest => max item.levels (Value.levelsOfItems rest)
def Value.levelsOfEntries : List (String × Value) → Nat
  | [] => 0
  | (_, value) :: rest => max value.levels (Value.levelsOfEntries rest)
end

def Condition.levels (c : Condition) : Nat := if c.value = .null then 0 else c.value.levels

namespace Node

mutual
def levels : Node → Nat
  | .field _ => 1
  | .group g children => max ((g.condition.map Condition.levels).getD 0) (levelsOf children) + 1
def levelsOf : List Node → Nat
  | [] => 0
  | n :: rest => max (levels n) (levelsOf rest)
end

-- So deep does the serializer go into nodes and into the values that conditions compare with.
def levelLimit : Nat := 255

def Shallow (nodes : List Node) : Prop := levelsOf nodes ≤ levelLimit

instance (nodes : List Node) : Decidable (Shallow nodes) := inferInstanceAs (Decidable (levelsOf nodes ≤ levelLimit))

end Node

def Form.slots (style : Style) (f : Form) : List Slot :=
  [⟨"formTitle", "form_title", some (.text f.title)⟩, .same "fields" (some (.list (Node.toValues style f.nodes)))]

def Form.toValue (style : Style) (f : Form) : Value := style.record (f.slots style)

def Form.exportText (f : Form) : String := Json.document (f.toValue .document)

end FormEngine
