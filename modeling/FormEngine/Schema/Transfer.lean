import FormEngine.Schema.Decode
import FormEngine.Schema.Encode

set_option autoImplicit false

namespace FormEngine

-- A way for values, and how it ends for values of each kind. The members of a record are safe: no two of them have one
-- name, and no name begins with an underscore.
structure Transfer where
  origin : Origin
  carry : Value → Value
  number : Binary64 → Option Binary64
  texts : Keyed String → Keyed String
  null : carry .null = .null
  bool : ∀ b, carry (.bool b) = .bool b
  int : ∀ n, carry (.int n) = .int n
  text : ∀ s, carry (.text s) = .text s
  float : ∀ x, carry (.float x) = ((number x).map .float).getD .null
  list : ∀ items, carry (.list items) = .list (items.map carry)
  record : ∀ entries, (Keyed.names entries).Nodup → (∀ key ∈ Keyed.names entries, key.toList.head? ≠ some '_') →
    carry (.object entries) = .object (Keyed.mapValues carry entries)
  textMap : ∀ m, carry (.object (Keyed.mapValues .text m)) = .object (Keyed.mapValues .text (texts m))

variable (t : Transfer)

def Rules.arrived (r : Rules) : Rules := { r with min := r.min.bind t.number, max := r.max.bind t.number }

def TableApi.arrived (a : TableApi) : TableApi := { a with headers := t.texts a.headers }

def Currency.arrived (c : Currency) : Currency := { c with min := c.min.bind t.number, max := c.max.bind t.number }

def Scale.arrived? (s : Scale) : Option Scale :=
  match t.number s.min, t.number s.max with
  | some min, some max => some { s with min := min, max := max, step := s.step.bind t.number }
  | _, _ => none

def Condition.arrived (c : Condition) : Condition := { c with value := t.carry c.value.finiteOnly }

def Basics.arrived (b : Basics) : Basics := { b with rules := b.rules.map (·.arrived t) }

def Field.arrivedWith (f : Field) (scale : Option Scale) : Field :=
  { f with toBasics := f.toBasics.arrived t, table := f.table.map (·.arrived t),
           currency := f.currency.map (·.arrived t), scale := scale }

def Field.arrived? (f : Field) : Option Field :=
  match f.scale with
  | none => some (f.arrivedWith t none)
  | some scale => (scale.arrived? t).map fun scale => f.arrivedWith t (some scale)

def Group.arrived (g : Group) : Group :=
  { g with toBasics := g.toBasics.arrived t, condition := g.condition.map (·.arrived t) }

namespace Node

mutual
def arrived? : Node → Option Node
  | .field f => (f.arrived? t).map .field
  | .group g children => (arrivedAll? children).map (.group (g.arrived t))
def arrivedAll? : List Node → Option (List Node)
  | [] => some []
  | n :: rest => (arrived? n).bind fun n => (arrivedAll? rest).map (n :: ·)
end

end Node

def Form.arrived? (f : Form) : Option Form := (Node.arrivedAll? t f.nodes).map (Form.mk f.title)

end FormEngine
