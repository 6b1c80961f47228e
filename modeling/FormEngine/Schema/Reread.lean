import FormEngine.Json.Reread
import FormEngine.Schema.Decode
import FormEngine.Schema.Encode

set_option autoImplicit false

namespace FormEngine

def Binary64.back? (x : Binary64) : Option Binary64 := if x.isFinite then some x.reread else none

def Rules.back (r : Rules) : Rules := { r with min := r.min.bind Binary64.back?, max := r.max.bind Binary64.back? }

def TableApi.back (a : TableApi) : TableApi := { a with headers := Keyed.putAll [] a.headers }

def Currency.back (c : Currency) : Currency :=
  { c with min := c.min.bind Binary64.back?, max := c.max.bind Binary64.back? }

def Scale.back? (s : Scale) : Option Scale :=
  match s.min.back?, s.max.back? with
  | some min, some max => some { s with min := min, max := max, step := s.step.bind Binary64.back? }
  | _, _ => none

def Condition.back (c : Condition) : Condition := { c with value := c.value.finiteOnly.reread }

def Basics.back (b : Basics) : Basics := { b with rules := b.rules.map Rules.back }

def Field.withScale (f : Field) (scale : Option Scale) : Field :=
  { f with toBasics := f.toBasics.back, table := f.table.map TableApi.back, currency := f.currency.map Currency.back,
           scale := scale }

def Field.back? (f : Field) : Option Field :=
  match f.scale with
  | none => some (f.withScale none)
  | some scale => scale.back?.map fun scale => f.withScale (some scale)

def Group.back (g : Group) : Group :=
  { g with toBasics := g.toBasics.back, condition := g.condition.map Condition.back }

namespace Node

mutual
def back? : Node → Option Node
  | .field f => f.back?.map .field
  | .group g children => (backs? children).map (.group g.back)
def backs? : List Node → Option (List Node)
  | [] => some []
  | n :: rest => (back? n).bind fun n => (backs? rest).map (n :: ·)
end

end Node

def Form.back? (f : Form) : Option Form := (Node.backs? f.nodes).map (Form.mk f.title)

end FormEngine
