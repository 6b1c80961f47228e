import FormEngine.Page.CanvasPage

set_option autoImplicit false

namespace FormEngine

inductive TableLook where
  | sketch (reason : SketchReason)
  | data (columns rows : Nat)
deriving DecidableEq

def tableLook (state : Option TableState) : TableLook :=
  match state.map TableState.status with
  | some (.loaded (first :: rest)) => .data (columns (first :: rest)).length (first :: rest).length
  | some (.loaded []) => .sketch .empty
  | some (.failed _) => .sketch .failed
  | some .pending | none => .sketch .pending

structure FieldLook where
  kind : FieldKind
  required : Bool := false
  hinted : Bool := false
  detailed : Bool := false
  scale : Option Bool := none
  heading : Option HeadingLevel := none
  checked : Bool := false
  marks : List Bool := []
  wrong : Bool := false
  table : Option TableLook := none
deriving DecidableEq

def isWritten (text : Option String) : Bool := (text.filter (· != "")).isSome

namespace Field

def marks (f : Field) (v : Value) : List Bool := (f.choices.getD []).map fun c => v.asText == c.value

def look (f : Field) (v : Value) (wrong : Bool) (table : TableLook) : FieldLook :=
  match f.kind with
  | .heading => { kind := f.kind, heading := f.heading.map Heading.level }
  | .divider => { kind := f.kind }
  | .table => { kind := f.kind, table := some table }
  | .textarea => { kind := f.kind, required := f.required, hinted := isWritten f.placeholder, wrong := wrong }
  | .checkbox | .switch => { kind := f.kind, required := f.required, checked := v.toBool, wrong := wrong }
  | .radio => { kind := f.kind, marks := f.marks v, wrong := wrong }
  | .select => { kind := f.kind, required := f.required, marks := f.marks v, wrong := wrong }
  | .range => { kind := f.kind, scale := f.scale.map (·.step.isSome), wrong := wrong }
  | .masked =>
      { kind := f.kind, required := f.required, hinted := isWritten f.placeholder, detailed := isWritten f.mask,
        wrong := wrong }
  | .currency =>
      { kind := f.kind, required := f.required, hinted := isWritten f.placeholder, detailed := f.currency.isSome,
        wrong := wrong }
  | _ => { kind := f.kind, required := f.required, hinted := isWritten f.placeholder, wrong := wrong }

def sketchLook (f : Field) : FieldLook :=
  match f.kind with
  | .heading => { kind := f.kind, heading := f.heading.map Heading.level }
  | .divider | .table => { kind := f.kind }
  | _ => { kind := f.kind, hinted := isWritten f.placeholder }

end Field

-- How a page shows nodes: which of them, by their ids, and what is to be seen of a field.
structure Sight where
  shown : String → Bool
  look : Field → FieldLook

namespace Sight

mutual
-- Two nodes of the same shape, of which there is the same to be seen; nothing is to be seen inside a hidden group.
def Alike (a b : Sight) : Node → Node → Prop
  | .field f, .field g => a.shown f.id = b.shown g.id ∧ (a.shown f.id → a.look f = b.look g)
  | .group g children, .group h others => a.shown g.id = b.shown h.id ∧ (a.shown g.id → AlikeAll a b children others)
  | _, _ => False
def AlikeAll (a b : Sight) : List Node → List Node → Prop
  | [], [] => True
  | n :: rest, m :: others => Alike a b n m ∧ AlikeAll a b rest others
  | _, _ => False
end

def canvas : Sight := ⟨fun _ => true, Field.sketchLook⟩

end Sight

namespace Session

def look (s : Session) (tables : TableSource) (f : Field) : FieldLook :=
  f.look (s.shownValue f.toBasics) (isWritten (Keyed.value? s.errors f.id)) (tableLook (tables.state? f.id))

def sight (s : Session) (tables : TableSource) : Sight := ⟨s.isVisible, s.look tables⟩

end Session

end FormEngine
