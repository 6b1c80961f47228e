import FormEngine.Builder.Ident
import FormEngine.Builder.Tree
import FormEngine.Json.Complaint
import FormEngine.Schema.Decode
import FormEngine.Schema.Encode

set_option autoImplicit false

namespace FormEngine

inductive EditError where
  | unknownType (name : String)
  | unknownAttribute (isGroup : Bool) (name : String)
  | typeChange (current : String) (wanted : Value)
  | invalid (faults : List Fault)
  | blankId
  | duplicateId (patched : String)
  | notAnOrder
  | unknownSource (id : String)
  | unknownTarget (id : String)
  | sourceRange (index : Int)
  | targetRange (index : Int)
  | intoItself
  | unknownSelection (id : String)
  | unreadablePlace (faults : List Fault)
  | noFreeId

inductive ImportError where
  | unreadable (text : Json.Source) (failure : Json.Failure)
  | invalid (origin : Origin) (faults : List Fault)
  | blankId
  | duplicateId (id : String)

def recordName (isGroup : Bool) : String := if isGroup then "GroupField" else "FormField"

def EditError.message : EditError → String
  | .unknownType name => "unknown field type: " ++ name
  | .unknownAttribute isGroup name => "unknown attribute for " ++ recordName isGroup ++ ": " ++ name
  | .typeChange current wanted => "field type cannot change (" ++ current ++ " -> " ++ wanted.shown ++ ")"
  | .invalid faults => Fault.firstLine .values faults
  | .blankId => "field id must not be empty"
  | .duplicateId patched => "patch for " ++ patched ++ " would duplicate a field id"
  | .notAnOrder => "new order must be a permutation of the top-level fields"
  | .unknownSource id => "unknown source group: " ++ id
  | .unknownTarget id => "unknown target group: " ++ id
  | .sourceRange index => "source index out of range: " ++ toString index
  | .targetRange index => "target index out of range: " ++ toString index
  | .intoItself => "a group cannot be moved into itself or one of its descendants"
  | .unknownSelection id => "cannot select unknown field: " ++ id
  | .unreadablePlace faults => Fault.firstLine .values faults
  | .noFreeId => "no free field id"

def ImportError.message : ImportError → String
  | .unreadable text failure => failure.importText text
  | .invalid origin faults => Fault.firstLine origin faults
  | .blankId => "field id must not be empty"
  | .duplicateId id => "duplicate field id: " ++ id

namespace FieldKind

def defaultLabel : FieldKind → String
  | .text => "Text"
  | .textarea => "Textarea"
  | .number => "Number"
  | .checkbox => "Checkbox"
  | .radio => "Radio Group"
  | .select => "Select"
  | .date => "Date"
  | .table => "Table"
  | .masked => "Masked"
  | .email => "Email"
  | .currency => "Currency"
  | .range => "Slider"
  | .switch => "Switch"
  | .tags => "Tags"
  | .heading => "Heading"
  | .divider => "Divider"

def defaultPlaceholder : FieldKind → Option String
  | .text => some "Enter text"
  | .textarea => some "Enter long text"
  | .number => some "0"
  | .date => some "YYYY-MM-DD"
  | .email => some "name@example.com"
  | .currency => some "0,00"
  | _ => none

def defaultChoices : List Choice := [⟨"option1", "Option 1"⟩, ⟨"option2", "Option 2"⟩]

end FieldKind

def Rules.unset : Rules := ⟨none, none, none, none, none, none⟩

def Field.create (id : String) (kind : FieldKind) : Field :=
  { id := id, name := none, label := kind.defaultLabel, placeholder := kind.defaultPlaceholder, required := false,
    rules := some .unset, kind := kind,
    choices := if kind.isChoice then some FieldKind.defaultChoices else none,
    table := if kind = .table then some ⟨"", .get, [], some ""⟩ else none,
    mask := if kind = .masked then some "" else none,
    currency := if kind = .currency then some ⟨"BRL", some "pt-BR", none, none⟩ else none,
    scale := if kind = .range then some ⟨.zero, .ofInt 100, some (.ofInt 1), some true⟩ else none,
    tags := if kind = .tags then some ⟨some ",", some 0⟩ else none,
    heading := if kind = .heading then some ⟨"Heading", .two⟩ else none }

def Group.create (id : String) : Group :=
  { id := id, name := none, label := "Group", placeholder := none, required := false, rules := some .unset,
    condition := none }

structure Store where
  form : Form
  selected : Option String
  -- Every id that a node has or had.
  issued : List String
  draws : Draws

namespace Store

def new (title : String) (script : List Char) : Store := ⟨⟨title, []⟩, none, [], ⟨script, 0⟩⟩

def nodes (s : Store) : List Node := s.form.nodes

def ids (s : Store) : List String := Node.idsOf s.nodes

def find? (s : Store) (id : String) : Option Node := Node.find? s.nodes id

def findGroup? (s : Store) (id : String) : Option Node := Node.findGroup? s.nodes id

def selectedNode? (s : Store) : Option Node := (s.selected.filter (· != "")).bind s.find?

def withNodes (s : Store) (nodes : List Node) : Store := { s with form := { s.form with nodes := nodes } }

def withForm (s : Store) (form : Form) : Store := { s with form := form }

def withSelected (s : Store) (selected : Option String) : Store := { s with selected := selected }

def withTitle (s : Store) (title : String) : Store := { s with form := { s.form with title := title } }

def withDraws (s : Store) (draws : Draws) : Store := { s with draws := draws }

def issue (s : Store) (ids : List String) : Store :=
  { s with issued := s.issued ++ ids.filter (!s.issued.contains ·) }

abbrev Edit (ε α : Type) := EStateM ε Store α

def check {ε α : Type} : Except ε α → Edit ε α
  | .ok x => pure x
  | .error why => throw why

def freshId (word : String) : Edit EditError String := do
  let s ← get
  match s.draws.fresh (s.issued ++ s.ids) word with
  | none => throw .noFreeId
  | some (id, draws) =>
      modify (·.withDraws draws)
      modify (·.issue [id])
      return id

def create (type : String) : Edit EditError Node := do
  if type = groupName then
    let id ← freshId "grp"
    return .group (Group.create id) []
  else
    match FieldKind.ofName? type with
    | none => throw (.unknownType type)
    | some kind =>
        let id ← freshId "fld"
        return .field (Field.create id kind)

def add (type : String) : Edit EditError Node := do
  let n ← create type
  modify fun s => s.withNodes (s.nodes ++ [n])
  modify (·.withSelected (some n.id))
  return n

def addChild (parent type : String) : Edit EditError (Option Node) := do
  match (← get).findGroup? parent with
  | none => return none
  | some _ =>
      let n ← create type
      modify fun s => s.withNodes ((Node.changeChildren parent (· ++ [n]) s.nodes).getD s.nodes)
      modify (·.withSelected (some n.id))
      return some n

def fieldAttributes : List String :=
  ["id", "name", "label", "placeholder", "required", "validation", "type", "options", "table", "mask", "currency",
   "range", "tags", "heading"]

def groupAttributes : List String :=
  ["id", "name", "label", "placeholder", "required", "validation", "type", "children", "condition"]

def patched (n : Node) (patch : Keyed Value) : Reading Node :=
  match n.toValue .plain with
  | .object attributes =>
      let merged := Keyed.putAll attributes patch
      match n with
      | .field _ => (Field.readEntries .values merged).map .field
      | .group _ _ => Node.readGroup (Node.readDeep (Value.object merged).height) .values merged
  | v => Reading.fault .attributes v

def checkPatch (n : Node) (patch : Keyed Value) : Except EditError Unit :=
  let known := if n.isGroup then groupAttributes else fieldAttributes
  match patch.find? (!known.contains ·.1) with
  | some (name, _) => .error (.unknownAttribute n.isGroup name)
  | none =>
      match (Keyed.value? patch "type").filter (· != .text n.typeName) with
      | some wanted => .error (.typeChange n.typeName wanted)
      | none => .ok ()

def hasRepeats : List String → Bool
  | [] => false
  | id :: rest => rest.contains id || hasRepeats rest

def checkReplacement (s : Store) (old new : Node) : Except EditError Unit :=
  if new.id = "" then .error .blankId
  else
    let others := s.ids.filter (!old.ids.contains ·)
    if hasRepeats new.ids || new.ids.any others.contains then .error (.duplicateId old.id) else .ok ()

-- The selection after a node gave way to another: it stays on nodes that are still there, and follows the node itself
-- to a new id.
def followed (s : Store) (old new : Node) : Option String :=
  match s.selected with
  | none => none
  | some id =>
      if old.ids.contains id && !new.ids.contains id then if id = old.id then some new.id else none else some id

def update (id : String) (patch : Keyed Value) : Edit EditError (Option Node) := do
  match (← get).find? id with
  | none => return none
  | some old =>
      check (checkPatch old patch)
      let new ← check ((patched old patch).mapError .invalid)
      check (checkReplacement (← get) old new)
      modify fun s => s.withNodes ((Node.replace? s.nodes id fun _ => [new]).getD s.nodes)
      modify (·.issue new.ids)
      modify fun s => s.withSelected (s.followed old new)
      return some new

def detached (s : Store) (removed : Node) : Store := s.withSelected (s.selected.filter (!removed.ids.contains ·))

def delete (id : String) : Edit EditError (Option Node) := do
  match (← get).find? id with
  | none => return none
  | some removed =>
      modify fun s => s.withNodes ((Node.replace? s.nodes id fun _ => []).getD s.nodes)
      modify (·.detached removed)
      return some removed

def itemAt (items : List Node) (index : Int) : Option (Nat × Node) :=
  (Node.position? index items.length).bind fun i => (items[i]?).map (i, ·)

def removeChild (parent : String) (index : Int) : Edit EditError (Option Node) := do
  match (← get).findGroup? parent with
  | none => return none
  | some group =>
      match itemAt group.children index with
      | none => return none
      | some (i, removed) =>
          modify fun s => s.withNodes ((Node.changeChildren parent (·.eraseIdx i) s.nodes).getD s.nodes)
          modify (·.detached removed)
          return some removed

inductive OrderItem where
  | named (id : String)
  | node (n : Node)

def OrderItem.name : OrderItem → String
  | .named id => id
  | .node n => n.id

def rootIndex (s : Store) : Keyed Node := Keyed.putAll [] (s.nodes.map fun n => (n.id, n))

def isOrder (s : Store) (order : List String) : Bool :=
  let names := Keyed.names s.rootIndex
  order.length == names.length && order.all names.contains && names.all order.contains

def reorder (order : List OrderItem) : Edit EditError Unit := do
  let order := order.map OrderItem.name
  let s ← get
  if s.isOrder order then modify (·.withNodes (order.filterMap (Keyed.value? s.rootIndex))) else throw .notAnOrder

inductive PlaceInput where
  | place (p : Place)
  | value (v : Value)

def PlaceInput.read : PlaceInput → Except EditError Place
  | .place p => .ok p
  | .value v => (Place.read .values v).mapError .unreadablePlace

def listOr (s : Store) (refusal : String → EditError) (parent : Option String) : Except EditError (List Node) :=
  match Node.listAt? s.nodes parent with
  | some items => .ok items
  | none => .error (refusal (parent.getD ""))

def lifted (s : Store) (source : Place) (i : Nat) : Store :=
  s.withNodes ((Node.changeList s.nodes source.parent (·.eraseIdx i)).getD s.nodes)

def placed (s : Store) (target : Place) (j : Nat) (item : Node) : Store :=
  s.withNodes ((Node.changeList s.nodes target.parent (·.insertIdx j item)).getD s.nodes)

-- Takes the node at one place and puts it at another; both places are looked up before anything moves.
def move (source target : PlaceInput) : Edit EditError Node := do
  let source ← check source.read
  let target ← check target.read
  let origin ← check ((← get).listOr .unknownSource source.parent)
  let goal ← check ((← get).listOr .unknownTarget target.parent)
  match itemAt origin source.index with
  | none => throw (.sourceRange source.index)
  | some (i, item) =>
      let room := if source.parent = target.parent then goal.length else goal.length + 1
      match Node.position? target.index room with
      | none => throw (.targetRange target.index)
      | some j =>
          if target.parent.any item.ids.contains then throw .intoItself
          else
            modify (·.lifted source i)
            modify (·.placed target j item)
            return item

def select (id : Option String) : Edit EditError Unit := do
  match id with
  | none => modify (·.withSelected none)
  | some name =>
      if ((← get).find? name).isSome then modify (·.withSelected id) else throw (.unknownSelection name)

def setTitle (title : String) : Edit EditError Unit := modify (·.withTitle title)

def checkId (seen : List String) (id : String) : Except ImportError (List String) :=
  if id = "" then .error .blankId
  else if seen.contains id then .error (.duplicateId id)
  else .ok (id :: seen)

mutual
def checkNode (seen : List String) : Node → Except ImportError (List String)
  | .field f => checkId seen f.id
  | .group g children => do checkNodes (← checkId seen g.id) children
def checkNodes (seen : List String) : List Node → Except ImportError (List String)
  | [] => .ok seen
  | n :: rest => do checkNodes (← checkNode seen n) rest
end

def checkTree (nodes : List Node) : Except ImportError Unit := (checkNodes [] nodes).map fun _ => ()

def load (form : Form) : Edit ImportError Form := do
  check (checkTree form.nodes)
  modify (·.withForm form)
  modify (·.withSelected none)
  modify (·.issue (Node.idsOf form.nodes))
  return form

def loadValue (origin : Origin) (v : Value) : Edit ImportError Form := do
  let form ← check ((Form.read origin v).mapError (.invalid origin))
  load form

def documentLimits : Json.Limits := ⟨200, false⟩

def loadText (text : Json.Source) : Edit ImportError Form := do
  let v ← check ((Json.readDocument documentLimits text).mapError (.unreadable text))
  loadValue .document v

end Store

end FormEngine
