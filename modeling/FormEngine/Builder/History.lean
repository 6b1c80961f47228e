import FormEngine.Builder.Store

set_option autoImplicit false

namespace FormEngine.Store

inductive Op where
  | create (type : String)
  | add (type : String)
  | addChild (parent type : String)
  | update (id : String) (patch : Keyed Value)
  | delete (id : String)
  | removeChild (parent : String) (index : Int)
  | reorder (order : List OrderItem)
  | move (source target : PlaceInput)
  | select (id : Option String)
  | setTitle (title : String)
  | load (form : Form)
  | loadValue (origin : Origin) (v : Value)
  | loadText (text : Json.Source)

inductive Refusal where
  | edit (why : EditError)
  | document (why : ImportError)

-- `absent` is told when what an operation is about is not there.
inductive Told where
  | done
  | node (n : Node)
  | form (f : Form)
  | absent

def Told.ofNode? : Option Node → Told
  | some n => .node n
  | none => .absent

def telling {ε α : Type} (refusal : ε → Refusal) (tell : α → Told) (e : Edit ε α) : Edit Refusal Told := do
  let x ← e.adaptExcept refusal
  return tell x

def perform : Op → Edit Refusal Told
  | .create type => telling .edit .node (create type)
  | .add type => telling .edit .node (add type)
  | .addChild parent type => telling .edit .ofNode? (addChild parent type)
  | .update id patch => telling .edit .ofNode? (update id patch)
  | .delete id => telling .edit .ofNode? (delete id)
  | .removeChild parent index => telling .edit .ofNode? (removeChild parent index)
  | .reorder order => telling .edit (fun _ => .done) (reorder order)
  | .move source target => telling .edit .node (move source target)
  | .select id => telling .edit (fun _ => .done) (select id)
  | .setTitle title => telling .edit (fun _ => .done) (setTitle title)
  | .load form => telling .document .form (load form)
  | .loadValue origin v => telling .document .form (loadValue origin v)
  | .loadText text => telling .document .form (loadText text)

def left {ε α : Type} : EStateM.Result ε Store α → Store
  | .ok _ s => s
  | .error _ s => s

-- Refused operations take part in a run like all others.
def step (s : Store) (op : Op) : Store := left ((perform op).run s)

def run (s : Store) (ops : List Op) : Store := ops.foldl step s

end FormEngine.Store
