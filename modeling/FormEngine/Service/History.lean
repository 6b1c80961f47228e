import FormEngine.Builder.History
import FormEngine.Service.Handler

set_option autoImplicit false

namespace FormEngine

def AddOrder.op (order : AddOrder) : Store.Op :=
  match order.parent with
  | none => .add order.type
  | some parent => .addChild parent order.type

-- What is done to the store when the body of a request can be read; nothing by actions that only look at it.
def Action.op? (samples : Bool) (body : Body) : Action → Option Store.Op
  | .importSchema => (body.read readObject).toOption.map fun document => .loadValue .values (.object document)
  | .setTitle => (body.read readTitle).toOption.map .setTitle
  | .addField => (body.read AddOrder.read).toOption.map AddOrder.op
  | .updateField id => (body.read readObject).toOption.map (.update id)
  | .deleteField id => some (.delete id)
  | .removeChild parent index => (Reading.int .request (.text index)).toOption.map (.removeChild parent)
  | .reorder => (body.read readOrder).toOption.map fun order => .reorder (order.map .named)
  | .move => (body.read MoveOrder.read).toOption.map fun order => .move (.place order.source) (.place order.target)
  | .select => (body.read readSelection).toOption.map .select
  | .loadSample => if samples then some (.load sampleForm) else none
  | .health | .showSchema | .renderState | .submit | .preview | .canvas | .previewTable => none

def Store.stepped (store : Store) : Option Store.Op → Store
  | none => store
  | some op => store.step op

namespace Service

def op? (s : Service) (r : Request) : Option Store.Op := r.action.toOption.bind (·.op? s.samples r.body)

def serve (s : Service) (requests : List Request) : Service := requests.foldl (fun s r => (s.handle r).2) s

def answers (s : Service) : List Request → List Response
  | [] => []
  | r :: rest => (s.handle r).1 :: answers (s.handle r).2 rest

end Service

end FormEngine
