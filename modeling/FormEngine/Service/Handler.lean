import FormEngine.Page.CanvasPage
import FormEngine.Service.Orders
import FormEngine.Service.Route
import FormEngine.Service.Sample
import FormEngine.Tables.Sync

set_option autoImplicit false

namespace FormEngine

structure Service where
  store : Store
  tables : TableSource
  network : Network
  samples : Bool

namespace Service

abbrev Handler := Service → Response × Service

def keep (s : Service) (store : Store) : Service := { s with store := store }

def only (response : Response) : Handler := fun s => (response, s)

def reading {α : Type} (body : Body) (reader : Origin → Value → Reading α) (use : α → Handler) : Handler :=
  match body.read reader with
  | .ok x => use x
  | .error response => only response

def textOrNull : Option String → Value
  | some s => .text s
  | none => .null

def dumped (nodes : List Node) (content : Value) : Response :=
  if Node.Shallow nodes then .ok content else .internalError

def nodeReply (n : Node) : Response := dumped [n] (n.toValue .document)

def formReply (f : Form) : Response := .ok (.object [("formTitle", .text f.title), ("fields", .int f.nodes.length)])

def selectionEntry (s : Store) : String × Value := ("selectedFieldId", textOrNull s.selected)

def showSchema : Handler := fun s =>
  (dumped s.store.nodes (.object [("schema", s.store.form.toValue .document), selectionEntry s.store]), s)

def edit {ε α : Type} (e : Store.Edit ε α) (done : α → Store → Response) (refused : ε → Response) : Handler := fun s =>
  match e.run s.store with
  | .ok x store => (done x store, s.keep store)
  | .error why store => (refused why, s.keep store)

def answerOr (absent : String) (found : Node → Store → Response) : Option Node → Store → Response
  | some n, store => found n store
  | none, _ => .refuseText 404 absent

def importSchema (document : Keyed Value) : Handler :=
  edit (Store.loadValue .values (.object document)) (fun form _ => formReply form) fun why =>
    .refuseText 422 why.message

def setTitle (title : String) : Handler :=
  edit (ε := EditError) (Store.setTitle title) (fun _ store => .ok (.object [("formTitle", .text store.form.title)]))
    fun _ => .internalError

def addField (order : AddOrder) : Handler :=
  match order.parent with
  | none => edit (Store.add order.type) (fun node _ => nodeReply node) fun _ => .internalError
  | some parent =>
      edit (Store.addChild parent order.type) (answerOr "group_not_found" fun node _ => nodeReply node) fun _ =>
        .internalError

def updateField (id : String) (patch : Keyed Value) : Handler :=
  edit (Store.update id patch) (answerOr "field_not_found" fun node _ => nodeReply node) fun why =>
    .refuseText 409 why.message

def removalReply (removed : Node) (store : Store) : Response :=
  .ok (.object [("removed", .text removed.id), selectionEntry store])

def deleteField (id : String) : Handler :=
  edit (Store.delete id) (answerOr "field_not_found" removalReply) fun _ => .internalError

def removeChild (parent index : String) : Handler :=
  match Reading.below (.key "path") (Reading.below (.key "index") (Reading.int .request (.text index))) with
  | .ok index =>
      edit (Store.removeChild parent index) (answerOr "child_not_found" removalReply) fun _ => .internalError
  | .error faults => only (.faulty faults)

def reorder (order : List String) : Handler :=
  edit (Store.reorder (order.map .named))
    (fun _ store => .ok (.object [("order", .list (store.nodes.map fun n => .text n.id))])) fun why =>
    .refuseText 409 why.message

def move (order : MoveOrder) : Handler :=
  edit (Store.move (.place order.source) (.place order.target))
    (fun node _ => .ok (.object [("moved", .text node.id)])) fun why =>
    .refuseText 409 why.message

def select (id : Option String) : Handler :=
  edit (Store.select id) (fun _ store => .ok (.object [selectionEntry store])) fun why => .refuseText 404 why.message

def textsValue (m : Keyed String) : Value := .object (Keyed.mapValues .text m)

def session (s : Service) (values : Keyed Value) : Session := Session.start s.store.form values 0

def renderState (values : Keyed Value) : Handler := fun s =>
  match (s.session values).validate with
  | (session, none) =>
      (.ok (.object [("visibility", .object (Keyed.mapValues .bool session.visibility)),
        ("errors", textsValue session.errors)]), s)
  | (_, some _) => (.internalError, s)

def submit (values : Keyed Value) : Handler := fun s =>
  match FormEngine.submit s.store.form values with
  | .ok (.accepted payload) => (.ok (.object [("payload", .object payload)]), s)
  | .ok (.rejected errors) =>
      (.refuse 422 (.object [("message", .text "validation_failed"), ("errors", textsValue errors)]), s)
  | .error _ => (.internalError, s)

def htmlReply (html : String) : Response := .ok (.object [("html", .text html)])

def preview (values : Keyed Value) : Handler := fun s =>
  let session := s.session values
  let (tables, network) := session.syncTables s.tables s.network
  (htmlReply (session.formPage tables), { s with tables := tables, network := network })

def canvas : Handler := fun s => (htmlReply (s.store.form.canvasPage s.store.selected), s)

def previewTable (api : TableApi) : Handler := fun s =>
  let (fetched, network) := api.fetch defaultPatience s.network
  let response : Response := match fetched.outcome with
    | .ok rows =>
        .ok (.object [("columns", .list ((columns rows).map .text)), ("rows", .list (rows.map .object))])
    | .error (.breakdown _ _) => .internalError
    | .error _ => .refuseText 502 "table_fetch_failed"
  (response, { s with network := network })

def loadSample : Handler := fun s =>
  if s.samples then edit (Store.load sampleForm) (fun form _ => formReply form) (fun _ => .internalError) s
  else (.refuseText 404 "Not found", s)

def health : Response := .ok (.object [("ok", .bool true), ("service", .text "form-service")])

def perform (action : Action) (body : Body) : Handler :=
  match action with
  | .health => only health
  | .showSchema => showSchema
  | .importSchema => reading body readObject importSchema
  | .setTitle => reading body readTitle setTitle
  | .addField => reading body AddOrder.read addField
  | .updateField id => reading body readObject (updateField id)
  | .deleteField id => deleteField id
  | .removeChild parent index => removeChild parent index
  | .reorder => reading body readOrder reorder
  | .move => reading body MoveOrder.read move
  | .select => reading body readSelection select
  | .renderState => reading body readValues renderState
  | .submit => reading body readValues submit
  | .preview => reading body readValues preview
  | .canvas => canvas
  | .previewTable => reading body TableApi.read previewTable
  | .loadSample => loadSample

-- Answers a request; one that only asks for the head of an answer gets no content.
def handle (s : Service) (r : Request) : Response × Service :=
  match r.action with
  | .ok action => perform action r.body s
  | .error response => (if r.verb = "HEAD" then response.bare else response, s)

def allowsSamples (setting : Option String) : Bool := setting.any fun word => Text.asciiLower word == "true"

def new (script : List Char) (network : Network) (samples : Bool) : Service :=
  ⟨Store.new "Untitled Form" script, TableSource.new defaultPatience, network, samples⟩

end Service

end FormEngine
