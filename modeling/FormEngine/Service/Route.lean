import FormEngine.Service.Exchange

set_option autoImplicit false

namespace FormEngine

inductive Action where
  | health
  | showSchema
  | importSchema
  | setTitle
  | addField
  | updateField (id : String)
  | deleteField (id : String)
  | removeChild (parent index : String)
  | reorder
  | move
  | select
  | renderState
  | submit
  | preview
  | canvas
  | previewTable
  | loadSample
deriving DecidableEq

def actionsAt : List String → List (String × Action)
  | ["health"] => [("GET", .health)]
  | ["schema"] => [("GET", .showSchema), ("PUT", .importSchema)]
  | ["schema", "title"] => [("PUT", .setTitle)]
  | ["fields"] => [("POST", .addField)]
  | ["fields", id] =>
      (if id = "reorder" then [("POST", Action.reorder)] else if id = "move" then [("POST", .move)] else [])
        ++ (if id = "" then [] else [("PATCH", .updateField id), ("DELETE", .deleteField id)])
  | ["groups", parent, "children", index] =>
      if parent = "" || index = "" then [] else [("DELETE", .removeChild parent index)]
  | ["selection"] => [("PUT", .select)]
  | ["render", "state"] => [("POST", .renderState)]
  | ["submit"] => [("POST", .submit)]
  | ["preview"] => [("POST", .preview)]
  | ["canvas"] => [("GET", .canvas)]
  | ["tables", "preview"] => [("POST", .previewTable)]
  | ["dev", "sample-schema"] => [("POST", .loadSample)]
  | _ => []

def trimSlashes (target : String) : String :=
  String.ofList ((target.toList.reverse.dropWhile (· == '/')).reverse)

-- The action a request asks for, or what is answered when there is none. A path that would be known without the
-- slashes at its end is sent on to the one without.
def Request.action (r : Request) : Except Response Action :=
  match actionsAt (segments r.target) with
  | [] =>
      if (actionsAt (segments (trimSlashes r.target))).isEmpty then .error (.refuseText 404 "Not Found")
      else .error (.text 307 "")
  | actions =>
      match actions.find? (·.1 == r.verb) with
      | some (_, action) => .ok action
      | none => .error (.refuseText 405 "Method Not Allowed")

end FormEngine
