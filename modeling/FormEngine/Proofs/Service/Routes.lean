import FormEngine.Service.Handler

set_option autoImplicit false

namespace FormEngine.Service

theorem handle_action (s : Service) (method path : String) (body : Body) (action : Action)
    (known : (Request.mk method path .empty).action.toOption = some action) :
    s.handle ⟨method, path, body⟩ = perform action body s := by
  have asked : (Request.mk method path body).action.toOption = some action := known
  rw [handle]
  cases routed : (Request.mk method path body).action with
  | error response =>
      rw [routed] at asked
      cases asked
  | ok other =>
      rw [routed] at asked
      cases asked
      rfl

def fixedRoutes : List (String × String × Action) :=
  [("GET", "/schema", .showSchema), ("PUT", "/schema", .importSchema), ("POST", "/render/state", .renderState),
   ("POST", "/submit", .submit)]

theorem fixed_routes :
    ∀ route ∈ fixedRoutes, (Request.mk route.1 route.2.1 .empty).action.toOption = some route.2.2 := by
  decide +kernel

theorem handle_fixed (s : Service) (method path : String) (body : Body) (action : Action)
    (listed : (method, path, action) ∈ fixedRoutes) : s.handle ⟨method, path, body⟩ = perform action body s := by
  have known := fixed_routes (method, path, action) listed
  exact s.handle_action method path body action known

end FormEngine.Service
