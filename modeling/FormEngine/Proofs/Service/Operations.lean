import FormEngine.Proofs.Builder.Sound
import FormEngine.Proofs.Service.Refusals
import FormEngine.Service.History

set_option autoImplicit false

namespace FormEngine.Service

open Store

theorem edit_store {ε α : Type} (e : Edit ε α) (done : α → Store → Response) (refused : ε → Response) (s : Service) :
    edit e done refused s = ((edit e done refused s).1, s.keep (left (e.run s.store))) := by
  rw [edit]
  cases e.run s.store <;> rfl

theorem reading_store {α : Type} (body : Body) (reader : Origin → Value → Reading α) (use : α → Handler)
    (op : α → Store.Op) (used : ∀ x s, (use x s).2 = s.keep (s.store.step (op x))) (s : Service) :
    (reading body reader use s).2 = s.keep (s.store.stepped ((body.read reader).toOption.map op)) := by
  rw [reading]
  cases body.read reader with
  | ok x => exact used x s
  | error response => rfl

theorem edited {ε α : Type} (refusal : ε → Refusal) (tell : α → Told) (e : Edit ε α) (op : Store.Op)
    (same : Store.perform op = telling refusal tell e) (done : α → Store → Response) (refused : ε → Response)
    (s : Service) : (edit e done refused s).2 = s.keep (s.store.step op) := by
  rw [edit_store, step, same, left_telling]

theorem add_field_store (order : AddOrder) (s : Service) : (addField order s).2 = s.keep (s.store.step order.op) := by
  rw [addField, AddOrder.op]
  cases order.parent with
  | none => exact edited .edit .node _ _ rfl _ _ s
  | some parent => exact edited .edit .ofNode? _ _ rfl _ _ s

theorem remove_child_store (parent index : String) (s : Service) :
    (removeChild parent index s).2.store =
      s.store.stepped ((Reading.int .request (.text index)).toOption.map (.removeChild parent)) := by
  rw [removeChild]
  cases Reading.int .request (.text index) with
  | ok i => exact congrArg store (edited .edit .ofNode? _ _ rfl _ _ s)
  | error faults => rfl

theorem load_sample_store (s : Service) :
    (loadSample s).2.store = s.store.stepped (if s.samples then some (.load sampleForm) else none) := by
  rw [loadSample]
  split
  · exact congrArg store (edited .document .form _ (.load sampleForm) rfl _ _ s)
  · rfl

theorem reading_kept {α : Type} (body : Body) (reader : Origin → Value → Reading α) (use : α → Handler)
    (kept : ∀ x s, (use x s).2.store = s.store) (s : Service) : (reading body reader use s).2.store = s.store := by
  rw [reading]
  cases body.read reader with
  | ok x => exact kept x s
  | error response => rfl

theorem perform_store (action : Action) (body : Body) (s : Service) :
    (perform action body s).2.store = s.store.stepped (action.op? s.samples body) := by
  cases action with
  | health | showSchema | canvas => rfl
  | importSchema =>
      exact congrArg store (reading_store body _ _ (fun document => .loadValue .values (.object document))
        (fun _ => edited .document .form _ _ rfl _ _) s)
  | setTitle => exact congrArg store (reading_store body _ _ .setTitle (fun _ => edited .edit _ _ _ rfl _ _) s)
  | addField => exact congrArg store (reading_store body _ _ AddOrder.op add_field_store s)
  | updateField id =>
      exact congrArg store (reading_store body _ _ (.update id) (fun _ => edited .edit .ofNode? _ _ rfl _ _) s)
  | deleteField id => exact congrArg store (edited .edit .ofNode? _ _ rfl _ _ s)
  | removeChild parent index => exact remove_child_store parent index s
  | reorder =>
      exact congrArg store (reading_store body readOrder _ (fun order => .reorder (order.map .named))
        (fun _ => edited .edit (fun _ => .done) _ _ rfl _ _) s)
  | move =>
      exact congrArg store (reading_store body MoveOrder.read _ (fun order => .move (.place order.source) (.place order.target))
        (fun _ => edited .edit .node _ _ rfl _ _) s)
  | select =>
      exact congrArg store (reading_store body _ _ .select (fun _ => edited .edit (fun _ => .done) _ _ rfl _ _) s)
  | renderState => exact reading_kept body _ _ render_state_kept s
  | submit => exact reading_kept body _ _ submit_kept s
  | preview => exact reading_kept body _ _ preview_kept s
  | previewTable => exact reading_kept body _ _ preview_table_kept s
  | loadSample => exact load_sample_store s

theorem handle_store (s : Service) (r : Request) : (s.handle r).2.store = s.store.stepped (s.op? r) := by
  rw [handle, op?]
  cases r.action with
  | ok action => exact perform_store action r.body s
  | error response => rfl

theorem serve_append (s : Service) (first rest : List Request) : s.serve (first ++ rest) = (s.serve first).serve rest :=
  List.foldl_append

theorem serve_store (s : Service) (requests : List Request) : ∃ ops, (s.serve requests).store = s.store.run ops := by
  induction requests generalizing s with
  | nil => exact ⟨[], rfl⟩
  | cons r rest ih =>
      obtain ⟨ops, later⟩ := ih (s.handle r).2
      rw [handle_store] at later
      cases asked : s.op? r with
      | none =>
          rw [asked] at later
          exact ⟨ops, later⟩
      | some op =>
          rw [asked] at later
          exact ⟨op :: ops, later⟩

theorem served_sound (script : List Char) (network : Network) (samples : Bool) (requests : List Request) :
    Sound ((Service.new script network samples).serve requests).store := by
  obtain ⟨ops, same⟩ := serve_store (Service.new script network samples) requests
  rw [same]
  exact run_sound _ ops (sound_new _ script)

end FormEngine.Service
