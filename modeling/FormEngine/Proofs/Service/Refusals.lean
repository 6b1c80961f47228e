import FormEngine.Proofs.Builder.Atomic
import FormEngine.Service.Handler

set_option autoImplicit false

namespace FormEngine.Service

open Store

def rejections : List Nat := [404, 409, 422]

theorem ok_not_rejection (content : Value) : (Response.ok content).status ∉ rejections := by
  rw [Response.ok, Response.reply]
  split <;> simp [Response.status, Response.internalError, rejections]

theorem dumped_not_rejection (nodes : List Node) (content : Value) : (dumped nodes content).status ∉ rejections := by
  rw [dumped]
  split
  · exact ok_not_rejection content
  · decide

def Careful (handler : Handler) : Prop := ∀ s, (handler s).1.status ∈ rejections → (handler s).2.store = s.store

theorem careful_of_kept (handler : Handler) (kept : ∀ s, (handler s).2.store = s.store) : Careful handler :=
  fun s _ => kept s

theorem only_careful (response : Response) : Careful (only response) := careful_of_kept _ fun _ => rfl

theorem reading_careful {α : Type} (body : Body) (reader : Origin → Value → Reading α) (use : α → Handler)
    (careful : ∀ x, Careful (use x)) : Careful (reading body reader use) := by
  rw [reading]
  split
  · exact careful _
  · exact only_careful _

theorem edit_careful {ε α : Type} (absent : α → Prop) (e : Edit ε α) (done : α → Store → Response)
    (refused : ε → Response) (atomic : Atomic absent e)
    (accepted : ∀ x store, ¬ absent x → (done x store).status ∉ rejections) : Careful (edit e done refused) := by
  intro s rejected
  have kept := atomic s.store
  rw [edit] at rejected ⊢
  cases ran : e.run s.store with
  | error why store =>
      rw [ran] at kept
      exact kept
  | ok x store =>
      rw [ran] at kept rejected
      by_cases missing : absent x
      · exact kept missing
      · exact absurd rejected (accepted x store missing)

theorem answer_or_accepted (absent : String) (found : Node → Store → Response)
    (accepted : ∀ n store, (found n store).status ∉ rejections) (n : Option Node) (store : Store) (present : ¬ n = none) :
    (answerOr absent found n store).status ∉ rejections := by
  cases n with
  | none => exact absurd rfl present
  | some n => exact accepted n store

theorem removal_accepted (n : Node) (store : Store) : (removalReply n store).status ∉ rejections := ok_not_rejection _

theorem add_field_careful (order : AddOrder) : Careful (addField order) := by
  rw [addField]
  split
  · exact edit_careful Never _ _ _ (add_atomic _) fun _ _ _ => dumped_not_rejection _ _
  · exact edit_careful _ _ _ _ (add_child_atomic _ _)
      (answer_or_accepted _ _ fun _ _ => dumped_not_rejection _ _)

theorem remove_child_careful (parent index : String) : Careful (removeChild parent index) := by
  rw [removeChild]
  split
  · exact edit_careful _ _ _ _ (remove_child_atomic _ _) (answer_or_accepted _ _ removal_accepted)
  · exact only_careful _

theorem load_sample_careful : Careful loadSample := by
  intro s
  rw [loadSample]
  split
  · exact edit_careful Never _ _ _ (load_atomic _) (fun _ _ _ => ok_not_rejection _) s
  · exact fun _ => rfl

theorem render_state_kept (values : Keyed Value) (s : Service) : (renderState values s).2.store = s.store := by
  rw [renderState]
  split <;> rfl

theorem submit_kept (values : Keyed Value) (s : Service) : (submit values s).2.store = s.store := by
  rw [submit]
  split <;> rfl

theorem preview_kept (values : Keyed Value) (s : Service) : (preview values s).2.store = s.store := by
  unfold preview
  generalize (s.session values).syncTables s.tables s.network = synced
  rfl

theorem preview_table_kept (api : TableApi) (s : Service) : (previewTable api s).2.store = s.store := by
  unfold previewTable
  generalize api.fetch defaultPatience s.network = fetched
  rfl

theorem perform_careful (action : Action) (body : Body) : Careful (perform action body) := by
  cases action with
  | health => exact only_careful _
  | showSchema => exact careful_of_kept _ fun _ => rfl
  | importSchema =>
      exact reading_careful _ _ _ fun _ =>
        edit_careful Never _ _ _ (load_value_atomic _ _) fun _ _ _ => ok_not_rejection _
  | setTitle =>
      exact reading_careful _ _ _ fun _ => edit_careful Never _ _ _ (set_title_atomic _) fun _ _ _ => ok_not_rejection _
  | addField => exact reading_careful _ _ _ add_field_careful
  | updateField id =>
      exact reading_careful _ _ _ fun _ =>
        edit_careful _ _ _ _ (update_atomic _ _) (answer_or_accepted _ _ fun _ _ => dumped_not_rejection _ _)
  | deleteField id => exact edit_careful _ _ _ _ (delete_atomic _) (answer_or_accepted _ _ removal_accepted)
  | removeChild parent index => exact remove_child_careful parent index
  | reorder =>
      exact reading_careful _ _ _ fun _ => edit_careful Never _ _ _ (reorder_atomic _) fun _ _ _ => ok_not_rejection _
  | move =>
      exact reading_careful _ _ _ fun _ => edit_careful Never _ _ _ (move_atomic _ _) fun _ _ _ => ok_not_rejection _
  | select =>
      exact reading_careful _ _ _ fun _ => edit_careful Never _ _ _ (select_atomic _) fun _ _ _ => ok_not_rejection _
  | renderState => exact reading_careful _ _ _ fun values => careful_of_kept _ (render_state_kept values)
  | submit => exact reading_careful _ _ _ fun values => careful_of_kept _ (submit_kept values)
  | preview => exact reading_careful _ _ _ fun values => careful_of_kept _ (preview_kept values)
  | canvas => exact careful_of_kept _ fun _ => rfl
  | previewTable => exact reading_careful _ _ _ fun api => careful_of_kept _ (preview_table_kept api)
  | loadSample => exact load_sample_careful

theorem handle_careful (request : Request) : Careful fun s => s.handle request := by
  intro s
  simp only [handle]
  split
  · exact perform_careful _ _ s
  · exact fun _ => rfl

theorem rejection_leaves_store (s : Store) (op : Op) (service : Service) (request : Request) :
    (∀ why left, (Store.perform op).run s = .error why left → left = s) ∧
    (∀ left, (Store.perform op).run s = .ok .absent left → left = s) ∧
    ((service.handle request).1.status ∈ rejections → (service.handle request).2.store = service.store) := by
  have kept := perform_atomic op s
  refine ⟨fun why left refused => ?_, fun left missing => ?_, handle_careful request service⟩
  · rw [refused] at kept
    exact kept
  · rw [missing] at kept
    exact kept rfl

def nestedGroups : Store :=
  (Store.new "Nested" []).withNodes [.group (Group.create "outer") [.group (Group.create "inner") []]]

def intoInner : Op := .move (.place ⟨none, 0⟩) (.place ⟨some "inner", 0⟩)

def intoInnerRequest : Request where
  method := "POST"
  path := "/fields/move"
  body := .value (.object
    [("from", .object [("index", .int 0)]), ("to", .object [("parentId", .text "inner"), ("index", .int 0)])])

theorem into_inner_leaves_store :
    (∀ left, (Store.perform intoInner).run nestedGroups = .error (.edit .intoItself) left → left = nestedGroups) ∧
    (Store.perform intoInner).run nestedGroups = .error (.edit .intoItself) nestedGroups ∧
    (Store.perform (.removeChild "inner" 0)).run nestedGroups = .ok .absent nestedGroups ∧
    (((Service.new [] ⟨[], []⟩ false).keep nestedGroups).handle intoInnerRequest).2.store = nestedGroups := by
  have refused : (Store.perform intoInner).run nestedGroups = .error (.edit .intoItself) nestedGroups := by rfl
  have absent : ∃ left, (Store.perform (.removeChild "inner" 0)).run nestedGroups = .ok .absent left := ⟨_, rfl⟩
  have conflict : (((Service.new [] ⟨[], []⟩ false).keep nestedGroups).handle intoInnerRequest).1.status = 409 := by
    decide +kernel
  let service := (Service.new [] ⟨[], []⟩ false).keep nestedGroups
  obtain ⟨left, missing⟩ := absent
  have same := (rejection_leaves_store nestedGroups (.removeChild "inner" 0) service intoInnerRequest).2.1 left missing
  refine ⟨(rejection_leaves_store nestedGroups intoInner service intoInnerRequest).1 _, refused, same ▸ missing, ?_⟩
  apply (rejection_leaves_store nestedGroups intoInner service intoInnerRequest).2.2
  rw [conflict]
  decide

end FormEngine.Service
