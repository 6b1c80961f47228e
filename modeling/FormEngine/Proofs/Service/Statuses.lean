import FormEngine.Proofs.Builder.Bounds
import FormEngine.Proofs.Service.Operations
import FormEngine.Proofs.Service.SchemaReturned
import FormEngine.Proofs.Service.Submitting

set_option autoImplicit false

namespace FormEngine

open Value

def expectedStatuses : List Nat := [200, 404, 409, 422]

namespace Response

def Expected (r : Response) : Prop := r.status ∈ expectedStatuses

instance (r : Response) : Decidable r.Expected := inferInstanceAs (Decidable (r.status ∈ expectedStatuses))

theorem reply_expected_iff (status : Nat) (content : Value) (known : status ∈ expectedStatuses) :
    Expected (.reply status content) ↔ content.isFinite = true := by
  rw [reply]
  split
  · rename_i finite
    exact iff_of_true known finite
  · rename_i lost
    exact iff_of_false (by decide) lost

theorem ok_expected_iff (content : Value) : Expected (.ok content) ↔ content.Fits :=
  reply_expected_iff 200 _ (by decide)

theorem refuse_text_expected (status : Nat) (detail : String) (known : status ∈ expectedStatuses) :
    Expected (.refuseText status detail) :=
  (reply_expected_iff status _ known).mpr (beq_self_eq_true _)

theorem internal_error_unexpected : ¬ Expected .internalError := by decide

theorem unreadable_expected_iff (faults : List Value) : Expected (.unreadable faults) ↔ ∀ v ∈ faults, v.Fits := by
  rw [← list_fits, unreadable, refuse, reply_expected_iff 422 _ (by decide), finite_object, List.forall_mem_singleton]
  rfl

theorem fault_fits_iff (origin : Origin) (f : Fault) : (f.toValue origin).Fits ↔ f.input.Fits := by
  have path : (Value.list (f.path.map Step.value)).Fits := by
    rw [list_fits, List.forall_mem_map]
    rintro (name | n) _
    · exact text_fits name
    · exact int_fits n
  have context (expected : List String) : (Value.object [("expected", .text (alternatives expected))]).Fits := by
    rw [object_fits, List.forall_mem_singleton]
    · exact text_fits _
    · show ∀ key ∈ ["expected"], key.toList.head? ≠ some '_'
      decide
  rw [Fault.toValue]
  cases f.cause with
  | choice expected =>
      rw [object_fits]
      · simp [text_fits, path, context]
      · show ∀ key ∈ ["type", "loc", "msg", "input", "ctx"], key.toList.head? ≠ some '_'
        decide
  | _ =>
      rw [object_fits]
      · simp [text_fits, path]
      · show ∀ key ∈ ["type", "loc", "msg", "input"], key.toList.head? ≠ some '_'
        decide

theorem faulty_expected_iff (faults : List Fault) : Expected (.faulty faults) ↔ ∀ f ∈ faults, f.input.Fits := by
  rw [faulty, unreadable_expected_iff, List.forall_mem_map]
  simp only [fault_fits_iff]

end Response

namespace Body

def Illegible (body : Body) : Prop := ∃ response, body.value? = .error response ∧ response.status = 400

-- The body can be read, or else the complaints about it can be sent.
structure Answered {α : Type} (body : Body) (reader : Origin → Value → Reading α) : Prop where
  short : ¬ body.Illegible
  told : ∀ v faults, body.value? = .ok (some v) → reader .request v = .error faults → ∀ f ∈ faults, f.input.Fits

theorem invalid_fits (message : String) (offset : Int) :
    (Value.object [("type", .text "json_invalid"), ("loc", .list [.text "body", .int offset]),
      ("msg", .text "JSON decode error"), ("input", .object []),
      ("ctx", .object [("error", .text message)])]).Fits := by
  have context : (Value.object [("error", .text message)]).Fits := by
    rw [object_fits, List.forall_mem_singleton]
    · exact text_fits _
    · show ∀ key ∈ ["error"], key.toList.head? ≠ some '_'
      decide
  have place : (Value.list [.text "body", .int offset]).Fits := by
    rw [list_fits]
    simp [text_fits, int_fits]
  have nothing : (Value.object []).Fits := beq_self_eq_true _
  rw [object_fits]
  · simp [text_fits, place, nothing, context]
  · show ∀ key ∈ ["type", "loc", "msg", "input", "ctx"], key.toList.head? ≠ some '_'
    decide

theorem parse_error (content : List UInt8) (response : Response) (refused : parse content = .error response) :
    response.status = 400 ∨ response.Expected := by
  have garbled : garbled.status = 400 := by decide
  rw [parse] at refused
  split at refused
  · cases refused
    exact .inl garbled
  · split at refused
    · cases refused
    · split at refused
      · cases refused
        exact .inl garbled
      · cases refused
        refine .inr ((Response.unreadable_expected_iff _).mpr ?_)
        rw [List.forall_mem_singleton]
        exact invalid_fits _ _

theorem value_error (body : Body) (response : Response) (refused : body.value? = .error response) :
    response.Expected ↔ ¬ body.Illegible := by
  have known : response.status = 400 ∨ response.Expected := by
    cases body with
    | empty => cases refused
    | value v => cases refused
    | bytes content =>
        rw [value?] at refused
        split at refused
        · cases refused
        · cases parsed : parse content with
          | ok v =>
              rw [parsed] at refused
              cases refused
          | error why =>
              rw [parsed] at refused
              cases refused
              exact parse_error content _ parsed
  have unexpected : response.status = 400 → ¬ response.Expected := by
    intro status expected
    rw [Response.Expected, status] at expected
    exact absurd expected (by decide)
  constructor
  · rintro expected ⟨other, same, status⟩
    cases refused.symm.trans same
    exact unexpected status expected
  · intro short
    exact known.resolve_left fun status => short ⟨response, refused, status⟩

variable {α : Type} (body : Body) (reader : Origin → Value → Reading α)

theorem short_of_value {v : Option Value} (value : body.value? = .ok v) : ¬ body.Illegible := by
  rintro ⟨response, refused, _⟩
  cases value.symm.trans refused

theorem read_error (response : Response) (refused : body.read reader = .error response) :
    response.Expected ↔ body.Answered reader := by
  rw [read] at refused
  cases value : body.value? with
  | error why =>
      rw [value] at refused
      cases refused
      rw [value_error body _ value]
      exact ⟨fun short => ⟨short, fun v faults same => by cases value.symm.trans same⟩, Answered.short⟩
  | ok found =>
      have short := body.short_of_value value
      rw [value] at refused
      cases found with
      | none =>
          cases refused
          have told : (Response.faulty [⟨[.key "body"], .missing, .null⟩]).Expected := by
            rw [Response.faulty_expected_iff, List.forall_mem_singleton]
            exact beq_self_eq_true _
          exact iff_of_true told ⟨short, fun v faults same => by cases value.symm.trans same⟩
      | some v =>
          dsimp only at refused
          cases taken : reader .request v with
          | ok x =>
              rw [taken] at refused
              cases refused
          | error faults =>
              rw [taken] at refused
              cases refused
              rw [Response.faulty_expected_iff, List.forall_mem_map]
              constructor
              · intro all
                refine ⟨short, fun w others same read f member => ?_⟩
                cases value.symm.trans same
                cases taken.symm.trans read
                exact all f member
              · exact fun answered => answered.told v faults value taken

theorem value_of_read (x : α) (read : body.read reader = .ok x) :
    ∃ v, body.value? = .ok (some v) ∧ reader .request v = .ok x := by
  rw [Body.read] at read
  cases value : body.value? with
  | error why =>
      rw [value] at read
      cases read
  | ok found =>
      rw [value] at read
      cases found with
      | none => cases read
      | some v =>
          dsimp only at read
          cases taken : reader .request v with
          | error faults =>
              rw [taken] at read
              cases read
          | ok y =>
              rw [taken] at read
              cases read
              exact ⟨v, rfl, taken⟩

theorem read_ok (x : α) (read : body.read reader = .ok x) : body.Answered reader := by
  obtain ⟨v, value, taken⟩ := body.value_of_read reader x read
  refine ⟨body.short_of_value value, fun w faults same refused => ?_⟩
  cases value.symm.trans same
  cases taken.symm.trans refused

end Body

-- What an answer can show of nodes depends on their bounds and on how deep they and what they compare with nest.
structure Node.Writable (nodes : List Node) : Prop where
  finite : Node.BoundsFinite nodes
  shallow : Node.Shallow nodes

theorem Node.writable_iff (nodes : List Node) : Writable nodes ↔ BoundsFinite nodes ∧ Shallow nodes :=
  ⟨fun writable => ⟨writable.finite, writable.shallow⟩, fun both => ⟨both.1, both.2⟩⟩

theorem Node.writable_nil : Writable [] := ⟨bounds_finite_nil, Nat.zero_le _⟩

theorem Store.new_writable {s : Store} {type : String} {n : Node} {draws : Draws} (new : New s type n draws) :
    Node.Writable [n] := by
  refine ⟨new_bounds new, ?_⟩
  cases new with
  | group id _ _ _ => exact (by decide : 1 ≤ Node.levelLimit)
  | field kind id _ _ _ => exact (by decide : 1 ≤ Node.levelLimit)

namespace Service

theorem reading_expected_iff {α : Type} (body : Body) (reader : Origin → Value → Reading α) (use : α → Handler)
    (s : Service) : (reading body reader use s).1.Expected ↔
      body.Answered reader ∧ ∀ x, body.read reader = .ok x → (use x s).1.Expected := by
  rw [reading]
  cases read : body.read reader with
  | ok x => simp [body.read_ok reader x read]
  | error response =>
      show response.Expected ↔ _
      rw [body.read_error reader response read]
      simp

theorem reading_answered {α : Type} (body : Body) (reader : Origin → Value → Reading α) (use : α → Handler)
    (s : Service) (always : ∀ x, (use x s).1.Expected) : (reading body reader use s).1.Expected ↔ body.Answered reader := by
  rw [reading_expected_iff]
  exact and_iff_left fun x _ => always x

theorem edit_expected_iff {ε α : Type} (e : Store.Edit ε α) (done : α → Store → Response) (refused : ε → Response)
    (s : Service) : (edit e done refused s).1.Expected ↔
      (∀ x store, e.run s.store = .ok x store → (done x store).Expected) ∧
      ∀ why store, e.run s.store = .error why store → (refused why).Expected := by
  rw [edit]
  cases e.run s.store <;> simp

theorem edit_expected {ε α : Type} (e : Store.Edit ε α) (done : α → Store → Response) (refused : ε → Response)
    (s : Service) (answered : ∀ x store, (done x store).Expected) (told : ∀ why, (refused why).Expected) :
    (edit e done refused s).1.Expected :=
  (edit_expected_iff e done refused s).mpr ⟨fun x store _ => answered x store, fun why _ _ => told why⟩

theorem answer_or_expected (absent : String) (found : Node → Store → Response)
    (answered : ∀ n store, (found n store).Expected) (n : Option Node) (store : Store) :
    (answerOr absent found n store).Expected := by
  cases n with
  | none => exact Response.refuse_text_expected 404 absent (by decide)
  | some n => exact answered n store

theorem removal_expected (n : Node) (store : Store) : (removalReply n store).Expected := by
  rw [removalReply, Response.ok_expected_iff, object_fits]
  · simp [text_fits, selectionEntry, (selection_fits store.selected).1]
  · show ∀ key ∈ ["removed", "selectedFieldId"], key.toList.head? ≠ some '_'
    decide

theorem dumped_expected_iff (nodes : List Node) (content : Value) :
    (dumped nodes content).Expected ↔ content.Fits ∧ Node.Shallow nodes := by
  rw [dumped]
  split
  · rename_i shallow
    rw [Response.ok_expected_iff]
    exact (and_iff_left shallow).symm
  · rename_i deep
    exact iff_of_false Response.internal_error_unexpected fun fine => deep fine.2

theorem node_reply_expected_iff (n : Node) : (nodeReply n).Expected ↔ Node.Writable [n] := by
  rw [nodeReply, dumped_expected_iff, Node.writable_iff, ← Node.values_fit_iff, Node.toValues, Node.toValues,
    List.forall_mem_singleton]

theorem form_reply_expected (f : Form) : (formReply f).Expected := by
  rw [formReply, Response.ok_expected_iff, object_fits]
  · simp [text_fits, int_fits]
  · show ∀ key ∈ ["formTitle", "fields"], key.toList.head? ≠ some '_'
    decide

theorem import_expected (document : Keyed Value) (s : Service) : (importSchema document s).1.Expected :=
  edit_expected _ _ _ s (fun form _ => form_reply_expected form) fun _ => Response.refuse_text_expected 422 _ (by decide)

theorem set_title_expected (title : String) (s : Service) : (setTitle title s).1.Expected := by
  refine (edit_expected_iff _ _ _ s).mpr ⟨fun _ store _ => ?_, fun _ _ refused => by cases refused⟩
  rw [Response.ok_expected_iff, object_fits, List.forall_mem_singleton]
  · exact text_fits _
  · show ∀ key ∈ ["formTitle"], key.toList.head? ≠ some '_'
    decide

theorem delete_expected (id : String) (s : Service) : (deleteField id s).1.Expected := by
  refine (edit_expected_iff _ _ _ s).mpr ⟨fun n store _ => ?_, fun why store refused => ?_⟩
  · exact answer_or_expected _ _ removal_expected n store
  · rcases Store.delete_outcome s.store id with ⟨_, nothing⟩ | ⟨_, _, done⟩
    · cases nothing.symm.trans refused
    · cases done.symm.trans refused

theorem int_text_fault (s : String) (faults : List Fault) (read : Reading.int .request (.text s) = .error faults) :
    ∀ f ∈ faults, f.input = .text s := by
  rw [Reading.int] at read
  split at read
  · cases read
  · cases read
    simp
  · cases read
    simp

theorem remove_child_expected (parent index : String) (s : Service) : (removeChild parent index s).1.Expected := by
  rw [removeChild]
  cases read : Reading.int .request (.text index) with
  | ok i =>
      refine (edit_expected_iff _ _ _ s).mpr ⟨fun n store _ => ?_, fun why store refused => ?_⟩
      · exact answer_or_expected _ _ removal_expected n store
      · rcases Store.remove_child_outcome s.store parent i with nothing | ⟨_, _, _, _, _, done⟩
        · cases nothing.symm.trans refused
        · cases done.symm.trans refused
  | error faults =>
      refine (Response.faulty_expected_iff _).mpr ?_
      rw [List.forall_mem_map, List.forall_mem_map]
      intro f member
      rw [int_text_fault index faults read f member]
      exact text_fits index

theorem reorder_expected (order : List String) (s : Service) : (reorder order s).1.Expected := by
  refine edit_expected _ _ _ s (fun _ store => ?_) fun _ => Response.refuse_text_expected 409 _ (by decide)
  rw [Response.ok_expected_iff, object_fits, List.forall_mem_singleton, list_fits, List.forall_mem_map]
  · exact fun n _ => text_fits n.id
  · show ∀ key ∈ ["order"], key.toList.head? ≠ some '_'
    decide

theorem move_expected (order : MoveOrder) (s : Service) : (move order s).1.Expected := by
  refine edit_expected _ _ _ s (fun n _ => ?_) fun _ => Response.refuse_text_expected 409 _ (by decide)
  rw [Response.ok_expected_iff, object_fits, List.forall_mem_singleton]
  · exact text_fits n.id
  · show ∀ key ∈ ["moved"], key.toList.head? ≠ some '_'
    decide

theorem select_expected (id : Option String) (s : Service) : (select id s).1.Expected := by
  refine edit_expected _ _ _ s (fun _ store => ?_) fun _ => Response.refuse_text_expected 404 _ (by decide)
  rw [Response.ok_expected_iff, object_fits, List.forall_mem_singleton]
  · exact (selection_fits store.selected).1
  · show ∀ key ∈ ["selectedFieldId"], key.toList.head? ≠ some '_'
    decide

theorem html_expected (html : String) : (htmlReply html).Expected := by
  rw [htmlReply, Response.ok_expected_iff, object_fits, List.forall_mem_singleton]
  · exact text_fits html
  · show ∀ key ∈ ["html"], key.toList.head? ≠ some '_'
    decide

theorem canvas_expected (s : Service) : (canvas s).1.Expected := by
  rw [canvas]
  generalize s.store.form.canvasPage s.store.selected = html
  exact html_expected html

theorem health_expected : health.Expected := by
  rw [health, Response.ok_expected_iff, Value.object_fits]
  · simp [Value.text_fits, Value.bool_fits]
  · show ∀ key ∈ ["ok", "service"], key.toList.head? ≠ some '_'
    decide

theorem load_sample_expected (s : Service) : (loadSample s).1.Expected := by
  rw [loadSample]
  split
  · have loaded : (Store.load sampleForm).run s.store = .ok sampleForm (s.store.holding sampleForm) := by
      have fits : Store.checkTree sampleForm.nodes = .ok () := by rfl
      simp [Store.load, fits, Store.holding]
    refine (edit_expected_iff _ _ _ s).mpr ⟨fun form _ _ => form_reply_expected form, fun why store refused => ?_⟩
    cases loaded.symm.trans refused
  · show (Response.refuseText 404 "Not found").Expected
    exact Response.refuse_text_expected 404 _ (by decide)

theorem show_expected_iff (s : Service) : (showSchema s).1.Expected ↔ Node.Writable s.store.nodes := by
  rw [showSchema, dumped_expected_iff, Node.writable_iff, object_fits]
  · simp [selectionEntry, (selection_fits s.store.selected).1, Form.fits_iff]
    intro _
    rfl
  · show ∀ key ∈ ["schema", "selectedFieldId"], key.toList.head? ≠ some '_'
    decide

theorem update_expected_iff (id : String) (patch : Keyed Value) (s : Service) :
    (updateField id patch s).1.Expected ↔ Node.Writable (s.store.brought (.update id patch)) := by
  rw [updateField, edit_expected_iff, Store.brought]
  cases ran : (Store.update id patch).run s.store with
  | error why store =>
      refine iff_of_true ⟨fun x store ok => (by cases ok), fun why _ _ => ?_⟩ Node.writable_nil
      exact Response.refuse_text_expected 409 _ (by decide)
  | ok n store =>
      cases n with
      | none =>
          refine iff_of_true ⟨fun x _ ok => ?_, fun why _ refused => (by cases refused)⟩ Node.writable_nil
          cases ok
          exact Response.refuse_text_expected 404 _ (by decide)
      | some n =>
          rw [Store.broughtNode, ← node_reply_expected_iff]
          constructor
          · exact fun all => all.1 (some n) store rfl
          · refine fun answered => ⟨fun x _ ok => ?_, fun why _ refused => (by cases refused)⟩
            cases ok
            exact answered

theorem render_expected_iff (values : Keyed Value) (s : Service) :
    (renderState values s).1.Expected ↔ ∃ errors, validate s.store.form.nodes values = .ok errors := by
  cases checked : validate s.store.form.nodes values with
  | ok errors =>
      obtain ⟨visibility, answer⟩ := render_answer s values errors checked
      have expected : (renderState values s).1.Expected := by
        rw [answer]
        show 200 ∈ expectedStatuses
        decide
      exact iff_of_true expected ⟨errors, rfl⟩
  | error why =>
      rw [render_broken s values why checked]
      exact iff_of_false Response.internal_error_unexpected fun ⟨errors, done⟩ => (by cases done)

theorem submit_expected_iff (values : Keyed Value) (s : Service) : (submit values s).1.Expected ↔
    ∃ outcome, FormEngine.submit s.store.form values = .ok outcome ∧
      ∀ payload, outcome = .accepted payload → (Value.object payload).Fits := by
  cases checked : validate s.store.form.nodes values with
  | error why =>
      have broken := submit_broken s.store.form values why checked
      have answer : (submit values s).1 = .internalError := by rw [submit, broken]
      rw [answer]
      refine iff_of_false Response.internal_error_unexpected ?_
      rintro ⟨outcome, done, _⟩
      cases broken.symm.trans done
  | ok errors =>
      by_cases fine : errors = []
      · subst fine
        have accepted := submit_accepted s.store.form values checked
        have answer : (submit values s).1 = .ok (.object [("payload", .object (payload s.store.form.nodes values))]) := by
          rw [submit, accepted]
        rw [answer, Response.ok_expected_iff, object_fits, List.forall_mem_singleton, accepted]
        · simp
        · show ∀ key ∈ ["payload"], key.toList.head? ≠ some '_'
          decide
      · have rejected := submit_rejected s.store.form values errors checked fine
        have expected : (submit values s).1.Expected := by
          rw [submit_rejection s values errors checked fine]
          show 422 ∈ expectedStatuses
          decide
        exact iff_of_true expected ⟨_, rejected, fun payload same => by cases same⟩

theorem word_known (names expected : List String) (origin : Origin) (v : Value) (name : String)
    (read : Reading.word (fun name => if names.contains name then some name else none) expected origin v = .ok name) :
    names.contains name = true := by
  cases v with
  | text s =>
      rw [Reading.word] at read
      by_cases known : names.contains s = true
      · simp only [known, if_true] at read
        cases read
        exact known
      · simp only [if_neg known] at read
        cases read
  | _ => cases read

theorem required_read {α : Type} (origin : Origin) (found : List (String × Value)) (key plain : String)
    (reader : Reading.Reader α) (x : α) (read : (Reading.required origin found key plain reader).toOption = some x) :
    ∃ v, reader origin v = .ok x := by
  rw [Reading.required] at read
  split at read
  · rename_i v _
    exact ⟨v, to_option_some_iff.mp ((to_option_below _ _).symm.trans read)⟩
  · cases read

theorem order_type_known (origin : Origin) (v : Value) (order : AddOrder) (read : AddOrder.read origin v = .ok order) :
    Node.tagNames.contains order.type = true := by
  cases v with
  | object found =>
      have taken := to_option_some_iff.mpr read
      simp only [AddOrder.read, Reading.entries, bind, Except.bind, to_option_feed] at taken
      obtain ⟨make, given, rest⟩ := Option.bind_eq_some_iff.mp taken
      obtain ⟨parent, _, rfl⟩ := Option.map_eq_some_iff.mp rest
      obtain ⟨type, known, rfl⟩ := Option.map_eq_some_iff.mp given
      obtain ⟨v, read⟩ := required_read _ _ _ _ _ type known
      exact word_known _ _ _ v type read
  | _ => cases read

end Service

namespace Store

def Drawable (s : Store) (type : String) : Prop :=
  (s.draws.fresh (s.issued ++ s.ids) (if type = groupName then "grp" else "fld")).isSome = true

theorem kind_known (type : String) (known : Node.tagNames.contains type = true) (field : type ≠ groupName) :
    ∃ kind, FieldKind.ofName? type = some kind := by
  have listed : ∀ name ∈ Node.tagNames, name = groupName ∨ (FieldKind.ofName? name).isSome = true := by decide
  have member : type ∈ Node.tagNames := by simpa using known
  exact Option.isSome_iff_exists.mp ((listed type member).resolve_left field)

theorem create_fails_iff (s : Store) (type : String) (known : Node.tagNames.contains type = true) :
    (∃ why left, (create type).run s = .error why left) ↔ ¬ s.Drawable type := by
  by_cases group : type = groupName
  · rw [Drawable, if_pos group]
    cases next : s.draws.fresh (s.issued ++ s.ids) "grp" <;> simp [create, group, freshId, next]
  · obtain ⟨kind, same⟩ := kind_known type known group
    rw [Drawable, if_neg group]
    cases next : s.draws.fresh (s.issued ++ s.ids) "fld" <;> simp [create, group, same, freshId, next]

theorem add_fails_iff (s : Store) (type : String) (known : Node.tagNames.contains type = true) :
    (∃ why left, (add type).run s = .error why left) ↔ ¬ s.Drawable type := by
  rw [← create_fails_iff s type known]
  cases made : (create type).run s <;> simp [add, made]

theorem add_child_fails_iff (s : Store) (parent type : String) (known : Node.tagNames.contains type = true) :
    (∃ why left, (addChild parent type).run s = .error why left) ↔
      (s.findGroup? parent).isSome = true ∧ ¬ s.Drawable type := by
  rw [← create_fails_iff s type known]
  cases found : s.findGroup? parent with
  | none => simp [addChild, found]
  | some group => cases made : (create type).run s <;> simp [addChild, found, made]

end Store

namespace Service

theorem add_expected_iff (type : String) (known : Node.tagNames.contains type = true) (s : Service) :
    (addField ⟨type, none⟩ s).1.Expected ↔ s.store.Drawable type := by
  rw [addField, edit_expected_iff, ← not_iff_not, ← Store.add_fails_iff s.store type known]
  rcases Store.add_outcome s.store type with ⟨why, refused⟩ | ⟨n, draws, new, added⟩
  · rw [refused]
    refine iff_of_true (fun all => ?_) ⟨why, _, rfl⟩
    exact Response.internal_error_unexpected (all.2 why _ rfl)
  · rw [added]
    refine iff_of_false (not_not_intro ⟨fun m _ ok => ?_, fun _ _ refused => by cases refused⟩) (by simp)
    cases ok
    exact (node_reply_expected_iff n).mpr (Store.new_writable new)

theorem add_child_expected_iff (parent type : String) (known : Node.tagNames.contains type = true) (s : Service) :
    (addField ⟨type, some parent⟩ s).1.Expected ↔
      ((s.store.findGroup? parent).isSome = true → s.store.Drawable type) := by
  rw [addField, edit_expected_iff, ← not_iff_not, Classical.not_imp, ← Store.add_child_fails_iff s.store parent type known]
  rcases Store.add_child_outcome s.store parent type with
    ⟨why, refused⟩ | ⟨_, nothing⟩ | ⟨group, n, draws, found, new, added⟩
  · rw [refused]
    refine iff_of_true (fun all => ?_) ⟨why, _, rfl⟩
    exact Response.internal_error_unexpected (all.2 why _ rfl)
  · rw [nothing]
    refine iff_of_false (not_not_intro ⟨fun m _ ok => ?_, fun _ _ refused => by cases refused⟩) (by simp)
    cases ok
    exact Response.refuse_text_expected 404 _ (by decide)
  · rw [added]
    refine iff_of_false (not_not_intro ⟨fun m _ ok => ?_, fun _ _ refused => by cases refused⟩) (by simp)
    cases ok
    exact (node_reply_expected_iff n).mpr (Store.new_writable new)

-- Whether there is an id for the new node of an order; none is needed when the group for it is not there.
def Fulfilled (s : Service) (order : AddOrder) : Prop :=
  (∀ parent ∈ order.parent, (s.store.findGroup? parent).isSome = true) → s.store.Drawable order.type

theorem add_field_expected_iff (order : AddOrder) (known : Node.tagNames.contains order.type = true) (s : Service) :
    (addField order s).1.Expected ↔ s.Fulfilled order := by
  obtain ⟨type, parent⟩ := order
  cases parent with
  | none => simp [add_expected_iff type known, Fulfilled]
  | some parent => simp [add_child_expected_iff parent type known, Fulfilled]

theorem body_order_known (body : Body) (order : AddOrder) (read : body.read AddOrder.read = .ok order) :
    Node.tagNames.contains order.type = true := by
  obtain ⟨v, _, taken⟩ := body.value_of_read AddOrder.read order read
  exact order_type_known .request v order taken

def Answerable (s : Service) (body : Body) : Action → Prop
  | .showSchema => Node.Writable s.store.nodes
  | .importSchema => body.Answered readObject
  | .setTitle => body.Answered readTitle
  | .addField => body.Answered AddOrder.read ∧ ∀ order, body.read AddOrder.read = .ok order → s.Fulfilled order
  | .updateField id => body.Answered readObject ∧
      ∀ patch, body.read readObject = .ok patch → Node.Writable (s.store.brought (.update id patch))
  | .reorder => body.Answered readOrder
  | .move => body.Answered MoveOrder.read
  | .select => body.Answered readSelection
  | .renderState => body.Answered readValues ∧
      ∀ values, body.read readValues = .ok values → ∃ errors, validate s.store.form.nodes values = .ok errors
  | .submit => body.Answered readValues ∧ ∀ values, body.read readValues = .ok values →
      ∃ outcome, FormEngine.submit s.store.form values = .ok outcome ∧
        ∀ payload, outcome = .accepted payload → (Value.object payload).Fits
  | .health | .deleteField _ | .removeChild _ _ | .canvas | .loadSample | .preview | .previewTable => True

theorem perform_expected_iff (action : Action) (body : Body) (s : Service)
    (inspected : action ≠ .preview ∧ action ≠ .previewTable) :
    (perform action body s).1.Expected ↔ s.Answerable body action := by
  cases action with
  | health => exact iff_of_true health_expected trivial
  | showSchema => exact show_expected_iff s
  | importSchema => exact reading_answered body _ _ s fun document => import_expected document s
  | setTitle => exact reading_answered body _ _ s fun title => set_title_expected title s
  | addField =>
      refine (reading_expected_iff body _ _ s).trans (and_congr_right fun _ => forall₂_congr fun order read => ?_)
      exact add_field_expected_iff order (body_order_known body order read) s
  | updateField id =>
      exact (reading_expected_iff body _ _ s).trans (and_congr_right fun _ => forall₂_congr fun patch _ =>
        update_expected_iff id patch s)
  | deleteField id => exact iff_of_true (delete_expected id s) trivial
  | removeChild parent index => exact iff_of_true (remove_child_expected parent index s) trivial
  | reorder => exact reading_answered body _ _ s fun order => reorder_expected order s
  | move => exact reading_answered body _ _ s fun order => move_expected order s
  | select => exact reading_answered body _ _ s fun id => select_expected id s
  | renderState =>
      exact (reading_expected_iff body _ _ s).trans (and_congr_right fun _ => forall₂_congr fun values _ =>
        render_expected_iff values s)
  | submit =>
      exact (reading_expected_iff body _ _ s).trans (and_congr_right fun _ => forall₂_congr fun values _ =>
        submit_expected_iff values s)
  | preview => exact absurd rfl inspected.1
  | canvas => exact iff_of_true (canvas_expected s) trivial
  | previewTable => exact absurd rfl inspected.2
  | loadSample => exact iff_of_true (load_sample_expected s) trivial

end Service

end FormEngine
