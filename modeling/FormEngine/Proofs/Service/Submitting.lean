import FormEngine.Proofs.Filling.UpToDate
import FormEngine.Proofs.Service.Answers
import FormEngine.Proofs.Service.Routes

set_option autoImplicit false

namespace FormEngine

theorem submit_rejected (form : Form) (values : Keyed Value) (errors : Keyed String)
    (done : validate form.nodes values = .ok errors) (wrong : errors ≠ []) :
    submit form values = .ok (.rejected errors) := by
  rw [submit, done]
  show Except.ok (if errors.isEmpty = true then _ else _) = _
  rw [if_neg (by simp [wrong])]

theorem submit_accepted (form : Form) (values : Keyed Value) (done : validate form.nodes values = .ok []) :
    submit form values = .ok (.accepted (payload form.nodes values)) := by
  rw [submit, done]
  rfl

theorem submit_broken (form : Form) (values : Keyed Value) (why : Breakdown)
    (broken : validate form.nodes values = .error why) : submit form values = .error why := by
  rw [submit, broken]
  rfl

namespace Session

def SubmitsAlike (s : Session) : Prop :=
  (∃ errors, FormEngine.submit s.form s.values = .ok (.rejected errors) ∧ errors ≠ [] ∧ s.submit.2 = .ok .blocked ∧
    s.submit.1.errors = errors) ∨
  ∃ payload received, FormEngine.submit s.form s.values = .ok (.accepted payload) ∧
    s.submit.2 = .ok (.sent payload received) ∧ received.map (·.1) = List.range s.listeners ∧
    ∀ call ∈ received, call.2 = payload

def checked (s : Session) (errors : Keyed String) : Session :=
  { s with attempted := true, visibility := visibilityOf s.form.nodes s.values, errors := errors }

theorem validate_ok (s : Session) (errors : Keyed String) (done : FormEngine.validate s.form.nodes s.values = .ok errors) :
    s.validate = (s.checked errors, none) := by
  have same : validateShown s.form.nodes s.values (visibilityOf s.form.nodes s.values) = .ok errors := done
  simp only [validate, recompute, if_true, same, checked]

theorem validate_broken (s : Session) (why : Breakdown)
    (broken : FormEngine.validate s.form.nodes s.values = .error why) : s.validate = (s.checked s.errors, some why) := by
  have same : validateShown s.form.nodes s.values (visibilityOf s.form.nodes s.values) = .error why := broken
  simp only [validate, recompute, if_true, same, checked]

theorem submit_ok (s : Session) (errors : Keyed String) (done : FormEngine.validate s.form.nodes s.values = .ok errors) :
    s.submit = (s.checked errors, .ok (if errors.isEmpty then
      .sent (payload s.form.nodes s.values) ((List.range s.listeners).map (·, payload s.form.nodes s.values))
      else .blocked)) := by
  rw [submit, s.validate_ok errors done]
  show (if errors.isEmpty = true then _ else _) = _
  split <;> rfl

theorem submits_alike_iff (s : Session) :
    s.SubmitsAlike ↔ ∃ errors, FormEngine.validate s.form.nodes s.values = .ok errors := by
  cases checked : FormEngine.validate s.form.nodes s.values with
  | error why =>
      have broken := submit_broken s.form s.values why checked
      constructor
      · rintro (⟨errors, rejected, _⟩ | ⟨payload, _, accepted, _⟩)
        · cases broken.symm.trans rejected
        · cases broken.symm.trans accepted
      · rintro ⟨errors, done⟩
        cases done
  | ok errors =>
      refine iff_of_true ?_ ⟨errors, rfl⟩
      have submitted := s.submit_ok errors checked
      by_cases fine : errors = []
      · subst fine
        refine .inr ⟨_, _, submit_accepted _ _ checked, congrArg Prod.snd submitted, ?_, fun call member => ?_⟩
        · simp [Function.comp_def]
        · obtain ⟨_, _, rfl⟩ := List.mem_map.mp member
          rfl
      · refine .inl ⟨errors, submit_rejected _ _ _ checked fine, fine, ?_, congrArg (·.1.errors) submitted⟩
        rw [submitted, if_neg (by simp [fine])]

end Session

namespace Service

def posted (path : String) (body : Body) : Request := ⟨"POST", path, body⟩

variable (s : Service) (body : Body) (values : Keyed Value)

theorem handle_render (read : body.read readValues = .ok values) :
    s.handle (posted "/render/state" body) = renderState values s := by
  rw [posted, handle_fixed s _ _ body .renderState (by simp [fixedRoutes])]
  show reading body readValues renderState s = _
  rw [reading, read]

theorem handle_submit (read : body.read readValues = .ok values) : s.handle (posted "/submit" body) = submit values s := by
  rw [posted, handle_fixed s _ _ body .submit (by simp [fixedRoutes])]
  show reading body readValues submit s = _
  rw [reading, read]

-- The answer to a submission is positive when the answer to a rendering has no messages, and has the same ones if not.
def Agree (rendered submitted : Response) : Prop :=
  ∃ errors, rendered.member? ["errors"] = some (.object errors) ∧ (submitted.status = 200 ↔ errors = []) ∧
    (errors ≠ [] → submitted.status = 422 ∧ submitted.member? ["detail", "errors"] = some (.object errors))

def RoutesAgree (s : Service) (body : Body) : Prop :=
  Agree (s.handle (posted "/render/state" body)).1 (s.handle (posted "/submit" body)).1

theorem ok_marks_and_errors (marks : Keyed Bool) (errors : Keyed String) :
    Response.ok (.object [("visibility", .object (Keyed.mapValues .bool marks)), ("errors", textsValue errors)])
      = .json 200 (.object [("visibility", .object (Value.unreserved .bool marks)),
          ("errors", .object (Value.unreserved .text errors))]) := by
  have free : ∀ e ∈ [("visibility", Value.object (Keyed.mapValues .bool marks)), ("errors", textsValue errors)],
      isReserved e.1 = false := by
    simp only [List.forall_mem_cons]
    exact ⟨by decide, by decide, fun _ member => absurd member List.not_mem_nil⟩
  have sent : (Value.object
      [("visibility", .object (Keyed.mapValues .bool marks)), ("errors", textsValue errors)]).sendable
        = .object [("visibility", .object (Value.unreserved .bool marks)),
            ("errors", .object (Value.unreserved .text errors))] := by
    rw [Value.sendable, Value.sendable_members _ free, ← Value.sendable_plain .bool fun _ => rfl,
      ← Value.sendable_plain .text fun _ => rfl]
    simp only [Keyed.mapValues, List.map_cons, List.map_nil, textsValue, Value.sendable]
  rw [Response.ok, sent, Response.reply_finite]
  rw [Value.isFinite, beq_iff_eq]
  simp only [Value.finiteOnly, Value.finiteEntries, Value.unreserved]
  rw [Value.finite_plain .bool fun _ => rfl, Value.finite_plain .text fun _ => rfl]

theorem render_answer (errors : Keyed String) (done : validate s.store.form.nodes values = .ok errors) :
    ∃ visibility, (renderState values s).1
      = .json 200 (.object [("visibility", visibility), ("errors", .object (Value.unreserved .text errors))]) := by
  have checked := (s.session values).validate_ok errors (by
    rw [session, Session.start_form, Session.start_values]
    exact done)
  rw [renderState, checked]
  exact ⟨_, ok_marks_and_errors _ errors⟩

theorem render_broken (why : Breakdown) (broken : validate s.store.form.nodes values = .error why) :
    (renderState values s).1 = .internalError := by
  have checked := (s.session values).validate_broken why (by
    rw [session, Session.start_form, Session.start_values]
    exact broken)
  rw [renderState, checked]

theorem submit_rejection (errors : Keyed String) (done : validate s.store.form.nodes values = .ok errors)
    (wrong : errors ≠ []) : (submit values s).1 = .json 422 (.object [("detail", .object
      [("message", .text "validation_failed"), ("errors", .object (Keyed.mapValues .text errors))])]) := by
  rw [submit, submit_rejected _ _ errors done wrong]
  show Response.refuse 422 _ = _
  rw [Response.refuse, textsValue, Response.reply_finite]
  rw [Value.isFinite, beq_iff_eq]
  simp only [Value.finiteOnly, Value.finiteEntries]
  rw [Value.finite_plain .text fun _ => rfl]

theorem submit_acceptance (done : validate s.store.form.nodes values = .ok [])
    (finite : (Value.object (payload s.store.form.nodes values)).isFinite = true) : (submit values s).1.status = 200 := by
  rw [submit, submit_accepted _ _ done]
  show (Response.ok _).status = 200
  rw [Response.ok, Response.reply_finite]
  · rfl
  · apply Value.sendable_finite
    rw [Value.isFinite, beq_iff_eq] at finite ⊢
    simp only [Value.finiteOnly, Value.finiteEntries] at finite ⊢
    rw [finite]

theorem agree_accepted {rendered submitted : Response} (shown : rendered.member? ["errors"] = some (.object []))
    (status : submitted.status = 200) : Agree rendered submitted :=
  ⟨[], shown, iff_of_true status rfl, fun wrong => absurd rfl wrong⟩

theorem agree_rejected_iff {rendered submitted : Response} {shownErrors told : Keyed Value}
    (shown : rendered.member? ["errors"] = some (.object shownErrors)) (status : submitted.status = 422)
    (detail : submitted.member? ["detail", "errors"] = some (.object told)) (wrong : told ≠ []) :
    Agree rendered submitted ↔ shownErrors = told := by
  constructor
  · rintro ⟨errors, here, positive, same⟩
    cases Option.some.inj (shown.symm.trans here)
    have reported : shownErrors ≠ [] := fun none => by
      have accepted := positive.mpr none
      omega
    exact Value.object.inj (Option.some.inj ((same reported).2.symm.trans detail))
  · rintro rfl
    have refused : submitted.status ≠ 200 := by omega
    exact ⟨shownErrors, shown, iff_of_false refused wrong, fun _ => ⟨status, detail⟩⟩

theorem routes_agree_iff (read : body.read readValues = .ok values)
    (finite : ∀ payload, FormEngine.submit s.store.form values = .ok (.accepted payload) →
      (Value.object payload).isFinite = true) :
    RoutesAgree s body ↔ ∃ errors, validate s.store.form.nodes values = .ok errors ∧
      ∀ id ∈ Keyed.names errors, isReserved id = false := by
  rw [RoutesAgree, handle_render s body values read, handle_submit s body values read]
  cases checked : validate s.store.form.nodes values with
  | error why =>
      rw [render_broken s values why checked]
      constructor
      · rintro ⟨errors, shown, _⟩
        cases shown
      · rintro ⟨errors, done, _⟩
        cases done
  | ok errors =>
      obtain ⟨visibility, rendered⟩ := render_answer s values errors checked
      have shown : (renderState values s).1.member? ["errors"] = some (.object (Value.unreserved .text errors)) := by
        rw [rendered]
        rfl
      have known : (∃ found, Except.ok errors = (.ok found : Except Breakdown (Keyed String)) ∧
          ∀ id ∈ Keyed.names found, isReserved id = false) ↔ ∀ id ∈ Keyed.names errors, isReserved id = false :=
        ⟨fun ⟨found, same, all⟩ => Except.ok.inj same ▸ all, fun all => ⟨errors, rfl, all⟩⟩
      rw [known]
      by_cases fine : errors = []
      · subst fine
        have accepted := submit_acceptance s values checked (finite _ (submit_accepted _ _ checked))
        exact iff_of_true (agree_accepted shown accepted) fun _ none => absurd none List.not_mem_nil
      · have rejected := submit_rejection s values errors checked fine
        have told : Keyed.mapValues Value.text errors ≠ [] := by simpa [Keyed.mapValues] using fine
        rw [rejected, agree_rejected_iff shown rfl rfl told, Value.unreserved_all_iff]

end Service

theorem submissions_alike (session : Session) (s : Service) (body : Body) (values : Keyed Value)
    (read : body.read readValues = .ok values)
    (finite : ∀ payload, submit s.store.form values = .ok (.accepted payload) → (Value.object payload).isFinite = true) :
    (session.SubmitsAlike ↔ ∃ errors, validate session.form.nodes session.values = .ok errors) ∧
    (s.RoutesAgree body ↔ ∃ errors, validate s.store.form.nodes values = .ok errors ∧
      ∀ id ∈ Keyed.names errors, isReserved id = false) :=
  ⟨session.submits_alike_iff, s.routes_agree_iff body values read finite⟩

def valuesBody (values : Keyed Value) : Body := .value (.object [("values", .object values)])

def serving (fields : List Value) : Service :=
  ((Service.new [] ⟨[], []⟩ false).handle ⟨"PUT", "/schema", .value (.object [("fields", .list fields)])⟩).2

def unreadableService : Service :=
  serving [.object [("id", .text "f"), ("type", .text "text"),
    ("validation", .object [("pattern", .text "x\x7b99999999999\x7d")])]]

def reservedService : Service :=
  serving [.object [("id", .text "_sa_f"), ("type", .text "text"), ("required", .bool true)]]

-- A pattern that cannot be read at all leaves both requests without an answer; a reserved id hides its message in one.
theorem submissions_unlike :
    ((unreadableService.handle (Service.posted "/render/state" (valuesBody [("f", .text "x")]))).1.status = 500 ∧
      (unreadableService.handle (Service.posted "/submit" (valuesBody [("f", .text "x")]))).1.status = 500 ∧
      ¬ unreadableService.RoutesAgree (valuesBody [("f", .text "x")])) ∧
    ((reservedService.handle (Service.posted "/render/state" (valuesBody []))).1.member? ["errors"] = some (.object []) ∧
      (reservedService.handle (Service.posted "/submit" (valuesBody []))).1.status = 422 ∧
      ¬ reservedService.RoutesAgree (valuesBody [])) ∧
    ¬ (Session.start unreadableForm [("f", .text "x")] 1).SubmitsAlike := by
  refine ⟨⟨by decide +kernel, by decide +kernel, ?_⟩, ⟨?_, ?_, ?_⟩, ?_⟩
  · rintro ⟨errors, shown, _⟩
    have nothing : (unreadableService.handle
        (Service.posted "/render/state" (valuesBody [("f", .text "x")]))).1.member? ["errors"] = none := by decide +kernel
    cases nothing.symm.trans shown
  · decide +kernel
  · decide +kernel
  · rintro ⟨errors, shown, positive, _⟩
    have nothing : (reservedService.handle
        (Service.posted "/render/state" (valuesBody []))).1.member? ["errors"] = some (.object []) := by decide +kernel
    have none := Value.object.inj (Option.some.inj (nothing.symm.trans shown))
    have accepted := positive.mpr none.symm
    revert accepted
    decide +kernel
  · rw [Session.submits_alike_iff]
    rintro ⟨errors, done⟩
    have broken : validate unreadableForm.nodes [("f", .text "x")] = .error .countTooLarge := by decide +kernel
    rw [Session.start_form, Session.start_values] at done
    cases broken.symm.trans done

def sampleService : Service := (Service.new [] ⟨[], []⟩ true).keep ((Store.new "Sample" []).withForm sampleForm)

def sampleValues : Keyed Value := [("name", .text "Bo"), ("age", .int 17)]

theorem sample_submissions_alike :
    (Session.start sampleForm sampleValues 2).SubmitsAlike ∧ sampleService.RoutesAgree (valuesBody sampleValues) := by
  have done : validate sampleForm.nodes sampleValues = .ok [] := by decide +kernel
  have finite (sent : Keyed Value) (accepted : submit sampleForm sampleValues = .ok (.accepted sent)) :
      (Value.object sent).isFinite = true := by
    have same := Submission.accepted.inj (Except.ok.inj ((submit_accepted sampleForm sampleValues done).symm.trans accepted))
    rw [← same]
    decide +kernel
  obtain ⟨session, routes⟩ := submissions_alike (Session.start sampleForm sampleValues 2) sampleService
    (valuesBody sampleValues) sampleValues rfl finite
  refine ⟨session.mpr ⟨[], ?_⟩, routes.mpr ⟨[], done, fun id member => absurd member List.not_mem_nil⟩⟩
  rw [Session.start_form, Session.start_values]
  exact done

end FormEngine
