import FormEngine.Filling.History
import FormEngine.Proofs.Filling.SameValues
import FormEngine.Service.Sample

set_option autoImplicit false

namespace FormEngine

namespace Session

structure UpToDate (s : Session) : Prop where
  visibility : s.visibility = visibilityOf s.form.nodes s.values
  errors : (if s.attempted then FormEngine.validate s.form.nodes s.values else .ok []) = .ok s.errors

structure Follows (s : Session) : Prop where
  visibility : s.visibility = visibilityOf s.form.nodes s.values
  untried : s.attempted = false → s.errors = []
  checked : s.attempted = true → ∀ errors, FormEngine.validate s.form.nodes s.values = .ok errors → s.errors = errors

theorem Follows.up_to_date_iff {s : Session} (follows : Follows s) :
    s.UpToDate ↔ (s.attempted = true → ∃ errors, FormEngine.validate s.form.nodes s.values = .ok errors) := by
  constructor
  · intro current attempted
    have errors := current.errors
    rw [if_pos attempted] at errors
    exact ⟨s.errors, errors⟩
  · intro finishes
    refine ⟨follows.visibility, ?_⟩
    cases attempted : s.attempted with
    | false => rw [follows.untried attempted, if_neg Bool.false_ne_true]
    | true =>
        obtain ⟨errors, done⟩ := finishes attempted
        rw [if_pos rfl, done, follows.checked attempted errors done]

theorem recompute_kept (s : Session) :
    s.recompute.1.form = s.form ∧ s.recompute.1.values = s.values ∧ s.recompute.1.attempted = s.attempted ∧
      s.recompute.1.listeners = s.listeners := by
  unfold recompute
  dsimp only
  split
  · split <;> exact ⟨rfl, rfl, rfl, rfl⟩
  · exact ⟨rfl, rfl, rfl, rfl⟩

@[simp] theorem start_form (form : Form) (values : Keyed Value) (listeners : Nat) :
    (start form values listeners).form = form := (recompute_kept _).1

@[simp] theorem start_values (form : Form) (values : Keyed Value) (listeners : Nat) :
    (start form values listeners).values = values := (recompute_kept _).2.1

@[simp] theorem start_attempted (form : Form) (values : Keyed Value) (listeners : Nat) :
    (start form values listeners).attempted = false := (recompute_kept _).2.2.1

theorem recompute_follows (s : Session) (untried : s.attempted = false → s.errors = []) : Follows s.recompute.1 := by
  unfold recompute
  dsimp only
  cases attempted : s.attempted with
  | false =>
      rw [if_neg Bool.false_ne_true]
      exact ⟨rfl, fun _ => untried attempted, fun tried => nomatch tried⟩
  | true =>
      rw [if_pos rfl]
      split
      · rename_i errors done
        exact ⟨rfl, (nomatch ·), fun _ found same => Except.ok.inj (done.symm.trans same)⟩
      · rename_i why broken
        exact ⟨rfl, (nomatch ·), fun _ found same => nomatch broken.symm.trans same⟩

theorem validate_follows (s : Session) : Follows s.validate.1 := recompute_follows _ fun never => nomatch never

theorem submit_session (s : Session) : s.submit.1 = s.validate.1 := by
  rw [submit]
  split
  · rename_i left why ran
    rw [ran]
  · rename_i left ran
    rw [ran]
    split <;> rfl

end Session

namespace LiveForm

theorem step_follows (l : LiveForm) (op : Op) (follows : l.session.Follows) : (l.step op).session.Follows := by
  cases op with
  | setValue key value => exact Session.recompute_follows _ follows.untried
  | setValues values => exact Session.recompute_follows _ follows.untried
  | replaceForm form => exact Session.recompute_follows _ follows.untried
  | listen => exact ⟨follows.visibility, follows.untried, follows.checked⟩
  | validate => exact l.session.validate_follows
  | submit =>
      show Session.Follows l.session.submit.1
      rw [l.session.submit_session]
      exact l.session.validate_follows
  | refreshTables => exact follows
  | syncTables => exact follows
  | rows event => exact follows

theorem step_kept (l : LiveForm) (op : Op) :
    (l.step op).session.form = op.form l.session.form ∧ (l.step op).session.values = op.values l.session.values ∧
      (l.step op).session.attempted = (l.session.attempted || op.attempts) := by
  have recomputed (s : Session) (attempts : Bool) (tried : s.attempted = (l.session.attempted || attempts)) :
      s.recompute.1.form = s.form ∧ s.recompute.1.values = s.values ∧
        s.recompute.1.attempted = (l.session.attempted || attempts) :=
    ⟨s.recompute_kept.1, s.recompute_kept.2.1, s.recompute_kept.2.2.1.trans tried⟩
  have quiet : l.session.attempted = (l.session.attempted || false) := (Bool.or_false _).symm
  have tried : true = (l.session.attempted || true) := (Bool.or_true _).symm
  cases op with
  | setValue key value => exact recomputed _ false quiet
  | setValues values => exact recomputed _ false quiet
  | replaceForm form => exact recomputed _ false quiet
  | listen => exact ⟨rfl, rfl, quiet⟩
  | validate => exact recomputed _ true tried
  | submit =>
      show l.session.submit.1.form = _ ∧ l.session.submit.1.values = _ ∧ l.session.submit.1.attempted = _
      rw [l.session.submit_session]
      exact recomputed _ true tried
  | refreshTables => exact ⟨rfl, rfl, quiet⟩
  | syncTables => exact ⟨rfl, rfl, quiet⟩
  | rows event => exact ⟨rfl, rfl, quiet⟩

theorem run_follows (l : LiveForm) (ops : List Op) (follows : l.session.Follows) : (l.run ops).session.Follows := by
  induction ops generalizing l with
  | nil => exact follows
  | cons op rest ih => exact ih (l.step op) (l.step_follows op follows)

theorem run_kept (l : LiveForm) (ops : List Op) :
    (l.run ops).session.form = ops.foldl Op.form l.session.form ∧
      (l.run ops).session.values = ops.foldl Op.values l.session.values ∧
      (l.run ops).session.attempted = (l.session.attempted || ops.any Op.attempts) := by
  induction ops generalizing l with
  | nil => exact ⟨rfl, rfl, (Bool.or_false _).symm⟩
  | cons op rest ih =>
      obtain ⟨form, values, attempted⟩ := l.step_kept op
      have later := ih (l.step op)
      rw [form, values, attempted, Bool.or_assoc] at later
      exact later

end LiveForm

namespace FormHistory

theorem session_follows (h : FormHistory) : h.session.Follows :=
  h.opened.run_follows h.ops (Session.recompute_follows _ fun _ => rfl)

theorem session_kept (h : FormHistory) :
    h.session.form = h.ops.foldl LiveForm.Op.form h.form ∧ h.session.values = h.ops.foldl LiveForm.Op.values h.values ∧
      h.session.attempted = h.ops.any LiveForm.Op.attempts := by
  have kept := h.opened.run_kept h.ops
  simp only [opened, Session.start_form, Session.start_values, Session.start_attempted, Bool.false_or] at kept
  exact kept

end FormHistory

theorem complain_finishes_iff (index : Keyed Value) (fields : List Field) (errors : Keyed String) :
    (∃ out, fields.foldlM (complain index) errors = .ok out) ↔
      ∀ f ∈ fields, ∃ wrong, f.complaint (heldValue index f) = .ok wrong := by
  induction fields generalizing errors with
  | nil => exact ⟨fun _ f member => absurd member List.not_mem_nil, fun _ => ⟨errors, rfl⟩⟩
  | cons f rest ih =>
      rw [List.foldlM_cons, List.forall_mem_cons, complain]
      cases said : f.complaint (heldValue index f) with
      | error why =>
          constructor
          · rintro ⟨out, done⟩
            cases done
          · rintro ⟨⟨wrong, fine⟩, _⟩
            cases fine
      | ok wrong =>
          have fine : ∃ found, (Except.ok wrong : Except Breakdown (Option Complaint)) = .ok found := ⟨wrong, rfl⟩
          have later (found : Keyed String) := (ih found).trans (and_iff_right fine).symm
          cases wrong with
          | none => exact later errors
          | some wrong => exact later (Keyed.put errors f.id wrong.message)

theorem validate_finishes_iff (nodes : List Node) (values : Keyed Value) :
    (∃ errors, validate nodes values = .ok errors) ↔ ∀ f ∈ visibleFields nodes (visibilityOf nodes values),
      ∃ wrong, f.complaint (heldValue (valueIndex nodes values) f) = .ok wrong :=
  complain_finishes_iff _ _ []

theorem shown_follows_history (h : FormHistory) :
    (h.session.form = h.ops.foldl LiveForm.Op.form h.form ∧ h.session.values = h.ops.foldl LiveForm.Op.values h.values ∧
      h.session.attempted = h.ops.any LiveForm.Op.attempts) ∧
    h.session.visibility = visibilityOf h.session.form.nodes h.session.values ∧
    (h.session.UpToDate ↔ (h.session.attempted = true → ∀ f ∈ h.session.visibleFields,
      ∃ wrong, f.complaint (heldValue (valueIndex h.session.form.nodes h.session.values) f) = .ok wrong)) ∧
    ∀ other : FormHistory, other.session.form = h.session.form → SameValues other.session.values h.session.values →
      other.session.attempted = h.session.attempted →
      other.session.visibility = h.session.visibility ∧
      other.session.visibleFields = h.session.visibleFields ∧
      (h.session.UpToDate → other.session.errors = h.session.errors) := by
  have follows := h.session_follows
  have shown : h.session.visibleFields
      = visibleFields h.session.form.nodes (visibilityOf h.session.form.nodes h.session.values) := by
    rw [Session.visibleFields, follows.visibility]
  refine ⟨h.session_kept, follows.visibility, ?_, fun other form values attempted => ?_⟩
  · rw [follows.up_to_date_iff, shown, validate_finishes_iff]
  · have follows' := other.session_follows
    have visibility : other.session.visibility = h.session.visibility := by
      rw [follows'.visibility, follows.visibility, form, values.visibility]
    refine ⟨visibility, ?_, fun current => ?_⟩
    · rw [Session.visibleFields, Session.visibleFields, form, visibility]
    · cases tried : h.session.attempted with
      | false => rw [follows.untried tried, follows'.untried (attempted.trans tried)]
      | true =>
          obtain ⟨errors, done⟩ := follows.up_to_date_iff.mp current tried
          have done' : validate other.session.form.nodes other.session.values = .ok errors := by
            rw [form, values.errors, done]
          rw [follows.checked tried errors done, follows'.checked (attempted.trans tried) errors done']

def shortForm : Form :=
  ⟨"Short", [.field { Field.create "f" .text with rules := some { Rules.unset with minLength := some 5 } }]⟩

def unreadableForm : Form :=
  ⟨"Unreadable",
    [.field { Field.create "f" .text with rules := some { Rules.unset with pattern := some "x\x7b99999999999\x7d" } }]⟩

def replacedForm : FormHistory :=
  ⟨shortForm, [("f", .text "x")], 0, TableSource.new defaultPatience, ⟨[], []⟩, [.validate, .replaceForm unreadableForm]⟩

def openedForm : FormHistory :=
  ⟨unreadableForm, [("f", .text "x")], 0, TableSource.new defaultPatience, ⟨[], []⟩, [.validate]⟩

theorem replaced_form_keeps_messages :
    replacedForm.session.form = openedForm.session.form ∧ replacedForm.session.values = openedForm.session.values ∧
    replacedForm.session.attempted = true ∧ openedForm.session.attempted = true ∧
    replacedForm.session.errors = [("f", "Must be at least 5 characters")] ∧ openedForm.session.errors = [] ∧
    validate unreadableForm.nodes [("f", .text "x")] = .error .countTooLarge ∧ ¬ replacedForm.session.UpToDate := by
  have broken : validate unreadableForm.nodes [("f", .text "x")] = .error .countTooLarge := by decide +kernel
  refine ⟨?_, ?_, by decide +kernel, by decide +kernel, by decide +kernel, by decide +kernel, broken, fun current => ?_⟩
  · rw [replacedForm.session_kept.1, openedForm.session_kept.1]
    rfl
  · rw [replacedForm.session_kept.2.1, openedForm.session_kept.2.1]
    rfl
  · have errors := current.errors
    rw [replacedForm.session_kept.1, replacedForm.session_kept.2.1, replacedForm.session_kept.2.2] at errors
    exact nomatch broken.symm.trans errors

def oneByOne : FormHistory :=
  ⟨sampleForm, [], 0, TableSource.new defaultPatience, ⟨[], []⟩,
    [.validate, .setValue "age" (.int 20), .setValue "name" (.text "Bo")]⟩

def allAtOnce : FormHistory :=
  ⟨sampleForm, [], 2, TableSource.new defaultPatience, ⟨[], []⟩,
    [.setValues [("name", .text "Bo"), ("age", .int 20)], .submit]⟩

theorem all_at_once_like_one_by_one :
    oneByOne.session.UpToDate ∧ allAtOnce.session.errors = oneByOne.session.errors ∧
    allAtOnce.session.visibility = oneByOne.session.visibility ∧
    oneByOne.session.errors = [("license", "Driver License is required")] := by
  obtain ⟨kept, _, _, others⟩ := shown_follows_history oneByOne
  have upToDate : oneByOne.session.UpToDate := ⟨oneByOne.session_follows.visibility, by decide +kernel⟩
  have same : SameValues allAtOnce.session.values oneByOne.session.values := by
    rw [allAtOnce.session_kept.2.1, kept.2.1]
    intro key
    simp only [allAtOnce, oneByOne, List.foldl_cons, List.foldl_nil, LiveForm.Op.values, Keyed.putAll,
      Keyed.value?_put, Keyed.value?_nil]
    by_cases name : "name" = key
    · subst name
      rfl
    · rw [if_neg name, if_neg name]
  have form : allAtOnce.session.form = oneByOne.session.form := by
    rw [allAtOnce.session_kept.1, kept.1]
    rfl
  obtain ⟨visibility, _, errors⟩ := others allAtOnce form same (by decide +kernel)
  exact ⟨upToDate, errors upToDate, visibility, by decide +kernel⟩

end FormEngine
