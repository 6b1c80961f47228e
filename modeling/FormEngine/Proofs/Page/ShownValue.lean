import FormEngine.Page.FormPage
import FormEngine.Proofs.Filling.Hidden
import FormEngine.Proofs.Filling.UpToDate

set_option autoImplicit false

namespace FormEngine

def Field.IsInput (f : Field) : Prop := f.kind ≠ .table ∧ f.kind.displayOnly = false

-- The control shows what is under the name, and null is checked and sent.
def NullBeforeName (values : Keyed Value) (f : Field) : Prop :=
  Keyed.value? values f.id = some .null ∧ (f.alias?.bind (Keyed.value? values)).getD .null ≠ .null

-- The control shows nothing, and what another node lends is checked and sent.
def OnlyLent (nodes : List Node) (values : Keyed Value) (f : Field) : Prop :=
  ownValue? values f = none ∧ lent nodes values f ≠ .null

namespace Session

theorem field_view_input (s : Session) (tables : TableSource) (f : Field) (input : f.IsInput) :
    s.fieldView tables f = s.inputView f := by
  obtain ⟨noTable, filled⟩ := input
  rw [fieldView]
  split
  · rename_i heading
    rw [heading] at filled
    cases filled
  · rename_i divider
    rw [divider] at filled
    cases filled
  · rename_i table
    exact absurd table noTable
  · rfl

theorem shown_value_null (s : Session) (f : Field) (given : Keyed.value? s.values f.id = some .null) :
    s.shownValue f.toBasics = (f.alias?.bind (Keyed.value? s.values)).getD .null := by
  rw [shownValue, given]
  rfl

theorem shown_value_given (s : Session) (f : Field) (v : Value) (given : Keyed.value? s.values f.id = some v)
    (something : v ≠ .null) : s.shownValue f.toBasics = v := by
  have kept : (some v).filter (· != .null) = some v := by simp [something]
  rw [shownValue, given, kept]

theorem shown_value_absent (s : Session) (f : Field) (absent : Keyed.value? s.values f.id = none) :
    s.shownValue f.toBasics = (f.alias?.bind (Keyed.value? s.values)).getD .null := by
  rw [shownValue, absent]
  rfl

theorem shown_value_held_iff (s : Session) (f : Field) (distinct : (Node.idsOf s.form.nodes).Nodup)
    (visible : f ∈ s.visibleFields) :
    s.shownValue f.toBasics = heldValue (valueIndex s.form.nodes s.values) f ↔
      ¬ NullBeforeName s.values f ∧ ¬ OnlyLent s.form.nodes s.values f := by
  rw [held_value s.form.nodes s.values _ f distinct visible]
  cases given : Keyed.value? s.values f.id with
  | some v =>
      have own : ownValue? s.values f = some v := by rw [ownValue?, given, Option.some_or]
      have notLent : ¬ OnlyLent s.form.nodes s.values f := fun ⟨absent, _⟩ => by cases own.symm.trans absent
      rw [own, Option.getD_some, and_iff_left notLent]
      by_cases null : v = .null
      · subst null
        rw [s.shown_value_null f given]
        constructor
        · exact fun same ⟨_, something⟩ => something same
        · exact fun quiet => by_contra fun other => quiet ⟨given, other⟩
      · refine iff_of_true (s.shown_value_given f v given null) fun ⟨isNull, _⟩ => ?_
        exact null (Option.some.inj (given.symm.trans isNull))
  | none =>
      have own : ownValue? s.values f = f.alias?.bind (Keyed.value? s.values) := by
        rw [ownValue?, given, Option.none_or]
      have notNull : ¬ NullBeforeName s.values f := fun ⟨null, _⟩ => by cases given.symm.trans null
      rw [s.shown_value_absent f given, and_iff_right notNull, ← own]
      cases named : ownValue? s.values f with
      | some w => exact iff_of_true rfl fun ⟨absent, _⟩ => by cases named.symm.trans absent
      | none =>
          constructor
          · exact fun same ⟨_, lends⟩ => lends same.symm
          · exact fun quiet => by_contra fun other => quiet ⟨named, Ne.symm other⟩

end Session

-- For every history of a form and every field in it that is filled in.
theorem control_value_checked_iff (h : FormHistory) (distinct : (Node.idsOf h.session.form.nodes).Nodup)
    (tables : TableSource) (f : Field) (visible : f ∈ h.session.visibleFields) (input : f.IsInput) :
    h.session.fieldView tables f = .element .div [.value .classes "field"]
      (.element .label [.value .labelFor f.id] [.text f.label] :: f.control (h.session.shownValue f.toBasics)
        :: h.session.errorView f.id) ∧
    (h.session.shownValue f.toBasics = heldValue (valueIndex h.session.form.nodes h.session.values) f ↔
      ¬ NullBeforeName h.session.values f ∧ ¬ OnlyLent h.session.form.nodes h.session.values f) :=
  ⟨h.session.field_view_input tables f input, h.session.shown_value_held_iff f distinct visible⟩

def calledField : Field := { Field.create "f" .text with name := some "n", required := true }

def calledHistory (values : Keyed Value) : FormHistory :=
  ⟨⟨"Called", [.field calledField]⟩, values, 0, TableSource.new defaultPatience, ⟨[], []⟩, [.validate]⟩

def nulledSession : Session := (calledHistory [("f", .null), ("n", .text "x")]).session

def borrower : Field := { Field.create "v" .text with required := true }

def namesakeHistory : FormHistory :=
  ⟨⟨"Namesake", namesakeForm⟩, [("x", .text "secret")], 0, TableSource.new defaultPatience, ⟨[], []⟩, []⟩

def lentSession : Session := namesakeHistory.session

theorem control_shows_other_value :
    (calledField ∈ nulledSession.visibleFields ∧ nulledSession.shownValue calledField.toBasics = .text "x" ∧
      heldValue (valueIndex nulledSession.form.nodes nulledSession.values) calledField = .null ∧
      nulledSession.errors = [("f", "Text is required")]) ∧
    borrower ∈ lentSession.visibleFields ∧ lentSession.shownValue borrower.toBasics = .null ∧
      heldValue (valueIndex lentSession.form.nodes lentSession.values) borrower = .text "secret" ∧
      payload lentSession.form.nodes lentSession.values = [("v", .text "secret")] := by
  refine ⟨⟨?_, ?_, ?_, ?_⟩, ?_, ?_, ?_, ?_⟩ <;> decide +kernel

theorem named_control_checked :
    let s := (calledHistory [("n", .text "x")]).session
    s.shownValue calledField.toBasics = heldValue (valueIndex s.form.nodes s.values) calledField ∧
    s.shownValue calledField.toBasics = .text "x" := by
  intro s
  have distinct : (Node.idsOf s.form.nodes).Nodup := by decide +kernel
  have visible : calledField ∈ s.visibleFields := by decide +kernel
  have own : ownValue? s.values calledField = some (.text "x") := by decide +kernel
  have under : Keyed.value? s.values "f" = none := by decide +kernel
  have checked := (control_value_checked_iff (calledHistory [("n", .text "x")]) distinct
    (TableSource.new defaultPatience) calledField visible ⟨by decide, rfl⟩).2
  refine ⟨checked.mpr ⟨fun ⟨null, _⟩ => ?_, fun ⟨absent, _⟩ => ?_⟩, by decide +kernel⟩
  · cases under.symm.trans null
  · cases own.symm.trans absent

end FormEngine
