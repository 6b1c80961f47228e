import FormEngine.Proofs.Builder.Arrivals
import FormEngine.Proofs.Builder.Export
import FormEngine.Proofs.Service.Routes
import FormEngine.Proofs.Service.Sending

set_option autoImplicit false

namespace FormEngine

open Slot

theorem members_of_values (entries : Keyed Value) :
    Reading.members (fun v => Except.ok v) entries = .ok entries := by
  induction entries with
  | nil => rfl
  | cons entry rest ih =>
      rw [Reading.members, ih]
      rfl

namespace Store

def holding (s : Store) (form : Form) : Store := ((s.withForm form).withSelected none).issue (Node.idsOf form.nodes)

theorem load_value_accepts (s : Store) (origin : Origin) (v : Value) (form : Form) (read : Form.read origin v = .ok form)
    (distinct : (Node.idsOf form.nodes).Nodup) (named : "" ∉ Node.idsOf form.nodes) :
    (loadValue origin v).run s = .ok form (s.holding form) := by
  have tree : checkTree form.nodes = .ok () := (check_tree_ok_iff form.nodes).mpr ⟨named, distinct⟩
  simp [loadValue, read, load, tree, holding]

theorem holding_sound (s : Store) (form : Form) (distinct : (Node.idsOf form.nodes).Nodup) : Sound (s.holding form) where
  distinct := distinct
  selection _ chosen := nomatch chosen
  remembered id member := (mem_issued_issue _ _ id).mpr (.inr member)

theorem issued_never_made (s : Store) (sound : Sound s) (id : String) (issued : id ∈ s.issued) (later : List Op)
    (op : Op) (n : Node) (made : made? (s.run later) op = some n) : n.id ≠ id := by
  rintro rfl
  exact (made_issued _ op n made).1 (run_issued s later sound _ issued)

end Store

namespace Service

def showing : Request := ⟨"GET", "/schema", .empty⟩

def replacing (body : Body) : Request := ⟨"PUT", "/schema", body⟩

def schemaShown (schema : Value) (selected : Option String) : Response :=
  .json 200 (.object [("schema", schema), ("selectedFieldId", textOrNull selected)])

theorem selection_fits (selected : Option String) :
    (textOrNull selected).Fits ∧ (textOrNull selected).sendable = textOrNull selected := by
  cases selected with
  | none => exact ⟨beq_self_eq_true _, rfl⟩
  | some id => exact ⟨Value.text_fits id, rfl⟩

theorem show_answer (s : Service) (finite : Node.BoundsFinite s.store.nodes) (shallow : Node.Shallow s.store.nodes) :
    s.handle showing = (schemaShown (s.store.form.toValue .document).sendable s.store.selected, s) := by
  obtain ⟨fits, same⟩ := selection_fits s.store.selected
  rw [showing, handle_fixed _ _ _ _ .showSchema (by simp [fixedRoutes]), perform, showSchema, dumped, if_pos shallow,
    Response.ok_object]
  · simp only [Keyed.mapValues, List.map_cons, List.map_nil, selectionEntry, same, schemaShown]
  · show ∀ key ∈ ["schema", "selectedFieldId"], key.toList.head? ≠ some '_'
    decide
  · simp only [selectionEntry, List.forall_mem_cons, fits, s.store.form.fits_iff.mpr finite]
    simp

theorem show_deep (s : Service) (deep : ¬ Node.Shallow s.store.nodes) : s.handle showing = (.internalError, s) := by
  rw [showing, handle_fixed _ _ _ _ .showSchema (by simp [fixedRoutes]), perform, showSchema, dumped, if_neg deep]

theorem replace_answer (s : Service) (body : Body) (entries : Keyed Value) (form : Form)
    (value : body.value? = .ok (some (.object entries))) (read : Form.read .values (.object entries) = .ok form)
    (distinct : (Node.idsOf form.nodes).Nodup) (named : "" ∉ Node.idsOf form.nodes) :
    s.handle (replacing body) = (.json 200 (.object [("formTitle", .text form.title), ("fields", .int form.nodes.length)]),
      s.keep (s.store.holding form)) := by
  have taken : body.read readObject = .ok entries := by
    simp only [Body.read, value, readObject, Reading.dictionary, members_of_values]
    rfl
  have loaded := Store.load_value_accepts s.store .values (.object entries) form read distinct named
  have answer : formReply form =
      .json 200 (.object [("formTitle", .text form.title), ("fields", .int form.nodes.length)]) := by
    rw [formReply, Response.ok_object]
    · rfl
    · show ∀ key ∈ ["formTitle", "fields"], key.toList.head? ≠ some '_'
      decide
    · simp [Value.text_fits, Value.int_fits]
  rw [replacing, handle_fixed _ _ _ _ .importSchema (by simp [fixedRoutes]), perform]
  simp only [reading, taken, importSchema, edit, loaded, answer]

-- A whole body that says what was shown is taken, and from then on the same is shown with nothing selected.
def ComesBack (s : Service) : Prop :=
  ∃ schema, (s.handle showing).1 = schemaShown (.object schema) s.store.selected ∧
    ∀ body : Body, body.Whole → body.value? = .ok (some (.object schema)) →
      ∃ after, s.handle (replacing body) = (.json 200 (.object
          [("formTitle", .text s.store.form.title), ("fields", .int s.store.nodes.length)]), after) ∧
        (after.handle showing).1 = schemaShown (.object schema) none ∧ after.store.ids = s.store.ids ∧
        ∀ later op n, Store.made? (after.store.run later) op = some n → n.id ∉ s.store.ids

theorem deep_not_back (s : Service) (deep : ¬ Node.Shallow s.store.nodes) : ¬ s.ComesBack := by
  rintro ⟨schema, shown, _⟩
  rw [s.show_deep deep] at shown
  cases shown

def guardedTable : List Store.Op :=
  [.setTitle "Rows", .add "group", .add "range",
   .update "fld_aaaaaab" [("range", .object [("min", .text "-0.5"), ("max", .int 5)])],
   .update "grp_aaaaaaa"
    [("condition", .object [("whenField", .text "fld_aaaaaab"), ("operator", .text "contains"),
        ("value", .object [("_saved", .int 1), ("near", .list [.float (.ofDecimal false 15 (-1)), .null])])]),
     ("children", .list [.object [("type", .text "table"), ("id", .text "rows"), ("table", .object
        [("api", .object [("url", .text "/rows"),
          ("headers", .object [("_sa_key", .text "k"), ("Accept", .text "*")])])])]])],
   .move (.place ⟨none, 1⟩) (.place ⟨none, 0⟩)]

theorem keep_store (s : Service) (store : Store) : (s.keep store).store = store := rfl

def tableService : Service :=
  (Service.new [] ⟨[], []⟩ false).keep ((Store.new "Untitled Form" []).run guardedTable)

-- A condition may be given a value that nests deeper than the schema can be shown.
def deepService : Service :=
  (Service.new [] ⟨[], []⟩ false).keep
    ((Store.new "Untitled Form" []).run [.load (Store.comparing (Store.nestedLists 300))])

end Service

end FormEngine
