import FormEngine.Proofs.Builder.Outcomes
import FormEngine.Proofs.Builder.Sound
import FormEngine.Proofs.Schema.ReadBack
import FormEngine.Proofs.Schema.Unchanged

set_option autoImplicit false

namespace FormEngine

namespace Node

def ScalesFinite (nodes : List Node) : Prop :=
  ∀ f, .field f ∈ nodesOf nodes → ∀ scale, f.scale = some scale → scale.min.isFinite = true ∧ scale.max.isFinite = true

theorem scale_back_isSome (s : Scale) :
    s.back?.isSome = true ↔ s.min.isFinite = true ∧ s.max.isFinite = true := by
  simp only [Scale.back?, Binary64.back?]
  cases s.min.isFinite <;> cases s.max.isFinite <;> simp

theorem field_back_isSome (f : Field) : f.back?.isSome = true ↔
    ∀ scale, f.scale = some scale → scale.min.isFinite = true ∧ scale.max.isFinite = true := by
  rw [Field.back?]
  cases f.scale with
  | none => simp
  | some scale => simp [scale_back_isSome]

theorem scales_finite_cons (n : Node) (rest : List Node) :
    ScalesFinite (n :: rest) ↔ ScalesFinite [n] ∧ ScalesFinite rest := by
  simp only [ScalesFinite, nodesOf, List.append_nil, List.mem_append]
  exact ⟨fun all => ⟨fun f first => all f (.inl first), fun f later => all f (.inr later)⟩,
    fun both f => Or.rec (both.1 f) (both.2 f)⟩

theorem backs_isSome (nodes : List Node) : (backs? nodes).isSome = true ↔ ScalesFinite nodes := by
  induction nodes using forest_induction with
  | nil => simp [backs?, ScalesFinite, nodesOf]
  | field f rest ih =>
      have first : ScalesFinite [.field f] ↔ f.back?.isSome = true := by
        rw [field_back_isSome]
        simp [ScalesFinite, nodesOf, nodes]
      rw [scales_finite_cons, first, ← ih, backs?, back?]
      cases f.back? <;> simp
  | group g children rest ihChildren ihRest =>
      have first : ScalesFinite [.group g children] ↔ ScalesFinite children := by
        simp [ScalesFinite, nodesOf, nodes]
      rw [scales_finite_cons, first, ← ihChildren, ← ihRest, backs?, back?]
      cases backs? children <;> simp

end Node

namespace Store

theorem load_export (f : Form) (distinct : (Node.idsOf f.nodes).Nodup) (named : "" ∉ Node.idsOf f.nodes) (s : Store) :
    (∃ back after, (f.toValue .document).fits documentLimits.depth = true ∧ f.back? = some back ∧
      (loadText (Json.source f.exportText)).run s = .ok back after ∧ after.form = back) ∨
    (((f.toValue .document).fits documentLimits.depth = false ∨ f.back? = none) ∧
      ∃ why, (loadText (Json.source f.exportText)).run s = .error why s) := by
  have document := Json.document_reads_back documentLimits (f.toValue .document)
  have form := f.read_back
  rcases ok_or_error document with ⟨fits, read⟩ | ⟨fits, failure, read⟩
  · have valued :
        (loadText (Json.source f.exportText)).run s = (loadValue .document (f.toValue .document).reread).run s := by
      simp [loadText, Form.exportText, read]
    rw [valued]
    cases back : f.back? with
    | none =>
        rw [back] at form
        cases accepted : Form.read .document (f.toValue .document).reread with
        | ok g => rw [accepted] at form; cases form
        | error faults => exact .inr ⟨.inr rfl, .invalid .document faults, by simp [loadValue, accepted]⟩
    | some g =>
        rw [back, to_option_some_iff] at form
        obtain ⟨nodes, there, rfl⟩ := Option.map_eq_some_iff.mp back
        have ids := Node.backs_ids f.nodes nodes there
        have tree : checkTree nodes = .ok () := (check_tree_ok_iff nodes).mpr ⟨ids ▸ named, ids ▸ distinct⟩
        exact .inl ⟨_, _, fits, rfl, by simp [loadValue, form, load, tree]; rfl, rfl⟩
  · refine .inr ⟨.inl fits, .unreadable (Json.source f.exportText) failure, ?_⟩
    simp [loadText, Form.exportText, read]

theorem export_undone_iff (f : Form) (distinct : (Node.idsOf f.nodes).Nodup) (named : "" ∉ Node.idsOf f.nodes)
    (keys : (f.toValue .plain).distinctKeys = true) (finite : ∀ x ∈ (f.toValue .plain).floats, x.isFinite = true)
    (restored : ∀ x ∈ (f.toValue .plain).floats,
      Json.readDocument documentLimits (Json.source (Json.document (.float x))) = .ok (.float x)) (s : Store) :
    ((f.toValue .document).fits documentLimits.depth = true →
      ∃ after, (loadText (Json.source f.exportText)).run s = .ok f after ∧ after.form = f) ∧
    ((f.toValue .document).fits documentLimits.depth = false →
      ∃ why, (loadText (Json.source f.exportText)).run s = .error why s) := by
  have same (x : Binary64) (member : x ∈ (f.toValue .plain).floats) : x.reread = x := by
    have back := Json.document_reads_back documentLimits (.float x)
    rw [restored x member] at back
    simp only [Except.toOption, Value.fits, Value.reread, finite x member, if_true, Option.some.injEq,
      Value.float.injEq] at back
    exact back.symm
  have kept := f.back_same ⟨fun x member => ⟨finite x member, same x member⟩, keys⟩
  rcases load_export f distinct named s with ⟨back, after, fits, there, read, form⟩ | ⟨lost, refused⟩
  · obtain rfl : f = back := Option.some.inj (kept.symm.trans there)
    exact ⟨fun _ => ⟨after, read, form⟩, fun unfit => absurd (fits.symm.trans unfit) (by decide)⟩
  · refine ⟨fun fits => ?_, fun _ => refused⟩
    rcases lost with unfit | gone
    · exact absurd (fits.symm.trans unfit) (by decide)
    · exact absurd (kept.symm.trans gone) (by simp)

def nestedLists : Nat → Value
  | 0 => .int 1
  | n + 1 => .list [nestedLists n]

def comparing (v : Value) : Form :=
  let compared : Group := { Group.create "g" with condition := some ⟨"f", .equals, v⟩ }
  ⟨"Compared", [.group compared [.field (Field.create "f" .range)]]⟩

-- A store takes a condition with lists that nest deep as a value, but no store takes its export.
theorem deep_export_refused :
    let deep := comparing (nestedLists 197)
    (Node.idsOf deep.nodes).Nodup ∧ "" ∉ Node.idsOf deep.nodes ∧ (deep.toValue .plain).distinctKeys = true ∧
    (∀ x ∈ (deep.toValue .plain).floats, x.isFinite = true) ∧
    (step (Store.new "Start" []) (.loadValue .values (deep.toValue .document))).ids = Node.idsOf deep.nodes ∧
    ∀ s, ∃ why, (loadText (Json.source deep.exportText)).run s = .error why s := by
  intro deep
  have distinct : (Node.idsOf deep.nodes).Nodup := by decide +kernel
  have named : "" ∉ Node.idsOf deep.nodes := by decide +kernel
  refine ⟨distinct, named, by decide +kernel, by decide +kernel, by decide +kernel, fun s => ?_⟩
  have unfit : (deep.toValue .document).fits documentLimits.depth = false := by decide +kernel
  rcases load_export deep distinct named s with ⟨_, _, fits, _⟩ | ⟨_, refused⟩
  · exact absurd (fits.symm.trans unfit) (by decide)
  · exact refused

theorem less_deep_export_undone :
    let deep := comparing (.list [nestedLists 195, .object [("k\n", .null)], .float (.ofDecimal false 15 (-1))])
    ∃ after, (loadText (Json.source deep.exportText)).run (Store.new "Start" []) = .ok deep after ∧
      after.form = deep := by
  intro deep
  have restored : ∀ x ∈ (deep.toValue .plain).floats,
      (Json.readDocument documentLimits (Json.source (Json.document (.float x)))).toOption = some (.float x) := by
    decide +kernel
  exact (export_undone_iff deep (by decide +kernel) (by decide +kernel) (by decide +kernel) (by decide +kernel)
    (fun x member => to_option_some_iff.mp (restored x member)) (Store.new "Start" [])).1 (by decide +kernel)

theorem reached_export_accepted_iff (title : String) (script : List Char) (ops : List Op)
    (named : "" ∉ ((Store.new title script).run ops).ids) (other : Store) :
    let s := (Store.new title script).run ops
    (∃ form after, (loadText (Json.source s.form.exportText)).run other = .ok form after) ↔
      Node.ScalesFinite s.nodes ∧ (s.form.toValue .document).fits documentLimits.depth = true := by
  intro s
  have sound : Sound s := run_sound (Store.new title script) ops (sound_new title script)
  rw [← Node.backs_isSome]
  rcases load_export s.form sound.distinct named other with ⟨back, after, fits, there, read, _⟩ | ⟨lost, why, refused⟩
  · obtain ⟨nodes, same, _⟩ := Option.map_eq_some_iff.mp there
    exact ⟨fun _ => ⟨Option.isSome_iff_exists.mpr ⟨nodes, same⟩, fits⟩, fun _ => ⟨back, after, read⟩⟩
  · refine ⟨fun ⟨form, after, read⟩ => ?_, fun ⟨finite, fits⟩ => ?_⟩
    · rw [refused] at read
      cases read
    · obtain ⟨nodes, same⟩ := Option.isSome_iff_exists.mp finite
      rcases lost with unfit | gone
      · exact absurd (fits.symm.trans unfit) (by decide)
      · rw [Form.back?, show Node.backs? s.form.nodes = some nodes from same] at gone
        cases gone

def scaleFrom (start : String) : List Op :=
  [.add "range", .update "fld_aaaaaaa" [("range", .object [("min", .text start), ("max", .int 5)])]]

theorem endless_export_refused :
    let s := (Store.new "Start" []).run (scaleFrom "nan")
    s.ids = ["fld_aaaaaaa"] ∧ ¬ Node.ScalesFinite s.nodes ∧
    ∀ other, ∃ why, (loadText (Json.source s.form.exportText)).run other = .error why other := by
  intro s
  have ids : s.ids = ["fld_aaaaaaa"] := by decide +kernel
  have distinct : s.ids.Nodup := by rw [ids]; decide
  have named : "" ∉ s.ids := by rw [ids]; decide
  have lost : (Node.backs? s.nodes).isSome = false := by decide +kernel
  refine ⟨ids, fun finite => absurd ((Node.backs_isSome s.nodes).mpr finite) (by rw [lost]; decide), fun other => ?_⟩
  rcases load_export s.form distinct named other with ⟨_, _, _, there, _⟩ | ⟨_, refused⟩
  · obtain ⟨nodes, same, _⟩ := Option.map_eq_some_iff.mp there
    rw [show Node.backs? s.nodes = some nodes from same] at lost
    cases lost
  · exact refused

theorem new_scale_export_accepted :
    let s := (Store.new "Start" []).run (scaleFrom "-1e3")
    ∃ form after, (loadText (Json.source s.form.exportText)).run (Store.new "Other" []) = .ok form after := by
  intro s
  have finite : (Node.backs? s.nodes).isSome = true := by decide +kernel
  exact (reached_export_accepted_iff "Start" [] (scaleFrom "-1e3") (by decide +kernel) (Store.new "Other" [])).mpr
    ⟨(Node.backs_isSome s.nodes).mp finite, by decide +kernel⟩

end Store

end FormEngine
