import FormEngine.Proofs.Schema.Arrived
import FormEngine.Proofs.Service.Answers
import FormEngine.Schema.Numbers
import Mathlib.Order.MinMax

set_option autoImplicit false

namespace FormEngine

open Slot

namespace Value

theorem sendable_items (items : List Value) : sendableItems items = items.map sendable := by
  induction items with
  | nil => rfl
  | cons item rest ih => rw [sendableItems, ih, List.map_cons]

theorem unreserved_of_plain (key : String) (plain : key.toList.head? ≠ some '_') : isReserved key = false := by
  rw [isReserved, reservedStart]
  cases letters : key.toList with
  | nil => rfl
  | cons c rest =>
      have other : c ≠ '_' := by simpa [letters] using plain
      rw [List.isPrefixOf, beq_eq_false_iff_ne.mpr (Ne.symm other), Bool.false_and]

theorem sendable_record (entries : List (String × Value))
    (plain : ∀ key ∈ Keyed.names entries, key.toList.head? ≠ some '_') :
    (object entries).sendable = .object (Keyed.mapValues sendable entries) := by
  rw [sendable, sendable_members]
  intro e member
  exact unreserved_of_plain e.1 (plain e.1 (List.mem_map_of_mem member))

mutual
theorem sendable_again : (v : Value) → v.sendable.sendable = v.sendable
  | .null | .bool _ | .int _ | .float _ | .text _ => rfl
  | .list items => by rw [sendable, sendable, sendable_again_items items]
  | .object entries => by rw [sendable, sendable, sendable_again_entries entries]
theorem sendable_again_items : (items : List Value) → sendableItems (sendableItems items) = sendableItems items
  | [] => rfl
  | item :: rest => by simp only [sendableItems, sendable_again item, sendable_again_items rest]
theorem sendable_again_entries : (entries : List (String × Value)) →
    sendableEntries (sendableEntries entries) = sendableEntries entries
  | [] => rfl
  | (key, value) :: rest => by
      by_cases reserved : isReserved key = true
      · simp only [sendableEntries, reserved, if_true, sendable_again_entries rest]
      · simp only [sendableEntries, if_neg reserved, sendable_again value, sendable_again_entries rest]
end

end Value

def Transfer.answer : Transfer where
  origin := .values
  carry := Value.sendable
  number := some
  texts := List.filter (!isReserved ·.1)
  null := rfl
  bool _ := rfl
  int _ := rfl
  text _ := rfl
  float _ := rfl
  list items := by rw [Value.sendable, Value.sendable_items]
  record entries _ plain := Value.sendable_record entries plain
  textMap m := congrArg Value.object (Value.sendable_plain .text (fun _ => rfl) m)

theorem Rules.answer_same (r : Rules) : r.arrived .answer = r := by
  simp only [arrived, Transfer.answer, Option.bind_fun_some]

theorem Currency.answer_same (c : Currency) : c.arrived .answer = c := by
  simp only [arrived, Transfer.answer, Option.bind_fun_some]

theorem Scale.answer_same (s : Scale) : s.arrived? .answer = some s := by
  simp only [arrived?, Transfer.answer, Option.bind_fun_some]

theorem Basics.answer_same (b : Basics) : b.arrived .answer = b := by
  simp only [arrived, Rules.answer_same, Option.map_id']

def Field.answered (f : Field) : Field := { f with table := f.table.map (·.arrived .answer) }

theorem Field.answer_same (f : Field) : f.arrived? .answer = some f.answered := by
  have same (scale : Option Scale) (kept : f.scale = scale) : f.arrivedWith .answer scale = f.answered := by
    rw [arrivedWith, answered, Basics.answer_same, ← kept]
    simp only [Currency.answer_same, Option.map_id']
  rw [arrived?]
  cases kept : f.scale with
  | none => exact congrArg some (same none kept)
  | some scale =>
      simp only [Scale.answer_same, Option.map_some]
      exact congrArg some (same _ kept)

theorem record_shown_alike {a b : List Slot} (apart : Apart a) (other : Apart b)
    (alike : a.map (fun s => (s.key, s.value.map Value.sendable)) = b.map fun s => (s.key, s.value.map Value.sendable)) :
    (Style.document.record a).sendable = (Style.document.record b).sendable := by
  have members (slots : List Slot) : entriesCarried .answer slots =
      (slots.map fun s => (s.key, s.value.map Value.sendable)).filterMap fun e => e.2.map (e.1, ·) := by
    simp only [entriesCarried, Transfer.answer, List.filterMap_map, Function.comp_def, Option.map_map]
  have left := record_carried .answer apart
  rw [members, alike, ← members] at left
  exact left.trans (record_carried .answer other).symm

theorem TableApi.answer_shown (a : TableApi) :
    ((a.arrived .answer).tableValue .document).sendable = (a.tableValue .document).sendable := by
  have headers : (Value.object (Keyed.mapValues .text (a.arrived .answer).headers)).sendable
      = (Value.object (Keyed.mapValues .text a.headers)).sendable := by
    rw [Value.sendable, Value.sendable, Value.sendable_plain .text (fun _ => rfl),
      Value.sendable_plain .text (fun _ => rfl), Value.unreserved, Value.unreserved]
    simp [arrived, Transfer.answer]
  have inner : ((a.arrived .answer).toValue .document).sendable = (a.toValue .document).sendable := by
    refine record_shown_alike (a.arrived .answer).apart a.apart ?_
    simp only [slots, List.map_cons, Slot.same, Option.map_some, headers]
    rfl
  refine record_shown_alike (a.arrived .answer).table_apart a.table_apart ?_
  simp only [List.map_cons, Slot.same, Option.map_some, inner, List.map_nil]

theorem finite_same (v : Value) (finite : v.isFinite = true) : v.finiteOnly = v := by
  rwa [Value.isFinite, beq_iff_eq] at finite

theorem free_shown (v : Value) (finite : v.isFinite = true) :
    (Style.document.free v.finiteOnly.sendable).map Value.sendable = (Style.document.free v).map Value.sendable := by
  have shown : (Style.document.free v).map Value.sendable = (Style.document.free v.sendable).map Value.sendable := by
    have again : v.sendable.finiteOnly.sendable = v.finiteOnly.sendable := by
      rw [Value.finite_sendable, finite_same v finite, Value.sendable_again]
    cases v with
    | null => rfl
    | _ => exact congrArg some again.symm
  rw [finite_same v finite, shown]

theorem Condition.answer_shown (c : Condition) (finite : c.value.isFinite = true) :
    ((c.arrived .answer).toValue .document).sendable = (c.toValue .document).sendable := by
  refine record_shown_alike ((c.arrived .answer).apart .document) (c.apart .document) ?_
  have value : (Style.document.free (c.arrived .answer).value).map Value.sendable
      = (Style.document.free c.value).map Value.sendable := free_shown c.value finite
  simp only [slots, List.map_cons, Slot.same, value]
  rfl

theorem Field.answer_shown (f : Field) :
    (Style.document.record (f.answered.slots .document)).sendable
      = (Style.document.record (f.slots .document)).sendable := by
  refine record_shown_alike (f.answered.apart .document) (f.apart .document) ?_
  have table : (f.answered.table.map (·.tableValue .document)).map Value.sendable
      = (f.table.map (·.tableValue .document)).map Value.sendable := by
    simp only [answered, Option.map_map, Function.comp_def, TableApi.answer_shown]
  simp only [slots, List.map_append, List.map_cons, Slot.same, table]
  rfl

theorem Group.answer_shown (g : Group) (children others : Value) (alike : children.sendable = others.sendable)
    (finite : ∀ c ∈ g.condition, c.value.isFinite = true) :
    (Style.document.record ((g.arrived .answer).slots .document children)).sendable
      = (Style.document.record (g.slots .document others)).sendable := by
  refine record_shown_alike (apart .document _ children) (g.apart .document others) ?_
  have condition : ((g.arrived .answer).condition.map (·.toValue .document)).map Value.sendable
      = (g.condition.map (·.toValue .document)).map Value.sendable := by
    rw [arrived]
    cases kept : g.condition with
    | none => rfl
    | some c => exact congrArg some (c.answer_shown (finite c kept))
  have basics : (g.arrived .answer).toBasics = g.toBasics := g.toBasics.answer_same
  simp only [slots, List.map_append, List.map_cons, Slot.same, condition, basics, Option.map_some, alike]

mutual
theorem Value.levels_sendable : (v : Value) → v.sendable.levels ≤ v.levels
  | .null | .bool _ | .int _ | .float _ | .text _ => Nat.le_refl _
  | .list items => Nat.succ_le_succ (Value.levels_sendable_items items)
  | .object entries => Nat.succ_le_succ (Value.levels_sendable_entries entries)
theorem Value.levels_sendable_items : (items : List Value) →
    Value.levelsOfItems (Value.sendableItems items) ≤ Value.levelsOfItems items
  | [] => Nat.le_refl _
  | item :: rest => max_le_max (Value.levels_sendable item) (Value.levels_sendable_items rest)
theorem Value.levels_sendable_entries : (entries : List (String × Value)) →
    Value.levelsOfEntries (Value.sendableEntries entries) ≤ Value.levelsOfEntries entries
  | [] => Nat.le_refl _
  | (key, value) :: rest => by
      by_cases reserved : isReserved key = true
      · simp only [Value.sendableEntries, reserved, if_true, Value.levelsOfEntries]
        exact (Value.levels_sendable_entries rest).trans (Nat.le_max_right _ _)
      · simp only [Value.sendableEntries, if_neg reserved, Value.levelsOfEntries]
        exact max_le_max (Value.levels_sendable value) (Value.levels_sendable_entries rest)
end

theorem Condition.answer_levels (c : Condition) (finite : c.value.isFinite = true) :
    (c.arrived .answer).levels ≤ c.levels := by
  have value : (c.arrived .answer).value = c.value.sendable := congrArg Value.sendable (finite_same c.value finite)
  rw [levels, levels, value]
  cases kept : c.value with
  | null => exact Nat.le_refl _
  | list items => simpa [Value.sendable] using Value.levels_sendable (.list items)
  | object entries => simpa [Value.sendable] using Value.levels_sendable (.object entries)
  | _ => exact Nat.le_refl _

theorem Group.answer_levels (g : Group) (finite : ∀ c ∈ g.condition, c.value.isFinite = true) :
    ((g.arrived .answer).condition.map Condition.levels).getD 0 ≤ (g.condition.map Condition.levels).getD 0 := by
  rw [arrived]
  cases kept : g.condition with
  | none => exact Nat.le_refl _
  | some c => exact c.answer_levels (finite c kept)

namespace Node

theorem compared_cons (n : Node) (rest : List Node) (finite : ComparedFinite (n :: rest)) :
    (∀ m ∈ nodes n, ∀ v ∈ m.compared?, v.isFinite = true) ∧ ComparedFinite rest :=
  ⟨fun m inside => finite m (List.mem_append.mpr (.inl inside)),
    fun m later => finite m (List.mem_append.mpr (.inr later))⟩

theorem answer_shown (nodes : List Node) (finite : ComparedFinite nodes) :
    ∃ arrived, arrivedAll? .answer nodes = some arrived ∧ arrived.length = nodes.length ∧
      (toValues .document arrived).map Value.sendable = (toValues .document nodes).map Value.sendable ∧
      levelsOf arrived ≤ levelsOf nodes := by
  induction nodes using forest_induction with
  | nil => exact ⟨[], rfl, rfl, rfl, Nat.le_refl _⟩
  | field f rest ih =>
      obtain ⟨later, there, count, shown, levels⟩ := ih (compared_cons _ rest finite).2
      refine ⟨.field f.answered :: later, ?_, congrArg (· + 1) count, ?_, max_le_max (Nat.le_refl 1) levels⟩
      · rw [arrivedAll?, arrived?, f.answer_same, there]
        rfl
      · rw [toValues, toValues, List.map_cons, List.map_cons, shown, toValue, toValue, f.answer_shown]
  | group g children rest ihChildren ihRest =>
      obtain ⟨here, after⟩ := compared_cons _ rest finite
      obtain ⟨inside, found, _, alike, below⟩ := ihChildren fun m below => here m (List.mem_cons_of_mem _ below)
      obtain ⟨later, there, count, shown, levels⟩ := ihRest after
      have compared (c : Condition) (kept : c ∈ g.condition) : c.value.isFinite = true :=
        here (.group g _) List.mem_cons_self c.value (by rw [compared?, kept]; rfl)
      refine ⟨.group (g.arrived .answer) inside :: later, ?_, congrArg (· + 1) count, ?_, ?_⟩
      · rw [arrivedAll?, arrived?, found, there]
        rfl
      · have children : (Value.list (toValues .document inside)).sendable
            = (Value.list (toValues .document children)).sendable := by
          rw [Value.sendable, Value.sendable, Value.sendable_items, Value.sendable_items, alike]
        rw [toValues, toValues, List.map_cons, List.map_cons, shown, toValue, toValue,
          g.answer_shown _ _ children compared]
      · exact max_le_max (Nat.succ_le_succ (max_le_max (g.answer_levels compared) below)) levels

end Node

theorem Form.answer_read (f : Form) (finite : Node.ComparedFinite f.nodes) :
    ∃ g, Form.read .values (f.toValue .document).sendable = .ok g ∧ g.title = f.title ∧
      g.nodes.length = f.nodes.length ∧ Node.idsOf g.nodes = Node.idsOf f.nodes ∧
      (g.toValue .document).sendable = (f.toValue .document).sendable ∧
      Node.levelsOf g.nodes ≤ Node.levelsOf f.nodes := by
  obtain ⟨arrived, there, count, alike, levels⟩ := Node.answer_shown f.nodes finite
  refine ⟨⟨f.title, arrived⟩, ?_, rfl, count, Node.arrived_ids .answer f.nodes arrived there, ?_, levels⟩
  · have read := f.read_arrived .answer
    rw [arrived?, there] at read
    exact to_option_some_iff.mp read
  · refine record_shown_alike (apart .document _) (f.apart .document) ?_
    have fields : (Value.list (Node.toValues .document arrived)).sendable
        = (Value.list (Node.toValues .document f.nodes)).sendable := by
      rw [Value.sendable, Value.sendable, Value.sendable_items, Value.sendable_items, alike]
    simp only [slots, List.map_cons, Slot.same, Option.map_some, fields]

namespace Value

theorem finite_iff (v : Value) : v.isFinite = true ↔ v.finiteOnly = v := by
  rw [isFinite, beq_iff_eq]

theorem finite_float (x : Binary64) : (float x).isFinite = true ↔ x.isFinite = true := by
  rw [finite_iff, finiteOnly.eq_1]
  by_cases finite : x.isFinite = true <;> simp [finite]

theorem finite_list (items : List Value) : (list items).isFinite = true ↔ ∀ item ∈ items, item.isFinite = true := by
  rw [finite_iff, finiteOnly, list.injEq]
  induction items with
  | nil => simp [finiteItems]
  | cons item rest ih => rw [finiteItems, List.cons.injEq, ih, List.forall_mem_cons, finite_iff]

theorem finite_object (entries : List (String × Value)) :
    (object entries).isFinite = true ↔ ∀ e ∈ entries, e.2.isFinite = true := by
  rw [finite_iff, finiteOnly, object.injEq]
  induction entries with
  | nil => simp [finiteEntries]
  | cons e rest ih =>
      rcases e with ⟨key, value⟩
      rw [finiteEntries, List.cons.injEq, Prod.mk.injEq, ih, List.forall_mem_cons, finite_iff]
      simp only [true_and]

def Fits (v : Value) : Prop := v.sendable.isFinite = true

theorem text_fits (s : String) : Fits (.text s) := beq_self_eq_true _

theorem bool_fits (b : Bool) : Fits (.bool b) := beq_self_eq_true _

theorem int_fits (n : Int) : Fits (.int n) := beq_self_eq_true _

theorem float_fits (x : Binary64) : Fits (.float x) ↔ x.isFinite = true := finite_float x

theorem list_fits (items : List Value) : Fits (.list items) ↔ ∀ item ∈ items, Fits item := by
  rw [Fits, sendable, finite_list, sendable_items, List.forall_mem_map]
  rfl

theorem texts_fit (m : Keyed String) : Fits (.object (Keyed.mapValues .text m)) := by
  rw [Fits, sendable, sendable_plain .text (fun _ => rfl), isFinite, beq_iff_eq, finiteOnly, unreserved,
    finite_plain .text fun _ => rfl]

mutual
theorem finite_again : (v : Value) → v.finiteOnly.finiteOnly = v.finiteOnly
  | .null | .bool _ | .int _ | .text _ => rfl
  | .float x => by
      by_cases finite : x.isFinite <;> simp [finiteOnly, finite]
  | .list items => by rw [finiteOnly, finiteOnly, finite_again_items items]
  | .object entries => by rw [finiteOnly, finiteOnly, finite_again_entries entries]
theorem finite_again_items : (items : List Value) → finiteItems (finiteItems items) = finiteItems items
  | [] => rfl
  | item :: rest => by simp only [finiteItems, finite_again item, finite_again_items rest]
theorem finite_again_entries : (entries : List (String × Value)) →
    finiteEntries (finiteEntries entries) = finiteEntries entries
  | [] => rfl
  | (key, value) :: rest => by simp only [finiteEntries, finite_again value, finite_again_entries rest]
end

theorem finite_only_fits (v : Value) : Fits v.finiteOnly :=
  sendable_finite _ (by rw [isFinite, beq_iff_eq, finite_again])

theorem record_fits {slots : List Slot} (apart : Apart slots) :
    Fits (Style.document.record slots) ↔ ∀ slot ∈ slots, ∀ v ∈ slot.value, Fits v := by
  rw [Fits]
  rw [show (Style.document.record slots).sendable = _ from record_carried .answer apart, finite_object]
  simp only [entriesCarried, Transfer.answer, List.mem_filterMap, Option.map_eq_some_iff]
  constructor
  · intro all slot member v held
    exact all (slot.key, v.sendable) ⟨slot, member, v, held, rfl⟩
  · rintro all e ⟨slot, member, v, held, rfl⟩
    exact all slot member v held

end Value

open Value

variable {α : Type} {write : α → Value}

theorem all_fit (each : ∀ a, Fits (write a)) (o : Option α) : ∀ v ∈ o.map write, Fits v := by
  cases o <;> simp [each]

theorem parts_fit {bounds : α → List Binary64} (each : ∀ a, Fits (write a) ↔ ∀ x ∈ bounds a, x.isFinite = true)
    (o : Option α) : (∀ v ∈ o.map write, Fits v) ↔ ∀ x ∈ o.toList.flatMap bounds, x.isFinite = true := by
  cases o <;> simp [each]

theorem bounds_fit (o : Option Binary64) : (∀ v ∈ o.map Value.float, Fits v) ↔ ∀ x ∈ o.toList, x.isFinite = true := by
  cases o <;> simp [float_fits]

theorem Rules.fits_iff (r : Rules) : Fits (r.toValue .document) ↔ ∀ x ∈ r.bounds, x.isFinite = true := by
  rw [toValue, record_fits r.apart]
  simp only [slots, Slot.same, List.forall_mem_cons, bounds_fit, bounds, List.forall_mem_append]
  simp [int_fits, text_fits]

theorem TableApi.fits (a : TableApi) : Fits (a.tableValue .document) := by
  have inner : Fits (a.toValue .document) := by
    rw [toValue, record_fits a.apart]
    simp [slots, Slot.same, text_fits, texts_fit]
  refine (record_fits a.table_apart).mpr ?_
  simp [tableSlots, Slot.same, inner]

theorem Currency.fits_iff (c : Currency) : Fits (c.toValue .document) ↔ ∀ x ∈ c.bounds, x.isFinite = true := by
  rw [toValue, record_fits c.apart]
  simp only [slots, Slot.same, List.forall_mem_cons, bounds_fit, bounds, List.forall_mem_append]
  simp [text_fits]

theorem Scale.fits_iff (s : Scale) : Fits (s.toValue .document) ↔ ∀ x ∈ s.bounds, x.isFinite = true := by
  rw [toValue, record_fits s.apart]
  simp only [slots, Slot.same, List.forall_mem_cons, bounds_fit, bounds, eq_true (all_fit bool_fits s.showValue)]
  simp [float_fits]

theorem TagRules.fits (t : TagRules) : Fits (t.toValue .document) := by
  rw [toValue, record_fits t.apart]
  simp [slots, Slot.same, text_fits, int_fits]

theorem Heading.fits (h : Heading) : Fits (h.toValue .document) := by
  rw [toValue, record_fits h.apart]
  simp [slots, Slot.same, text_fits, int_fits]

theorem Choice.all_fit (choices : List Choice) : Fits (.list (choices.map (·.toValue .document))) := by
  rw [list_fits, List.forall_mem_map]
  intro c _
  rw [toValue, record_fits c.apart]
  simp [slots, Slot.same, text_fits]

theorem Condition.fits (c : Condition) : Fits (c.toValue .document) := by
  have value : ∀ v ∈ Style.document.free c.value, Fits v := by
    intro v held
    cases kept : c.value with
    | null =>
        rw [kept] at held
        cases held
    | _ =>
        rw [kept] at held
        cases held
        exact finite_only_fits _
  rw [toValue, record_fits (c.apart .document)]
  simp only [slots, Slot.same, List.forall_mem_cons, eq_true value]
  simp [text_fits]

theorem Basics.fits_iff (b : Basics) :
    (∀ slot ∈ b.slots .document, ∀ v ∈ slot.value, Fits v) ↔ ∀ x ∈ b.bounds, x.isFinite = true := by
  simp only [slots, Slot.same, List.forall_mem_cons, parts_fit Rules.fits_iff, bounds]
  simp [text_fits, bool_fits]

namespace Node

theorem field_fits_iff (f : Field) :
    Fits (toValue .document (.field f)) ↔ ∀ x ∈ bounds (.field f), x.isFinite = true := by
  have choices := eq_true (all_fit Choice.all_fit f.choices)
  have table := eq_true (all_fit TableApi.fits f.table)
  have tags := eq_true (all_fit TagRules.fits f.tags)
  have heading := eq_true (all_fit Heading.fits f.heading)
  rw [toValue, record_fits (f.apart .document), Field.slots, List.forall_mem_append, Basics.fits_iff, bounds,
    List.forall_mem_append, List.forall_mem_append, and_assoc]
  simp only [Slot.same, List.forall_mem_cons, parts_fit Currency.fits_iff, parts_fit Scale.fits_iff, choices, table,
    tags, heading]
  simp [text_fits]

theorem group_fits_iff (g : Group) (children : List Node) :
    Fits (toValue .document (.group g children)) ↔
      (∀ x ∈ bounds (.group g children), x.isFinite = true) ∧ ∀ v ∈ toValues .document children, Fits v := by
  have condition := eq_true (all_fit Condition.fits g.condition)
  rw [toValue, record_fits (g.apart .document _), Group.slots, List.forall_mem_append, Basics.fits_iff, bounds]
  simp only [Slot.same, List.forall_mem_cons, condition]
  simp [text_fits, list_fits]

theorem values_fit_iff (nodes : List Node) : (∀ v ∈ toValues .document nodes, Fits v) ↔ BoundsFinite nodes := by
  induction nodes using forest_induction with
  | nil => simp [toValues, BoundsFinite, nodesOf]
  | field f rest ih => rw [toValues, List.forall_mem_cons, ih, field_fits_iff, bounds_finite_field]
  | group g children rest ihChildren ihRest =>
      rw [toValues, List.forall_mem_cons, ihRest, group_fits_iff, ihChildren, bounds_finite_group, and_assoc]
      rfl

end Node

theorem Form.fits_iff (f : Form) : Fits (f.toValue .document) ↔ Node.BoundsFinite f.nodes := by
  rw [toValue, record_fits (f.apart .document), ← Node.values_fit_iff, ← list_fits]
  simp [slots, Slot.same, text_fits]

theorem Value.object_fits (entries : Keyed Value) (plain : ∀ key ∈ Keyed.names entries, key.toList.head? ≠ some '_') :
    Fits (.object entries) ↔ ∀ e ∈ entries, Fits e.2 := by
  rw [Fits, sendable_record entries plain, finite_object, Keyed.mapValues, List.forall_mem_map]
  rfl

namespace Response

theorem ok_object (entries : Keyed Value) (plain : ∀ key ∈ Keyed.names entries, key.toList.head? ≠ some '_')
    (fits : ∀ e ∈ entries, Fits e.2) : Response.ok (.object entries) = .json 200 (.object (Keyed.mapValues sendable entries)) := by
  have whole : Fits (.object entries) := (object_fits entries plain).mpr fits
  rw [← sendable_record entries plain]
  exact reply_finite 200 _ whole

end Response

end FormEngine
