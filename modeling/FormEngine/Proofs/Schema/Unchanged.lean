import FormEngine.Data.Contents
import FormEngine.Proofs.Forest
import FormEngine.Proofs.Json.Documents
import FormEngine.Schema.Reread

set_option autoImplicit false

namespace FormEngine

-- Nothing in a value is lost when it is written and read again.
structure Faithful (v : Value) : Prop where
  floats : ∀ x ∈ v.floats, x.isFinite = true ∧ x.reread = x
  keys : v.distinctKeys = true

namespace Faithful

theorem items {all : List Value} (faithful : Faithful (.list all)) : ∀ item ∈ all, Faithful item := by
  obtain ⟨floats, keys⟩ := faithful
  rw [Value.floats] at floats
  rw [Value.distinctKeys] at keys
  induction all with
  | nil => exact fun _ member => nomatch member
  | cons first rest ih =>
      simp only [Value.floatsOfItems, List.mem_append] at floats
      simp only [Value.distinctKeysOfItems, Bool.and_eq_true] at keys
      intro item member
      rcases List.mem_cons.mp member with rfl | later
      · exact ⟨fun x inside => floats x (.inl inside), keys.1⟩
      · exact ih (fun x inside => floats x (.inr inside)) keys.2 item later

theorem entries {all : List (String × Value)} (faithful : Faithful (.object all)) :
    (Keyed.names all).Nodup ∧ ∀ entry ∈ all, Faithful entry.2 := by
  obtain ⟨floats, keys⟩ := faithful
  rw [Value.floats] at floats
  rw [Value.distinctKeys, Bool.and_eq_true, decide_eq_true_eq] at keys
  obtain ⟨distinct, keys⟩ := keys
  refine ⟨distinct, ?_⟩
  clear distinct
  induction all with
  | nil => exact fun _ member => nomatch member
  | cons first rest ih =>
      simp only [Value.floatsOfEntries, List.mem_append] at floats
      simp only [Value.distinctKeysOfEntries, Bool.and_eq_true] at keys
      intro entry member
      rcases List.mem_cons.mp member with rfl | later
      · exact ⟨fun x inside => floats x (.inl inside), keys.1⟩
      · exact ih (fun x inside => floats x (.inr inside)) keys.2 entry later

theorem slot {slots : List Slot} (faithful : Faithful (Style.plain.record slots)) (n : Nat) {key plain : String}
    {value : Option Value} (there : slots[n]? = some ⟨key, plain, value⟩) : ∀ v, value = some v → Faithful v := by
  rintro v rfl
  rw [Style.record] at faithful
  exact faithful.entries.2 (plain, v) (List.mem_map.mpr ⟨_, List.mem_of_getElem? there, rfl⟩)

end Faithful

theorem value_same (v : Value) (faithful : Faithful v) : v.reread = v ∧ v.finiteOnly = v := by
  induction v using Value.inside_induction with
  | null | bool | int | text => exact ⟨rfl, rfl⟩
  | float x =>
      obtain ⟨finite, same⟩ := faithful.floats x List.mem_cons_self
      rw [Value.reread, Value.finiteOnly, if_pos finite, if_pos finite, same]
      exact ⟨rfl, rfl⟩
  | list all each =>
      have inside := faithful.items
      rw [Value.reread, Value.finiteOnly]
      suffices Value.rereadItems all = all ∧ Value.finiteItems all = all by rw [this.1, this.2]; exact ⟨rfl, rfl⟩
      clear faithful
      induction all with
      | nil => exact ⟨rfl, rfl⟩
      | cons first rest ih =>
          obtain ⟨first, finite⟩ := each _ List.mem_cons_self (inside _ List.mem_cons_self)
          obtain ⟨later, others⟩ := ih (fun item member => each item (List.mem_cons_of_mem _ member))
            fun item member => inside item (List.mem_cons_of_mem _ member)
          rw [Value.rereadItems, Value.finiteItems, first, finite, later, others]
          exact ⟨rfl, rfl⟩
  | object all each =>
      obtain ⟨distinct, inside⟩ := faithful.entries
      rw [Value.reread, Value.finiteOnly]
      have fresh := Keyed.putAll_of_fresh [] all distinct
      suffices Value.rereadEntries all = all ∧ Value.finiteEntries all = all by
        rw [this.1, this.2, fresh]; exact ⟨rfl, rfl⟩
      clear faithful distinct fresh
      induction all with
      | nil => exact ⟨rfl, rfl⟩
      | cons first rest ih =>
          obtain ⟨first, finite⟩ := each _ List.mem_cons_self (inside _ List.mem_cons_self)
          obtain ⟨later, others⟩ := ih (fun item member => each item (List.mem_cons_of_mem _ member))
            fun item member => inside item (List.mem_cons_of_mem _ member)
          rw [Value.rereadEntries, Value.finiteEntries, first, finite, later, others]
          exact ⟨rfl, rfl⟩

theorem bound_same {x : Binary64} (faithful : Faithful (.float x)) : x.back? = some x := by
  obtain ⟨finite, same⟩ := faithful.floats x List.mem_cons_self
  rw [Binary64.back?, if_pos finite, same]

theorem bounds_same (o : Option Binary64) (faithful : ∀ v, o.map .float = some v → Faithful v) :
    o.bind Binary64.back? = o := by
  cases o with
  | none => rfl
  | some x => exact bound_same (faithful _ rfl)

theorem records_same {α : Type} {write : α → Value} {back : α → α} (same : ∀ a, Faithful (write a) → back a = a)
    (o : Option α) (faithful : ∀ v, o.map write = some v → Faithful v) : o.map back = o := by
  cases o with
  | none => rfl
  | some a => exact congrArg some (same a (faithful _ rfl))

theorem Rules.back_same (r : Rules) (faithful : Faithful (r.toValue .plain)) : r.back = r := by
  rw [back, bounds_same r.min (faithful.slot 2 rfl), bounds_same r.max (faithful.slot 3 rfl)]

theorem TableApi.back_same (a : TableApi) (faithful : Faithful (a.toValue .plain)) : a.back = a := by
  have headers : Faithful (.object (Keyed.mapValues .text a.headers)) := faithful.slot 2 rfl _ rfl
  have distinct := headers.entries.1
  rw [Keyed.names, Keyed.mapValues, List.map_map] at distinct
  have fresh := Keyed.putAll_of_fresh [] a.headers distinct
  rw [back, fresh]
  rfl

theorem TableApi.table_same (a : TableApi) (faithful : Faithful (a.tableValue .plain)) : a.back = a :=
  a.back_same (faithful.slot 0 rfl _ rfl)

theorem Currency.back_same (c : Currency) (faithful : Faithful (c.toValue .plain)) : c.back = c := by
  rw [back, bounds_same c.min (faithful.slot 2 rfl), bounds_same c.max (faithful.slot 3 rfl)]

theorem Scale.back_same (s : Scale) (faithful : Faithful (s.toValue .plain)) : s.back? = some s := by
  rw [back?, bound_same (faithful.slot 0 rfl _ rfl), bound_same (faithful.slot 1 rfl _ rfl)]
  simp only [bounds_same s.step (faithful.slot 2 rfl)]

theorem Condition.back_same (c : Condition) (faithful : Faithful (c.toValue .plain)) : c.back = c := by
  have value : Faithful c.value := by
    have held := faithful.slot 2 rfl
    cases found : c.value with
    | null => exact ⟨fun _ member => (nomatch member), rfl⟩
    | _ => exact held _ (by rw [found]; rfl)
  obtain ⟨reread, finite⟩ := value_same c.value value
  rw [back, finite, reread]

theorem Basics.back_same (b : Basics) {more : List Slot}
    (faithful : Faithful (Style.plain.record (b.slots .plain ++ more))) : b.back = b := by
  rw [back, records_same Rules.back_same b.rules (faithful.slot 5 rfl)]

theorem Field.back_same (f : Field) (faithful : Faithful (Style.plain.record (f.slots .plain))) : f.back? = some f := by
  have same (scale : Option Scale) (kept : f.scale = scale) : f.withScale scale = f := by
    rw [withScale, f.toBasics.back_same faithful, records_same TableApi.table_same f.table (faithful.slot 8 rfl),
      records_same Currency.back_same f.currency (faithful.slot 10 rfl), ← kept]
  have ends := faithful.slot 11 rfl
  rw [back?]
  cases kept : f.scale with
  | none => exact congrArg some (same none kept)
  | some scale =>
      dsimp only
      rw [scale.back_same (ends _ (by rw [kept]; rfl))]
      exact congrArg some (same _ kept)

theorem Group.back_same (g : Group) {children : Value}
    (faithful : Faithful (Style.plain.record (g.slots .plain children))) : g.back = g := by
  rw [back, g.toBasics.back_same faithful, records_same Condition.back_same g.condition (faithful.slot 8 rfl)]

theorem Node.backs_same (nodes : List Node) (faithful : ∀ v ∈ toValues .plain nodes, Faithful v) :
    backs? nodes = some nodes := by
  induction nodes using forest_induction with
  | nil => rfl
  | field f rest ih =>
      rw [toValues, List.forall_mem_cons] at faithful
      rw [backs?, back?, f.back_same faithful.1, ih faithful.2]
      rfl
  | group g children rest ihChildren ihRest =>
      rw [toValues, List.forall_mem_cons] at faithful
      have inside : Faithful (.list (toValues .plain children)) := faithful.1.slot 7 rfl _ rfl
      rw [backs?, back?, ihChildren inside.items, ihRest faithful.2]
      simp only [Option.map_some, Option.bind_some, g.back_same faithful.1]

theorem Form.back_same (f : Form) (faithful : Faithful (f.toValue .plain)) : f.back? = some f := by
  have fields : Faithful (.list (Node.toValues .plain f.nodes)) := faithful.slot 1 rfl _ rfl
  rw [back?, Node.backs_same f.nodes fields.items]
  rfl

end FormEngine
