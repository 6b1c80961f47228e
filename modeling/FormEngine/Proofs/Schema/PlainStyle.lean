import FormEngine.Proofs.Schema.Arrived
import FormEngine.Schema.Traits
import Mathlib.Data.List.Nodup

set_option autoImplicit false

namespace FormEngine

open Reading Slot

namespace Slot

variable {slots : List Slot}

def plainEntries (slots : List Slot) : List (String × Value) :=
  slots.map fun slot => (slot.plain, slot.value.getD .null)

theorem names_plain (slots : List Slot) : Keyed.names (plainEntries slots) = slots.map Slot.plain := List.map_map

theorem value_plain (names : (slots.map Slot.plain).Nodup) {slot : Slot} (member : slot ∈ slots) :
    Keyed.value? (plainEntries slots) slot.plain = some (slot.value.getD .null) :=
  Keyed.value?_of_mem (names_plain slots ▸ names) (List.mem_map_of_mem member)

theorem attribute_plain (apart : Apart slots) (names : (slots.map Slot.plain).Nodup) {slot : Slot} (member : slot ∈ slots) :
    attribute? (plainEntries slots) slot.key slot.plain = some (slot.value.getD .null) := by
  rw [attribute?, value_plain names member]
  by_cases known : slot.key ∈ slots.map Slot.plain
  · obtain ⟨other, there, same⟩ := List.mem_map.mp known
    have own : other = slot :=
      List.inj_on_of_nodup_map apart.keys there member (apart.plain other there slot member same.symm).symm
    rw [← same, own, value_plain names member]
    rfl
  · rw [← names_plain, Keyed.mem_names_iff, not_exists] at known
    cases found : Keyed.value? (plainEntries slots) slot.key with
    | none => rfl
    | some v => exact absurd found (known v)

variable {α : Type} (origin : Origin)

theorem optional_plain (apart : Apart slots) (names : (slots.map Slot.plain).Nodup) (n : Nat) {key plain : String}
    {value : Option Value} (there : slots[n]? = some ⟨key, plain, value⟩) (fallback : α) (read : Reader α) :
    Reading.optional origin (plainEntries slots) key plain fallback read
      = below (.key key) (read origin (value.getD .null)) := by
  have found := attribute_plain apart names (List.mem_of_getElem? there)
  dsimp only at found
  rw [Reading.optional, found]

theorem required_plain (apart : Apart slots) (names : (slots.map Slot.plain).Nodup) (n : Nat) {key plain : String}
    {value : Option Value} (there : slots[n]? = some ⟨key, plain, value⟩) (read : Reader α) :
    Reading.required origin (plainEntries slots) key plain read = below (.key key) (read origin (value.getD .null)) := by
  have found := attribute_plain apart names (List.mem_of_getElem? there)
  dsimp only at found
  rw [Reading.required, found]

theorem nullable_plain {read : Reader α} {write : α → Value} (reads : ∀ a, read origin (write a) = .ok a)
    (present : ∀ a, write a ≠ .null) (o : Option α) :
    nullable read origin ((o.map write).getD .null) = .ok o := by
  cases o with
  | none => rfl
  | some a =>
      have value : ∀ v, v = write a → nullable read origin v = .ok (some a) := by
        intro v same
        have read : read origin v = .ok a := same ▸ reads a
        cases v with
        | null => exact absurd same.symm (present a)
        | _ => exact congrArg (Except.map some) read
      exact value _ rfl

theorem texts_plain (o : Option String) : nullable text origin ((o.map .text).getD .null) = .ok o :=
  nullable_plain origin (fun _ => rfl) nofun o

theorem bools_plain (o : Option Bool) : nullable bool origin ((o.map .bool).getD .null) = .ok o :=
  nullable_plain origin (fun _ => rfl) nofun o

theorem ints_plain (o : Option Int) : nullable int origin ((o.map .int).getD .null) = .ok o :=
  nullable_plain origin (fun _ => rfl) nofun o

theorem numbers_plain (o : Option Binary64) : nullable number origin ((o.map .float).getD .null) = .ok o :=
  nullable_plain origin (fun _ => rfl) nofun o

end Slot

variable (origin : Origin)

theorem Choice.read_plain (c : Choice) : Choice.read origin (c.toValue .plain) = .ok c := by
  have names : (c.slots.map Slot.plain).Nodup := by simp [slots, Slot.same]
  show Choice.read origin (.object (plainEntries c.slots)) = .ok c
  simp only [Choice.read, entries, Except.bind, bind, required_plain origin c.apart names 0 rfl,
    required_plain origin c.apart names 1 rfl]
  rfl

theorem Rules.read_plain (r : Rules) : Rules.read origin (r.toValue .plain) = .ok r := by
  have names : (r.slots.map Slot.plain).Nodup := by simp [slots, Slot.same]
  show Rules.read origin (.object (plainEntries r.slots)) = .ok r
  simp only [Rules.read, entries, Except.bind, bind, optional_plain origin r.apart names 0 rfl,
    optional_plain origin r.apart names 1 rfl, optional_plain origin r.apart names 2 rfl,
    optional_plain origin r.apart names 3 rfl, optional_plain origin r.apart names 4 rfl,
    optional_plain origin r.apart names 5 rfl, ints_plain, numbers_plain, texts_plain]
  rfl

theorem TableApi.read_plain (a : TableApi) : TableApi.read origin (a.toValue .plain) = .ok a := by
  have names : (a.slots.map Slot.plain).Nodup := by simp [slots, Slot.same]
  have method : word Method.ofName? (inQuotes ["GET", "POST"]) origin (.text a.method.name) = .ok a.method := by
    cases a.method <;> rfl
  have headers : dictionary text origin (.object (Keyed.mapValues .text a.headers)) = .ok a.headers :=
    members_of_texts origin a.headers
  show TableApi.read origin (.object (plainEntries a.slots)) = .ok a
  simp only [TableApi.read, entries, Except.bind, bind, optional_plain origin a.apart names 0 rfl,
    optional_plain origin a.apart names 1 rfl, optional_plain origin a.apart names 2 rfl,
    optional_plain origin a.apart names 3 rfl, texts_plain, Option.getD_some, method, headers]
  rfl

theorem TableApi.read_table_plain (a : TableApi) : TableApi.readTable origin (a.tableValue .plain) = .ok a := by
  have slot : attribute? [("api", a.toValue .plain)] "api" "api" = some (a.toValue .plain) := rfl
  show TableApi.readTable origin (.object [("api", a.toValue .plain)]) = .ok a
  simp only [readTable, entries, Except.bind, bind, Reading.optional, slot, read_plain]
  rfl

theorem Currency.read_plain (c : Currency) : Currency.read origin (c.toValue .plain) = .ok c := by
  have names : (c.slots.map Slot.plain).Nodup := by simp [slots, Slot.same]
  show Currency.read origin (.object (plainEntries c.slots)) = .ok c
  simp only [Currency.read, entries, Except.bind, bind, required_plain origin c.apart names 0 rfl,
    optional_plain origin c.apart names 1 rfl, optional_plain origin c.apart names 2 rfl,
    optional_plain origin c.apart names 3 rfl, texts_plain, numbers_plain]
  rfl

theorem Scale.read_plain (s : Scale) : Scale.read origin (s.toValue .plain) = .ok s := by
  have names : (s.slots.map Slot.plain).Nodup := by simp [slots, Slot.same]
  show Scale.read origin (.object (plainEntries s.slots)) = .ok s
  simp only [Scale.read, entries, Except.bind, bind, optional_plain origin s.apart names 0 rfl,
    optional_plain origin s.apart names 1 rfl, optional_plain origin s.apart names 2 rfl,
    optional_plain origin s.apart names 3 rfl, numbers_plain, bools_plain]
  rfl

theorem TagRules.read_plain (r : TagRules) : TagRules.read origin (r.toValue .plain) = .ok r := by
  have names : (r.slots.map Slot.plain).Nodup := by simp [slots, Slot.same]
  show TagRules.read origin (.object (plainEntries r.slots)) = .ok r
  simp only [TagRules.read, entries, Except.bind, bind, optional_plain origin r.apart names 0 rfl,
    optional_plain origin r.apart names 1 rfl, texts_plain, ints_plain]
  rfl

theorem Heading.read_plain (h : Heading) : Heading.read origin (h.toValue .plain) = .ok h := by
  have names : (h.slots.map Slot.plain).Nodup := by simp [slots, Slot.same]
  have level : HeadingLevel.read origin (.int h.level.number) = .ok h.level := by cases h.level <;> rfl
  show Heading.read origin (.object (plainEntries h.slots)) = .ok h
  simp only [Heading.read, entries, Except.bind, bind, required_plain origin h.apart names 0 rfl,
    optional_plain origin h.apart names 1 rfl, Option.getD_some, level]
  rfl

theorem Condition.read_plain (c : Condition) : Condition.read origin (c.toValue .plain) = .ok c := by
  have names : ((c.slots .plain).map Slot.plain).Nodup := by simp [slots, Slot.same]
  have operator : word Operator.ofName? (inQuotes (Operator.all.map Operator.name)) origin (.text c.operator.name)
      = .ok c.operator := by
    cases c.operator <;> rfl
  have free : (Style.plain.free c.value).getD .null = c.value := by cases c.value <;> rfl
  show Condition.read origin (.object (plainEntries (c.slots .plain))) = .ok c
  simp only [Condition.read, entries, Except.bind, bind, required_plain origin (c.apart .plain) names 0 rfl,
    required_plain origin (c.apart .plain) names 1 rfl, optional_plain origin (c.apart .plain) names 2 rfl,
    Option.getD_some, operator, free]
  rfl

theorem Basics.read_plain (b : Basics) (more : List Slot) (apart : Apart (b.slots .plain ++ more))
    (names : ((b.slots .plain ++ more).map Slot.plain).Nodup) :
    Basics.read origin (plainEntries (b.slots .plain ++ more)) = .ok b := by
  have rules : nullable Rules.read origin ((b.rules.map (·.toValue .plain)).getD .null) = .ok b.rules :=
    nullable_plain origin (Rules.read_plain origin) (fun _ => Value.noConfusion) b.rules
  simp only [Basics.read, required_plain origin apart names 0 rfl, optional_plain origin apart names 1 rfl,
    optional_plain origin apart names 2 rfl, optional_plain origin apart names 3 rfl,
    optional_plain origin apart names 4 rfl, optional_plain origin apart names 5 rfl, texts_plain, rules]
  rfl

theorem choices_plain (n : Nat) (choices : List Choice) :
    items (Choice.read origin) n (choices.map (·.toValue .plain)) = .ok choices := by
  induction choices generalizing n with
  | nil => rfl
  | cons c rest ih =>
      rw [List.map_cons, items, ih, Choice.read_plain]
      rfl

theorem FieldKind.read_plain (k : FieldKind) :
    word FieldKind.ofName? (inQuotes FieldKind.names) origin (.text k.name) = .ok k := by
  cases k <;> rfl

theorem Field.read_plain (f : Field) : Field.readEntries origin (plainEntries (f.slots .plain)) = .ok f := by
  have apart := f.apart .plain
  have names : ((f.slots .plain).map Slot.plain).Nodup := by simp [slots, Basics.slots, Slot.same]
  have basics : Basics.read origin (plainEntries (f.slots .plain)) = .ok f.toBasics :=
    f.toBasics.read_plain origin _ apart names
  have choices : nullable (Reading.list Choice.read) origin
      ((f.choices.map fun all => .list (all.map (·.toValue .plain))).getD .null) = .ok f.choices :=
    nullable_plain origin (choices_plain origin 0) (fun _ => Value.noConfusion) f.choices
  have table : nullable TableApi.readTable origin ((f.table.map (·.tableValue .plain)).getD .null) = .ok f.table :=
    nullable_plain origin (TableApi.read_table_plain origin) (fun _ => Value.noConfusion) f.table
  have currency : nullable Currency.read origin ((f.currency.map (·.toValue .plain)).getD .null) = .ok f.currency :=
    nullable_plain origin (Currency.read_plain origin) (fun _ => Value.noConfusion) f.currency
  have scale : nullable Scale.read origin ((f.scale.map (·.toValue .plain)).getD .null) = .ok f.scale :=
    nullable_plain origin (Scale.read_plain origin) (fun _ => Value.noConfusion) f.scale
  have tags : nullable TagRules.read origin ((f.tags.map (·.toValue .plain)).getD .null) = .ok f.tags :=
    nullable_plain origin (TagRules.read_plain origin) (fun _ => Value.noConfusion) f.tags
  have heading : nullable Heading.read origin ((f.heading.map (·.toValue .plain)).getD .null) = .ok f.heading :=
    nullable_plain origin (Heading.read_plain origin) (fun _ => Value.noConfusion) f.heading
  simp only [Field.readEntries, basics, required_plain origin apart names 6 rfl, optional_plain origin apart names 7 rfl,
    optional_plain origin apart names 8 rfl, optional_plain origin apart names 9 rfl,
    optional_plain origin apart names 10 rfl, optional_plain origin apart names 11 rfl,
    optional_plain origin apart names 12 rfl, optional_plain origin apart names 13 rfl, Option.getD_some,
    FieldKind.read_plain, choices, table, texts_plain, currency, scale, tags, heading]
  rfl

theorem Group.read_plain (g : Group) (children : List Node) (values : List Value) (child : Reader Node)
    (reads : items (child origin) 0 values = .ok children) :
    Node.readGroup child origin (plainEntries (g.slots .plain (.list values))) = .ok (.group g children) := by
  have apart := g.apart .plain (.list values)
  have names : ((g.slots .plain (.list values)).map Slot.plain).Nodup := by simp [slots, Basics.slots, Slot.same]
  have basics : Basics.read origin (plainEntries (g.slots .plain (.list values))) = .ok g.toBasics :=
    g.toBasics.read_plain origin _ apart names
  have condition : nullable Condition.read origin ((g.condition.map (·.toValue .plain)).getD .null) = .ok g.condition :=
    nullable_plain origin (Condition.read_plain origin) (fun _ => Value.noConfusion) g.condition
  simp only [Node.readGroup, basics, optional_plain origin apart names 6 rfl, optional_plain origin apart names 7 rfl,
    optional_plain origin apart names 8 rfl, Option.getD_some, Reading.list, reads, condition]
  rfl

namespace Node

theorem items_same {α : Type} {read other : Value → Reading α} {values : List Value} (n : Nat)
    (same : ∀ v ∈ values, read v = other v) : items read n values = items other n values := by
  induction values generalizing n with
  | nil => rfl
  | cons v rest ih =>
      rw [items, items, same v List.mem_cons_self, ih (n + 1) fun w later => same w (List.mem_cons_of_mem _ later)]

-- A group is read alike by two readers of its children that agree on values less high than the group.
theorem group_read_same {child other : Reader Node} (found : Keyed Value)
    (same : ∀ v, v.height < Value.heightOfEntries found → child origin v = other origin v) :
    readGroup child origin found = readGroup other origin found := by
  have children : Reading.optional origin found "children" "children" [] (Reading.list child)
      = Reading.optional origin found "children" "children" [] (Reading.list other) := by
    rw [Reading.optional, Reading.optional]
    cases given : attribute? found "children" "children" with
    | none => rfl
    | some v =>
        cases v with
        | list values =>
            have member : ("children", .list values) ∈ found := by
              rw [attribute?, Option.or_self] at given
              exact Keyed.mem_of_value? given
            have inside : Value.heightOfItems values + 1 ≤ Value.heightOfEntries found := Value.height_of_entry member
            dsimp only [Reading.list]
            rw [items_same 0 fun v item => same v (Nat.lt_of_le_of_lt (Value.height_of_item item) inside)]
        | _ => rfl
  rw [readGroup, readGroup, children]

theorem tag_read {v : Value} {found : Keyed Value} {tag : String} (tagged : readTag origin v = .ok (found, tag)) :
    v = .object found := by
  cases v with
  | object entries => grind [readTag]
  | _ => cases tagged

-- The depth allowed does not matter as long as it is enough.
theorem read_deep_enough (fuel : Nat) (v : Value) (enough : v.height < fuel) :
    readDeep fuel origin v = Node.read origin v := by
  suffices two : ∀ fuel more v, v.height < fuel → v.height < more → readDeep fuel origin v = readDeep more origin v from
    two fuel _ v enough (Nat.lt_succ_self _)
  intro fuel
  induction fuel with
  | zero => exact fun _ v low => absurd low (Nat.not_lt_zero _)
  | succ fuel ih =>
      intro more v low lower
      obtain ⟨more, rfl⟩ := Nat.exists_eq_add_one.mpr (Nat.zero_lt_of_lt lower)
      rw [readDeep, readDeep]
      dsimp only
      cases tagged : readTag origin v with
      | error wrong => rfl
      | ok known =>
          obtain ⟨found, tag⟩ := known
          cases tag_read origin tagged
          rw [Value.height] at low lower
          have group : readGroup (readDeep fuel) origin found = readGroup (readDeep more) origin found :=
            group_read_same origin found fun w inside => ih more w (by omega) (by omega)
          dsimp only
          rw [group]

theorem read_group_enough (fuel : Nat) (found : Keyed Value) (enough : Value.heightOfEntries found ≤ fuel) :
    readGroup (readDeep fuel) origin found = readGroup Node.read origin found :=
  group_read_same origin found fun v inside => read_deep_enough origin fuel v (inside.trans_le enough)

theorem tag_plain {slots : List Slot} (names : (slots.map Slot.plain).Nodup) (n : Nat) {name : String}
    (there : slots[n]? = some ⟨"type", "type", some (.text name)⟩) (known : tagNames.contains name = true) :
    readTag origin (.object (plainEntries slots)) = .ok (plainEntries slots, name) := by
  have found := value_plain names (List.mem_of_getElem? there)
  dsimp only at found
  rw [readTag, tagKey]
  simp only [found, Option.getD_some, known, if_true]
  rfl

theorem field_read_plain (f : Field) : Node.read origin (toValue .plain (.field f)) = .ok (.field f) := by
  have names : ((f.slots .plain).map Slot.plain).Nodup := by simp [Field.slots, Basics.slots, Slot.same]
  obtain ⟨known, noGroup⟩ := tag_known f.kind
  show Node.read origin (.object (plainEntries (f.slots .plain))) = .ok (.field f)
  rw [Node.read, readDeep]
  simp only [tag_plain origin names 6 rfl known, if_neg noGroup, Field.read_plain]
  rfl

theorem group_read_plain (g : Group) (children : List Node)
    (reads : items (Node.read origin) 0 (toValues .plain children) = .ok children) :
    Node.read origin (toValue .plain (.group g children)) = .ok (.group g children) := by
  have names : ((g.slots .plain (.list (toValues .plain children))).map Slot.plain).Nodup := by
    simp [Group.slots, Basics.slots, Slot.same]
  have known : tagNames.contains groupName = true := by decide
  rw [toValue]
  show Node.read origin (.object (plainEntries (g.slots .plain (.list (toValues .plain children))))) = _
  rw [Node.read, readDeep]
  simp only [tag_plain origin names 6 rfl known, if_true]
  rw [read_group_enough origin (Value.height _) _ (Nat.le_succ _), Group.read_plain origin g children _ _ reads]
  rfl

theorem nodes_read_plain (nodes : List Node) (n : Nat) :
    items (Node.read origin) n (toValues .plain nodes) = .ok nodes := by
  induction nodes using forest_induction generalizing n with
  | nil => rfl
  | field f rest ih =>
      rw [toValues, items, field_read_plain, ih]
      rfl
  | group g children rest ihChildren ihRest =>
      rw [toValues, items, group_read_plain origin g children (ihChildren 0), ihRest]
      rfl

end Node

end FormEngine
