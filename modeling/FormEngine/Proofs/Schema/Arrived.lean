import FormEngine.Proofs.Forest
import FormEngine.Proofs.Schema.Slots

set_option autoImplicit false

namespace FormEngine

open Reading Slot

theorem Choice.apart (c : Choice) : Apart c.slots :=
  ⟨by simp [slots, Slot.same], by simp [slots, Slot.same], by simp [slots, Slot.same]⟩

theorem Rules.apart (r : Rules) : Apart r.slots :=
  ⟨by simp [slots, Slot.same], by simp [slots, Slot.same], by simp [slots, Slot.same]⟩

theorem TableApi.apart (a : TableApi) : Apart a.slots :=
  ⟨by simp [slots, Slot.same], by simp [slots, Slot.same], by simp [slots, Slot.same]⟩

def TableApi.tableSlots (a : TableApi) : List Slot := [.same "api" (some (a.toValue .document))]

theorem TableApi.table_apart (a : TableApi) : Apart a.tableSlots :=
  ⟨by simp [tableSlots], by simp [tableSlots, Slot.same], by simp [tableSlots, Slot.same]⟩

theorem Currency.apart (c : Currency) : Apart c.slots :=
  ⟨by simp [slots, Slot.same], by simp [slots, Slot.same], by simp [slots, Slot.same]⟩

theorem Scale.apart (s : Scale) : Apart s.slots :=
  ⟨by simp [slots, Slot.same], by simp [slots, Slot.same], by simp [slots, Slot.same]⟩

theorem TagRules.apart (t : TagRules) : Apart t.slots :=
  ⟨by simp [slots, Slot.same], by simp [slots, Slot.same], by simp [slots, Slot.same]⟩

theorem Heading.apart (h : Heading) : Apart h.slots :=
  ⟨by simp [slots, Slot.same], by simp [slots, Slot.same], by simp [slots, Slot.same]⟩

theorem Condition.apart (style : Style) (c : Condition) : Apart (c.slots style) :=
  ⟨by simp [slots, Slot.same], by simp [slots, Slot.same], by simp [slots, Slot.same]⟩

theorem Field.apart (style : Style) (f : Field) : Apart (f.slots style) :=
  ⟨by simp [slots, Basics.slots, Slot.same], by simp [slots, Basics.slots, Slot.same],
    by simp [slots, Basics.slots, Slot.same]⟩

theorem Group.apart (style : Style) (g : Group) (children : Value) : Apart (g.slots style children) :=
  ⟨by simp [slots, Basics.slots, Slot.same], by simp [slots, Basics.slots, Slot.same],
    by simp [slots, Basics.slots, Slot.same]⟩

theorem Form.apart (style : Style) (f : Form) : Apart (f.slots style) :=
  ⟨by simp [slots, Slot.same], by simp [slots, Slot.same], by simp [slots, Slot.same]⟩

variable (t : Transfer)

theorem Choice.read_arrived (c : Choice) :
    (Choice.read t.origin (t.carry (c.toValue .document))).toOption = some c := by
  rw [toValue, record_carried t c.apart]
  simp only [Choice.read, entries, Except.bind, bind, to_option_feed, required_taken t c.apart 0 rfl,
    required_taken t c.apart 1 rfl, taken_text]
  rfl

theorem Rules.read_arrived (r : Rules) :
    (Rules.read t.origin (t.carry (r.toValue .document))).toOption = some (r.arrived t) := by
  rw [toValue, record_carried t r.apart]
  simp only [Rules.read, entries, Except.bind, bind, to_option_feed, optional_taken t r.apart 0 rfl,
    optional_taken t r.apart 1 rfl, optional_taken t r.apart 2 rfl, optional_taken t r.apart 3 rfl,
    optional_taken t r.apart 4 rfl, optional_taken t r.apart 5 rfl, taken_ints, taken_numbers, taken_texts]
  rfl

theorem taken_method (m : Method) (names : List String) (fallback : Option Method) :
    taken t (word Method.ofName? names) fallback (some (.text m.name)) = some m := by
  rw [taken, t.text]
  cases m <;> rfl

theorem members_of_texts (origin : Origin) (headers : Keyed String) :
    members (text origin) (Keyed.mapValues .text headers) = .ok headers := by
  induction headers with
  | nil => rfl
  | cons entry rest ih =>
      rw [Keyed.mapValues, List.map_cons, members]
      rw [Keyed.mapValues] at ih
      rw [ih]
      rfl

theorem taken_headers (headers : Keyed String) (fallback : Option (Keyed String)) :
    taken t (dictionary text) fallback (some (.object (Keyed.mapValues .text headers))) = some (t.texts headers) := by
  rw [taken, t.textMap, dictionary, members_of_texts]
  rfl

theorem TableApi.read_arrived (a : TableApi) :
    (TableApi.read t.origin (t.carry (a.toValue .document))).toOption = some (a.arrived t) := by
  rw [toValue, record_carried t a.apart]
  simp only [TableApi.read, entries, Except.bind, bind, to_option_feed, optional_taken t a.apart 0 rfl,
    optional_taken t a.apart 1 rfl, optional_taken t a.apart 2 rfl, optional_taken t a.apart 3 rfl, taken_text,
    taken_method, taken_headers, taken_texts]
  rfl

theorem TableApi.read_table_arrived (a : TableApi) :
    (TableApi.readTable t.origin (t.carry (Style.document.record a.tableSlots))).toOption = some (a.arrived t) := by
  rw [record_carried t a.table_apart]
  simp only [readTable, entries, Except.bind, bind, optional_taken t a.table_apart 0 rfl, taken, read_arrived]

theorem Currency.read_arrived (c : Currency) :
    (Currency.read t.origin (t.carry (c.toValue .document))).toOption = some (c.arrived t) := by
  rw [toValue, record_carried t c.apart]
  simp only [Currency.read, entries, Except.bind, bind, to_option_feed, required_taken t c.apart 0 rfl,
    optional_taken t c.apart 1 rfl, optional_taken t c.apart 2 rfl, optional_taken t c.apart 3 rfl, taken_text,
    taken_texts, taken_numbers]
  rfl

theorem Scale.read_arrived (s : Scale) :
    (Scale.read t.origin (t.carry (s.toValue .document))).toOption = s.arrived? t := by
  rw [toValue, record_carried t s.apart]
  simp only [Scale.read, entries, Except.bind, bind, to_option_feed, optional_taken t s.apart 0 rfl,
    optional_taken t s.apart 1 rfl, optional_taken t s.apart 2 rfl, optional_taken t s.apart 3 rfl, taken_number,
    taken_numbers, taken_bools, arrived?]
  cases t.number s.min <;> cases t.number s.max <;> rfl

theorem TagRules.read_arrived (r : TagRules) :
    (TagRules.read t.origin (t.carry (r.toValue .document))).toOption = some r := by
  rw [toValue, record_carried t r.apart]
  simp only [TagRules.read, entries, Except.bind, bind, to_option_feed, optional_taken t r.apart 0 rfl,
    optional_taken t r.apart 1 rfl, taken_texts, taken_ints]
  rfl

theorem taken_level (level : HeadingLevel) (fallback : Option HeadingLevel) :
    taken t HeadingLevel.read fallback (some (.int level.number)) = some level := by
  rw [taken, t.int]
  cases level <;> rfl

theorem Heading.read_arrived (h : Heading) :
    (Heading.read t.origin (t.carry (h.toValue .document))).toOption = some h := by
  rw [toValue, record_carried t h.apart]
  simp only [Heading.read, entries, Except.bind, bind, to_option_feed, required_taken t h.apart 0 rfl,
    optional_taken t h.apart 1 rfl, taken_text, taken_level]
  rfl

theorem taken_operator (o : Operator) (names : List String) (fallback : Option Operator) :
    taken t (word Operator.ofName? names) fallback (some (.text o.name)) = some o := by
  rw [taken, t.text]
  cases o <;> rfl

theorem taken_free (v : Value) :
    taken t (fun _ v => .ok v) (some .null) (Style.document.free v) = some (t.carry v.finiteOnly) := by
  cases v with
  | null => exact congrArg some t.null.symm
  | _ => rfl

theorem Condition.read_arrived (c : Condition) :
    (Condition.read t.origin (t.carry (c.toValue .document))).toOption = some (c.arrived t) := by
  have apart := c.apart .document
  rw [toValue, record_carried t apart]
  simp only [Condition.read, entries, Except.bind, bind, to_option_feed, required_taken t apart 0 rfl,
    required_taken t apart 1 rfl, optional_taken t apart 2 rfl, taken_text, taken_operator, taken_free]
  rfl

theorem Basics.read_arrived (b : Basics) (more : List Slot) (apart : Apart (b.slots .document ++ more)) :
    (Basics.read t.origin (entriesCarried t (b.slots .document ++ more))).toOption = some (b.arrived t) := by
  have rules : taken t (nullable Rules.read) (some none) (b.rules.map (·.toValue .document)) = _ :=
    taken_all_records t Rules.apart (Rules.read_arrived t) b.rules
  simp only [Basics.read, to_option_feed, required_taken t apart 0 rfl, optional_taken t apart 1 rfl,
    optional_taken t apart 2 rfl, optional_taken t apart 3 rfl, optional_taken t apart 4 rfl,
    optional_taken t apart 5 rfl, taken_text, taken_texts, taken_bool, rules]
  rfl

theorem items_of_choices (n : Nat) (choices : List Choice) :
    (items (Choice.read t.origin) n ((choices.map (·.toValue .document)).map t.carry)).toOption = some choices := by
  induction choices generalizing n with
  | nil => rfl
  | cons c rest ih =>
      rw [List.map_cons, List.map_cons, items, to_option_feed, ih, to_option_map, to_option_below, Choice.read_arrived]
      rfl

theorem taken_choices (o : Option (List Choice)) :
    taken t (nullable (Reading.list Choice.read)) (some none) (o.map fun all => .list (all.map (·.toValue .document)))
      = some o := by
  cases o with
  | none => rfl
  | some all =>
      simp only [taken, Option.map_some, t.list, nullable, Reading.list, to_option_map, items_of_choices]

theorem taken_kind (k : FieldKind) (names : List String) (fallback : Option FieldKind) :
    taken t (word FieldKind.ofName? names) fallback (some (.text k.name)) = some k := by
  rw [taken, t.text]
  cases k <;> rfl

theorem Field.read_arrived (f : Field) :
    (Field.readEntries t.origin (entriesCarried t (f.slots .document))).toOption = f.arrived? t := by
  have apart := f.apart .document
  have basics : (Basics.read t.origin (entriesCarried t (f.slots .document))).toOption
      = some (f.toBasics.arrived t) := f.toBasics.read_arrived t _ apart
  have table : taken t (nullable TableApi.readTable) (some none) (f.table.map (·.tableValue .document)) = _ :=
    taken_all_records t TableApi.table_apart (TableApi.read_table_arrived t) f.table
  have currency : taken t (nullable Currency.read) (some none) (f.currency.map (·.toValue .document)) = _ :=
    taken_all_records t Currency.apart (Currency.read_arrived t) f.currency
  have scale : taken t (nullable Scale.read) (some none) (f.scale.map (·.toValue .document)) = _ :=
    taken_records t Scale.apart (Scale.read_arrived t) f.scale
  have tags : taken t (nullable TagRules.read) (some none) (f.tags.map (·.toValue .document)) = _ :=
    taken_all_records t TagRules.apart (TagRules.read_arrived t) f.tags
  have heading : taken t (nullable Heading.read) (some none) (f.heading.map (·.toValue .document)) = _ :=
    taken_all_records t Heading.apart (Heading.read_arrived t) f.heading
  simp only [Field.readEntries, to_option_feed, basics, required_taken t apart 6 rfl, optional_taken t apart 7 rfl,
    optional_taken t apart 8 rfl, optional_taken t apart 9 rfl, optional_taken t apart 10 rfl,
    optional_taken t apart 11 rfl, optional_taken t apart 12 rfl, optional_taken t apart 13 rfl, taken_kind,
    taken_choices, taken_texts, table, currency, scale, tags, heading, Option.map_id', arrived?]
  cases f.scale with
  | none => rfl
  | some scale =>
      dsimp only
      cases scale.arrived? t <;> rfl

theorem Group.read_arrived (g : Group) (children : Value) (child : Reader Node) :
    (Node.readGroup child t.origin (entriesCarried t (g.slots .document children))).toOption =
      (taken t (Reading.list child) (some []) (some children)).map (Node.group (g.arrived t)) := by
  have apart := g.apart .document children
  have basics : (Basics.read t.origin (entriesCarried t (g.slots .document children))).toOption
      = some (g.toBasics.arrived t) := g.toBasics.read_arrived t _ apart
  have condition : taken t (nullable Condition.read) (some none) (g.condition.map (·.toValue .document)) = _ :=
    taken_all_records t (Condition.apart .document) (Condition.read_arrived t) g.condition
  have word : taken t (word (fun name => if name = groupName then some () else none) (inQuotes [groupName]))
      (some ()) (some (.text groupName)) = some () := by
    rw [taken, t.text]
    rfl
  simp only [Node.readGroup, to_option_feed, basics, optional_taken t apart 6 rfl, optional_taken t apart 7 rfl,
    optional_taken t apart 8 rfl, condition, word]
  cases taken t (Reading.list child) (some []) (some children) <;> rfl

theorem Value.height_of_item {items : List Value} {v : Value} (member : v ∈ items) : v.height ≤ heightOfItems items := by
  induction items with
  | nil => cases member
  | cons first rest ih =>
      rw [heightOfItems]
      rcases List.mem_cons.mp member with rfl | later
      · exact Nat.le_max_left _ _
      · exact (ih later).trans (Nat.le_max_right _ _)

theorem Value.height_of_entry {entries : Keyed Value} {key : String} {v : Value} (member : (key, v) ∈ entries) :
    v.height ≤ heightOfEntries entries := by
  induction entries with
  | nil => cases member
  | cons first rest ih =>
      rw [heightOfEntries]
      rcases List.mem_cons.mp member with rfl | later
      · exact Nat.le_max_left _ _
      · exact (ih later).trans (Nat.le_max_right _ _)

namespace Node

theorem tag_known (k : FieldKind) : tagNames.contains k.name = true ∧ k.name ≠ groupName := by
  cases k <;> decide

theorem tag_carried {slots : List Slot} (apart : Apart slots) (n : Nat) {name : String}
    (there : slots[n]? = some ⟨"type", "type", some (.text name)⟩) (known : tagNames.contains name = true) :
    readTag t.origin (.object (entriesCarried t slots)) = .ok (entriesCarried t slots, name) := by
  have found := value_carried t apart.keys (List.mem_of_getElem? there)
  dsimp only at found
  rw [readTag, tagKey]
  simp only [found, Option.map_some, t.text, known, if_true]
  rfl

theorem field_read_arrived (f : Field) (fuel : Nat) :
    (readDeep (fuel + 1) t.origin (t.carry (toValue .document (.field f)))).toOption = (f.arrived? t).map .field := by
  have apart := f.apart .document
  obtain ⟨known, noGroup⟩ := tag_known f.kind
  rw [toValue, record_carried t apart, readDeep]
  simp only [tag_carried t apart 6 rfl known]
  simp only [if_neg noGroup, to_option_below, to_option_map, Field.read_arrived]

theorem group_read_arrived (g : Group) (children : List Node) (fuel : Nat) :
    (readDeep (fuel + 1) t.origin (t.carry (toValue .document (.group g children)))).toOption =
      (items (readDeep fuel t.origin) 0 ((toValues .document children).map t.carry)).toOption.map
        (.group (g.arrived t)) := by
  have apart := g.apart .document (.list (toValues .document children))
  have known : tagNames.contains groupName = true := by decide
  rw [toValue, record_carried t apart, readDeep]
  simp only [tag_carried t apart 6 rfl known]
  simp only [if_true, to_option_below, Group.read_arrived, taken, t.list]
  rfl

theorem height_carried {slots : List Slot} {slot : Slot} {v : Value} (member : slot ∈ slots)
    (value : slot.value = some v) : (t.carry v).height ≤ Value.heightOfEntries (entriesCarried t slots) :=
  Value.height_of_entry (List.mem_filterMap.mpr ⟨slot, member, by rw [value]; rfl⟩)

theorem field_height (f : Field) : 0 < (t.carry (toValue .document (.field f))).height := by
  rw [toValue, record_carried t (f.apart .document)]
  exact Nat.succ_pos _

theorem list_height {items : List Value} {slots : List Slot} {slot : Slot} (member : slot ∈ slots)
    (value : slot.value = some (.list items)) :
    Value.heightOfItems (items.map t.carry) + 1 ≤ Value.heightOfEntries (entriesCarried t slots) := by
  have height := height_carried t member value
  rw [t.list] at height
  exact height

theorem group_height (g : Group) (children : List Node) :
    Value.heightOfItems ((toValues .document children).map t.carry) + 1
      < (t.carry (toValue .document (.group g children))).height := by
  have inside : .same "children" (some (.list (toValues .document children))) ∈ g.slots .document _ :=
    List.mem_append_right _ (List.mem_cons_of_mem _ List.mem_cons_self)
  rw [toValue, record_carried t (g.apart .document (.list (toValues .document children)))]
  exact Nat.lt_succ_of_le (list_height t inside rfl)

theorem nodes_read_arrived (nodes : List Node) (fuel : Nat)
    (enough : Value.heightOfItems ((toValues .document nodes).map t.carry) ≤ fuel) (n : Nat) :
    (items (readDeep fuel t.origin) n ((toValues .document nodes).map t.carry)).toOption = arrivedAll? t nodes := by
  induction nodes using forest_induction generalizing fuel n with
  | nil => rfl
  | field f rest ihRest =>
      rw [toValues, List.map_cons, Value.heightOfItems] at enough
      obtain ⟨first, later⟩ := Nat.max_le.mp enough
      obtain ⟨k, rfl⟩ := Nat.exists_eq_add_one.mpr ((field_height t f).trans_le first)
      rw [toValues, List.map_cons, items, to_option_feed, ihRest _ later, to_option_map, to_option_below,
        field_read_arrived, arrivedAll?, arrived?]
      cases f.arrived? t <;> rfl
  | group g children rest ihChildren ihRest =>
      rw [toValues, List.map_cons, Value.heightOfItems] at enough
      obtain ⟨first, later⟩ := Nat.max_le.mp enough
      have inside := (group_height t g children).trans_le first
      obtain ⟨k, rfl⟩ := Nat.exists_eq_add_one.mpr (Nat.zero_lt_of_lt inside)
      rw [toValues, List.map_cons, items, to_option_feed, ihRest _ later, to_option_map, to_option_below,
        group_read_arrived, ihChildren k (by omega), arrivedAll?, arrived?]
      cases arrivedAll? t children <;> rfl

end Node

theorem Form.read_arrived (f : Form) :
    (Form.read t.origin (t.carry (f.toValue .document))).toOption = f.arrived? t := by
  have apart := f.apart .document
  have fields : .same "fields" (some (.list (Node.toValues .document f.nodes))) ∈ f.slots .document :=
    List.mem_cons_of_mem _ List.mem_cons_self
  have enough := Node.list_height t fields rfl
  have nodes : taken t (Reading.list (Node.readDeep (t.carry (f.toValue .document)).height)) (some [])
      (some (.list (Node.toValues .document f.nodes))) = Node.arrivedAll? t f.nodes := by
    rw [taken, t.list, toValue, record_carried t apart]
    exact Node.nodes_read_arrived t f.nodes _ (by rw [Value.height]; omega) 0
  rw [toValue, record_carried t apart] at nodes ⊢
  simp only [Form.read, entries, Except.bind, bind, to_option_feed, optional_taken t apart 0 rfl,
    optional_taken t apart 1 rfl, taken_text, nodes]
  rfl

namespace Node

theorem field_arrived_id (f arrived : Field) (there : f.arrived? t = some arrived) : arrived.id = f.id := by
  rw [Field.arrived?] at there
  split at there
  · cases there
    rfl
  · obtain ⟨scale, -, rfl⟩ := Option.map_eq_some_iff.mp there
    rfl

theorem arrived_ids (nodes arrived : List Node) (there : arrivedAll? t nodes = some arrived) :
    idsOf arrived = idsOf nodes := by
  induction nodes using forest_induction generalizing arrived with
  | nil =>
      cases there
      rfl
  | field f rest ih =>
      rw [arrivedAll?, arrived?] at there
      obtain ⟨n, first, there⟩ := Option.bind_eq_some_iff.mp there
      obtain ⟨g, found, rfl⟩ := Option.map_eq_some_iff.mp first
      obtain ⟨later, after, rfl⟩ := Option.map_eq_some_iff.mp there
      rw [ids_of_cons, ids_of_cons, ids_field, ids_field, field_arrived_id t f g found, ih later after]
  | group g children rest ihChildren ihRest =>
      rw [arrivedAll?, arrived?] at there
      obtain ⟨n, first, there⟩ := Option.bind_eq_some_iff.mp there
      obtain ⟨inside, found, rfl⟩ := Option.map_eq_some_iff.mp first
      obtain ⟨later, after, rfl⟩ := Option.map_eq_some_iff.mp there
      rw [ids_of_cons, ids_of_cons, ids_group, ids_group, ihChildren inside found, ihRest later after]
      rfl

end Node

end FormEngine
