import FormEngine.Builder.Store
import FormEngine.Filling.Submission
import FormEngine.Proofs.Forest

set_option autoImplicit false

namespace FormEngine

def named (values : Keyed Value) (n : Node) : Option Value := n.basics.alias?.bind (Keyed.value? values)

def lends (values : Keyed Value) (key : String) (n : Node) : Option Value :=
  if n.basics.alias? = some key then Keyed.value? values n.id else none

def lent? (nodes : List Node) (values : Keyed Value) (key : String) : Option Value :=
  (Node.nodesOf nodes).findSome? (lends values key)

theorem value_index_id (values index : Keyed Value) (n : Node) (key : String) :
    Keyed.value? (indexId values index n) key
      = ((if n.id = key ∧ Keyed.value? values n.id = none then named values n else none)).or
          (Keyed.value? index key) := by
  rw [indexId, named]
  cases called : n.basics.alias? with
  | none => simp
  | some name =>
      cases own : Keyed.value? values n.id with
      | some v => simp [Keyed.has, own]
      | none =>
          cases lent : Keyed.value? values name with
          | none => simp [Keyed.has, own, lent]
          | some v =>
              simp only [Keyed.has, own, Option.isSome_none, Bool.false_eq_true, if_false, Keyed.value?_put,
                Option.bind_some, lent, and_true]
              split <;> rfl

theorem value_index_name (values index : Keyed Value) (n : Node) (key : String) :
    Keyed.value? (indexName values index n) key = (Keyed.value? index key).or (lends values key n) := by
  rw [indexName, lends]
  cases called : n.basics.alias? with
  | none => simp
  | some name =>
      cases own : Keyed.value? values n.id with
      | none => simp
      | some v => simp [Keyed.value?_putNew]

theorem value_names (values : Keyed Value) (key : String) (all : List Node) (index : Keyed Value) :
    Keyed.value? (all.foldl (indexName values) index) key
      = (Keyed.value? index key).or (all.findSome? (lends values key)) := by
  induction all generalizing index with
  | nil => simp
  | cons n rest ih =>
      rw [List.foldl_cons, ih, value_index_name, Option.or_assoc, List.findSome?_cons]
      cases lends values key n <;> simp

theorem value_index_passes (nodes : List Node) (values : Keyed Value) (key : String) :
    Keyed.value? (valueIndex nodes values) key
      = (Keyed.value? ((Node.nodesOf nodes).foldl (indexId values) values) key).or (lent? nodes values key) :=
  value_names values key (Node.nodesOf nodes) _

-- Only a node with the id itself has anything to say about a key in the first pass, and only when the key has no value.
theorem value_ids_quiet (values : Keyed Value) (key : String) (all : List Node) (index : Keyed Value)
    (quiet : ∀ n ∈ all, n.id = key → Keyed.value? values key ≠ none) :
    Keyed.value? (all.foldl (indexId values) index) key = Keyed.value? index key := by
  induction all generalizing index with
  | nil => rfl
  | cons n rest ih =>
      have silent : ¬ (n.id = key ∧ Keyed.value? values n.id = none) := by
        rintro ⟨rfl, absent⟩
        exact quiet n List.mem_cons_self rfl absent
      rw [List.foldl_cons, ih _ fun m later => quiet m (List.mem_cons_of_mem n later), value_index_id, if_neg silent,
        Option.none_or]

theorem value_ids (values : Keyed Value) (n : Node) (all : List Node) (index : Keyed Value)
    (distinct : (all.map Node.id).Nodup) (member : n ∈ all) :
    Keyed.value? (all.foldl (indexId values) index) n.id
      = (if Keyed.value? values n.id = none then named values n else none).or (Keyed.value? index n.id) := by
  induction all generalizing index with
  | nil => cases member
  | cons first rest ih =>
      rw [List.map_cons, List.nodup_cons] at distinct
      rw [List.foldl_cons]
      rcases List.mem_cons.mp member with same | later
      · subst same
        have alone : ∀ m ∈ rest, m.id = n.id → Keyed.value? values n.id ≠ none := fun m later same =>
          absurd (same ▸ List.mem_map_of_mem later) distinct.1
        rw [value_ids_quiet _ _ _ _ alone, value_index_id]
        simp only [true_and]
      · have other : ¬ (first.id = n.id ∧ Keyed.value? values first.id = none) := by
          rintro ⟨same, _⟩
          exact distinct.1 (same ▸ List.mem_map_of_mem later)
        rw [ih _ distinct.2 later, value_index_id, if_neg other, Option.none_or]

theorem value_index (nodes : List Node) (values : Keyed Value) (n : Node) (distinct : (Node.idsOf nodes).Nodup)
    (member : n ∈ Node.nodesOf nodes) :
    Keyed.value? (valueIndex nodes values) n.id
      = ((Keyed.value? values n.id).or (named values n)).or (lent? nodes values n.id) := by
  rw [value_index_passes, value_ids values n _ values distinct member]
  cases own : Keyed.value? values n.id with
  | none => simp
  | some v => simp

def NameGiven (values : Keyed Value) (n : Node) (v : Value) : Prop :=
  ∃ name, n.basics.name = some name ∧ name ≠ "" ∧ Keyed.value? values name = some v

-- The first node that is named like the key and has a value under its id.
def lender? (nodes : List Node) (values : Keyed Value) (key : String) : Option Node :=
  (Node.nodesOf nodes).find? fun n => n.basics.name == some key && Keyed.has values n.id

theorem alias_iff (b : Basics) (name : String) : b.alias? = some name ↔ b.name = some name ∧ name ≠ "" := by
  simp [Basics.alias?, Option.filter_eq_some_iff]

theorem named_iff (values : Keyed Value) (n : Node) (v : Value) : named values n = some v ↔ NameGiven values n v := by
  simp only [named, NameGiven, Option.bind_eq_some_iff, alias_iff, and_assoc]

theorem lent_empty (nodes : List Node) (values : Keyed Value) : lent? nodes values "" = none := by
  rw [lent?, List.findSome?_eq_none_iff]
  intro n _
  rw [lends, if_neg fun called => ((alias_iff n.basics "").mp called).2 rfl]

theorem lent_by_first (nodes : List Node) (values : Keyed Value) (key : String) (given : key ≠ "") :
    lent? nodes values key = (lender? nodes values key).bind fun n => Keyed.value? values n.id := by
  rw [lent?, lender?]
  induction Node.nodesOf nodes with
  | nil => rfl
  | cons n rest ih =>
      rw [List.findSome?_cons, List.find?_cons, lends]
      by_cases called : n.basics.name = some key
      · rw [if_pos ((alias_iff n.basics key).mpr ⟨called, given⟩)]
        cases own : Keyed.value? values n.id with
        | none => simpa [Keyed.has, own] using ih
        | some v => simp [Keyed.has, own, called]
      · have other : (n.basics.name == some key) = false := by simpa using called
        rw [if_neg fun alike => called ((alias_iff n.basics key).mp alike).1, other]
        exact ih

theorem value_index_lent (nodes : List Node) (values : Keyed Value) (key : String) (distinct : (Node.idsOf nodes).Nodup)
    (absent : Keyed.value? values key = none) (unnamed : ∀ n ∈ Node.nodesOf nodes, n.id = key → named values n = none) :
    Keyed.value? (valueIndex nodes values) key = lent? nodes values key := by
  by_cases inside : key ∈ Node.idsOf nodes
  · obtain ⟨n, member, rfl⟩ := List.mem_map.mp inside
    rw [value_index nodes values n distinct member, absent, unnamed n member rfl, Option.none_or, Option.none_or]
  · have outside : ∀ n ∈ Node.nodesOf nodes, n.id = key → Keyed.value? values key ≠ none := fun n member same =>
      absurd (same ▸ List.mem_map_of_mem member) inside
    rw [value_index_passes, value_ids_quiet values key _ values outside, absent, Option.none_or]

theorem value_index_precedence (nodes : List Node) (values : Keyed Value) (distinct : (Node.idsOf nodes).Nodup) :
    (∀ key v, Keyed.value? values key = some v → Keyed.value? (valueIndex nodes values) key = some v) ∧
    (∀ n ∈ Node.nodesOf nodes, Keyed.value? values n.id = none →
      ∀ v, NameGiven values n v → Keyed.value? (valueIndex nodes values) n.id = some v) ∧
    ∀ key, Keyed.value? values key = none → (∀ n ∈ Node.nodesOf nodes, n.id = key → ∀ v, ¬ NameGiven values n v) →
      Keyed.value? (valueIndex nodes values) key =
        if key = "" then none else (lender? nodes values key).bind fun n => Keyed.value? values n.id := by
  refine ⟨fun key v given => ?_, fun n member absent v given => ?_, fun key absent unnamed => ?_⟩
  · have quiet : ∀ n ∈ Node.nodesOf nodes, n.id = key → Keyed.value? values key ≠ none := fun _ _ _ => by simp [given]
    rw [value_index_passes, value_ids_quiet values key _ values quiet, given, Option.some_or]
  · rw [value_index nodes values n distinct member, absent, (named_iff values n v).mpr given]
    rfl
  · have left (n : Node) (member : n ∈ Node.nodesOf nodes) (same : n.id = key) : named values n = none :=
      Option.eq_none_iff_forall_ne_some.mpr fun v found => unnamed n member same v ((named_iff values n v).mp found)
    rw [value_index_lent nodes values key distinct absent left]
    split
    · rename_i blank
      rw [blank, lent_empty]
    · rename_i given
      exact lent_by_first nodes values key given

def lenders : List Node :=
  let called (id name : String) : Node := .field { Field.create id .text with name := some name }
  [called "x" "k", .group (Group.create "g") [called "y" "k", called "w" "n"], called "z" "k"]

def lentValues : Keyed Value := [("z", .int 2), ("n", .int 7), ("y", .int 1)]

theorem first_lender_inside_group :
    Keyed.value? (valueIndex lenders lentValues) "n" = some (.int 7) ∧
    Keyed.value? (valueIndex lenders lentValues) "w" = some (.int 7) ∧
    Keyed.value? (valueIndex lenders lentValues) "k" = some (.int 1) := by
  obtain ⟨given, byName, lent⟩ := value_index_precedence lenders lentValues (by decide)
  refine ⟨given "n" (.int 7) rfl, ?_, ?_⟩
  · refine byName (.field { Field.create "w" .text with name := some "n" }) ?_ rfl (.int 7) ⟨"n", rfl, by decide, rfl⟩
    exact List.mem_cons_of_mem _ (List.mem_cons_of_mem _ (List.mem_cons_of_mem _ List.mem_cons_self))
  · refine (lent "k" rfl fun n member same => ?_).trans rfl
    have unnamed : "k" ∉ Node.idsOf lenders := by decide
    exact absurd (same ▸ List.mem_map_of_mem member) unnamed

-- A name may be empty, and so may a key. Going by the first node with the name, the key would be worth what the field is.
def emptyNamed : List Node := [.field { Field.create "a" .text with name := some "" }]

def fieldValues : Keyed Value := [("a", .text "x")]

theorem empty_name_lends_nothing :
    (Node.idsOf emptyNamed).Nodup ∧ Keyed.value? fieldValues "" = none ∧ "" ∉ Node.idsOf emptyNamed ∧
    ((lender? emptyNamed fieldValues "").bind fun n => Keyed.value? fieldValues n.id) = some (.text "x") ∧
    Keyed.value? (valueIndex emptyNamed fieldValues) "" = none :=
  ⟨by decide, rfl, by decide, rfl, rfl⟩

end FormEngine
