import FormEngine.Proofs.Builder.Patched

set_option autoImplicit false

namespace FormEngine

namespace Node

-- What the first search comes to, in any tree: nothing if no node has the id, or else a list of the tree and the index
-- in it of a node with the id. That node is the one found, and the one that a change replaces where it stands.
structure Searched (nodes : List Node) (id : String) : Prop where
  missing : locate? nodes id = none ↔ ∀ n ∈ nodesOf nodes, n.id ≠ id
  placed : ∀ siblings index, locate? nodes id = some (siblings, index) → ∃ (hole : Hole) (n : Node),
    nodes = hole.fill siblings ∧ siblings[index]? = some n ∧ n.id = id ∧
    ∀ change, replace? nodes id change = some (hole.fill (siblings.take index ++ change n ++ siblings.drop (index + 1)))
  found : find? nodes id = (locate? nodes id).bind fun place => place.1[place.2]?

theorem find_missing_iff (nodes : List Node) (id : String) : find? nodes id = none ↔ ∀ n ∈ nodesOf nodes, n.id ≠ id := by
  constructor
  · intro missing n here same
    obtain ⟨found, search⟩ := find_of_mem nodes id (same ▸ List.mem_map_of_mem here)
    cases missing.symm.trans search
  · intro absent
    cases search : find? nodes id with
    | none => rfl
    | some found => exact absurd (find_id nodes id found search) (absent found (find_mem nodes id found search))

theorem searched_missing (nodes : List Node) (id : String) (search : find? nodes id = none) : Searched nodes id := by
  have nowhere := locate_missing nodes id search
  refine ⟨?_, ?_, ?_⟩
  · rw [← find_missing_iff, search, nowhere]
    exact iff_of_true rfl rfl
  · intro siblings index located
    cases nowhere.symm.trans located
  · rw [search, nowhere, Option.bind_none]

theorem searched_found (nodes : List Node) (id : String) (old : Node) (search : find? nodes id = some old) :
    Searched nodes id := by
  obtain ⟨hole, before, after, split, place, replaced⟩ := locate_found nodes id old search
  have standing : (before ++ [old] ++ after)[before.length]? = some old := by simp
  refine ⟨?_, ?_, ?_⟩
  · rw [← find_missing_iff, search, place]
    exact iff_of_false (Option.some_ne_none _) (Option.some_ne_none _)
  · intro siblings index located
    cases place.symm.trans located
    refine ⟨hole, old, split, standing, find_id nodes id old search, fun change => ?_⟩
    rw [replaced]
    simp
  · rw [search, place, Option.bind_some, standing]

theorem searched (nodes : List Node) (id : String) : Searched nodes id := by
  cases search : find? nodes id with
  | none => exact searched_missing nodes id search
  | some old => exact searched_found nodes id old search

theorem find_iff (nodes : List Node) (distinct : (idsOf nodes).Nodup) (id : String) (n : Node) :
    find? nodes id = some n ↔ n ∈ nodesOf nodes ∧ n.id = id := by
  constructor
  · intro search
    exact ⟨find_mem nodes id n search, find_id nodes id n search⟩
  · intro here
    rw [← here.2]
    exact find_here nodes distinct n here.1

theorem find_group_iff (nodes : List Node) (distinct : (idsOf nodes).Nodup) (id : String) (n : Node) :
    findGroup? nodes id = some n ↔ (n ∈ nodesOf nodes ∧ n.id = id) ∧ n.isGroup = true := by
  have sound (m : Node) (search : findGroup? nodes id = some m) :
      (m ∈ nodesOf nodes ∧ m.id = id) ∧ m.isGroup = true := by
    have passed := List.find?_some search
    rw [Bool.and_eq_true, beq_iff_eq] at passed
    exact ⟨⟨List.mem_of_find?_eq_some search, passed.2⟩, passed.1⟩
  constructor
  · exact sound n
  · intro here
    cases search : findGroup? nodes id with
    | none =>
        have refused := List.find?_eq_none.mp search n here.1.1
        simp [here.1.2, here.2] at refused
    | some m =>
        have same := (find_iff nodes distinct id m).mpr (sound m search).1
        rw [(find_iff nodes distinct id n).mpr here.1] at same
        exact same.symm

theorem find_group_eq (nodes : List Node) (distinct : (idsOf nodes).Nodup) (id : String) :
    findGroup? nodes id = (find? nodes id).filter isGroup := by
  apply Option.ext
  intro n
  rw [find_group_iff nodes distinct, Option.filter_eq_some_iff, find_iff nodes distinct]

-- A field of the outermost list has the id of a group inside another group: either search comes upon its own.
def repeated : List Node :=
  [.group (Group.create "outer") [.group (Group.create "twice") []], .field (Field.create "twice" .text)]

example : find? repeated "twice" = some (.field (Field.create "twice" .text)) ∧
    findGroup? repeated "twice" = some (.group (Group.create "twice") []) := ⟨rfl, rfl⟩

end Node

namespace Store

structure LooksUp (s : Store) (id : String) : Prop where
  field : ∀ n, s.find? id = some n ↔ n ∈ Node.nodesOf s.nodes ∧ n.id = id
  group : s.findGroup? id = (s.find? id).filter Node.isGroup

theorem looks_up (s : Store) (distinct : s.ids.Nodup) (id : String) : s.LooksUp id :=
  ⟨Node.find_iff s.nodes distinct id, Node.find_group_eq s.nodes distinct id⟩

theorem lookups_agree :
    (∀ nodes id, Node.Searched nodes id) ∧ (∀ s : Store, s.ids.Nodup → ∀ id, s.LooksUp id) ∧
    ∀ title script ops id, ((Store.new title script).run ops).LooksUp id := by
  refine ⟨Node.searched, looks_up, fun title script ops id => ?_⟩
  have sound := run_sound (Store.new title script) ops (sound_new title script)
  exact looks_up _ sound.distinct id

theorem deep_lookups : deepStore.ids.Nodup ∧ deepStore.find? "count" = some (.field count) ∧
    deepStore.findGroup? "count" = none ∧
    deepStore.findGroup? "inner" = some (.group (Group.create "inner") [.field count]) := by
  have distinct : deepStore.ids.Nodup := by decide
  have leaf : deepStore.LooksUp "count" := lookups_agree.2.1 deepStore distinct "count"
  have inner : deepStore.LooksUp "inner" := lookups_agree.2.1 deepStore distinct "inner"
  have counted : deepStore.find? "count" = some (.field count) := (leaf.field (.field count)).mpr ⟨count_inside, rfl⟩
  have enclosing : deepStore.find? "inner" = some (.group (Group.create "inner") [.field count]) :=
    (inner.field _).mpr ⟨List.mem_cons_of_mem _ List.mem_cons_self, rfl⟩
  refine ⟨distinct, counted, ?_, ?_⟩
  · rw [leaf.group, counted]
    rfl
  · rw [inner.group, enclosing]
    rfl

end Store

end FormEngine
