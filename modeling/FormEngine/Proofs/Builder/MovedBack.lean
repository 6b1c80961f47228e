import FormEngine.Proofs.Builder.Structure

set_option autoImplicit false

namespace FormEngine

namespace Node

theorem change_children_again (id : String) (first second : List Node → List Node) (nodes changed : List Node)
    (result : changeChildren id first nodes = some changed) :
    changeChildren id second changed = changeChildren id (second ∘ first) nodes := by
  induction nodes using forest_induction generalizing changed with
  | nil => simp [changeChildren] at result
  | field f rest ih =>
      rw [changeChildren] at result
      obtain ⟨later, inside, rfl⟩ := Option.map_eq_some_iff.mp result
      rw [changeChildren, changeChildren, ih later inside]
  | group g children rest ihChildren ihRest =>
      rw [changeChildren] at result
      split at result
      · rename_i here
        cases result
        rw [changeChildren, changeChildren, if_pos here, if_pos here]
        rfl
      · rename_i elsewhere
        split at result
        · rename_i within inside
          cases result
          rw [changeChildren, changeChildren, if_neg elsewhere, if_neg elsewhere, ihChildren within inside]
          have found : ∃ again, changeChildren id (second ∘ first) children = some again := by
            rw [← Option.isSome_iff_exists, Option.isSome_iff_ne_none]
            intro missing
            have nowhere := find_group_unchanged id _ children missing
            cases (change_children_missing id first children nowhere).symm.trans inside
          obtain ⟨again, twice⟩ := found
          rw [twice]
        · rename_i missing
          obtain ⟨later, inside, rfl⟩ := Option.map_eq_some_iff.mp result
          have nowhere := find_group_unchanged id first children missing
          rw [changeChildren, changeChildren, if_neg elsewhere, if_neg elsewhere,
            change_children_missing id second children nowhere, change_children_missing id _ children nowhere]
          simp only [ihRest later inside]

theorem change_list_again (nodes changed : List Node) (parent : Option String) (first second : List Node → List Node)
    (result : changeList nodes parent first = some changed) :
    changeList changed parent second = changeList nodes parent (second ∘ first) := by
  cases parent with
  | none =>
      cases result
      rfl
  | some id => exact change_children_again id first second nodes changed result

theorem change_list_idle (nodes items : List Node) (parent : Option String) (change : List Node → List Node)
    (listed : listAt? nodes parent = some items) (idle : change items = items) :
    changeList nodes parent change = some nodes := by
  obtain ⟨hole, _, split, changed⟩ := list_found nodes parent items listed
  rw [changed, idle, ← split]

theorem insert_erased (items : List Node) (i : Nat) (item : Node) (here : items[i]? = some item) :
    (items.eraseIdx i).insertIdx i item = items := by
  obtain ⟨bound, rfl⟩ := List.getElem?_eq_some_iff.mp here
  exact List.insertIdx_eraseIdx_getElem bound

theorem owner_outside (nodes items : List Node) (id : String) (item : Node) (distinct : (idsOf nodes).Nodup)
    (listed : listAt? nodes (some id) = some items) (member : item ∈ items) : id ∉ item.ids := by
  obtain ⟨group, search, rfl⟩ := Option.map_eq_some_iff.mp listed
  obtain ⟨hole, before, g, after, rfl, shape, split, _⟩ := change_children_found id nodes group search
  have inTree : (idsOf [group]).Sublist (idsOf nodes) := by
    rw [split, Hole.ids_fill, ids_of_append, ids_of_append]
    exact (((List.sublist_append_right _ _).trans (List.sublist_append_left _ _)).trans
      (List.sublist_append_right _ _)).trans (List.sublist_append_left _ _)
  have apart := inTree.nodup distinct
  rw [ids_of_cons, ids_of_nil, List.append_nil, shape, ids_group, List.nodup_cons] at apart
  intro inside
  apply apart.1
  rw [ids_of_flat_map]
  exact List.mem_flatMap.mpr ⟨item, member, inside⟩

theorem find_group_inserted (id : String) (items : List Node) (j : Nat) (item : Node) (room : j ≤ items.length)
    (outside : id ∉ item.ids) : findGroup? (items.insertIdx j item) id = findGroup? items id := by
  rw [insert_idx_split items j item room]
  conv => rhs; rw [← List.take_append_drop j items]
  simp only [find_group_append, find_group_outside id item outside, Option.or_none]

end Node

namespace Store

theorem move_runs (s : Store) (source target : PlaceInput) (from_ to_ : Place) (i j : Nat) (item : Node)
    (origin goal : List Node) (here : source.read = .ok from_) (there : target.read = .ok to_)
    (movable : Movable s from_ to_ i j item origin goal) :
    (move source target).run s = .ok item ((s.lifted from_ i).placed to_ j item) := by
  have outside : to_.parent.any item.ids.contains = false := by
    cases named : to_.parent with
    | none => rfl
    | some parent => simpa using movable.outside parent named
  simp [move, here, there, listOr, movable.listed, movable.awaited, movable.taken, movable.room, outside]

-- What a move leaves behind: the tree without the node and the tree with the node at its new place.
structure Relocation (s : Store) (source target : Place) (i j : Nat) (item : Node) (origin rest : List Node) : Prop where
  lifted : Node.changeList s.nodes source.parent (·.eraseIdx i) = some (s.lifted source i).nodes
  without : Node.listAt? (s.lifted source i).nodes source.parent = some (origin.eraseIdx i)
  placed : Node.changeList (s.lifted source i).nodes target.parent (·.insertIdx j item)
    = some ((s.lifted source i).placed target j item).nodes
  goal : Node.listAt? (s.lifted source i).nodes target.parent = some rest
  grown : Node.listAt? ((s.lifted source i).placed target j item).nodes target.parent = some (rest.insertIdx j item)
  room : j ≤ rest.length

theorem relocation (s : Store) (source target : Place) (i j : Nat) (item : Node) (origin goal : List Node)
    (movable : Movable s source target i j item origin goal) :
    ∃ rest, Relocation s source target i j item origin rest := by
  obtain ⟨lifted, rest, found, room⟩ := target_after_lift s source target i j item origin goal movable
  obtain ⟨after, placed, grown⟩ :=
    Node.list_at_self (s.lifted source i).nodes target.parent rest (·.insertIdx j item) found
  obtain ⟨before, result, without⟩ :=
    Node.list_at_self s.nodes source.parent origin (·.eraseIdx i) movable.listed
  cases result.symm.trans lifted
  have nodes : ((s.lifted source i).placed target j item).nodes = after := by
    show (Node.changeList _ target.parent (·.insertIdx j item)).getD _ = after
    rw [placed, Option.getD_some]
  exact ⟨rest, lifted, without, nodes ▸ placed, found, nodes ▸ grown, room⟩

theorem lifted_nodes (s : Store) (source : Place) (i : Nat) (nodes : List Node)
    (result : Node.changeList s.nodes source.parent (·.eraseIdx i) = some nodes) : s.lifted source i = s.withNodes nodes := by
  rw [lifted, result, Option.getD_some]

theorem placed_nodes (s : Store) (target : Place) (j : Nat) (item : Node) (nodes : List Node)
    (result : Node.changeList s.nodes target.parent (·.insertIdx j item) = some nodes) :
    s.placed target j item = s.withNodes nodes := by
  rw [placed, result, Option.getD_some]

theorem relocated_back (s : Store) (source target : Place) (i j : Nat) (item : Node) (origin rest : List Node)
    (here : origin[i]? = some item) (listed : Node.listAt? s.nodes source.parent = some origin)
    (moved : Relocation s source target i j item origin rest) :
    (((s.lifted source i).placed target j item).lifted target j).placed source i item = s := by
  have lifted : Node.changeList ((s.lifted source i).placed target j item).nodes target.parent (·.eraseIdx j)
      = some (s.lifted source i).nodes := by
    rw [Node.change_list_again _ _ _ _ _ moved.placed]
    exact Node.change_list_idle _ rest _ _ moved.goal (List.eraseIdx_insertIdx_self item)
  have placed : Node.changeList (s.lifted source i).nodes source.parent (·.insertIdx i item) = some s.nodes := by
    rw [Node.change_list_again _ _ _ _ _ moved.lifted]
    exact Node.change_list_idle _ origin _ _ listed (Node.insert_erased origin i item here)
  rw [lifted_nodes _ target j _ lifted]
  exact placed_nodes (((s.lifted source i).placed target j item).withNodes _) source i item s.nodes placed

theorem movable_back (s : Store) (source target : Place) (i j : Nat) (item : Node) (origin goal rest : List Node)
    (distinct : s.ids.Nodup) (movable : Movable s source target i j item origin goal)
    (moved : Relocation s source target i j item origin rest) :
    ∃ home, Movable ((s.lifted source i).placed target j item) target source j i item (rest.insertIdx j item) home := by
  obtain ⟨positive, index, here⟩ := (Node.item_at_iff origin source.index i item).mp movable.taken
  obtain ⟨bound, _⟩ := List.getElem?_eq_some_iff.mp here
  obtain ⟨forward, goalIndex⟩ := position_eq _ _ _ movable.room
  have outside (parent : String) (named : source.parent = some parent) : parent ∉ item.ids :=
    Node.owner_outside s.nodes origin parent item distinct (named ▸ movable.listed) (List.mem_of_getElem? here)
  have taken : itemAt (rest.insertIdx j item) target.index = some (j, item) :=
    (Node.item_at_iff _ _ _ _).mpr ⟨forward, goalIndex, List.getElem?_insertIdx_self.trans (if_pos moved.room)⟩
  -- The list that the node came from has room for it again: it is one shorter than it was, or, if it is the list that
  -- the node went to, as long.
  have shorter := List.length_eraseIdx_of_lt bound
  have home : ∃ home, Node.listAt? ((s.lifted source i).placed target j item).nodes source.parent = some home ∧
      (if target.parent = source.parent then home.length else home.length + 1) = origin.length := by
    by_cases same : target.parent = source.parent
    · refine ⟨rest.insertIdx j item, same ▸ moved.grown, ?_⟩
      have rests : rest = origin.eraseIdx i := Option.some.inj (moved.goal.symm.trans (same ▸ moved.without))
      rw [if_pos same, List.length_insertIdx_of_le_length moved.room, rests, shorter]
      omega
    · obtain ⟨home, found, length⟩ := Node.list_at_elsewhere (s.lifted source i).nodes target.parent source.parent
        (Ne.symm same) rest (origin.eraseIdx i) (·.insertIdx j item) moved.goal moved.without
        (fun id named => Node.find_group_inserted id rest j item moved.room (outside id named)) _ moved.placed
      refine ⟨home, found, ?_⟩
      rw [if_neg same, length, shorter]
      omega
  obtain ⟨home, found, size⟩ := home
  refine ⟨home, moved.grown, found, taken, ?_, outside⟩
  rw [size, Node.position?, if_pos ⟨positive, by omega⟩, index]

-- Every move of every run can be taken back: the whole store is the one before.
theorem move_taken_back (title : String) (script : List Char) (ops : List Op) (source target : PlaceInput) (n : Node)
    (left : Store) (done : (move source target).run ((Store.new title script).run ops) = .ok n left) :
    (move target source).run left = .ok n ((Store.new title script).run ops) := by
  have sound := run_sound (Store.new title script) ops (sound_new title script)
  generalize (Store.new title script).run ops = s at done sound ⊢
  rcases move_outcome s source target with
    ⟨why, refused⟩ | ⟨from_, to_, i, j, item, origin, goal, here, there, movable, moved⟩
  · cases refused.symm.trans done
  · cases moved.symm.trans done
    obtain ⟨rest, relocated⟩ := relocation s from_ to_ i j n origin goal movable
    obtain ⟨home, back⟩ := movable_back s from_ to_ i j n origin goal rest sound.distinct movable relocated
    have stood := ((Node.item_at_iff origin from_.index i n).mp movable.taken).2.2
    rw [move_runs _ target source to_ from_ j i n _ home there here back,
      relocated_back s from_ to_ i j n origin rest stood movable.listed relocated]

theorem nested_moves_taken_back :
    (∃ n left, (move (.place ⟨some "outer", 0⟩) (.place ⟨some "inner", 0⟩)).run nestedStore = .ok n left ∧
      n.id = "a" ∧ (move (.place ⟨some "inner", 0⟩) (.place ⟨some "outer", 0⟩)).run left = .ok n nestedStore) ∧
    ∃ n left, (move (.place ⟨some "outer", 1⟩) (.place ⟨none, 2⟩)).run nestedStore = .ok n left ∧
      n.id = "inner" ∧ (move (.place ⟨none, 2⟩) (.place ⟨some "outer", 1⟩)).run left = .ok n nestedStore := by
  have inward : ∃ n left,
      (move (.place ⟨some "outer", 0⟩) (.place ⟨some "inner", 0⟩)).run nestedStore = .ok n left ∧ n.id = "a" :=
    ⟨_, _, rfl, rfl⟩
  have outward : ∃ n left,
      (move (.place ⟨some "outer", 1⟩) (.place ⟨none, 2⟩)).run nestedStore = .ok n left ∧ n.id = "inner" :=
    ⟨_, _, rfl, rfl⟩
  obtain ⟨n, left, done, named⟩ := inward
  obtain ⟨m, after, further, called⟩ := outward
  exact ⟨⟨n, left, done, named, move_taken_back "Start" [] [.load nestedForm] _ _ n left done⟩,
    m, after, further, called, move_taken_back "Start" [] [.load nestedForm] _ _ m after further⟩

end Store

end FormEngine
