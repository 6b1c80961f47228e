import FormEngine.Proofs.Builder.Outline
import FormEngine.Proofs.Builder.Sound

set_option autoImplicit false

namespace FormEngine.Store

structure Appended (parent : Option String) (n : Node) (before after : List Node) : Prop where
  single : n.nodes = [n]
  new : n.id ∉ Node.idsOf before
  last : ∃ items, Node.listAt? before parent = some items ∧ Node.listAt? after parent = some (items ++ [n])
  others : Node.Cut parent n after before

theorem new_single {s : Store} {type : String} {n : Node} {draws : Draws} (new : New s type n draws) : n.nodes = [n] := by
  cases new <;> rfl

theorem appended (s : Store) (type : String) (n : Node) (draws : Draws) (parent : Option String)
    (items after : List Node) (new : New s type n draws) (listed : Node.listAt? s.nodes parent = some items)
    (result : Node.changeList s.nodes parent (· ++ [n]) = some after) : Appended parent n s.nodes after := by
  obtain ⟨changed, same, self⟩ := Node.list_at_self s.nodes parent items (· ++ [n]) listed
  cases same.symm.trans result
  refine ⟨new_single new, (new_ids new).2, ⟨items, listed, self⟩, ?_⟩
  obtain ⟨hole, rfl, split, filled⟩ := Node.list_found s.nodes parent items listed
  have cut := Node.cut_between hole items [] n
  rw [List.append_nil, List.append_nil, ← split, ← Option.some.inj (result.symm.trans (filled _))] at cut
  exact cut

theorem add_appends (s left : Store) (type : String) (n : Node) (done : (add type).run s = .ok n left) :
    Appended none n s.nodes left.nodes := by
  rcases add_outcome s type with ⟨why, refused⟩ | ⟨m, draws, new, added⟩
  · cases refused.symm.trans done
  · cases added.symm.trans done
    exact appended s type n draws none s.nodes _ new rfl rfl

theorem change_found (s : Store) (parent : String) (change : List Node → List Node) (group : Node)
    (found : s.findGroup? parent = some group) :
    Node.listAt? s.nodes (some parent) = some group.children ∧
      Node.changeList s.nodes (some parent) change = some ((Node.changeChildren parent change s.nodes).getD s.nodes) := by
  have listed := children_listed s parent group found
  obtain ⟨changed, result, _⟩ := Node.list_at_self s.nodes (some parent) group.children change listed
  refine ⟨listed, ?_⟩
  rw [Node.changeList] at result ⊢
  rw [result, Option.getD_some]

theorem add_child_appends (s left : Store) (parent type : String) (n : Node)
    (done : (addChild parent type).run s = .ok (some n) left) : Appended (some parent) n s.nodes left.nodes := by
  rcases add_child_outcome s parent type with ⟨why, refused⟩ | ⟨_, nothing⟩ | ⟨group, m, draws, found, new, added⟩
  · cases refused.symm.trans done
  · cases nothing.symm.trans done
  · cases added.symm.trans done
    obtain ⟨listed, result⟩ := change_found s parent (· ++ [n]) group found
    exact appended s type n draws (some parent) group.children _ new listed result

theorem delete_succeeds_iff (s : Store) (id : String) :
    (∃ removed left, (delete id).run s = .ok (some removed) left) ↔ id ∈ s.ids := by
  constructor
  · rintro ⟨removed, left, done⟩
    rcases delete_outcome s id with ⟨_, nothing⟩ | ⟨old, here, _⟩
    · cases nothing.symm.trans done
    · exact Node.find_mem_ids s.nodes id old here
  · intro member
    obtain ⟨found, search⟩ := Node.find_of_mem s.nodes id member
    rcases delete_outcome s id with ⟨missing, _⟩ | ⟨removed, _, done⟩
    · cases search.symm.trans missing
    · exact ⟨removed, _, done⟩

theorem delete_cuts (s left : Store) (id : String) (removed : Node)
    (done : (delete id).run s = .ok (some removed) left) :
    removed.id = id ∧ ∃ parent, Node.Cut parent removed s.nodes left.nodes := by
  rcases delete_outcome s id with ⟨_, nothing⟩ | ⟨old, here, deleted⟩
  · cases nothing.symm.trans done
  · cases deleted.symm.trans done
    obtain ⟨hole, before, after, split, result⟩ := Node.replace_found s.nodes id removed here
    have rest : (Node.replace? s.nodes id fun _ => []).getD s.nodes = hole.fill (before ++ after) := by
      rw [result, Option.getD_some, List.append_nil]
    refine ⟨Node.find_id s.nodes id removed here, hole.owner none, ?_⟩
    show Node.Cut _ removed s.nodes ((Node.replace? s.nodes id fun _ => []).getD s.nodes)
    rw [rest, split]
    exact Node.cut_between hole before after removed

theorem remove_child_succeeds_iff (s : Store) (parent : String) (index : Int) (n : Node) :
    (∃ left, (removeChild parent index).run s = .ok (some n) left) ↔ Node.Stands s.nodes (some parent) index n := by
  constructor
  · rintro ⟨left, done⟩
    rcases remove_child_outcome s parent index with nothing | ⟨group, i, removed, found, taken, removal⟩
    · cases nothing.symm.trans done
    · cases removal.symm.trans done
      obtain ⟨positive, rfl, here⟩ := (Node.item_at_iff group.children index i n).mp taken
      exact ⟨group.children, (change_found s parent id group found).1, positive, here⟩
  · rintro ⟨items, listed, positive, here⟩
    obtain ⟨group, found, rfl⟩ := Option.map_eq_some_iff.mp listed
    have search : s.findGroup? parent = some group := found
    have taken := (Node.item_at_iff group.children index index.toNat n).mpr ⟨positive, rfl, here⟩
    exact ⟨(s.withNodes ((Node.changeChildren parent (·.eraseIdx index.toNat) s.nodes).getD s.nodes)).detached n,
      by simp [removeChild, search, taken]⟩

theorem remove_child_cuts (s left : Store) (parent : String) (index : Int) (n : Node)
    (done : (removeChild parent index).run s = .ok (some n) left) : Node.Cut (some parent) n s.nodes left.nodes := by
  rcases remove_child_outcome s parent index with nothing | ⟨group, i, removed, found, taken, removal⟩
  · cases nothing.symm.trans done
  · cases removal.symm.trans done
    obtain ⟨_, rfl, here⟩ := (Node.item_at_iff group.children index i n).mp taken
    obtain ⟨listed, result⟩ := change_found s parent (·.eraseIdx index.toNat) group found
    exact Node.cut_erased s.nodes group.children _ (some parent) _ n listed here result

theorem root_index_name (nodes : List Node) (id : String) :
    (Keyed.value? (nodes.map fun n => (n.id, n)) id).map Node.id = if id ∈ nodes.map Node.id then some id else none := by
  induction nodes with
  | nil => rfl
  | cons n rest ih =>
      rw [List.map_cons, Keyed.value?_cons, List.map_cons]
      by_cases same : n.id = id
      · simp [same]
      · simp only [if_neg same, ih, List.mem_cons, Ne.symm same, false_or]

theorem reordered_names (s : Store) (order : List String) (distinct : (s.nodes.map Node.id).Nodup)
    (perm : order.Perm (s.nodes.map Node.id)) : (order.filterMap (Keyed.value? s.rootIndex)).map Node.id = order := by
  have found : ∀ id ∈ order, (Keyed.value? s.rootIndex id).map Node.id = some id := by
    intro id member
    rw [root_index_eq s distinct, root_index_name, if_pos (perm.mem_iff.mp member)]
  rw [List.map_filterMap, List.filterMap_congr found, List.filterMap_some]

theorem reorder_succeeds_iff (s : Store) (order : List OrderItem) (distinct : (s.nodes.map Node.id).Nodup) :
    (∃ left, (reorder order).run s = .ok () left) ↔ (order.map OrderItem.name).Perm (s.nodes.map Node.id) := by
  rw [← is_order_iff s _ distinct]
  constructor
  · rintro ⟨left, done⟩
    rcases reorder_outcome s order with ⟨why, refused⟩ | ⟨fits, _⟩
    · cases refused.symm.trans done
    · exact fits
  · intro fits
    exact ⟨s.withNodes ((order.map OrderItem.name).filterMap (Keyed.value? s.rootIndex)), by simp [reorder, fits]⟩

theorem reorder_orders (s left : Store) (order : List OrderItem) (distinct : (s.nodes.map Node.id).Nodup)
    (done : (reorder order).run s = .ok () left) :
    left.nodes.map Node.id = order.map OrderItem.name ∧ left.nodes.Perm s.nodes := by
  rcases reorder_outcome s order with ⟨why, refused⟩ | ⟨fits, ordered⟩
  · cases refused.symm.trans done
  · cases ordered.symm.trans done
    exact ⟨reordered_names s _ distinct ((is_order_iff s _ distinct).mp fits), perm_reordered s _ distinct fits⟩

-- A node that stood at the one place stands at the other one, as it was.
structure Moved (source target : Place) (n : Node) (before after : List Node) : Prop where
  lifted : Node.Stands before source.parent source.index n
  placed : Node.Stands after target.parent target.index n
  others : ∃ rest, Node.Cut source.parent n before rest ∧ Node.Cut target.parent n after rest

theorem position_eq (index : Int) (size i : Nat) (here : Node.position? index size = some i) :
    0 ≤ index ∧ index.toNat = i := by
  rw [Node.position?] at here
  split at here
  · rename_i range
    exact ⟨range.1, Option.some.inj here⟩
  · cases here

theorem movable_moved (s : Store) (source target : Place) (i j : Nat) (n : Node) (origin goal : List Node)
    (movable : Movable s source target i j n origin goal) :
    Moved source target n s.nodes ((s.lifted source i).placed target j n).nodes := by
  obtain ⟨positive, rfl, here⟩ := (Node.item_at_iff origin source.index i n).mp movable.taken
  obtain ⟨forward, rfl⟩ := position_eq _ _ _ movable.room
  -- The target is a place of the tree that is left when the node is taken out, not of the tree before.
  obtain ⟨lifted, rest, found, room⟩ := target_after_lift s source target _ _ n origin goal movable
  obtain ⟨after, placed, self⟩ :=
    Node.list_at_self (s.lifted source _).nodes target.parent rest (·.insertIdx target.index.toNat n) found
  have result : ((s.lifted source source.index.toNat).placed target target.index.toNat n).nodes = after := by
    show (Node.changeList _ target.parent (·.insertIdx target.index.toNat n)).getD _ = after
    rw [placed, Option.getD_some]
  rw [result]
  refine ⟨⟨origin, movable.listed, positive, here⟩, ⟨_, self, forward, ?_⟩,
    (s.lifted source source.index.toNat).nodes, ?_, ?_⟩
  · exact List.getElem?_insertIdx_self.trans (if_pos room)
  · exact Node.cut_erased s.nodes origin _ source.parent _ n movable.listed here lifted
  · exact Node.cut_inserted _ rest after target.parent _ n found room placed

theorem move_moves (s left : Store) (source target : PlaceInput) (n : Node)
    (done : (move source target).run s = .ok n left) :
    ∃ sourcePlace targetPlace, source.read = .ok sourcePlace ∧ target.read = .ok targetPlace ∧
      Moved sourcePlace targetPlace n s.nodes left.nodes := by
  rcases move_outcome s source target with
    ⟨why, refused⟩ | ⟨from_, to_, i, j, item, origin, goal, here, there, movable, moved⟩
  · cases refused.symm.trans done
  · cases moved.symm.trans done
    exact ⟨from_, to_, here, there, movable_moved s from_ to_ i j n origin goal movable⟩

structure StructureKept (s : Store) : Prop where
  add : ∀ type n left, (Store.add type).run s = .ok n left → Appended none n s.nodes left.nodes
  addChild : ∀ parent type n left, (Store.addChild parent type).run s = .ok (some n) left →
    Appended (some parent) n s.nodes left.nodes
  deletable : ∀ id, (∃ removed left, (Store.delete id).run s = .ok (some removed) left) ↔ id ∈ s.ids
  delete : ∀ id removed left, (Store.delete id).run s = .ok (some removed) left →
    removed.id = id ∧ ∃ parent, Node.Cut parent removed s.nodes left.nodes
  removable : ∀ parent index n, (∃ left, (Store.removeChild parent index).run s = .ok (some n) left) ↔
    Node.Stands s.nodes (some parent) index n
  removeChild : ∀ parent index n left, (Store.removeChild parent index).run s = .ok (some n) left →
    Node.Cut (some parent) n s.nodes left.nodes
  reorderable : ∀ order, (∃ left, (Store.reorder order).run s = .ok () left) ↔
    (order.map OrderItem.name).Perm (s.nodes.map Node.id)
  reorder : ∀ order left, (Store.reorder order).run s = .ok () left →
    left.nodes.map Node.id = order.map OrderItem.name ∧ left.nodes.Perm s.nodes
  move : ∀ source target n left, (Store.move source target).run s = .ok n left →
    ∃ sourcePlace targetPlace, source.read = .ok sourcePlace ∧ target.read = .ok targetPlace ∧
      Moved sourcePlace targetPlace n s.nodes left.nodes

theorem run_structure_kept (title : String) (script : List Char) (ops : List Op) :
    StructureKept ((Store.new title script).run ops) := by
  have sound := run_sound (Store.new title script) ops (sound_new title script)
  generalize (Store.new title script).run ops = s at sound ⊢
  have roots := (Node.roots_sublist s.nodes).nodup sound.distinct
  exact {
    add := fun type n left => add_appends s left type n
    addChild := fun parent type n left => add_child_appends s left parent type n
    deletable := delete_succeeds_iff s
    delete := fun id removed left => delete_cuts s left id removed
    removable := remove_child_succeeds_iff s
    removeChild := fun parent index n left => remove_child_cuts s left parent index n
    reorderable := fun order => reorder_succeeds_iff s order roots
    reorder := fun order left => reorder_orders s left order roots
    move := fun source target n left => move_moves s left source target n }

def nestedForm : Form :=
  ⟨"Nested",
    [.group (Group.create "outer") [.field (Field.create "a" .text), .group (Group.create "inner") []],
      .field (Field.create "b" .text)]⟩

def nestedStore : Store := (Store.new "Start" []).run [.load nestedForm]

theorem nested_form_structure_kept :
    (∃ n left, (Store.move (.place ⟨some "outer", 0⟩) (.place ⟨some "inner", 0⟩)).run nestedStore = .ok n left ∧
      n.id = "a" ∧ Node.Stands left.nodes (some "inner") 0 n) ∧
    (∃ n left, (Store.addChild "inner" "text").run nestedStore = .ok (some n) left ∧
      Node.listAt? left.nodes (some "inner") = some [n]) ∧
    (∃ removed left, (Store.delete "outer").run nestedStore = .ok (some removed) left ∧ removed.id = "outer") ∧
    (∃ left, (Store.reorder [.named "b", .named "outer"]).run nestedStore = .ok () left ∧
      left.nodes.map Node.id = ["b", "outer"]) ∧
    ¬ ∃ left, (Store.reorder [.named "b", .named "inner"]).run nestedStore = .ok () left := by
  have kept : StructureKept nestedStore := run_structure_kept "Start" [] [.load nestedForm]
  have moved : ∃ n left,
      (Store.move (.place ⟨some "outer", 0⟩) (.place ⟨some "inner", 0⟩)).run nestedStore = .ok n left ∧ n.id = "a" :=
    ⟨_, _, rfl, rfl⟩
  have added : ∃ n left, (Store.addChild "inner" "text").run nestedStore = .ok (some n) left := ⟨_, _, rfl⟩
  have roots : nestedStore.nodes.map Node.id = ["outer", "b"] := rfl
  refine ⟨?_, ?_, ?_, ?_, ?_⟩
  · obtain ⟨n, left, done, named⟩ := moved
    obtain ⟨_, _, source, target, goes⟩ := kept.move _ _ n left done
    cases source
    cases target
    exact ⟨n, left, done, named, goes.placed⟩
  · obtain ⟨n, left, done⟩ := added
    obtain ⟨items, before, after⟩ := (kept.addChild _ _ n left done).last
    cases before
    exact ⟨n, left, done, after⟩
  · obtain ⟨removed, left, done⟩ := (kept.deletable "outer").mpr (by decide +kernel)
    exact ⟨removed, left, done, (kept.delete _ _ _ done).1⟩
  · obtain ⟨left, done⟩ := (kept.reorderable [.named "b", .named "outer"]).mpr (by rw [roots]; decide)
    exact ⟨left, done, (kept.reorder _ left done).1⟩
  · rw [kept.reorderable, roots]
    decide

end FormEngine.Store
