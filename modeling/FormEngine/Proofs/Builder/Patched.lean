import FormEngine.Proofs.Builder.Sound
import FormEngine.Proofs.Schema.PlainStyle
import FormEngine.Proofs.Schema.Traits

set_option autoImplicit false

namespace FormEngine

open Reading

namespace Node

theorem self_mem (n : Node) : n ∈ n.nodes := by
  cases n <;> simp [nodes]

theorem mem_fill (hole : Hole) (above below : List Node) (n : Node) :
    n ∈ nodesOf (hole.fill (above ++ [n] ++ below)) := by
  induction hole with
  | root => simp [Hole.fill, nodes_of_append, nodesOf, self_mem]
  | inside before g hole after ih =>
      simp only [Hole.fill, nodes_of_append, nodesOf, nodes, List.cons_append, List.mem_append, List.mem_cons]
      exact .inr (.inr (.inl ih))

theorem find_mem (nodes : List Node) (id : String) (found : Node) (search : find? nodes id = some found) :
    found ∈ nodesOf nodes := by
  obtain ⟨hole, above, below, split, _⟩ := replace_found nodes id found search
  rw [split]
  exact mem_fill hole above below found

theorem find_here (nodes : List Node) (distinct : (idsOf nodes).Nodup) (n : Node) (here : n ∈ nodesOf nodes) :
    find? nodes n.id = some n := by
  obtain ⟨found, search⟩ := find_of_mem nodes n.id (List.mem_map_of_mem here)
  have there := find_mem nodes n.id found search
  rw [search, List.inj_on_of_nodup_map distinct there here (find_id nodes n.id found search)]

-- One node in the place of another: the list they stand in is otherwise as it was, and so is all that is around it.
def Exchanged (old new : Node) (before after : List Node) : Prop :=
  ∃ (hole : Hole) (above below : List Node),
    before = hole.fill (above ++ [old] ++ below) ∧ after = hole.fill (above ++ [new] ++ below)

end Node

namespace Store

theorem check_patch_known (n : Node) (patch : Keyed Value) (allowed : checkPatch n patch = .ok ()) :
    ∀ key ∈ Keyed.names patch, key ∈ if n.isGroup then groupAttributes else fieldAttributes := by
  intro key named
  rw [checkPatch] at allowed
  split at allowed
  · cases allowed
  · rename_i none_unknown
    obtain ⟨entry, member, rfl⟩ := List.mem_map.mp named
    simpa using List.find?_eq_none.mp none_unknown entry member

theorem field_attributes : fieldAttributes = Field.traits.map Trait.name := rfl

theorem group_attributes : groupAttributes = Group.traits.map Trait.name := rfl

theorem patched_field (f : Field) (patch : Keyed Value) : patched (.field f) patch =
    (Field.readEntries .values (Keyed.putAll (Slot.plainEntries (f.slots .plain)) patch)).map .field := rfl

def groupEntries (g : Group) (children : List Node) : Keyed Value :=
  Slot.plainEntries (g.slots .plain (.list (Node.toValues .plain children)))

theorem patched_group (g : Group) (children : List Node) (patch : Keyed Value) : patched (.group g children) patch =
    Node.readGroup Node.read .values (Keyed.putAll (groupEntries g children) patch) :=
  Node.read_group_enough .values _ _ (Nat.le_succ _)

theorem group_entries_read (g : Group) (children : List Node) :
    Node.readGroup Node.read .values (groupEntries g children) = .ok (.group g children) :=
  Group.read_plain .values g children _ _ (Node.nodes_read_plain .values children 0)

theorem patched_changes (old new : Node) (patch : Keyed Value) (distinct : (Keyed.names patch).Nodup)
    (allowed : checkPatch old patch = .ok ()) (result : patched old patch = .ok new) : old.Patched patch new := by
  have known := check_patch_known old patch allowed
  cases old with
  | field f =>
      rw [patched_field] at result
      cases read : Field.readEntries .values (Keyed.putAll (Slot.plainEntries (f.slots .plain)) patch) with
      | error faults =>
          rw [read] at result
          cases result
      | ok after =>
          rw [read] at result
          cases result
          refine patched_of_read distinct (fun key named => ?_) ((Field.read_iff _ _ _).mp (Field.read_plain .values f))
            ((Field.read_iff _ _ _).mp read)
          have listed := known key named
          rw [Node.isGroup, if_neg Bool.false_ne_true, field_attributes] at listed
          exact List.mem_map.mp listed
  | group g children =>
      rw [patched_group] at result
      obtain ⟨after, others, rfl, new⟩ := (Group.read_iff _ _ _).mp result
      obtain ⟨_, _, same, old⟩ := (Group.read_iff _ _ _).mp (group_entries_read g children)
      cases same
      refine patched_of_read distinct (fun key named => ?_) old new
      have listed := known key named
      rw [Node.isGroup, if_pos rfl, group_attributes] at listed
      exact List.mem_map.mp listed

theorem ids_nodup (s : Store) (sound : Sound s) (n : Node) (here : n ∈ Node.nodesOf s.nodes) : n.ids.Nodup := by
  obtain ⟨rest, perm, _⟩ := perm_ids_replaced s n.id n (Node.find_here s.nodes sound.distinct n here)
  exact (List.nodup_append.mp (perm.nodup_iff.mp sound.distinct)).1

theorem update_exchanges (s left : Store) (old new : Node) (patch : Keyed Value) (sound : Sound s)
    (here : old ∈ Node.nodesOf s.nodes) (done : (update old.id patch).run s = .ok (some new) left) :
    checkPatch old patch = .ok () ∧ patched old patch = .ok new ∧ s.checkReplacement old new = .ok () ∧
      old.Exchanged new s.nodes left.nodes := by
  have search : s.find? old.id = some old := Node.find_here s.nodes sound.distinct old here
  rcases update_outcome s old.id patch with ⟨why, refused⟩ | ⟨missing, _⟩ | ⟨found, n, same, allowed, read, fits, updated⟩
  · cases refused.symm.trans done
  · cases search.symm.trans missing
  · cases search.symm.trans same
    cases updated.symm.trans done
    obtain ⟨hole, above, below, split, result⟩ := Node.replace_found s.nodes old.id old search
    refine ⟨allowed, read, fits, hole, above, below, split, ?_⟩
    show (Node.replace? s.nodes old.id fun _ => [new]).getD s.nodes = _
    rw [result, Option.getD_some]

theorem patched_nothing (n : Node) : patched n [] = .ok n := by
  cases n with
  | field f =>
      rw [patched_field]
      exact congrArg (Except.map Node.field) (Field.read_plain .values f)
  | group g children =>
      rw [patched_group]
      exact group_entries_read g children

theorem check_replacement_self (s : Store) (n : Node) (distinct : n.ids.Nodup) :
    s.checkReplacement n n = if n.id = "" then .error .blankId else .ok () := by
  have fits : n.ids.Nodup ∧ ∀ id ∈ n.ids, id ∈ s.ids → id ∈ n.ids := ⟨distinct, fun _ inside _ => inside⟩
  rw [check_replacement_eq, if_pos fits]

theorem followed_self (s : Store) (n : Node) : s.followed n n = s.selected := by
  rw [followed]
  cases s.selected with
  | none => rfl
  | some id => simp

theorem issue_known (s : Store) (ids : List String) (known : ∀ id ∈ ids, id ∈ s.issued) : s.issue ids = s := by
  have none_new : ids.filter (!s.issued.contains ·) = [] := by
    rw [List.filter_eq_nil_iff]
    intro id member
    simp [known id member]
  rw [issue, none_new, List.append_nil]

theorem update_nothing (s : Store) (sound : Sound s) (n : Node) (here : n ∈ Node.nodesOf s.nodes) :
    (update n.id []).run s = if n.id = "" then .error .blankId s else .ok (some n) s := by
  have search : s.find? n.id = some n := Node.find_here s.nodes sound.distinct n here
  have allowed : checkPatch n [] = .ok () := rfl
  have fits := check_replacement_self s n (ids_nodup s sound n here)
  have ran := update_run s n.id [] n n search allowed (patched_nothing n)
  by_cases blank : n.id = ""
  · rw [if_pos blank] at fits ⊢
    rw [ran, fits]
  · rw [if_neg blank] at fits ⊢
    obtain ⟨hole, above, below, split, result⟩ := Node.replace_found s.nodes n.id n search
    have nodes : (Node.replace? s.nodes n.id fun _ => [n]).getD s.nodes = s.nodes := by
      rw [result, Option.getD_some, ← split]
    have known : ∀ id ∈ n.ids, id ∈ s.issued := fun id inside => by
      refine sound.remembered id ?_
      rw [Store.ids, split, Hole.ids_fill]
      simp [inside]
    have unchanged : ((s.withNodes s.nodes).issue n.ids).withSelected s.selected = s := by
      rw [issue_known (s.withNodes s.nodes) n.ids known]
      rfl
    rw [ran, fits, nodes, followed_self]
    exact congrArg (EStateM.Result.ok (some n)) unchanged

structure PatchesOnly (s : Store) (old : Node) : Prop where
  changes : ∀ patch new left, (Keyed.names patch).Nodup → (update old.id patch).run s = .ok (some new) left →
    old.Patched patch new ∧ old.Exchanged new s.nodes left.nodes
  nothing : (update old.id []).run s = if old.id = "" then .error .blankId s else .ok (some old) s

theorem run_patches_only (title : String) (script : List Char) (ops : List Op) (old : Node)
    (here : old ∈ Node.nodesOf ((Store.new title script).run ops).nodes) :
    PatchesOnly ((Store.new title script).run ops) old := by
  have sound := run_sound (Store.new title script) ops (sound_new title script)
  generalize (Store.new title script).run ops = s at sound here ⊢
  refine ⟨fun patch new left distinct done => ?_, update_nothing s sound old here⟩
  obtain ⟨allowed, result, _, exchanged⟩ := update_exchanges s left old new patch sound here done
  exact ⟨patched_changes old new patch distinct allowed result, exchanged⟩

def count : Field := Field.create "count" .number

def labelledCount : Field := { count with label := "Count", required := true }

def countPatch : Keyed Value := [("label", .text "Count"), ("required", .bool true)]

def deepNodes (f : Field) : List Node :=
  [.group (Group.create "outer") [.group (Group.create "inner") [.field f]], .field (Field.create "note" .text)]

def deepStore : Store := (Store.new "Start" []).run [.load ⟨"Deep", deepNodes count⟩]

theorem count_inside : Node.field count ∈ Node.nodesOf deepStore.nodes :=
  List.mem_cons_of_mem _ (List.mem_cons_of_mem _ List.mem_cons_self)

theorem count_updated : ∃ left, (update "count" countPatch).run deepStore = .ok (some (.field labelledCount)) left ∧
    left.nodes = deepNodes labelledCount := by
  have search : deepStore.find? "count" = some (.field count) := by
    show Node.find? (deepNodes count) "count" = _
    simp [Node.find?, Node.findInside, deepNodes, Node.id, Node.basics, count, Field.create, Group.create]
  have replaced : (Node.replace? deepStore.nodes "count" fun _ => [.field labelledCount]) =
      some (deepNodes labelledCount) := by
    show (Node.replace? (deepNodes count) "count" fun _ => [.field labelledCount]) = _
    simp [Node.replace?, Node.replaceHere, Node.replaceInside, deepNodes, Node.id, Node.basics, count, Field.create,
      Group.create]
  have allowed : checkPatch (.field count) countPatch = .ok () := rfl
  have result : patched (.field count) countPatch = .ok (.field labelledCount) := rfl
  have fits : deepStore.checkReplacement (.field count) (.field labelledCount) = .ok () := rfl
  refine ⟨((deepStore.withNodes (deepNodes labelledCount)).issue ["count"]).withSelected none, ?_, rfl⟩
  simp [update, search, allowed, result, fits, replaced]
  rfl

theorem deep_field_patched :
    (Node.field count).Patched countPatch (.field labelledCount) ∧
    (Node.field count).Exchanged (.field labelledCount) deepStore.nodes (deepNodes labelledCount) ∧
    (update "count" []).run deepStore = .ok (some (.field count)) deepStore := by
  have only : PatchesOnly deepStore (.field count) :=
    run_patches_only "Start" [] [.load ⟨"Deep", deepNodes count⟩] (.field count) count_inside
  obtain ⟨left, done, nodes⟩ := count_updated
  obtain ⟨changed, exchanged⟩ := only.changes countPatch (.field labelledCount) left (by decide) done
  exact ⟨changed, nodes ▸ exchanged, only.nothing⟩

end Store

end FormEngine
