import FormEngine.Proofs.Builder.Draws
import FormEngine.Proofs.Builder.Lists
import FormEngine.Proofs.Builder.Outcomes
import FormEngine.Proofs.Builder.TreeCheck

set_option autoImplicit false

namespace FormEngine

theorem fresh_not_taken (taken : List String) (word : String) (d next : Draws) (id : String)
    (found : d.fresh taken word = some (id, next)) : id ∉ taken := by
  obtain ⟨_, _, _, free, rfl, _⟩ := (Draws.first_free_iff taken word _ d next id).mp found
  exact free

namespace Store

-- Stated of the three parts it is about, so that whatever an operation does to the rest does not matter.
structure SoundParts (ids : List String) (selected : Option String) (issued : List String) : Prop where
  distinct : ids.Nodup
  selection : ∀ id, selected = some id → id ∈ ids
  remembered : ∀ id ∈ ids, id ∈ issued

def Sound (s : Store) : Prop := SoundParts s.ids s.selected s.issued

theorem mem_issued_issue (s : Store) (ids : List String) (id : String) :
    id ∈ (s.issue ids).issued ↔ id ∈ s.issued ∨ id ∈ ids := by
  simp only [issue, List.mem_append, List.mem_filter, List.contains_eq_mem, Bool.not_eq_true',
    decide_eq_false_iff_not]
  tauto

namespace SoundParts

variable {ids ids' issued issued' : List String} {selected : Option String}

theorem rearranged (sound : SoundParts ids selected issued) (perm : ids'.Perm ids) : SoundParts ids' selected issued :=
  ⟨perm.nodup_iff.mpr sound.distinct, fun id chosen => perm.mem_iff.mpr (sound.selection id chosen),
    fun id member => sound.remembered id (perm.mem_iff.mp member)⟩

theorem remembered_more (sound : SoundParts ids selected issued) (more : ∀ id ∈ issued, id ∈ issued') :
    SoundParts ids selected issued' :=
  ⟨sound.distinct, sound.selection, fun id member => more id (sound.remembered id member)⟩

theorem grown (sound : SoundParts ids selected issued) (id : String) (new : id ∉ ids) (perm : ids'.Perm (id :: ids))
    (more : ∀ old ∈ issued, old ∈ issued') (known : id ∈ issued') : SoundParts ids' (some id) issued' := by
  refine ⟨perm.nodup_iff.mpr (List.nodup_cons.mpr ⟨new, sound.distinct⟩), fun chosen same => ?_, fun member here => ?_⟩
  · cases same
    exact perm.mem_iff.mpr List.mem_cons_self
  · rcases List.mem_cons.mp (perm.mem_iff.mp here) with same | old
    · exact same ▸ known
    · exact more member (sound.remembered member old)

theorem shrunk (sound : SoundParts ids selected issued) (removed : List String) (perm : ids.Perm (removed ++ ids')) :
    SoundParts ids' (selected.filter (!removed.contains ·)) issued := by
  have apart := List.nodup_append.mp (perm.nodup_iff.mp sound.distinct)
  refine ⟨apart.2.1, fun id chosen => ?_, fun id member => ?_⟩
  · obtain ⟨same, outside⟩ := Option.filter_eq_some_iff.mp chosen
    rcases List.mem_append.mp (perm.mem_iff.mp (sound.selection id same)) with inside | here
    · simp [inside] at outside
    · exact here
  · exact sound.remembered id (perm.mem_iff.mpr (List.mem_append.mpr (.inr member)))

theorem replaced (sound : SoundParts ids selected issued) (old new rest : List String)
    (before : ids.Perm (old ++ rest)) (after : ids'.Perm (new ++ rest)) (distinct : new.Nodup)
    (apart : ∀ id ∈ new, id ∉ rest) (chosen : Option String)
    (selection : ∀ id, chosen = some id → id ∈ new ∨ (selected = some id ∧ id ∉ old))
    (more : ∀ id, id ∈ issued ∨ id ∈ new → id ∈ issued') : SoundParts ids' chosen issued' := by
  have split := List.nodup_append.mp (before.nodup_iff.mp sound.distinct)
  refine ⟨after.nodup_iff.mpr (List.nodup_append.mpr ⟨distinct, split.2.1, ?_⟩), fun id same => ?_, fun id member => ?_⟩
  · intro a inNew b inRest same
    exact apart a inNew (same ▸ inRest)
  · apply after.mem_iff.mpr
    rcases selection id same with inNew | ⟨kept, outside⟩
    · exact List.mem_append.mpr (.inl inNew)
    · rcases List.mem_append.mp (before.mem_iff.mp (sound.selection id kept)) with inside | here
      · exact absurd inside outside
      · exact List.mem_append.mpr (.inr here)
  · rcases List.mem_append.mp (after.mem_iff.mp member) with inNew | inRest
    · exact more id (.inr inNew)
    · exact more id (.inl (sound.remembered id (before.mem_iff.mpr (List.mem_append.mpr (.inr inRest)))))

end SoundParts

theorem sound_new (title : String) (script : List Char) : Sound (Store.new title script) :=
  ⟨List.nodup_nil, fun _ chosen => absurd chosen (Option.some_ne_none _).symm,
    fun _ member => absurd member List.not_mem_nil⟩

theorem new_ids {s : Store} {type : String} {n : Node} {draws : Draws} (new : New s type n draws) :
    n.ids = [n.id] ∧ n.id ∉ s.ids := by
  cases new with
  | group id _ _ drawn =>
      have free := fresh_not_taken _ _ _ _ _ drawn
      exact ⟨rfl, fun member => free (List.mem_append.mpr (.inr member))⟩
  | field kind id _ _ drawn =>
      have free := fresh_not_taken _ _ _ _ _ drawn
      exact ⟨rfl, fun member => free (List.mem_append.mpr (.inr member))⟩

theorem create_sound (s : Store) (type : String) (sound : Sound s) : Sound (left ((create type).run s)) := by
  rcases create_outcome s type with ⟨why, refused⟩ | ⟨n, draws, _, created⟩
  · rw [refused]
    exact sound
  · rw [created]
    exact sound.remembered_more fun id member => (mem_issued_issue (s.withDraws draws) _ id).mpr (.inl member)

theorem grown_sound (s : Store) (type : String) (n : Node) (draws : Draws) (nodes : List Node) (sound : Sound s)
    (new : New s type n draws) (perm : (Node.idsOf nodes).Perm (n.ids ++ s.ids)) :
    Sound ((((s.withDraws draws).issue [n.id]).withNodes nodes).withSelected (some n.id)) := by
  obtain ⟨single, free⟩ := new_ids new
  rw [single] at perm
  exact sound.grown n.id free perm (fun id member => (mem_issued_issue (s.withDraws draws) _ id).mpr (.inl member))
    ((mem_issued_issue (s.withDraws draws) _ n.id).mpr (.inr List.mem_cons_self))

theorem add_sound (s : Store) (type : String) (sound : Sound s) : Sound (left ((add type).run s)) := by
  rcases add_outcome s type with ⟨why, refused⟩ | ⟨n, draws, new, added⟩
  · rw [refused]
    exact sound
  · rw [added]
    refine grown_sound s type n draws _ sound new ?_
    rw [Node.ids_of_append, Node.ids_of_cons, Node.ids_of_nil, List.append_nil]
    exact List.perm_append_comm

theorem children_listed (s : Store) (parent : String) (group : Node) (found : s.findGroup? parent = some group) :
    Node.listAt? s.nodes (some parent) = some group.children :=
  congrArg (Option.map Node.children) found

theorem perm_ids_child (s : Store) (parent : String) (group n : Node) (found : s.findGroup? parent = some group) :
    (Node.idsOf ((Node.changeChildren parent (· ++ [n]) s.nodes).getD s.nodes)).Perm (n.ids ++ s.ids) := by
  obtain ⟨hole, _, split, changed⟩ := Node.list_found s.nodes (some parent) group.children
    (children_listed s parent group found)
  have result := changed (· ++ [n])
  simp only [Node.changeList] at result
  rw [result, Option.getD_some]
  have perm := Node.perm_ids_between hole group.children [n] []
  simp only [List.append_nil, Node.ids_of_cons, Node.ids_of_nil] at perm
  rw [ids, split]
  exact perm

theorem add_child_sound (s : Store) (parent type : String) (sound : Sound s) :
    Sound (left ((addChild parent type).run s)) := by
  rcases add_child_outcome s parent type with ⟨why, refused⟩ | ⟨_, nothing⟩ | ⟨group, n, draws, found, new, added⟩
  · rw [refused]
    exact sound
  · rw [nothing]
    exact sound
  · rw [added]
    exact grown_sound s type n draws _ sound new (perm_ids_child s parent group n found)

theorem has_repeats_iff (ids : List String) : hasRepeats ids = true ↔ ¬ ids.Nodup := by
  induction ids with
  | nil => simp [hasRepeats]
  | cons id rest ih =>
      rw [hasRepeats, Bool.or_eq_true, ih, List.nodup_cons, List.contains_eq_mem, decide_eq_true_eq]
      tauto

theorem check_replacement_eq (s : Store) (old new : Node) : s.checkReplacement old new =
    if new.id = "" then .error .blankId
    else if new.ids.Nodup ∧ ∀ id ∈ new.ids, id ∈ s.ids → id ∈ old.ids then .ok ()
    else .error (.duplicateId old.id) := by
  have spoiled : (hasRepeats new.ids || new.ids.any (s.ids.filter (!old.ids.contains ·)).contains) = true ↔
      ¬ (new.ids.Nodup ∧ ∀ id ∈ new.ids, id ∈ s.ids → id ∈ old.ids) := by
    simp only [Bool.or_eq_true, has_repeats_iff, List.any_eq_true, List.contains_eq_mem, decide_eq_true_eq, List.mem_filter,
      Bool.not_eq_true', decide_eq_false_iff_not, not_and_or, not_forall, exists_prop]
  rw [checkReplacement]
  dsimp only
  by_cases fits : new.ids.Nodup ∧ ∀ id ∈ new.ids, id ∈ s.ids → id ∈ old.ids
  · rw [if_pos fits, if_neg fun bad => spoiled.mp bad fits]
  · rw [if_neg fits, if_pos (spoiled.mpr fits)]

theorem check_replacement_ok (s : Store) (old new : Node) (fits : s.checkReplacement old new = .ok ()) :
    new.id ≠ "" ∧ new.ids.Nodup ∧ ∀ id ∈ new.ids, id ∈ s.ids → id ∈ old.ids := by
  rw [check_replacement_eq] at fits
  split at fits
  · cases fits
  · rename_i named
    split at fits
    · rename_i clear
      exact ⟨named, clear⟩
    · cases fits

theorem followed_selection (s : Store) (old new : Node) (id : String) (chosen : s.followed old new = some id) :
    id ∈ new.ids ∨ (s.selected = some id ∧ id ∉ old.ids) := by
  rw [followed] at chosen
  split at chosen
  · cases chosen
  · rename_i selected
    split at chosen
    · split at chosen
      · cases chosen
        exact .inl (Node.id_mem_ids new)
      · cases chosen
    · rename_i stays
      cases chosen
      by_cases inside : id ∈ old.ids
      · exact .inl (by simpa [inside] using stays)
      · exact .inr ⟨selected, inside⟩

theorem perm_ids_replaced (s : Store) (id : String) (old : Node) (found : s.find? id = some old) :
    ∃ rest, s.ids.Perm (old.ids ++ rest) ∧ ∀ change : Node → List Node,
      (Node.idsOf ((Node.replace? s.nodes id change).getD s.nodes)).Perm (Node.idsOf (change old) ++ rest) := by
  obtain ⟨hole, before, after, split, result⟩ := Node.replace_found s.nodes id old found
  refine ⟨Node.idsOf (hole.fill (before ++ after)), ?_, fun change => ?_⟩
  · rw [ids, split]
    simpa using Node.perm_ids_between hole before [old] after
  · rw [result, Option.getD_some]
    exact Node.perm_ids_between hole before (change old) after

theorem perm_ids_updated (s : Store) (id : String) (old new : Node) (found : s.find? id = some old) :
    ∃ rest, s.ids.Perm (old.ids ++ rest) ∧
      (Node.idsOf ((Node.replace? s.nodes id fun _ => [new]).getD s.nodes)).Perm (new.ids ++ rest) := by
  obtain ⟨rest, before, after⟩ := perm_ids_replaced s id old found
  have arrived := after fun _ => [new]
  rw [Node.ids_of_cons, Node.ids_of_nil, List.append_nil] at arrived
  exact ⟨rest, before, arrived⟩

theorem update_sound (s : Store) (id : String) (patch : Keyed Value) (sound : Sound s) :
    Sound (left ((update id patch).run s)) := by
  rcases update_outcome s id patch with ⟨why, refused⟩ | ⟨_, nothing⟩ | ⟨old, new, found, _, _, fits, changed⟩
  · rw [refused]
    exact sound
  · rw [nothing]
    exact sound
  · rw [changed]
    obtain ⟨_, distinct, inside⟩ := check_replacement_ok s old new fits
    obtain ⟨rest, perm, after⟩ := perm_ids_updated s id old new found
    have outside := (List.nodup_append.mp (perm.nodup_iff.mp sound.distinct)).2.2
    refine sound.replaced old.ids new.ids rest perm after distinct (fun id member here => ?_) _
      (followed_selection s old new) fun id => ?_
    · have present : id ∈ s.ids := perm.mem_iff.mpr (List.mem_append.mpr (.inr here))
      exact outside id (inside id member present) id here rfl
    · exact (mem_issued_issue (s.withNodes _) new.ids id).mpr

theorem perm_ids_deleted (s : Store) (id : String) (removed : Node) (found : s.find? id = some removed) :
    s.ids.Perm (removed.ids ++ Node.idsOf ((Node.replace? s.nodes id fun _ => []).getD s.nodes)) := by
  obtain ⟨rest, before, after⟩ := perm_ids_replaced s id removed found
  exact before.trans ((after fun _ => []).symm.append_left removed.ids)

theorem delete_sound (s : Store) (id : String) (sound : Sound s) : Sound (left ((delete id).run s)) := by
  rcases delete_outcome s id with ⟨_, nothing⟩ | ⟨removed, found, done⟩
  · rw [nothing]
    exact sound
  · rw [done]
    exact sound.shrunk removed.ids (perm_ids_deleted s id removed found)

theorem perm_ids_erased (nodes items : List Node) (parent : Option String) (index : Int) (i : Nat) (item : Node)
    (listed : Node.listAt? nodes parent = some items) (taken : itemAt items index = some (i, item)) :
    (Node.idsOf nodes).Perm
      (item.ids ++ Node.idsOf ((Node.changeList nodes parent (·.eraseIdx i)).getD nodes)) := by
  obtain ⟨hole, _, split, result⟩ := Node.list_found nodes parent items listed
  rw [result, Option.getD_some]
  conv => lhs; rw [split]
  have rest := (Node.perm_ids_fill hole (items.eraseIdx i)).symm
  calc Node.idsOf (hole.fill items)
    _ |>.Perm (Node.idsOf items ++ (hole.idsBefore ++ hole.idsAfter)) := Node.perm_ids_fill hole items
    _ |>.Perm (Node.idsOf (item :: items.eraseIdx i) ++ (hole.idsBefore ++ hole.idsAfter)) :=
      (Node.ids_of_perm (Node.item_at_erased items index i item taken)).append_right _
    _ = item.ids ++ (Node.idsOf (items.eraseIdx i) ++ (hole.idsBefore ++ hole.idsAfter)) := by simp
    _ |>.Perm (item.ids ++ Node.idsOf (hole.fill (items.eraseIdx i))) := rest.append_left _

theorem perm_ids_removed (s : Store) (parent : String) (index : Int) (i : Nat) (group removed : Node)
    (found : s.findGroup? parent = some group) (taken : itemAt group.children index = some (i, removed)) :
    s.ids.Perm (removed.ids ++ Node.idsOf ((Node.changeChildren parent (·.eraseIdx i) s.nodes).getD s.nodes)) :=
  perm_ids_erased s.nodes group.children (some parent) index i removed (children_listed s parent group found) taken

theorem remove_child_sound (s : Store) (parent : String) (index : Int) (sound : Sound s) :
    Sound (left ((removeChild parent index).run s)) := by
  rcases remove_child_outcome s parent index with nothing | ⟨group, i, removed, found, taken, done⟩
  · rw [nothing]
    exact sound
  · rw [done]
    exact sound.shrunk removed.ids (perm_ids_removed s parent index i group removed found taken)

theorem filter_map_value_names {α : Type} (entries : Keyed α) (distinct : (Keyed.names entries).Nodup) :
    (Keyed.names entries).filterMap (Keyed.value? entries) = entries.map (·.2) := by
  induction entries with
  | nil => rfl
  | cons entry rest ih =>
      rcases entry with ⟨key, value⟩
      simp only [Keyed.names, List.map_cons, List.nodup_cons] at distinct ih
      have others : (rest.map (·.1)).filterMap (Keyed.value? ((key, value) :: rest))
          = (rest.map (·.1)).filterMap (Keyed.value? rest) := by
        apply List.filterMap_congr
        intro name member
        have other : ¬ key = name := fun same => distinct.1 (same ▸ member)
        rw [Keyed.value?_cons, if_neg other]
      simp [Keyed.names, Keyed.value?_cons, others, ih distinct.2]

theorem root_index_eq (s : Store) (distinct : (s.nodes.map Node.id).Nodup) :
    s.rootIndex = s.nodes.map fun n => (n.id, n) := by
  rw [rootIndex]
  rw [Keyed.putAll_of_fresh]
  · rfl
  · simpa [Keyed.names, Function.comp_def] using distinct

theorem is_order_iff (s : Store) (order : List String) (distinct : (s.nodes.map Node.id).Nodup) :
    s.isOrder order = true ↔ order.Perm (s.nodes.map Node.id) := by
  have names : Keyed.names s.rootIndex = s.nodes.map Node.id := by
    simp [root_index_eq s distinct, Keyed.names, Function.comp_def]
  simp only [isOrder, names, Bool.and_eq_true, beq_iff_eq, List.all_eq_true, List.contains_eq_mem, decide_eq_true_eq]
  constructor
  · rintro ⟨⟨length, _⟩, covered⟩
    exact ((List.subperm_of_subset distinct covered).perm_of_length_le (Nat.le_of_eq length)).symm
  · intro perm
    exact ⟨⟨perm.length_eq, fun id member => perm.mem_iff.mp member⟩, fun id member => perm.mem_iff.mpr member⟩

theorem perm_reordered (s : Store) (order : List String) (distinct : (s.nodes.map Node.id).Nodup)
    (fits : s.isOrder order = true) : (order.filterMap (Keyed.value? s.rootIndex)).Perm s.nodes := by
  have index := root_index_eq s distinct
  have names : Keyed.names s.rootIndex = s.nodes.map Node.id := by simp [index, Keyed.names, Function.comp_def]
  have perm := (is_order_iff s order distinct).mp fits
  calc order.filterMap (Keyed.value? s.rootIndex)
    _ |>.Perm ((s.nodes.map Node.id).filterMap (Keyed.value? s.rootIndex)) := perm.filterMap _
    _ = s.rootIndex.map (·.2) := by
      rw [← names]
      exact filter_map_value_names s.rootIndex (names ▸ distinct)
    _ = s.nodes := by simp [index, Function.comp_def]

theorem reorder_sound (s : Store) (order : List OrderItem) (sound : Sound s) :
    Sound (left ((reorder order).run s)) := by
  rcases reorder_outcome s order with ⟨why, refused⟩ | ⟨fits, ordered⟩
  · rw [refused]
    exact sound
  · rw [ordered]
    have distinct := (Node.roots_sublist s.nodes).nodup sound.distinct
    exact sound.rearranged (Node.ids_of_perm (perm_reordered s _ distinct fits))

theorem position_lt (index : Int) (size i : Nat) (here : Node.position? index size = some i) : i < size := by
  rw [Node.position?] at here
  split at here
  · cases here
    omega
  · cases here

-- There is room in the list that the target of a move names once the node is lifted.
theorem target_after_lift (s : Store) (source target : Place) (i j : Nat) (item : Node) (origin goal : List Node)
    (movable : Movable s source target i j item origin goal) :
    Node.changeList s.nodes source.parent (·.eraseIdx i) = some (s.lifted source i).nodes ∧
      ∃ rest, Node.listAt? (s.lifted source i).nodes target.parent = some rest ∧ j ≤ rest.length := by
  obtain ⟨listed, awaited, taken, room, outside⟩ := movable
  obtain ⟨after, result, self⟩ := Node.list_at_self s.nodes source.parent origin (·.eraseIdx i) listed
  have kept : (s.lifted source i).nodes = after := by
    show (Node.changeList s.nodes source.parent (·.eraseIdx i)).getD s.nodes = after
    rw [result, Option.getD_some]
  rw [kept]
  refine ⟨result, ?_⟩
  have bound := position_lt _ _ _ room
  by_cases same : source.parent = target.parent
  · have shared : origin = goal := Option.some.inj (by rw [← listed, same, awaited])
    have size := List.length_eraseIdx_of_lt (Node.item_at_split origin source.index i item taken).1
    rw [if_pos same, ← shared] at bound
    exact ⟨origin.eraseIdx i, same ▸ self, by omega⟩
  · obtain ⟨rest, found, length⟩ := Node.list_at_other s.nodes source.parent target.parent (Ne.symm same) origin goal
      source.index i item listed taken awaited outside after result
    rw [if_neg same] at bound
    exact ⟨rest, found, by omega⟩

theorem perm_ids_moved (s : Store) (source target : Place) (i j : Nat) (item : Node) (origin goal : List Node)
    (movable : Movable s source target i j item origin goal) :
    ((s.lifted source i).placed target j item).ids.Perm s.ids := by
  obtain ⟨result, rest, found, size⟩ := target_after_lift s source target i j item origin goal movable
  have lifted := perm_ids_erased s.nodes origin source.parent source.index i item movable.listed movable.taken
  simp only [result, Option.getD_some] at lifted
  obtain ⟨hole, _, split, placed⟩ := Node.list_found _ target.parent rest found
  have nodes : ((s.lifted source i).placed target j item).nodes = hole.fill (rest.insertIdx j item) := by
    show (Node.changeList (s.lifted source i).nodes target.parent (·.insertIdx j item)).getD _ = _
    rw [placed, Option.getD_some]
  rw [ids, nodes]
  calc Node.idsOf (hole.fill (rest.insertIdx j item))
    _ |>.Perm (Node.idsOf (rest.insertIdx j item) ++ (hole.idsBefore ++ hole.idsAfter)) := Node.perm_ids_fill hole _
    _ |>.Perm (Node.idsOf (item :: rest) ++ (hole.idsBefore ++ hole.idsAfter)) :=
      (Node.ids_of_perm (List.perm_insertIdx item rest size)).append_right _
    _ = item.ids ++ (Node.idsOf rest ++ (hole.idsBefore ++ hole.idsAfter)) := by simp
    _ |>.Perm (item.ids ++ Node.idsOf (s.lifted source i).nodes) := by
      rw [split]
      exact (Node.perm_ids_fill hole rest).symm.append_left _
    _ |>.Perm (Node.idsOf s.nodes) := lifted.symm

theorem move_sound (s : Store) (source target : PlaceInput) (sound : Sound s) :
    Sound (left ((move source target).run s)) := by
  rcases move_outcome s source target with ⟨why, refused⟩ | ⟨_, _, i, j, item, origin, goal, _, _, movable, moved⟩
  · rw [refused]
    exact sound
  · rw [moved]
    exact sound.rearranged (perm_ids_moved s _ _ i j item origin goal movable)

theorem select_sound (s : Store) (id : Option String) (sound : Sound s) : Sound (left ((select id).run s)) := by
  rcases select_outcome s id with ⟨why, refused⟩ | ⟨known, selected⟩
  · rw [refused]
    exact sound
  · rw [selected]
    refine ⟨sound.distinct, fun name same => ?_, sound.remembered⟩
    obtain ⟨found, search⟩ := Option.isSome_iff_exists.mp (known name same)
    exact Node.find_mem_ids s.nodes name found search

theorem load_sound (s : Store) (form : Form) (sound : Sound s) : Sound (left ((load form).run s)) := by
  rcases load_outcome s form with ⟨why, refused⟩ | ⟨fits, loaded⟩
  · rw [refused]
    exact sound
  · rw [loaded]
    exact ⟨((check_tree_ok_iff _).mp fits).distinct, fun _ chosen => absurd chosen (Option.some_ne_none _).symm,
      fun id member => (mem_issued_issue ((s.withForm form).withSelected none) _ id).mpr (.inr member)⟩

theorem load_value_sound (s : Store) (origin : Origin) (v : Value) (sound : Sound s) :
    Sound (left ((loadValue origin v).run s)) := by
  rcases load_value_outcome s origin v with ⟨why, refused⟩ | ⟨form, _, same⟩
  · rw [refused]
    exact sound
  · rw [same]
    exact load_sound s form sound

theorem load_text_sound (s : Store) (text : Json.Source) (sound : Sound s) :
    Sound (left ((loadText text).run s)) := by
  rcases load_text_outcome s text with ⟨why, refused⟩ | ⟨v, _, same⟩
  · rw [refused]
    exact sound
  · rw [same]
    exact load_value_sound s .document v sound

theorem left_telling {ε α : Type} (refusal : ε → Refusal) (tell : α → Told) (e : Edit ε α) (s : Store) :
    left ((telling refusal tell e).run s) = left (e.run s) := by
  rw [run_telling]
  cases e.run s <;> rfl

theorem step_sound (s : Store) (op : Op) (sound : Sound s) : Sound (step s op) := by
  rw [step]
  cases op <;> simp only [perform, left_telling]
  case create type => exact create_sound s type sound
  case add type => exact add_sound s type sound
  case addChild parent type => exact add_child_sound s parent type sound
  case update id patch => exact update_sound s id patch sound
  case delete id => exact delete_sound s id sound
  case removeChild parent index => exact remove_child_sound s parent index sound
  case reorder order => exact reorder_sound s order sound
  case move source target => exact move_sound s source target sound
  case select id => exact select_sound s id sound
  case setTitle title => exact sound
  case load form => exact load_sound s form sound
  case loadValue origin v => exact load_value_sound s origin v sound
  case loadText text => exact load_text_sound s text sound

theorem run_sound (s : Store) (ops : List Op) (sound : Sound s) : Sound (s.run ops) := by
  induction ops generalizing s with
  | nil => exact sound
  | cons op rest ih => exact ih (step s op) (step_sound s op sound)

theorem run_keeps_ids (title : String) (script : List Char) (ops : List Op) :
    ((Store.new title script).run ops).ids.Nodup ∧
    (∀ id, ((Store.new title script).run ops).selected = some id → id ∈ ((Store.new title script).run ops).ids) ∧
    ∀ id ∈ ((Store.new title script).run ops).ids, id ∈ ((Store.new title script).run ops).issued := by
  have sound := run_sound (Store.new title script) ops (sound_new title script)
  exact ⟨sound.distinct, sound.selection, sound.remembered⟩

end Store

end FormEngine
