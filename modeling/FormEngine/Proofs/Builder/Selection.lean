import FormEngine.Proofs.Builder.Arrivals

set_option autoImplicit false

namespace FormEngine.Store

def Op.edits : Op → Bool
  | .create _ | .update _ _ | .delete _ | .removeChild _ _ | .reorder _ | .move _ _ | .setTitle _ => true
  | .add _ | .addChild _ _ | .select _ | .load _ | .loadValue _ _ | .loadText _ => false

def renamed? (s : Store) (op : Op) (id : String) : Option String :=
  match op with
  | .update target _ => if target = id then (told? s op).map Node.id else none
  | _ => none

def SelectionOr (next : Store) (id : String) (other : Option String) : Prop :=
  next.selected = if id ∈ next.ids then some id else other

variable {s next : Store} {id : String} {other : Option String}

theorem selection_stays (sound : Sound s) (chosen : s.selected = some id) (selected : next.selected = s.selected)
    (ids : next.ids.Perm s.ids) : SelectionOr next id other := by
  have here : id ∈ next.ids := ids.mem_iff.mpr (sound.selection id chosen)
  rw [SelectionOr, if_pos here, selected, chosen]

theorem selection_unchanged (sound : Sound s) (chosen : s.selected = some id) : SelectionOr s id other :=
  selection_stays sound chosen rfl (List.Perm.refl s.ids)

theorem selection_detached (sound : Sound s) (chosen : s.selected = some id) (removed : List String)
    (selected : next.selected = s.selected.filter (!removed.contains ·)) (ids : s.ids.Perm (removed ++ next.ids)) :
    SelectionOr next id none := by
  have apart := (List.nodup_append.mp (ids.nodup_iff.mp sound.distinct)).2.2
  rw [SelectionOr, selected, chosen]
  rcases List.mem_append.mp (ids.mem_iff.mp (sound.selection id chosen)) with gone | stays
  · have absent : id ∉ next.ids := fun member => apart id gone id member rfl
    simp [gone, absent]
  · have outside : id ∉ removed := fun member => apart id member id stays rfl
    simp [stays, outside]

theorem create_selection (type : String) (sound : Sound s) (chosen : s.selected = some id) :
    SelectionOr (left ((create type).run s)) id other := by
  rcases create_outcome s type with ⟨why, refused⟩ | ⟨n, draws, _, created⟩
  · rw [refused]
    exact selection_unchanged sound chosen
  · rw [created]
    exact selection_stays sound chosen rfl (List.Perm.refl s.ids)

-- The selected node is outside of the one that gives way, or that one itself, or inside of it; and then its id may come
-- back anywhere in the new one.
theorem followed_or (s : Store) (old new : Node) (rest : List String) (sound : Sound s) (chosen : s.selected = some id)
    (was : s.ids.Perm (old.ids ++ rest)) (is : next.ids.Perm (new.ids ++ rest))
    (selected : next.selected = s.followed old new) :
    SelectionOr next id (if old.id = id then some new.id else none) := by
  have apart := (List.nodup_append.mp (was.nodup_iff.mp sound.distinct)).2.2
  rw [SelectionOr, selected, followed, chosen]
  dsimp only
  by_cases gone : id ∈ old.ids ∧ id ∉ new.ids
  · have absent : id ∉ next.ids := by
      rw [is.mem_iff, List.mem_append, not_or]
      exact ⟨gone.2, fun stays => apart id gone.1 id stays rfl⟩
    simp [gone, absent, eq_comm]
  · have here : id ∈ next.ids := by
      rw [is.mem_iff, List.mem_append]
      rcases List.mem_append.mp (was.mem_iff.mp (sound.selection id chosen)) with inside | stays
      · exact .inl (not_not.mp (not_and.mp gone inside))
      · exact .inr stays
    have kept : (old.ids.contains id && !new.ids.contains id) = false := by simpa using gone
    rw [if_pos here, kept]
    rfl

theorem update_selection (target : String) (patch : Keyed Value) (sound : Sound s) (chosen : s.selected = some id) :
    SelectionOr (step s (.update target patch)) id (renamed? s (.update target patch) id) := by
  rcases update_outcome s target patch with ⟨why, refused⟩ | ⟨_, nothing⟩ | ⟨old, new, found, _, _, _, changed⟩
  · have ran : (perform (.update target patch)).run s = .error (.edit why) s := telling_error refused
    rw [step_of_error ran]
    exact selection_unchanged sound chosen
  · have ran : (perform (.update target patch)).run s = .ok .absent s := telling_ok nothing
    rw [step_of_ok ran]
    exact selection_unchanged sound chosen
  · have ran : (perform (.update target patch)).run s = .ok (.node new) _ := telling_ok changed
    obtain rfl := Node.find_id s.nodes target old found
    obtain ⟨rest, was, is⟩ := perm_ids_updated s old.id old new found
    rw [renamed?, told_of_ok ran, step_of_ok ran]
    exact followed_or s old new rest sound chosen was is rfl

theorem delete_selection (target : String) (sound : Sound s) (chosen : s.selected = some id) :
    SelectionOr (left ((delete target).run s)) id none := by
  rcases delete_outcome s target with ⟨_, nothing⟩ | ⟨removed, found, done⟩
  · rw [nothing]
    exact selection_unchanged sound chosen
  · rw [done]
    exact selection_detached sound chosen removed.ids rfl (perm_ids_deleted s target removed found)

theorem remove_child_selection (parent : String) (index : Int) (sound : Sound s) (chosen : s.selected = some id) :
    SelectionOr (left ((removeChild parent index).run s)) id none := by
  rcases remove_child_outcome s parent index with nothing | ⟨group, i, removed, found, taken, done⟩
  · rw [nothing]
    exact selection_unchanged sound chosen
  · rw [done]
    exact selection_detached sound chosen removed.ids rfl (perm_ids_removed s parent index i group removed found taken)

theorem reorder_selection (order : List OrderItem) (sound : Sound s) (chosen : s.selected = some id) :
    SelectionOr (left ((reorder order).run s)) id other := by
  rcases reorder_outcome s order with ⟨why, refused⟩ | ⟨fits, ordered⟩
  · rw [refused]
    exact selection_unchanged sound chosen
  · have distinct := (Node.roots_sublist s.nodes).nodup sound.distinct
    rw [ordered]
    exact selection_stays sound chosen rfl (Node.ids_of_perm (perm_reordered s _ distinct fits))

theorem move_selection (source target : PlaceInput) (sound : Sound s) (chosen : s.selected = some id) :
    SelectionOr (left ((move source target).run s)) id other := by
  rcases move_outcome s source target with ⟨why, refused⟩ | ⟨_, _, i, j, item, origin, goal, _, _, movable, moved⟩
  · rw [refused]
    exact selection_unchanged sound chosen
  · rw [moved]
    exact selection_stays sound chosen rfl (perm_ids_moved s _ _ i j item origin goal movable)

theorem step_selection (op : Op) (edits : op.edits = true) (sound : Sound s) (chosen : s.selected = some id) :
    SelectionOr (step s op) id (renamed? s op id) := by
  cases op with
  | update target patch => exact update_selection target patch sound chosen
  | create type =>
      rw [step, perform, left_telling]
      exact create_selection type sound chosen
  | delete target =>
      rw [step, perform, left_telling]
      exact delete_selection target sound chosen
  | removeChild parent index =>
      rw [step, perform, left_telling]
      exact remove_child_selection parent index sound chosen
  | reorder order =>
      rw [step, perform, left_telling]
      exact reorder_selection order sound chosen
  | move source target =>
      rw [step, perform, left_telling]
      exact move_selection source target sound chosen
  | setTitle title =>
      rw [step, perform, left_telling]
      exact selection_stays sound chosen rfl (List.Perm.refl s.ids)
  | add _ | addChild _ _ | select _ | load _ | loadValue _ _ | loadText _ => cases edits

theorem selection_follows_node (title : String) (script : List Char) (ops : List Op) (op : Op) (id : String)
    (chosen : ((Store.new title script).run ops).selected = some id) (edits : op.edits = true) :
    (step ((Store.new title script).run ops) op).selected =
      if id ∈ (step ((Store.new title script).run ops) op).ids then some id
      else renamed? ((Store.new title script).run ops) op id :=
  step_selection op edits (run_sound _ ops (sound_new title script)) chosen

def groupSelected : List Op :=
  [.load ⟨"Ids", [.group (Group.create "g") [], .field (Field.create "note" .text)]⟩, .select (some "g")]

def handingDown : Op :=
  .update "g" [("id", .text "k"), ("children", .list [.object [("id", .text "g"), ("type", .text "text")]])]

theorem selected_group_followed :
    (step ((Store.new "Start" []).run groupSelected) (.update "g" [("id", .text "h")])).selected = some "h" ∧
    (step ((Store.new "Start" []).run groupSelected) handingDown).selected = some "g" ∧
    (step ((Store.new "Start" []).run (groupSelected ++ [handingDown])) (.delete "k")).selected = none := by
  have before (op : Op) (edits : op.edits = true) :=
    selection_follows_node "Start" [] groupSelected op "g" (by decide +kernel) edits
  have after := selection_follows_node "Start" [] (groupSelected ++ [handingDown]) (.delete "k") "g" (by decide +kernel) rfl
  exact ⟨(before _ rfl).trans (by decide +kernel), (before _ rfl).trans (by decide +kernel), after.trans (by decide +kernel)⟩

end FormEngine.Store
