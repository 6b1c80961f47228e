import FormEngine.Proofs.Builder.Sound

set_option autoImplicit false

namespace FormEngine.Store

theorem telling_ok {ε α : Type} {refusal : ε → Refusal} {tell : α → Told} {e : Edit ε α} {s next : Store} {x : α}
    (ran : e.run s = .ok x next) : (telling refusal tell e).run s = .ok (tell x) next := by
  rw [run_telling, ran]

theorem telling_error {ε α : Type} {refusal : ε → Refusal} {tell : α → Told} {e : Edit ε α} {s next : Store} {why : ε}
    (ran : e.run s = .error why next) : (telling refusal tell e).run s = .error (refusal why) next := by
  rw [run_telling, ran]

def told? (s : Store) (op : Op) : Option Node :=
  match (perform op).run s with
  | .ok (.node n) _ => some n
  | _ => none

def Op.creates : Op → Bool
  | .create _ | .add _ | .addChild _ _ => true
  | _ => false

def made? (s : Store) (op : Op) : Option Node := if op.creates then told? s op else none

theorem told_of_ok {s next : Store} {op : Op} {n : Node} (ran : (perform op).run s = .ok (.node n) next) :
    told? s op = some n := by
  rw [told?, ran]

theorem step_of_ok {s next : Store} {op : Op} {told : Told} (ran : (perform op).run s = .ok told next) :
    step s op = next := by
  rw [step, ran]
  rfl

theorem step_of_error {s next : Store} {op : Op} {why : Refusal} (ran : (perform op).run s = .error why next) :
    step s op = next := by
  rw [step, ran]
  rfl

-- Everything that a step can do to the ids of the tree and to those that were issued.
inductive Arrival (s : Store) (op : Op) (next : Store) : Prop where
  | nothing (ids : ∀ id ∈ next.ids, id ∈ s.ids) (issued : next.issued = s.issued)
  | made (type : String) (n : Node) (draws : Draws) (told : made? s op = some n) (new : New s type n draws)
      (ids : ∀ id ∈ next.ids, id ∈ s.ids ∨ id = n.id) (issued : next.issued = (s.issue [n.id]).issued)
  | changed (wanted : String) (patch : Keyed Value) (n : Node) (which : op = .update wanted patch)
      (told : told? s op = some n) (named : n.id ≠ "") (ids : ∀ id ∈ next.ids, id ∈ s.ids ∨ id ∈ n.ids)
      (issued : next.issued = (s.issue n.ids).issued)
  | loaded (form : Form) (fits : checkTree form.nodes = .ok ()) (ids : next.ids = Node.idsOf form.nodes)
      (issued : next.issued = (s.issue (Node.idsOf form.nodes)).issued)

theorem same_arrival (s : Store) (op : Op) : Arrival s op s := .nothing (fun _ member => member) rfl

theorem refused_arrival {s : Store} {op : Op} {why : Refusal} (refused : (perform op).run s = .error why s) :
    Arrival s op (step s op) := by
  rw [step_of_error refused]
  exact same_arrival s op

theorem idle_arrival {s : Store} {op : Op} {told : Told} (idle : (perform op).run s = .ok told s) :
    Arrival s op (step s op) := by
  rw [step_of_ok idle]
  exact same_arrival s op

theorem fewer_arrival {s next : Store} {op : Op} {told : Told} (ran : (perform op).run s = .ok told next)
    (ids : ∀ id ∈ next.ids, id ∈ s.ids) (issued : next.issued = s.issued) : Arrival s op (step s op) := by
  rw [step_of_ok ran]
  exact .nothing ids issued

theorem making_outcome (s : Store) (op : Op) (creates : op.creates = true) :
    (∃ why, (perform op).run s = .error why s) ∨ (perform op).run s = .ok .absent s ∨
    ∃ type n draws nodes chosen, New s type n draws ∧ (∀ id ∈ Node.idsOf nodes, id ∈ s.ids ∨ id = n.id) ∧
      (perform op).run s = .ok (.node n) ((((s.withDraws draws).issue [n.id]).withNodes nodes).withSelected chosen) := by
  have grown {type : String} {n : Node} {draws : Draws} {nodes : List Node} (new : New s type n draws)
      (perm : (Node.idsOf nodes).Perm (n.ids ++ s.ids)) : ∀ id ∈ Node.idsOf nodes, id ∈ s.ids ∨ id = n.id := by
    intro id member
    have found := perm.mem_iff.mp member
    rw [(new_ids new).1] at found
    exact (List.mem_cons.mp found).symm
  cases op with
  | create type =>
      rcases create_outcome s type with ⟨why, refused⟩ | ⟨n, draws, new, created⟩
      · exact .inl ⟨_, telling_error refused⟩
      · exact .inr (.inr ⟨type, n, draws, s.nodes, s.selected, new, fun _ here => .inl here, telling_ok created⟩)
  | add type =>
      rcases add_outcome s type with ⟨why, refused⟩ | ⟨n, draws, new, added⟩
      · exact .inl ⟨_, telling_error refused⟩
      · refine .inr (.inr ⟨type, n, draws, _, _, new, grown new ?_, telling_ok added⟩)
        rw [Node.ids_of_append, Node.ids_of_cons, Node.ids_of_nil, List.append_nil]
        exact List.perm_append_comm
  | addChild parent type =>
      rcases add_child_outcome s parent type with ⟨why, refused⟩ | ⟨_, nothing⟩ | ⟨group, n, draws, found, new, added⟩
      · exact .inl ⟨_, telling_error refused⟩
      · exact .inr (.inl (telling_ok nothing))
      · exact .inr (.inr ⟨type, n, draws, _, _, new, grown new (perm_ids_child s parent group n found), telling_ok added⟩)
  | _ => cases creates

theorem making_arrival (s : Store) (op : Op) (creates : op.creates = true) : Arrival s op (step s op) := by
  rcases making_outcome s op creates with ⟨why, refused⟩ | nothing | ⟨type, n, draws, nodes, chosen, new, ids, ran⟩
  · exact refused_arrival refused
  · exact idle_arrival nothing
  · rw [step_of_ok ran]
    exact .made type n draws (by rw [made?, if_pos creates, told_of_ok ran]) new ids rfl

theorem changing_outcome (s : Store) (id : String) (patch : Keyed Value) :
    (∃ why, (perform (.update id patch)).run s = .error why s) ∨ (perform (.update id patch)).run s = .ok .absent s ∨
    ∃ (old n : Node) (rest : List String) (next : Store), (perform (.update id patch)).run s = .ok (.node n) next ∧
      n.id ≠ "" ∧ s.ids.Perm (old.ids ++ rest) ∧ next.ids.Perm (n.ids ++ rest) ∧
      next.issued = (s.issue n.ids).issued := by
  rcases update_outcome s id patch with ⟨why, refused⟩ | ⟨_, nothing⟩ | ⟨old, new, found, _, _, fits, done⟩
  · exact .inl ⟨_, telling_error refused⟩
  · exact .inr (.inl (telling_ok nothing))
  · obtain ⟨rest, before, after⟩ := perm_ids_updated s id old new found
    exact .inr (.inr ⟨old, new, rest, _, telling_ok done, (check_replacement_ok s old new fits).1, before, after, rfl⟩)

theorem update_arrival (s : Store) (id : String) (patch : Keyed Value) :
    Arrival s (.update id patch) (step s (.update id patch)) := by
  rcases changing_outcome s id patch with ⟨why, refused⟩ | nothing | ⟨old, n, rest, next, ran, named, before, after, issued⟩
  · exact refused_arrival refused
  · exact idle_arrival nothing
  · rw [step_of_ok ran]
    refine .changed id patch n rfl (told_of_ok ran) named (fun member here => ?_) issued
    rcases List.mem_append.mp (after.mem_iff.mp here) with inside | outside
    · exact .inr inside
    · exact .inl (before.mem_iff.mpr (List.mem_append.mpr (.inr outside)))

theorem delete_arrival (s : Store) (id : String) : Arrival s (.delete id) (step s (.delete id)) := by
  rcases delete_outcome s id with ⟨_, nothing⟩ | ⟨removed, found, done⟩
  · exact idle_arrival (telling_ok nothing)
  · exact fewer_arrival (telling_ok done)
      (fun member here => (perm_ids_deleted s id removed found).mem_iff.mpr (List.mem_append.mpr (.inr here))) rfl

theorem remove_child_arrival (s : Store) (parent : String) (index : Int) :
    Arrival s (.removeChild parent index) (step s (.removeChild parent index)) := by
  rcases remove_child_outcome s parent index with nothing | ⟨group, i, removed, found, taken, done⟩
  · exact idle_arrival (telling_ok nothing)
  · have perm := perm_ids_removed s parent index i group removed found taken
    exact fewer_arrival (telling_ok done)
      (fun member here => perm.mem_iff.mpr (List.mem_append.mpr (.inr here))) rfl

theorem reorder_arrival (s : Store) (order : List OrderItem) (distinct : (s.nodes.map Node.id).Nodup) :
    Arrival s (.reorder order) (step s (.reorder order)) := by
  rcases reorder_outcome s order with ⟨why, refused⟩ | ⟨fits, ordered⟩
  · exact refused_arrival (telling_error refused)
  · have perm := Node.ids_of_perm (perm_reordered s _ distinct fits)
    exact fewer_arrival (telling_ok ordered) (fun member here => perm.mem_iff.mp here) rfl

theorem move_arrival (s : Store) (source target : PlaceInput) :
    Arrival s (.move source target) (step s (.move source target)) := by
  rcases move_outcome s source target with ⟨why, refused⟩ | ⟨_, _, i, j, item, origin, goal, _, _, movable, moved⟩
  · exact refused_arrival (telling_error refused)
  · have perm := perm_ids_moved s _ _ i j item origin goal movable
    -- What a move tells is a node as well; it does not arrive, since it was in the tree.
    exact fewer_arrival (telling_ok moved) (fun member here => perm.mem_iff.mp here) rfl

theorem select_arrival (s : Store) (id : Option String) : Arrival s (.select id) (step s (.select id)) := by
  rcases select_outcome s id with ⟨why, refused⟩ | ⟨_, selected⟩
  · exact refused_arrival (telling_error refused)
  · exact fewer_arrival (telling_ok selected) (fun _ here => here) rfl

theorem load_arrival {s : Store} {op : Op} (form : Form)
    (same : (perform op).run s = (telling Refusal.document Told.form (load form)).run s) : Arrival s op (step s op) := by
  rcases load_outcome s form with ⟨why, refused⟩ | ⟨fits, loaded⟩
  · exact refused_arrival (same.trans (telling_error refused))
  · rw [step_of_ok (same.trans (telling_ok loaded))]
    exact .loaded form fits rfl rfl

theorem load_value_arrival {s : Store} {op : Op} (origin : Origin) (v : Value)
    (same : (perform op).run s = (telling Refusal.document Told.form (loadValue origin v)).run s) :
    Arrival s op (step s op) := by
  rcases load_value_outcome s origin v with ⟨why, refused⟩ | ⟨form, _, read⟩
  · exact refused_arrival (same.trans (telling_error refused))
  · exact load_arrival form (by rw [same, run_telling, run_telling, read])

theorem load_text_arrival (s : Store) (text : Json.Source) : Arrival s (.loadText text) (step s (.loadText text)) := by
  rcases load_text_outcome s text with ⟨why, refused⟩ | ⟨v, _, read⟩
  · exact refused_arrival (telling_error refused)
  · exact load_value_arrival .document v (by rw [perform, run_telling, run_telling, read])

theorem step_arrival (s : Store) (op : Op) (sound : Sound s) : Arrival s op (step s op) := by
  cases op with
  | create type => exact making_arrival s _ rfl
  | add type => exact making_arrival s _ rfl
  | addChild parent type => exact making_arrival s _ rfl
  | update id patch => exact update_arrival s id patch
  | delete id => exact delete_arrival s id
  | removeChild parent index => exact remove_child_arrival s parent index
  | reorder order => exact reorder_arrival s order ((Node.roots_sublist s.nodes).nodup sound.distinct)
  | move source target => exact move_arrival s source target
  | select id => exact select_arrival s id
  | setTitle title => exact fewer_arrival rfl (fun _ here => here) rfl
  | load form => exact load_arrival form rfl
  | loadValue origin v => exact load_value_arrival origin v rfl
  | loadText text => exact load_text_arrival s text

theorem step_issued (s : Store) (op : Op) (sound : Sound s) (id : String) (known : id ∈ s.issued) :
    id ∈ (step s op).issued := by
  have arrived (more : List String) (issued : (step s op).issued = (s.issue more).issued) : id ∈ (step s op).issued := by
    rw [issued]
    exact (mem_issued_issue s more id).mpr (.inl known)
  cases step_arrival s op sound with
  | nothing _ issued => exact issued ▸ known
  | made _ n _ _ _ _ issued => exact arrived _ issued
  | changed _ _ n _ _ _ _ issued => exact arrived _ issued
  | loaded form _ _ issued => exact arrived _ issued

theorem run_issued (s : Store) (ops : List Op) (sound : Sound s) (id : String) (known : id ∈ s.issued) :
    id ∈ (s.run ops).issued := by
  induction ops generalizing s with
  | nil => exact known
  | cons op rest ih => exact ih (step s op) (step_sound s op sound) (step_issued s op sound id known)

theorem new_unissued {s : Store} {type : String} {n : Node} {draws : Draws} (new : New s type n draws) :
    n.id ∉ s.issued := by
  cases new with
  | group id _ _ drawn => exact fun member => fresh_not_taken _ _ _ _ _ drawn (List.mem_append.mpr (.inl member))
  | field kind id _ _ drawn => exact fun member => fresh_not_taken _ _ _ _ _ drawn (List.mem_append.mpr (.inl member))

theorem made_issued (s : Store) (op : Op) (n : Node) (made : made? s op = some n) :
    n.id ∉ s.issued ∧ n.id ∈ (step s op).issued := by
  rw [made?] at made
  split at made
  · rename_i creates
    rw [told?] at made
    rcases making_outcome s op creates with ⟨why, refused⟩ | nothing | ⟨type, m, draws, nodes, chosen, new, _, ran⟩
    · rw [refused] at made
      cases made
    · rw [nothing] at made
      cases made
    · rw [ran] at made
      cases made
      refine ⟨new_unissued new, ?_⟩
      rw [step_of_ok ran]
      exact (mem_issued_issue (s.withDraws draws) _ n.id).mpr (.inr List.mem_cons_self)
  · cases made

theorem run_append (s : Store) (first rest : List Op) : s.run (first ++ rest) = (s.run first).run rest :=
  List.foldl_append

-- Any stream of draws will do: a run that comes to an end has drawn finitely many letters, and they are a script.
theorem made_ids_never_return (title : String) (script : List Char) (ops : List Op) (op : Op) (n : Node)
    (made : made? ((Store.new title script).run ops) op = some n) :
    (∀ first rest, ops = first ++ rest → n.id ∉ ((Store.new title script).run first).ids) ∧
    ∀ first past rest old, ops = first ++ past :: rest → made? ((Store.new title script).run first) past = some old →
      n.id ≠ old.id := by
  have sound (before : List Op) : Sound ((Store.new title script).run before) :=
    run_sound _ before (sound_new title script)
  obtain ⟨fresh, _⟩ := made_issued _ op n made
  refine ⟨fun first rest split here => fresh ?_, fun first past rest old split earlier same => fresh ?_⟩
  · rw [split, run_append]
    exact run_issued _ rest (sound first) _ ((sound first).remembered _ here)
  · have issued := (made_issued _ past old earlier).2
    rw [split, run_append, same]
    exact run_issued (step _ past) rest (step_sound _ past (sound first)) _ issued

-- The same letters come up three times before the counter begins. By then the field with the id that they spell was
-- renamed, and the first id of the counter came in with the children of a group and went with it.
def letterScript : List Char := "abcdefgabcdefgabcdefg".toList

def recycling : List Op :=
  [.add "text", .update "fld_abcdefg" [("id", .text "other")], .add "group",
   .update "grp_abcdefg" [("children", .list [.object [("id", .text "fld_aaaaaaa"), ("type", .text "text")]])],
   .load ⟨"Empty", []⟩]

theorem recycled_letters_new_id :
    ((made? ((Store.new "Start" letterScript).run recycling) (.create "text")).map Node.id = some "fld_aaaaaab") ∧
    "fld_aaaaaaa" ∈ ((Store.new "Start" letterScript).run (recycling.take 4)).ids ∧
    (∀ first rest, recycling = first ++ rest → "fld_aaaaaab" ∉ ((Store.new "Start" letterScript).run first).ids) := by
  have given : (made? ((Store.new "Start" letterScript).run recycling) (.create "text")).map Node.id
      = some "fld_aaaaaab" := by decide +kernel
  obtain ⟨n, made, named⟩ := Option.map_eq_some_iff.mp given
  refine ⟨given, by decide +kernel, ?_⟩
  rw [← named]
  exact (made_ids_never_return "Start" letterScript recycling (.create "text") n made).1

end FormEngine.Store
