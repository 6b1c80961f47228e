import FormEngine.Proofs.Builder.Outcomes

set_option autoImplicit false

namespace FormEngine.Store

def Unspoiled {ε α : Type} (absent : α → Prop) (s : Store) : EStateM.Result ε Store α → Prop
  | .error _ left => left = s
  | .ok x left => absent x → left = s

def Atomic {ε α : Type} (absent : α → Prop) (e : Edit ε α) : Prop := ∀ s, Unspoiled absent s (e.run s)

theorem refused_unspoiled {ε α : Type} {absent : α → Prop} {s : Store} {r : EStateM.Result ε Store α} {why : ε}
    (refused : r = .error why s) : Unspoiled absent s r := by
  rw [refused]
  rfl

theorem idle_unspoiled {ε α : Type} {absent : α → Prop} {s : Store} {r : EStateM.Result ε Store α} {x : α}
    (idle : r = .ok x s) : Unspoiled absent s r := by
  rw [idle]
  exact fun _ => rfl

theorem done_unspoiled {ε α : Type} {absent : α → Prop} {s left : Store} {r : EStateM.Result ε Store α} {x : α}
    (done : r = .ok x left) (present : ¬ absent x) : Unspoiled absent s r := by
  rw [done]
  exact fun missing => absurd missing present

def Never {α : Type} (_ : α) : Prop := False

theorem create_atomic (type : String) : Atomic Never (create type) := by
  intro s
  rcases create_outcome s type with ⟨why, refused⟩ | ⟨n, draws, _, created⟩
  · exact refused_unspoiled refused
  · exact done_unspoiled created id

theorem add_atomic (type : String) : Atomic Never (add type) := by
  intro s
  rcases add_outcome s type with ⟨why, refused⟩ | ⟨n, draws, _, added⟩
  · exact refused_unspoiled refused
  · exact done_unspoiled added id

theorem add_child_atomic (parent type : String) : Atomic (· = none) (addChild parent type) := by
  intro s
  rcases add_child_outcome s parent type with ⟨why, refused⟩ | ⟨_, nothing⟩ | ⟨group, n, draws, _, _, added⟩
  · exact refused_unspoiled refused
  · exact idle_unspoiled nothing
  · exact done_unspoiled added (Option.some_ne_none _)

theorem update_atomic (id : String) (patch : Keyed Value) : Atomic (· = none) (update id patch) := by
  intro s
  rcases update_outcome s id patch with ⟨why, refused⟩ | ⟨_, nothing⟩ | ⟨old, new, _, _, _, _, changed⟩
  · exact refused_unspoiled refused
  · exact idle_unspoiled nothing
  · exact done_unspoiled changed (Option.some_ne_none _)

theorem delete_atomic (id : String) : Atomic (· = none) (delete id) := by
  intro s
  rcases delete_outcome s id with ⟨_, nothing⟩ | ⟨removed, _, done⟩
  · exact idle_unspoiled nothing
  · exact done_unspoiled done (Option.some_ne_none _)

theorem remove_child_atomic (parent : String) (index : Int) : Atomic (· = none) (removeChild parent index) := by
  intro s
  rcases remove_child_outcome s parent index with nothing | ⟨group, i, removed, _, _, done⟩
  · exact idle_unspoiled nothing
  · exact done_unspoiled done (Option.some_ne_none _)

theorem reorder_atomic (order : List OrderItem) : Atomic Never (reorder order) := by
  intro s
  rcases reorder_outcome s order with ⟨why, refused⟩ | ⟨_, ordered⟩
  · exact refused_unspoiled refused
  · exact done_unspoiled ordered id

theorem move_atomic (source target : PlaceInput) : Atomic Never (move source target) := by
  intro s
  rcases move_outcome s source target with ⟨why, refused⟩ | ⟨_, _, _, _, _, _, _, _, _, _, moved⟩
  · exact refused_unspoiled refused
  · exact done_unspoiled moved id

theorem select_atomic (wanted : Option String) : Atomic Never (select wanted) := by
  intro s
  rcases select_outcome s wanted with ⟨why, refused⟩ | ⟨_, selected⟩
  · exact refused_unspoiled refused
  · exact done_unspoiled selected id

theorem set_title_atomic (title : String) : Atomic Never (setTitle title) := fun _ => False.elim

theorem load_atomic (form : Form) : Atomic Never (load form) := by
  intro s
  rcases load_outcome s form with ⟨why, refused⟩ | ⟨_, loaded⟩
  · exact refused_unspoiled refused
  · exact done_unspoiled loaded id

theorem load_value_atomic (origin : Origin) (v : Value) : Atomic Never (loadValue origin v) := by
  intro s
  rcases load_value_outcome s origin v with ⟨why, refused⟩ | ⟨form, _, same⟩
  · exact refused_unspoiled refused
  · rw [same]
    exact load_atomic form s

theorem load_text_atomic (text : Json.Source) : Atomic Never (loadText text) := by
  intro s
  rcases load_text_outcome s text with ⟨why, refused⟩ | ⟨v, _, same⟩
  · exact refused_unspoiled refused
  · rw [same]
    exact load_value_atomic .document v s

theorem telling_atomic {ε α : Type} (absent : α → Prop) (refusal : ε → Refusal) (tell : α → Told) (e : Edit ε α)
    (atomic : Atomic absent e) (tells : ∀ x, tell x = .absent → absent x) :
    Atomic (· = .absent) (telling refusal tell e) := by
  intro s
  have kept := atomic s
  rw [run_telling]
  cases ran : e.run s with
  | ok x left =>
      rw [ran] at kept
      exact fun told => kept (tells x told)
  | error why left =>
      rw [ran] at kept
      exact kept

theorem of_node_absent (n : Option Node) (told : Told.ofNode? n = .absent) : n = none := by
  cases n with
  | none => rfl
  | some n => cases told

theorem perform_atomic (op : Op) : Atomic (· = .absent) (perform op) := by
  cases op with
  | create type => exact telling_atomic Never _ _ _ (create_atomic type) fun _ told => nomatch told
  | add type => exact telling_atomic Never _ _ _ (add_atomic type) fun _ told => nomatch told
  | addChild parent type => exact telling_atomic _ _ _ _ (add_child_atomic parent type) of_node_absent
  | update id patch => exact telling_atomic _ _ _ _ (update_atomic id patch) of_node_absent
  | delete id => exact telling_atomic _ _ _ _ (delete_atomic id) of_node_absent
  | removeChild parent index => exact telling_atomic _ _ _ _ (remove_child_atomic parent index) of_node_absent
  | reorder order => exact telling_atomic Never _ _ _ (reorder_atomic order) fun _ told => nomatch told
  | move source target => exact telling_atomic Never _ _ _ (move_atomic source target) fun _ told => nomatch told
  | select id => exact telling_atomic Never _ _ _ (select_atomic id) fun _ told => nomatch told
  | setTitle title => exact telling_atomic Never _ _ _ (set_title_atomic title) fun _ told => nomatch told
  | load form => exact telling_atomic Never _ _ _ (load_atomic form) fun _ told => nomatch told
  | loadValue origin v => exact telling_atomic Never _ _ _ (load_value_atomic origin v) fun _ told => nomatch told
  | loadText text => exact telling_atomic Never _ _ _ (load_text_atomic text) fun _ told => nomatch told

end FormEngine.Store
