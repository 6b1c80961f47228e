import FormEngine.Builder.History
import FormEngine.Proofs.Builder.Hole

set_option autoImplicit false

namespace FormEngine.Store

@[simp] theorem run_throw {ε α : Type} (why : ε) (s : Store) : EStateM.run (throw why : Edit ε α) s = .error why s := rfl

@[simp] theorem run_check_ok {ε α : Type} (x : α) (s : Store) : EStateM.run (check (.ok x : Except ε α)) s = .ok x s := rfl

@[simp] theorem run_check_error {ε α : Type} (why : ε) (s : Store) :
    EStateM.run (check (.error why : Except ε α)) s = .error why s := rfl

@[simp] theorem run_check_map_ok {ε ε' α : Type} (f : ε → ε') (x : α) (s : Store) :
    EStateM.run (check ((.ok x : Except ε α).mapError f)) s = .ok x s := rfl

@[simp] theorem run_check_map_error {ε ε' α : Type} (f : ε → ε') (why : ε) (s : Store) :
    EStateM.run (check ((.error why : Except ε α).mapError f)) s = .error (f why) s := rfl

@[simp] theorem run_map {ε α β : Type} (f : α → β) (e : Edit ε α) (s : Store) :
    EStateM.run (f <$> e) s = match e.run s with
      | .ok x s => .ok (f x) s
      | .error why s => .error why s := by
  rw [← bind_pure_comp, EStateM.run_bind]
  cases EStateM.run e s <;> rfl

theorem run_telling {ε α : Type} (refusal : ε → Refusal) (tell : α → Told) (e : Edit ε α) (s : Store) :
    (telling refusal tell e).run s = match e.run s with
      | .ok x left => .ok (tell x) left
      | .error why left => .error (refusal why) left := by
  simp only [telling, bind_pure_comp, run_map, EStateM.run_adaptExcept]
  cases e.run s <;> rfl

theorem fresh_id_outcome (s : Store) (word : String) :
    (∃ why, (freshId word).run s = .error why s) ∨
    ∃ id draws, s.draws.fresh (s.issued ++ s.ids) word = some (id, draws) ∧
      (freshId word).run s = .ok id ((s.withDraws draws).issue [id]) := by
  cases next : s.draws.fresh (s.issued ++ s.ids) word with
  | none => exact .inl ⟨.noFreeId, by simp [freshId, next]⟩
  | some found => exact .inr ⟨found.1, found.2, rfl, by simp [freshId, next]⟩

-- A node that is new in a store: a field of its kind or an empty group, with an id that no draw gave before.
inductive New (s : Store) (type : String) : Node → Draws → Prop where
  | group (id : String) (draws : Draws) (named : type = groupName)
      (drawn : s.draws.fresh (s.issued ++ s.ids) "grp" = some (id, draws)) : New s type (.group (Group.create id) []) draws
  | field (kind : FieldKind) (id : String) (draws : Draws) (named : FieldKind.ofName? type = some kind)
      (drawn : s.draws.fresh (s.issued ++ s.ids) "fld" = some (id, draws)) : New s type (.field (Field.create id kind)) draws

theorem create_outcome (s : Store) (type : String) :
    (∃ why, (create type).run s = .error why s) ∨
    ∃ n draws, New s type n draws ∧ (create type).run s = .ok n ((s.withDraws draws).issue [n.id]) := by
  by_cases group : type = groupName
  · rcases fresh_id_outcome s "grp" with ⟨why, refused⟩ | ⟨id, draws, drawn, given⟩
    · exact .inl ⟨why, by simp [create, group, refused]⟩
    · exact .inr ⟨_, draws, .group id draws group drawn, by simp [create, group, given]; rfl⟩
  · cases kind : FieldKind.ofName? type with
    | none => exact .inl ⟨.unknownType type, by simp [create, group, kind]⟩
    | some k =>
        rcases fresh_id_outcome s "fld" with ⟨why, refused⟩ | ⟨id, draws, drawn, given⟩
        · exact .inl ⟨why, by simp [create, group, kind, refused]⟩
        · exact .inr ⟨_, draws, .field k id draws kind drawn, by simp [create, group, kind, given]; rfl⟩

theorem add_outcome (s : Store) (type : String) :
    (∃ why, (add type).run s = .error why s) ∨
    ∃ n draws, New s type n draws ∧
      (add type).run s = .ok n ((((s.withDraws draws).issue [n.id]).withNodes (s.nodes ++ [n])).withSelected (some n.id)) := by
  rcases create_outcome s type with ⟨why, refused⟩ | ⟨n, draws, new, created⟩
  · exact .inl ⟨why, by simp [add, refused]⟩
  · exact .inr ⟨n, draws, new, by simp [add, created]; rfl⟩

theorem add_child_outcome (s : Store) (parent type : String) :
    (∃ why, (addChild parent type).run s = .error why s) ∨
    (s.findGroup? parent = none ∧ (addChild parent type).run s = .ok none s) ∨
    ∃ group n draws, s.findGroup? parent = some group ∧ New s type n draws ∧
      (addChild parent type).run s = .ok (some n) ((((s.withDraws draws).issue [n.id]).withNodes
        ((Node.changeChildren parent (· ++ [n]) s.nodes).getD s.nodes)).withSelected (some n.id)) := by
  cases found : s.findGroup? parent with
  | none => exact .inr (.inl ⟨rfl, by simp [addChild, found]⟩)
  | some group =>
      rcases create_outcome s type with ⟨why, refused⟩ | ⟨n, draws, new, created⟩
      · exact .inl ⟨why, by simp [addChild, found, refused]⟩
      · exact .inr (.inr ⟨group, n, draws, rfl, new, by simp [addChild, found, created]; rfl⟩)

theorem update_run (s : Store) (id : String) (patch : Keyed Value) (old new : Node) (found : s.find? id = some old)
    (allowed : checkPatch old patch = .ok ()) (read : patched old patch = .ok new) :
    (update id patch).run s = match s.checkReplacement old new with
      | .error why => .error why s
      | .ok () => .ok (some new) (((s.withNodes ((Node.replace? s.nodes id fun _ => [new]).getD s.nodes)).issue
          new.ids).withSelected (s.followed old new)) := by
  cases fits : s.checkReplacement old new with
  | error why => simp [update, found, allowed, read, fits]
  | ok _ =>
      simp [update, found, allowed, read, fits]
      rfl

theorem update_outcome (s : Store) (id : String) (patch : Keyed Value) :
    (∃ why, (update id patch).run s = .error why s) ∨
    (s.find? id = none ∧ (update id patch).run s = .ok none s) ∨
    ∃ old new, s.find? id = some old ∧ checkPatch old patch = .ok () ∧ patched old patch = .ok new ∧
      s.checkReplacement old new = .ok () ∧
      (update id patch).run s = .ok (some new) (((s.withNodes ((Node.replace? s.nodes id fun _ => [new]).getD s.nodes)).issue
        new.ids).withSelected (s.followed old new)) := by
  cases found : s.find? id with
  | none => exact .inr (.inl ⟨rfl, by simp [update, found]⟩)
  | some old =>
      cases allowed : checkPatch old patch with
      | error why => exact .inl ⟨why, by simp [update, found, allowed]⟩
      | ok _ =>
          cases read : patched old patch with
          | error faults => exact .inl ⟨.invalid faults, by simp [update, found, allowed, read]⟩
          | ok new =>
              have ran := update_run s id patch old new found allowed read
              cases fits : s.checkReplacement old new with
              | error why => exact .inl ⟨why, by rw [ran, fits]⟩
              | ok _ => exact .inr (.inr ⟨old, new, rfl, allowed, read, fits, by rw [ran, fits]⟩)

theorem delete_outcome (s : Store) (id : String) :
    (s.find? id = none ∧ (delete id).run s = .ok none s) ∨
    ∃ removed, s.find? id = some removed ∧ (delete id).run s = .ok (some removed)
      ((s.withNodes ((Node.replace? s.nodes id fun _ => []).getD s.nodes)).detached removed) := by
  cases found : s.find? id with
  | none => exact .inl ⟨rfl, by simp [delete, found]⟩
  | some removed => exact .inr ⟨removed, rfl, by simp [delete, found]⟩

theorem remove_child_outcome (s : Store) (parent : String) (index : Int) :
    (removeChild parent index).run s = .ok none s ∨
    ∃ group i removed, s.findGroup? parent = some group ∧ itemAt group.children index = some (i, removed) ∧
      (removeChild parent index).run s = .ok (some removed)
        ((s.withNodes ((Node.changeChildren parent (·.eraseIdx i) s.nodes).getD s.nodes)).detached removed) := by
  cases found : s.findGroup? parent with
  | none => exact .inl (by simp [removeChild, found])
  | some group =>
      cases here : itemAt group.children index with
      | none => exact .inl (by simp [removeChild, found, here])
      | some item => exact .inr ⟨group, item.1, item.2, rfl, here, by simp [removeChild, found, here]⟩

theorem reorder_outcome (s : Store) (order : List OrderItem) :
    (∃ why, (reorder order).run s = .error why s) ∨
    (s.isOrder (order.map OrderItem.name) = true ∧ (reorder order).run s =
      .ok () (s.withNodes ((order.map OrderItem.name).filterMap (Keyed.value? s.rootIndex)))) := by
  by_cases fits : s.isOrder (order.map OrderItem.name) = true
  · exact .inr ⟨fits, by simp [reorder, fits]⟩
  · exact .inl ⟨.notAnOrder, by simp [reorder, fits]⟩

theorem list_or_ok (s : Store) (refusal : String → EditError) (parent : Option String) (items : List Node)
    (found : s.listOr refusal parent = .ok items) : Node.listAt? s.nodes parent = some items := by
  rw [listOr] at found
  split at found
  · rename_i same
    cases found
    exact same
  · cases found

-- What a move has found out when all its checks are done.
structure Movable (s : Store) (source target : Place) (i j : Nat) (item : Node) (origin goal : List Node) : Prop where
  listed : Node.listAt? s.nodes source.parent = some origin
  awaited : Node.listAt? s.nodes target.parent = some goal
  taken : itemAt origin source.index = some (i, item)
  room : Node.position? target.index (if source.parent = target.parent then goal.length else goal.length + 1) = some j
  outside : ∀ parent, target.parent = some parent → parent ∉ item.ids

theorem move_outcome (s : Store) (source target : PlaceInput) :
    (∃ why, (move source target).run s = .error why s) ∨
    ∃ sourcePlace targetPlace i j item origin goal, source.read = .ok sourcePlace ∧ target.read = .ok targetPlace ∧
      Movable s sourcePlace targetPlace i j item origin goal ∧
      (move source target).run s = .ok item ((s.lifted sourcePlace i).placed targetPlace j item) := by
  cases readSource : source.read with
  | error why => exact .inl ⟨why, by simp [move, readSource]⟩
  | ok sourcePlace =>
  cases readTarget : target.read with
  | error why => exact .inl ⟨why, by simp [move, readSource, readTarget]⟩
  | ok targetPlace =>
  cases origin : s.listOr .unknownSource sourcePlace.parent with
  | error why => exact .inl ⟨why, by simp [move, readSource, readTarget, origin]⟩
  | ok from_ =>
  cases goal : s.listOr .unknownTarget targetPlace.parent with
  | error why => exact .inl ⟨why, by simp [move, readSource, readTarget, origin, goal]⟩
  | ok to_ =>
  cases item : itemAt from_ sourcePlace.index with
  | none => exact .inl ⟨.sourceRange sourcePlace.index, by simp [move, readSource, readTarget, origin, goal, item]⟩
  | some found =>
  cases position : Node.position? targetPlace.index
      (if sourcePlace.parent = targetPlace.parent then to_.length else to_.length + 1) with
  | none => exact .inl ⟨.targetRange targetPlace.index, by
      simp [move, readSource, readTarget, origin, goal, item, position]⟩
  | some j =>
  by_cases inside : targetPlace.parent.any found.2.ids.contains = true
  · exact .inl ⟨.intoItself, by simp [move, readSource, readTarget, origin, goal, item, position, inside]⟩
  · refine .inr ⟨sourcePlace, targetPlace, found.1, j, found.2, from_, to_, rfl, rfl, ⟨list_or_ok _ _ _ _ origin,
      list_or_ok _ _ _ _ goal, item, position, fun parent named member => inside ?_⟩, ?_⟩
    · simp [named, member]
    · simp [move, readSource, readTarget, origin, goal, item, position, inside]

theorem select_outcome (s : Store) (id : Option String) :
    (∃ why, (select id).run s = .error why s) ∨
    ((∀ name, id = some name → (s.find? name).isSome) ∧ (select id).run s = .ok () (s.withSelected id)) := by
  cases id with
  | none => exact .inr ⟨by simp, rfl⟩
  | some name =>
      by_cases found : (s.find? name).isSome = true
      · exact .inr ⟨fun _ same => Option.some.inj same ▸ found, by simp [select, found]⟩
      · exact .inl ⟨.unknownSelection name, by simp [select, found]⟩

theorem load_outcome (s : Store) (form : Form) :
    (∃ why, (load form).run s = .error why s) ∨
    (checkTree form.nodes = .ok () ∧
      (load form).run s = .ok form (((s.withForm form).withSelected none).issue (Node.idsOf form.nodes))) := by
  cases fits : checkTree form.nodes with
  | error why => exact .inl ⟨why, by simp [load, fits]⟩
  | ok _ => exact .inr ⟨rfl, by simp [load, fits]⟩

theorem load_value_outcome (s : Store) (origin : Origin) (v : Value) :
    (∃ why, (loadValue origin v).run s = .error why s) ∨
    ∃ form, Form.read origin v = .ok form ∧ (loadValue origin v).run s = (load form).run s := by
  cases read : Form.read origin v with
  | error faults => exact .inl ⟨.invalid origin faults, by simp [loadValue, read]⟩
  | ok form => exact .inr ⟨form, rfl, by simp [loadValue, read]⟩

theorem load_text_outcome (s : Store) (text : Json.Source) :
    (∃ why, (loadText text).run s = .error why s) ∨
    ∃ v, Json.readDocument documentLimits text = .ok v ∧ (loadText text).run s = (loadValue .document v).run s := by
  cases read : Json.readDocument documentLimits text with
  | error failure => exact .inl ⟨.unreadable text failure, by simp [loadText, read]⟩
  | ok v => exact .inr ⟨v, rfl, by simp [loadText, read]⟩

end FormEngine.Store
