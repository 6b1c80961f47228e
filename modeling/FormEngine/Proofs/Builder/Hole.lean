import FormEngine.Builder.Tree
import FormEngine.Proofs.Forest

set_option autoImplicit false

namespace FormEngine

-- The innermost list of a hole is left open; the lists and groups around it are kept.
inductive Hole where
  | root
  | inside (before : List Node) (g : Group) (hole : Hole) (after : List Node)

namespace Hole

def fill : Hole → List Node → List Node
  | .root, items => items
  | .inside before g hole after, items => before ++ .group g (hole.fill items) :: after

def idsBefore : Hole → List String
  | .root => []
  | .inside before g hole _ => Node.idsOf before ++ g.id :: hole.idsBefore

def idsAfter : Hole → List String
  | .root => []
  | .inside _ _ hole after => hole.idsAfter ++ Node.idsOf after

@[simp] theorem ids_fill (hole : Hole) (items : List Node) :
    Node.idsOf (hole.fill items) = hole.idsBefore ++ Node.idsOf items ++ hole.idsAfter := by
  induction hole with
  | root => simp [fill, idsBefore, idsAfter]
  | inside before g hole after ih => simp [fill, idsBefore, idsAfter, ih]

def enter (hole : Hole) (before : List Node) (g : Group) (after : List Node) : Hole :=
  match hole with
  | .root => .inside before g .root after
  | .inside outer o inner rest => .inside outer o (inner.enter before g after) rest

theorem fill_enter (hole : Hole) (before : List Node) (g : Group) (after items : List Node) :
    (hole.enter before g after).fill items = hole.fill (before ++ [.group g items] ++ after) := by
  induction hole with
  | root => simp [enter, fill]
  | inside outer o inner rest ih => simp only [enter, fill, ih]

def owner (around : Option String) : Hole → Option String
  | .root => around
  | .inside _ g hole _ => hole.owner (some g.id)

theorem owner_enter (hole : Hole) (before : List Node) (g : Group) (after : List Node) (around : Option String) :
    (hole.enter before g after).owner around = some g.id := by
  induction hole generalizing around with
  | root => rfl
  | inside outer o inner rest ih => exact ih (some o.id)

theorem cons_fill (n : Node) (hole : Hole) (before after : List Node) :
    ∃ (wider : Hole) (sooner : List Node), ∀ items,
      n :: hole.fill (before ++ items ++ after) = wider.fill (sooner ++ items ++ after) := by
  cases hole with
  | root => exact ⟨.root, n :: before, fun _ => rfl⟩
  | inside outer g inner rest => exact ⟨.inside (n :: outer) g inner rest, before, fun _ => rfl⟩

theorem cons_fill_inside (n : Node) (hole : Hole) (inside : hole ≠ .root) :
    ∃ wider : Hole, wider ≠ .root ∧ ∀ items, n :: hole.fill items = wider.fill items := by
  cases hole with
  | root => exact absurd rfl inside
  | inside outer g inner rest => exact ⟨.inside (n :: outer) g inner rest, nofun, fun _ => rfl⟩

end Hole

namespace Node

theorem replace_here_missing (id : String) (nodes : List Node) (missing : nodes.find? (·.id == id) = none)
    (change : Node → List Node) : replaceHere id change nodes = none := by
  induction nodes with
  | nil => rfl
  | cons n rest ih =>
      have different : n.id ≠ id := by
        intro same
        simp [same] at missing
      have later : rest.find? (·.id == id) = none := by simpa [different] using missing
      simp only [replaceHere, if_neg different, ih later, Option.map_none]

theorem locate_here_missing (id : String) (nodes : List Node) (missing : nodes.find? (·.id == id) = none) :
    locateHere id nodes = none := by
  rw [locateHere, List.findIdx?_eq_none_iff.mpr (by simpa using missing)]
  rfl

theorem replace_here_found (id : String) (nodes : List Node) (old : Node)
    (found : nodes.find? (·.id == id) = some old) :
    ∃ before after, nodes = before ++ [old] ++ after ∧ locateHere id nodes = some (nodes, before.length) ∧
      ∀ change, replaceHere id change nodes = some (before ++ change old ++ after) := by
  induction nodes with
  | nil => simp at found
  | cons n rest ih =>
      by_cases same : n.id = id
      · have head : n = old := by simpa [same] using found
        subst head
        exact ⟨[], rest, rfl, by simp [locateHere, List.findIdx?_cons, same], fun change => by simp [replaceHere, same]⟩
      · have later : rest.find? (·.id == id) = some old := by simpa [same] using found
        obtain ⟨before, after, split, located, replaced⟩ := ih later
        have index : rest.findIdx? (·.id == id) = some before.length := by simpa [locateHere] using located
        exact ⟨n :: before, after, by simp [split], by simp [locateHere, List.findIdx?_cons, same, index],
          fun change => by simp [replaceHere, same, replaced]⟩

theorem locate_inside_missing (id : String) (nodes : List Node) (missing : findInside id nodes = none) :
    locateInside id nodes = none := by
  fun_induction findInside id nodes with
  | case1 => rw [locateInside]
  | case2 f rest ih => rw [locateInside, ih missing]
  | case3 => cases missing
  | case4 => cases missing
  | case5 g children rest here inside ihInside ihRest =>
      rw [locateInside, locate_here_missing id children here, ihInside inside, ihRest missing]

theorem replace_inside_missing (id : String) (nodes : List Node) (missing : findInside id nodes = none)
    (change : Node → List Node) : replaceInside id change nodes = none := by
  fun_induction findInside id nodes with
  | case1 => simp [replaceInside]
  | case2 f rest ih => simp [replaceInside, ih missing]
  | case3 => cases missing
  | case4 => cases missing
  | case5 g children rest here inside ihInside ihRest =>
      simp [replaceInside, replace_here_missing id children here change, ihInside inside, ihRest missing]

theorem replace_inside_found (id : String) (nodes : List Node) (old : Node) (found : findInside id nodes = some old) :
    ∃ (hole : Hole) (before after : List Node), hole ≠ .root ∧ nodes = hole.fill (before ++ [old] ++ after) ∧
      locateInside id nodes = some (before ++ [old] ++ after, before.length) ∧
      ∀ change, replaceInside id change nodes = some (hole.fill (before ++ change old ++ after)) := by
  fun_induction findInside id nodes with
  | case1 => cases found
  | case2 f rest ih =>
      obtain ⟨hole, before, after, inside, split, located, replaced⟩ := ih found
      obtain ⟨wider, deep, same⟩ := Hole.cons_fill_inside (.field f) hole inside
      exact ⟨wider, before, after, deep, by rw [split, same], by rw [locateInside, located], fun change => by
        rw [replaceInside, replaced, Option.map_some, same]⟩
  | case3 g children rest child here =>
      cases found
      obtain ⟨before, after, split, located, replaced⟩ := replace_here_found id children old here
      refine ⟨.inside [] g .root rest, before, after, nofun, by rw [split]; rfl, ?_,
        fun change => by simp [replaceInside, replaced, Hole.fill]⟩
      rw [locateInside, located, ← split]
  | case4 g children rest here child inside ih =>
      cases found
      obtain ⟨hole, before, after, _, split, located, replaced⟩ := ih inside
      refine ⟨.inside [] g hole rest, before, after, nofun, by rw [split]; rfl, ?_,
        fun change => by simp [replaceInside, replace_here_missing id children here, replaced, Hole.fill]⟩
      rw [locateInside, locate_here_missing id children here, located]
  | case5 g children rest here missing _ ih =>
      obtain ⟨hole, before, after, inside, split, located, replaced⟩ := ih found
      obtain ⟨wider, deep, same⟩ := Hole.cons_fill_inside (.group g children) hole inside
      refine ⟨wider, before, after, deep, by rw [split, same], ?_, fun change => by
        simp only [replaceInside, replace_here_missing id children here, replace_inside_missing id children missing,
          replaced, Option.map_some, same]⟩
      rw [locateInside, locate_here_missing id children here, locate_inside_missing id children missing, located]

theorem locate_missing (nodes : List Node) (id : String) (missing : find? nodes id = none) : locate? nodes id = none := by
  rw [find?] at missing
  split at missing
  · cases missing
  · rename_i roots
    rw [locate?, locate_here_missing id nodes roots, locate_inside_missing id nodes missing]

-- The node that a search finds stands in the place that a search tells, and a change takes hold of it there.
theorem locate_found (nodes : List Node) (id : String) (old : Node) (found : find? nodes id = some old) :
    ∃ (hole : Hole) (before after : List Node), nodes = hole.fill (before ++ [old] ++ after) ∧
      locate? nodes id = some (before ++ [old] ++ after, before.length) ∧
      ∀ change, replace? nodes id change = some (hole.fill (before ++ change old ++ after)) := by
  rw [find?] at found
  split at found
  · rename_i child here
    cases found
    obtain ⟨before, after, split, located, replaced⟩ := replace_here_found id nodes old here
    refine ⟨.root, before, after, split, ?_, fun change => by simp [replace?, replaced, Hole.fill]⟩
    rw [locate?, located, ← split]
  · rename_i here
    obtain ⟨hole, before, after, _, split, located, replaced⟩ := replace_inside_found id nodes old found
    refine ⟨hole, before, after, split, ?_, fun change => by
      simp [replace?, replace_here_missing id nodes here, replaced]⟩
    rw [locate?, locate_here_missing id nodes here, located]

theorem replace_found (nodes : List Node) (id : String) (old : Node) (found : find? nodes id = some old) :
    ∃ (hole : Hole) (before after : List Node), nodes = hole.fill (before ++ [old] ++ after) ∧
      ∀ change, replace? nodes id change = some (hole.fill (before ++ change old ++ after)) := by
  obtain ⟨hole, before, after, split, _, replaced⟩ := locate_found nodes id old found
  exact ⟨hole, before, after, split, replaced⟩

theorem find_inside_id (id : String) (nodes : List Node) (old : Node) (found : findInside id nodes = some old) :
    old.id = id := by
  fun_induction findInside id nodes with
  | case1 => cases found
  | case2 f rest ih => exact ih found
  | case3 g children rest child here =>
      cases found
      simpa using List.find?_some here
  | case4 g children rest here child inside ih =>
      cases found
      exact ih inside
  | case5 g children rest here inside _ ih => exact ih found

theorem find_id (nodes : List Node) (id : String) (old : Node) (found : find? nodes id = some old) : old.id = id := by
  rw [find?] at found
  split at found
  · rename_i child here
    cases found
    simpa using List.find?_some here
  · exact find_inside_id id nodes old found

theorem find_mem_ids (nodes : List Node) (id : String) (old : Node) (found : find? nodes id = some old) :
    id ∈ idsOf nodes := by
  obtain ⟨hole, before, after, split, _⟩ := replace_found nodes id old found
  have named := find_id nodes id old found
  simp [split, ← named, id_mem_ids]

theorem replace_missing (id : String) (nodes : List Node) (outside : id ∉ idsOf nodes) (change : Node → List Node) :
    replaceHere id change nodes = none ∧ replaceInside id change nodes = none := by
  have unseen : find? nodes id = none := Option.eq_none_iff_forall_ne_some.mpr fun found search =>
    outside (find_mem_ids nodes id found search)
  rw [find?] at unseen
  split at unseen
  · cases unseen
  · rename_i roots
    exact ⟨replace_here_missing id nodes roots change, replace_inside_missing id nodes unseen change⟩

theorem replace_inside_group (id : String) (change : Node → List Node) (g : Group) (children rest : List Node) :
    replaceInside id change (.group g children :: rest) = match replace? children id change with
      | some changed => some (.group g changed :: rest)
      | none => (replaceInside id change rest).map (.group g children :: ·) := by
  rw [replaceInside, replace?]
  cases replaceHere id change children <;> rfl

theorem replace_here_after (id : String) (before rest : List Node) (outside : id ∉ idsOf before)
    (change : Node → List Node) :
    replaceHere id change (before ++ rest) = (replaceHere id change rest).map (before ++ ·) := by
  induction before with
  | nil => simp
  | cons n before ih =>
      rw [ids_of_cons, List.mem_append, not_or] at outside
      have other : n.id ≠ id := fun same => outside.1 (same ▸ id_mem_ids n)
      rw [List.cons_append, replaceHere, if_neg other, ih outside.2, Option.map_map]
      rfl

theorem replace_inside_after (id : String) (before rest : List Node) (outside : id ∉ idsOf before)
    (change : Node → List Node) :
    replaceInside id change (before ++ rest) = (replaceInside id change rest).map (before ++ ·) := by
  induction before with
  | nil => simp
  | cons n before ih =>
      rw [ids_of_cons, List.mem_append, not_or] at outside
      have later := ih outside.2
      cases n with
      | field f =>
          rw [List.cons_append, replaceInside, later, Option.map_map]
          rfl
      | group g children =>
          rw [ids_group, List.mem_cons, not_or] at outside
          obtain ⟨here, inside⟩ := replace_missing id children outside.1.2 change
          have passed : replace? children id change = none := by rw [replace?, here, inside]
          rw [List.cons_append, replace_inside_group, passed, later, Option.map_map]
          rfl

theorem replace_below (id : String) (change : Node → List Node) (before after children changed : List Node) (g : Group)
    (distinct : (idsOf (before ++ .group g children :: after)).Nodup) (here : id ∈ idsOf children)
    (found : replace? children id change = some changed) :
    replace? (before ++ .group g children :: after) id change = some (before ++ .group g changed :: after) := by
  rw [ids_of_append, ids_of_cons, ids_group] at distinct
  obtain ⟨_, later, sooner⟩ := List.nodup_append.mp distinct
  obtain ⟨inner, _, across⟩ := List.nodup_append.mp later
  have inside : id ∈ g.id :: idsOf children := List.mem_cons_of_mem g.id here
  have outside : id ∉ idsOf before := fun member => sooner id member id (List.mem_append_left _ inside) rfl
  have beyond : id ∉ idsOf after := fun member => across id inside id member rfl
  have other : ¬ (Node.group g children).id = id := by
    rintro rfl
    exact (List.nodup_cons.mp inner).1 here
  have roots : replaceHere id change (before ++ .group g children :: after) = none := by
    rw [replace_here_after id before _ outside, replaceHere, if_neg other, (replace_missing id after beyond change).1]
    rfl
  rw [replace?, roots]
  dsimp only
  rw [replace_inside_after id before _ outside, replace_inside_group, found]
  rfl

theorem replace_filled (hole : Hole) (above below : List Node) (old : Node) (change : Node → List Node)
    (distinct : (idsOf (hole.fill (above ++ [old] ++ below))).Nodup) :
    replace? (hole.fill (above ++ [old] ++ below)) old.id change = some (hole.fill (above ++ change old ++ below)) := by
  induction hole with
  | root =>
      have outside : old.id ∉ idsOf above := by
        rw [Hole.fill, ids_of_append, ids_of_append, ids_of_cons, List.append_assoc] at distinct
        exact fun sooner => (List.nodup_append.mp distinct).2.2 _ sooner _ (by simp [id_mem_ids]) rfl
      rw [Hole.fill, Hole.fill, replace?, List.append_assoc, replace_here_after old.id above _ outside]
      simp [replaceHere]
  | inside before g hole after ih =>
      have here : old.id ∈ idsOf (hole.fill (above ++ [old] ++ below)) := by simp [id_mem_ids]
      rw [Hole.fill] at distinct ⊢
      have inner : (idsOf (hole.fill (above ++ [old] ++ below))).Nodup := by
        rw [ids_of_append, ids_of_cons, ids_group] at distinct
        exact (List.nodup_cons.mp (List.nodup_append.mp (List.nodup_append.mp distinct).2.1).1).2
      exact replace_below old.id change before after _ _ g distinct here (ih inner)

theorem find_group_cons (id : String) (n : Node) (rest : List Node) :
    findGroup? (n :: rest) id = (n.nodes.find? fun m => m.isGroup && m.id == id).or (findGroup? rest id) := by
  simp [findGroup?, nodesOf, List.find?_append]

theorem find_group_field (id : String) (f : Field) (rest : List Node) :
    findGroup? (.field f :: rest) id = findGroup? rest id := by
  simp [find_group_cons, nodes, isGroup]

theorem find_group_group (id : String) (g : Group) (children rest : List Node) :
    findGroup? (.group g children :: rest) id =
      if g.id = id then some (.group g children) else (findGroup? children id).or (findGroup? rest id) := by
  rw [find_group_cons]
  by_cases same : g.id = id
  · simp [nodes, isGroup, Node.id, basics, same]
  · simp [nodes, isGroup, Node.id, basics, same, findGroup?]

theorem change_children_missing (id : String) (change : List Node → List Node) (nodes : List Node)
    (missing : findGroup? nodes id = none) : changeChildren id change nodes = none := by
  fun_induction changeChildren id change nodes with
  | case1 => rfl
  | case2 f rest ih =>
      rw [find_group_field] at missing
      rw [ih missing, Option.map_none]
  | case3 g children rest same => simp [find_group_group, same] at missing
  | case4 g children rest different changed inside ih =>
      simp only [find_group_group, if_neg different, Option.or_eq_none_iff] at missing
      rw [ih missing.1] at inside
      cases inside
  | case5 g children rest different inside _ ih =>
      simp only [find_group_group, if_neg different, Option.or_eq_none_iff] at missing
      rw [ih missing.2, Option.map_none]

-- The group that a search finds is the one whose children a change takes hold of.
theorem change_children_found (id : String) (nodes : List Node) (found : Node)
    (search : findGroup? nodes id = some found) :
    ∃ (hole : Hole) (before : List Node) (g : Group) (after : List Node), g.id = id ∧ found = .group g found.children ∧
      nodes = hole.fill (before ++ [found] ++ after) ∧
      ∀ change, changeChildren id change nodes = some (hole.fill (before ++ [.group g (change found.children)] ++ after)) := by
  induction nodes using forest_induction with
  | nil => simp [findGroup?, nodesOf] at search
  | field f rest ih =>
      rw [find_group_field] at search
      obtain ⟨hole, before, g, after, named, shape, split, changed⟩ := ih search
      obtain ⟨wider, sooner, same⟩ := Hole.cons_fill (.field f) hole before after
      exact ⟨wider, sooner, g, after, named, shape, by rw [split, same], fun change => by
        rw [changeChildren, changed, Option.map_some, same]⟩
  | group g children rest ihChildren ihRest =>
      by_cases here : g.id = id
      · simp only [find_group_group, if_pos here, Option.some.injEq] at search
        subst search
        exact ⟨.root, [], g, rest, here, rfl, rfl, fun change => by simp [changeChildren, here, Hole.fill, Node.children]⟩
      · cases inside : findGroup? children id with
        | some child =>
            simp only [find_group_group, if_neg here, inside, Option.some_or, Option.some.injEq] at search
            subst search
            obtain ⟨hole, before, g', after, named, shape, split, changed⟩ := ihChildren inside
            exact ⟨.inside [] g hole rest, before, g', after, named, shape, by rw [split]; rfl, fun change => by
              simp only [changeChildren, if_neg here, changed, Hole.fill, List.nil_append]⟩
        | none =>
            simp only [find_group_group, if_neg here, inside, Option.none_or] at search
            obtain ⟨hole, before, g', after, named, shape, split, changed⟩ := ihRest search
            obtain ⟨wider, sooner, same⟩ := Hole.cons_fill (.group g children) hole before after
            exact ⟨wider, sooner, g', after, named, shape, by rw [split, same], fun change => by
              simp only [changeChildren, if_neg here, change_children_missing id change children inside, changed,
                Option.map_some, same]⟩

theorem list_found (nodes : List Node) (parent : Option String) (items : List Node)
    (found : listAt? nodes parent = some items) :
    ∃ hole : Hole, hole.owner none = parent ∧ nodes = hole.fill items ∧
      ∀ change, changeList nodes parent change = some (hole.fill (change items)) := by
  cases parent with
  | none =>
      cases found
      exact ⟨.root, rfl, rfl, fun _ => rfl⟩
  | some id =>
      obtain ⟨group, search, rfl⟩ := Option.map_eq_some_iff.mp found
      obtain ⟨hole, before, g, after, named, shape, split, changed⟩ := change_children_found id nodes group search
      refine ⟨hole.enter before g after, ?_, ?_, fun change => ?_⟩
      · rw [Hole.owner_enter, named]
      · rw [Hole.fill_enter, ← shape, split]
      · rw [Hole.fill_enter]
        exact changed change

theorem find_inside_none (id : String) (nodes : List Node) (roots : nodes.find? (·.id == id) = none)
    (missing : findInside id nodes = none) : id ∉ idsOf nodes := by
  have apart {n : Node} {rest : List Node} (unseen : (n :: rest).find? (·.id == id) = none) :
      id ≠ n.id ∧ rest.find? (·.id == id) = none := by
    simp only [List.find?_eq_none, List.forall_mem_cons, beq_iff_eq] at unseen ⊢
    exact ⟨Ne.symm unseen.1, unseen.2⟩
  fun_induction findInside id nodes with
  | case1 => exact List.not_mem_nil
  | case2 f rest ih =>
      rw [ids_of_cons, ids_field, List.singleton_append, List.mem_cons, not_or]
      exact ⟨(apart roots).1, ih (apart roots).2 missing⟩
  | case3 => cases missing
  | case4 => cases missing
  | case5 g children rest here inside ihInside ihRest =>
      rw [ids_of_cons, ids_group, List.mem_append, List.mem_cons, not_or, not_or]
      exact ⟨⟨(apart roots).1, ihInside here inside⟩, ihRest (apart roots).2 missing⟩

theorem find_of_mem (nodes : List Node) (id : String) (member : id ∈ idsOf nodes) :
    ∃ found, find? nodes id = some found := by
  rw [← Option.isSome_iff_exists, Option.isSome_iff_ne_none]
  intro missing
  rw [find?] at missing
  split at missing
  · cases missing
  · rename_i roots
    exact find_inside_none id nodes roots missing member

end Node

end FormEngine
