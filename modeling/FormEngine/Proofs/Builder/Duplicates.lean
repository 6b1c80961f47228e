import FormEngine.Proofs.Builder.Patched

set_option autoImplicit false

namespace FormEngine

namespace Node

theorem exchanged_ids {old new : Node} {before after : List Node} (exchanged : old.Exchanged new before after) :
    ∃ rest, (idsOf before).Perm (old.ids ++ rest) ∧ (idsOf after).Perm (new.ids ++ rest) := by
  obtain ⟨hole, above, below, rfl, rfl⟩ := exchanged
  refine ⟨idsOf (hole.fill (above ++ below)), ?_, ?_⟩
  · simpa using perm_ids_between hole above [old] below
  · simpa using perm_ids_between hole above [new] below

-- What is left of the tree is apart from the old node, so that an id of the tree is either there or in the old node.
theorem exchanged_nodup_iff {old new : Node} {before after : List Node} (exchanged : old.Exchanged new before after)
    (distinct : (idsOf before).Nodup) :
    (idsOf after).Nodup ↔ new.ids.Nodup ∧ ∀ id ∈ new.ids, id ∈ idsOf before → id ∈ old.ids := by
  obtain ⟨rest, was, is⟩ := exchanged_ids exchanged
  obtain ⟨_, single, apart⟩ := List.nodup_append.mp (was.nodup_iff.mp distinct)
  rw [is.nodup_iff, List.nodup_append]
  constructor
  · rintro ⟨alone, _, fresh⟩
    refine ⟨alone, fun id arrived known => ?_⟩
    rcases List.mem_append.mp (was.mem_iff.mp known) with replaced | stays
    · exact replaced
    · exact absurd rfl (fresh id arrived id stays)
  · rintro ⟨alone, known⟩
    refine ⟨alone, single, fun id arrived other stays same => ?_⟩
    subst same
    have replaced := known id arrived (was.mem_iff.mpr (List.mem_append_right _ stays))
    exact apart id replaced id stays rfl

theorem exchanged_iff_replaced {old new : Node} {before tree : List Node} (distinct : (idsOf before).Nodup)
    (here : old ∈ nodesOf before) :
    old.Exchanged new before tree ↔ replace? before old.id (fun _ => [new]) = some tree := by
  constructor
  · rintro ⟨hole, above, below, rfl, rfl⟩
    exact replace_filled hole above below old _ distinct
  · intro replaced
    obtain ⟨hole, above, below, split, result⟩ := replace_found before old.id old (find_here before distinct old here)
    rw [result, Option.some.injEq] at replaced
    exact ⟨hole, above, below, split, replaced.symm⟩

end Node

namespace Store

theorem duplicate_refused_iff (s : Store) (old new : Node) (patch : Keyed Value) (distinct : s.ids.Nodup)
    (here : old ∈ Node.nodesOf s.nodes) (allowed : checkPatch old patch = .ok ()) (read : patched old patch = .ok new)
    (named : new.id ≠ "") :
    ∃ after, (∀ tree, old.Exchanged new s.nodes tree ↔ tree = after) ∧
      ((update old.id patch).run s = .error (.duplicateId old.id) s ↔ ¬ (Node.idsOf after).Nodup) ∧
      ((Node.idsOf after).Nodup → ∃ left, (update old.id patch).run s = .ok (some new) left ∧ left.nodes = after) := by
  have found := Node.find_here s.nodes distinct old here
  obtain ⟨hole, above, below, split, result⟩ := Node.replace_found s.nodes old.id old found
  have replaced := result fun _ => [new]
  have exchanged := (Node.exchanged_iff_replaced distinct here).mpr replaced
  have fits := Node.exchanged_nodup_iff exchanged distinct
  have ran := update_run s old.id patch old new found allowed read
  rw [check_replacement_eq, if_neg named, replaced, Option.getD_some] at ran
  refine ⟨hole.fill (above ++ [new] ++ below), fun tree => ?_, ?_⟩
  · rw [Node.exchanged_iff_replaced distinct here, replaced, Option.some.injEq, eq_comm]
  · by_cases clear : new.ids.Nodup ∧ ∀ id ∈ new.ids, id ∈ s.ids → id ∈ old.ids
    · rw [if_pos clear] at ran
      refine ⟨⟨fun refused => ?_, fun repeats => absurd (fits.mpr clear) repeats⟩, fun _ => ⟨_, ran, rfl⟩⟩
      cases ran.symm.trans refused
    · rw [if_neg clear] at ran
      exact ⟨⟨fun _ single => clear (fits.mp single), fun _ => ran⟩, fun single => absurd (fits.mp single) clear⟩

def groupAndNote : Store :=
  (Store.new "Start" []).run
    [.load ⟨"Ids", [.group (Group.create "g") [.field (Field.create "f" .text)], .field (Field.create "note" .text)]⟩]

def turningPatch (id : String) : Keyed Value :=
  [("id", .text id), ("children", .list [.object [("id", .text "g"), ("type", .text "text")]])]

def turned (id : String) : Node :=
  .group { Group.create "g" with id := id }
    [.field { Field.create "g" .text with label := "", placeholder := none, rules := none }]

theorem turned_ids_accepted :
    (∃ left, (update "g" (turningPatch "f")).run groupAndNote = .ok (some (turned "f")) left ∧
      left.nodes = [turned "f", .field (Field.create "note" .text)]) ∧
    (update "g" (turningPatch "note")).run groupAndNote = .error (.duplicateId "g") groupAndNote := by
  have settled (id : String) (named : id ≠ "") := duplicate_refused_iff groupAndNote
    (.group (Group.create "g") [.field (Field.create "f" .text)]) (turned id) (turningPatch id) (by decide)
    List.mem_cons_self rfl rfl named
  have placed (id : String) : (Node.group (Group.create "g") [.field (Field.create "f" .text)]).Exchanged (turned id)
      groupAndNote.nodes [turned id, .field (Field.create "note" .text)] :=
    ⟨.root, [], [.field (Field.create "note" .text)], rfl, rfl⟩
  constructor
  · obtain ⟨after, only, _, accepted⟩ := settled "f" (by decide)
    obtain rfl := (only _).mp (placed "f")
    exact accepted (by decide)
  · obtain ⟨after, only, refused, _⟩ := settled "note" (by decide)
    obtain rfl := (only _).mp (placed "note")
    exact refused.mpr (by decide)

end Store

end FormEngine
