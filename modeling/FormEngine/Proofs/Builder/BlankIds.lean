import FormEngine.Proofs.Builder.Arrivals
import Mathlib.Data.List.Induction

set_option autoImplicit false

namespace FormEngine

theorem candidate_named (d : Draws) (word : String) : d.candidate word ≠ "" := by
  intro blank
  have letters := congrArg String.toList blank
  simp [Draws.candidate] at letters

namespace Store

theorem new_named {s : Store} {type : String} {n : Node} {draws : Draws} (new : New s type n draws) : n.id ≠ "" := by
  have named (word id : String) (drawn : s.draws.fresh (s.issued ++ s.ids) word = some (id, draws)) : id ≠ "" := by
    obtain ⟨_, _, _, _, rfl, _⟩ := (Draws.first_free_iff _ word _ s.draws draws id).mp drawn
    exact candidate_named _ word
  cases new with
  | group id _ _ drawn => exact named _ id drawn
  | field kind id _ _ drawn => exact named _ id drawn

theorem mem_ids_iff (n : Node) (id : String) : id ∈ n.ids ↔ id = n.id ∨ id ∈ Node.idsOf n.children := by
  cases n with
  | field f => simp [Node.children, Node.id, Node.basics]
  | group g children => simp [Node.children, Node.id, Node.basics]

-- All ids of the node that an update leads to are in the tree afterwards.
theorem updated_inside (s : Store) (id : String) (patch : Keyed Value) (n : Node)
    (told : told? s (.update id patch) = some n) : ∀ member ∈ n.ids, member ∈ (step s (.update id patch)).ids := by
  rw [told?] at told
  rcases changing_outcome s id patch with ⟨why, refused⟩ | nothing | ⟨old, m, rest, next, ran, _, _, after, _⟩
  · rw [refused] at told
    cases told
  · rw [nothing] at told
    cases told
  · rw [ran] at told
    cases told
    rw [step_of_ok ran]
    exact fun member inside => after.mem_iff.mpr (List.mem_append.mpr (.inl inside))

def BlankInside (s : Store) (op : Op) : Prop :=
  ∃ id patch n, op = .update id patch ∧ told? s op = some n ∧ "" ∈ Node.idsOf n.children

theorem step_blank_iff (s : Store) (op : Op) (sound : Sound s) (clean : "" ∉ s.ids) :
    "" ∈ (step s op).ids ↔ BlankInside s op := by
  constructor
  · intro blank
    cases step_arrival s op sound with
    | nothing ids _ => exact absurd (ids _ blank) clean
    | made type n draws _ new ids _ =>
        rcases ids _ blank with old | same
        · exact absurd old clean
        · exact absurd same.symm (new_named new)
    | changed wanted patch n which told named ids _ =>
        rcases ids _ blank with old | inside
        · exact absurd old clean
        · rcases (mem_ids_iff n "").mp inside with same | below
          · exact absurd same.symm named
          · exact ⟨wanted, patch, n, which, told, below⟩
    | loaded form fits ids _ =>
        rw [ids] at blank
        exact absurd blank ((check_tree_ok_iff _).mp fits).named
  · rintro ⟨id, patch, n, rfl, told, below⟩
    exact updated_inside s id patch n told "" ((mem_ids_iff n "").mpr (.inr below))

-- The trees of a run have ids throughout as long as no update brings in a node without one.
theorem clean_iff_no_blank_inside (title : String) (script : List Char) (ops : List Op) :
    (∀ first rest, ops = first ++ rest → "" ∉ ((Store.new title script).run first).ids) ↔
    ∀ first op rest, ops = first ++ op :: rest → ¬ BlankInside ((Store.new title script).run first) op := by
  have sound (before : List Op) : Sound ((Store.new title script).run before) :=
    run_sound _ before (sound_new title script)
  constructor
  · intro clean first op rest split brought
    have before := clean first (op :: rest) split
    have after := clean (first ++ [op]) rest (by rw [split, List.append_assoc, List.singleton_append])
    rw [run_append] at after
    exact after ((step_blank_iff _ op (sound first) before).mpr brought)
  · intro quiet first
    induction first using List.reverseRecOn with
    | nil => exact fun _ _ => List.not_mem_nil
    | append_singleton before op ih =>
        intro rest split
        rw [List.append_assoc, List.singleton_append] at split
        have clean := ih (op :: rest) split
        rw [run_append]
        exact fun blank => quiet before op rest split ((step_blank_iff _ op (sound before) clean).mp blank)

def blankChild : List Op :=
  [.add "group", .update "grp_aaaaaaa" [("children", .list [.object [("id", .text ""), ("type", .text "text")]])]]

theorem blank_child_accepted :
    "" ∈ ((Store.new "Start" []).run blankChild).ids ∧
    checkTree ((Store.new "Start" []).run blankChild).nodes = .error .blankId := by
  refine ⟨by decide +kernel, rfl⟩

end Store

end FormEngine
