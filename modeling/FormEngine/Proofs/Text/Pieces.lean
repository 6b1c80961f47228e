import FormEngine.Text.CharClass

set_option autoImplicit false

namespace FormEngine.Text

inductive Cuts (separator : List Char) : List Char → List (List Char) → Prop where
  | last (piece : List Char) (absent : ¬ separator <:+: piece) : Cuts separator piece [piece]
  | cut (piece rest : List Char) (pieces : List (List Char))
      (first : ∀ before after, piece ++ separator ++ rest = before ++ separator ++ after →
        piece.length ≤ before.length)
      (more : Cuts separator rest pieces) : Cuts separator (piece ++ separator ++ rest) (piece :: pieces)

section Cuts

variable {separator text : List Char}

theorem cuts_at_first {pieces : List (List Char)} {before after : List Char}
    (cuts : Cuts separator (before ++ separator ++ after) pieces)
    (first : ∀ earlier later, before ++ separator ++ after = earlier ++ separator ++ later →
      before.length ≤ earlier.length) : ∃ more, pieces = before :: more ∧ Cuts separator after more := by
  generalize same : before ++ separator ++ after = text at cuts
  cases cuts with
  | last piece absent => exact absurd ⟨before, after, same⟩ absent
  | cut piece rest pieces first' more =>
      have size : before.length = piece.length :=
        Nat.le_antisymm (first piece rest same) (first' before after same.symm)
      rw [List.append_assoc, List.append_assoc] at same
      obtain ⟨rfl, tail⟩ := List.append_inj same size
      rw [List.append_cancel_left tail]
      exact ⟨pieces, rfl, more⟩

theorem Cuts.unique {pieces others : List (List Char)} (cuts : Cuts separator text pieces)
    (cuts' : Cuts separator text others) : pieces = others := by
  induction cuts generalizing others with
  | last piece absent =>
      cases cuts' with
      | last _ _ => rfl
      | cut before after more _ _ => exact absurd ⟨before, after, rfl⟩ absent
  | cut piece rest pieces first more ih =>
      obtain ⟨later, rfl, tail⟩ := cuts_at_first cuts' first
      rw [ih tail]

-- The search for the separator goes from left to right: `piece` holds, in reverse, what was passed since the last
-- occurrence, and none begins inside it.
theorem pieces_on_cuts (filled : separator ≠ []) (skip : Nat) (piece : List Char)
    (passed : ∀ before after, piece.reverse ++ text.drop skip = before ++ separator ++ after →
      piece.length ≤ before.length) :
    Cuts separator (piece.reverse ++ text.drop skip) (piecesOn separator skip piece text) := by
  fun_induction piecesOn separator skip piece text with
  | case1 skip piece =>
      rw [List.drop_nil, List.append_nil] at passed ⊢
      refine .last _ ?_
      rintro ⟨before, after, same⟩
      have within := passed before after same.symm
      have sizes := congrArg List.length same
      simp only [List.length_append, List.length_reverse] at sizes
      have some := List.length_pos_iff.mpr filled
      omega
  | case2 skip piece c rest ih => exact ih passed
  | case3 piece c rest found ih =>
      obtain ⟨after, split⟩ := List.isPrefixOf_iff_prefix.mp found
      have remaining : rest.drop (separator.length - 1) = after := by
        cases separator with
        | nil => exact absurd rfl filled
        | cons mark more =>
            rw [← (List.cons.inj split).2]
            exact List.drop_left
      have whole : piece.reverse ++ (c :: rest).drop 0 = piece.reverse ++ separator ++ after := by
        rw [List.drop_zero, ← split, List.append_assoc]
      rw [whole] at passed ⊢
      refine .cut _ _ _ (by simpa only [List.length_reverse] using passed) ?_
      have more := ih fun _ _ _ => Nat.zero_le _
      rwa [List.reverse_nil, List.nil_append, remaining] at more
  | case4 piece c rest absent ih =>
      have shifted : piece.reverse ++ (c :: rest).drop 0 = (c :: piece).reverse ++ rest.drop 0 := by
        simp
      rw [shifted] at passed ⊢
      refine ih fun before after same => ?_
      refine Nat.lt_of_le_of_ne (passed before after same) fun size => absent ?_
      rw [← shifted, List.drop_zero, List.append_assoc] at same
      obtain ⟨-, tail⟩ := List.append_inj same (List.length_reverse.trans size)
      exact List.isPrefixOf_iff_prefix.mpr ⟨after, tail.symm⟩

end Cuts

theorem cuts_iff {separator : String} (filled : separator ≠ "") (text : String) (parts : List String) :
    Cuts separator.toList text.toList (parts.map String.toList) ↔ parts = pieces separator text := by
  have cuts : Cuts separator.toList text.toList (piecesOn separator.toList 0 [] text.toList) :=
    pieces_on_cuts (by simpa using filled) 0 [] fun _ _ _ => Nat.zero_le _
  have listed : (pieces separator text).map String.toList = piecesOn separator.toList 0 [] text.toList := by
    simp [pieces, Function.comp_def]
  constructor
  · intro found
    refine List.map_inj_right (fun _ _ => String.toList_injective) |>.mp ?_
    rw [listed, found.unique cuts]
  · rintro rfl
    rwa [listed]

end FormEngine.Text
