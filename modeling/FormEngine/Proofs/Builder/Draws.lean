import FormEngine.Builder.Ident

set_option autoImplicit false

namespace FormEngine.Draws

def after (d : Draws) (count : Nat) : Draws := { d with drawn := d.drawn + idLength * count }

theorem after_zero (d : Draws) : d.after 0 = d := rfl

theorem advance_after (d : Draws) (count : Nat) : d.advance.after count = d.after (count + 1) := by
  simp only [advance, after, Draws.mk.injEq, true_and, idLength]
  omega

-- As many candidates are passed over as are taken before the first that is not.
theorem first_free_iff (taken : List String) (word : String) (fuel : Nat) (d next : Draws) (id : String) :
    firstFree taken word fuel d = some (id, next) ↔ ∃ rejected < fuel,
      (∀ i < rejected, (d.after i).candidate word ∈ taken) ∧ (d.after rejected).candidate word ∉ taken ∧
      id = (d.after rejected).candidate word ∧ next = d.after (rejected + 1) := by
  induction fuel generalizing d with
  | zero => simp [firstFree]
  | succ fuel ih =>
      by_cases used : d.candidate word ∈ taken
      · rw [firstFree, if_pos (by simpa using used), ih]
        constructor
        · intro ⟨rejected, below, refused, free, given, left⟩
          simp only [advance_after] at refused free given left
          refine ⟨rejected + 1, by omega, fun i earlier => ?_, free, given, left⟩
          cases i with
          | zero => exact used
          | succ i => exact refused i (by omega)
        · intro ⟨rejected, below, refused, free, given, left⟩
          cases rejected with
          | zero => exact absurd used free
          | succ rejected =>
              refine ⟨rejected, by omega, fun i earlier => ?_, ?_⟩
              · rw [advance_after]
                exact refused (i + 1) (by omega)
              · rw [advance_after, advance_after]
                exact ⟨free, given, left⟩
      · rw [firstFree, if_neg (by simpa using used)]
        constructor
        · intro given
          cases given
          exact ⟨0, Nat.succ_pos fuel, fun i earlier => absurd earlier (Nat.not_lt_zero i), used, rfl, rfl⟩
        · intro ⟨rejected, _, refused, _, given, left⟩
          cases rejected with
          | zero => rw [given, left, after_zero]; rfl
          | succ rejected => exact absurd (refused 0 (Nat.succ_pos rejected)) used

end FormEngine.Draws
