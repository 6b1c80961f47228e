import FormEngine.Proofs.Filling.Failing
import FormEngine.Proofs.Number.Exact

set_option autoImplicit false

namespace FormEngine

namespace Field

-- A bound of a field: its rules have the word, and where they say nothing the part for amounts or for scales has it.
def IsBound (f : Field) (own : Rules → Option Binary64) (money : Currency → Option Binary64) (scale : Scale → Binary64)
    (bound : Binary64) : Prop :=
  f.rules.bind own = some bound ∨
  f.rules.bind own = none ∧
    (f.kind = .currency ∧ f.currency.bind money = some bound ∨ f.kind = .range ∧ f.scale.map scale = some bound)

theorem is_bound_iff (f : Field) (own : Rules → Option Binary64) (money : Currency → Option Binary64)
    (scale : Scale → Binary64) (bound : Binary64) :
    f.IsBound own money scale bound ↔ (f.rules.bind own).or (match f.kind with
      | .currency => f.currency.bind money
      | .range => f.scale.map scale
      | _ => none) = some bound := by
  rw [IsBound]
  cases f.rules.bind own with
  | some low => simp
  | none => cases kind : f.kind <;> simp

theorem lower_bound_iff (f : Field) (low : Binary64) :
    f.lowerBound = some low ↔ f.IsBound Rules.min Currency.min Scale.min low :=
  (f.is_bound_iff _ _ _ low).symm

theorem upper_bound_iff (f : Field) (high : Binary64) :
    f.upperBound = some high ↔ f.IsBound Rules.max Currency.max Scale.max high :=
  (f.is_bound_iff _ _ _ high).symm

theorem numeric_filled (f : Field) (numeric : f.kind.isNumeric = true) :
    f.kind.displayOnly = false ∧ f.kind.isBoolean = false := by
  cases kind : f.kind <;> simp [kind, FieldKind.isNumeric, FieldKind.displayOnly, FieldKind.isBoolean] at numeric ⊢

theorem coerce_numeric (f : Field) (v : Value) (numeric : f.kind.isNumeric = true) :
    f.coerce v = if v.isEmpty then .null else match v.toNumber with
      | some x => Value.ofNumber x
      | none => .null := by
  have plain : ¬ f.kind.isBoolean = true := by simp [(f.numeric_filled numeric).2]
  rw [coerce]
  exact (if_neg plain).trans (if_pos numeric)

theorem accepted_sound (f : Field) (v : Value) (filled : f.kind.displayOnly = false)
    (accepted : f.complaint v = .ok none) : ¬ f.Fails v :=
  fun fails => (f.complaint_iff v none accepted).mpr ⟨filled, fails⟩ rfl

theorem accepted_number (f : Field) (v : Value) (numeric : f.kind.isNumeric = true)
    (accepted : f.complaint v = .ok none) (present : v.isEmpty = false) :
    ∃ x size, v.toNumber = some x ∧ x.scaled? = some size ∧
      (∀ low, f.lowerBound = some low → ¬ Binary64.IsAbove size low) ∧
      ∀ high, f.upperBound = some high → ¬ Binary64.IsBelow size high := by
  obtain ⟨filled, plain⟩ := f.numeric_filled numeric
  have here : f.isMissing v = false := by simpa [isMissing, plain] using present
  have fits : ¬ f.BreaksKind v := fun broken => f.accepted_sound v filled accepted (.broken here plain (.inl broken))
  cases read : v.toNumber with
  | none => exact absurd (.notNumber numeric read) fits
  | some x =>
      obtain ⟨size, sized⟩ := Value.to_number_sized read
      refine ⟨x, size, rfl, sized, fun low bound above => ?_, fun high bound below => ?_⟩
      · exact fits (.tooSmall numeric x low read bound ((Binary64.less_iff_above sized low).mpr above))
      · exact fits (.tooLarge numeric x high read bound ((Binary64.less_iff_below sized high).mpr below))

theorem of_number_given (x : Binary64) : Value.ofNumber x ≠ .null := by
  rw [Value.ofNumber]
  cases x.toInt? <;> simp

theorem accepted_null_iff (f : Field) (v : Value) (numeric : f.kind.isNumeric = true)
    (accepted : f.complaint v = .ok none) : f.coerce v = .null ↔ v.isEmpty = true := by
  rw [f.coerce_numeric v numeric]
  cases present : v.isEmpty with
  | true => simp
  | false =>
      obtain ⟨x, size, read, _⟩ := f.accepted_number v numeric accepted present
      simp [read, of_number_given]

end Field

theorem coerced_as_checked (f : Field) (v : Value) (accepted : f.complaint v = .ok none) :
    (f.kind.isBoolean = true → f.required = true → f.coerce v = .bool true) ∧
    (f.kind.isNumeric = true →
      (f.coerce v = .null ↔ v.isEmpty = true) ∧
      (f.required = true → f.coerce v ≠ .null) ∧
      (f.coerce v ≠ .null → ∃ x size, v.toNumber = some x ∧ x.scaled? = some size ∧
        (f.coerce v).size? = some size ∧ ((∃ n, f.coerce v = .int n) ↔ (Binary64.one : Int) ∣ size) ∧
        (∀ low, f.IsBound Rules.min Currency.min Scale.min low → ¬ Binary64.IsAbove size low) ∧
        ∀ high, f.IsBound Rules.max Currency.max Scale.max high → ¬ Binary64.IsBelow size high)) := by
  constructor
  · intro box required
    have filled : f.kind.displayOnly = false := by
      cases kind : f.kind <;> simp [kind, FieldKind.isBoolean, FieldKind.displayOnly] at box ⊢
    have present := required_present f v filled required accepted
    rw [Field.isMissing, if_pos box, Bool.not_eq_false'] at present
    rw [Field.coerce, if_pos box, present]
  · intro numeric
    have null := f.accepted_null_iff v numeric accepted
    refine ⟨null, fun required none => ?_, fun given => ?_⟩
    · obtain ⟨filled, plain⟩ := f.numeric_filled numeric
      have present := required_present f v filled required accepted
      simp [Field.isMissing, plain, null.mp none] at present
    · have present : v.isEmpty = false := Bool.eq_false_iff.mpr fun empty => given (null.mpr empty)
      obtain ⟨x, size, read, sized, low, high⟩ := f.accepted_number v numeric accepted present
      have same : f.coerce v = Value.ofNumber x := by
        rw [f.coerce_numeric v numeric, present, read]
        rfl
      obtain ⟨worth, whole⟩ := Value.of_number_sized sized
      rw [same]
      refine ⟨x, size, read, sized, worth, whole, fun bound given => ?_, fun bound given => ?_⟩
      · exact low bound ((f.lower_bound_iff bound).mpr given)
      · exact high bound ((f.upper_bound_iff bound).mpr given)

def priceField : Field :=
  { Field.create "price" .currency with
    required := true
    rules := some { Rules.unset with min := some (.ofInt 5) }
    currency := some ⟨"BRL", none, some (.ofInt 9000), some (.ofInt 2000)⟩ }

theorem price_within_bounds :
    priceField.complaint (.text "1.234,50") = .ok none ∧ priceField.coerce (.text "1.234,50") ≠ .null ∧
    ∃ size, (priceField.coerce (.text "1.234,50")).size? = some size ∧ ¬ Binary64.IsAbove size (.ofInt 5) ∧
      ¬ Binary64.IsBelow size (.ofInt 2000) := by
  have accepted : priceField.complaint (.text "1.234,50") = .ok none := by decide +kernel
  obtain ⟨_, number⟩ := coerced_as_checked priceField (.text "1.234,50") accepted
  obtain ⟨_, given, worth⟩ := number rfl
  obtain ⟨x, size, _, _, sized, _, low, high⟩ := worth (given rfl)
  exact ⟨accepted, given rfl, size, sized, low _ (.inl rfl), high _ (.inr ⟨rfl, .inl ⟨rfl, rfl⟩⟩)⟩

end FormEngine
