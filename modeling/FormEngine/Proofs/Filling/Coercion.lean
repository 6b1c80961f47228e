import FormEngine.Proofs.Filling.Coerced
import FormEngine.Proofs.Filling.Comparing
import FormEngine.Proofs.Number.Notations

set_option autoImplicit false

namespace FormEngine

open Binary64 (one Fits Nearest)

attribute [local irreducible] Binary64.powerOfTwo Binary64.one Binary64.limit

namespace Binary64

theorem valid_sized {x : Binary64} {size : Int} (valid : x.Valid) (sized : x.scaled? = some size) :
    Fits size.natAbs ∧ size.natAbs < limit := by
  obtain ⟨negative, units, rfl⟩ := finite_of_sized sized
  cases negative with
  | true =>
      cases sized
      rwa [Int.natAbs_neg, Int.natAbs_natCast]
  | false =>
      cases sized
      rwa [Int.natAbs_natCast]

theorem scaled_whole (negative : Bool) (m : Nat) :
    scaled? (.finite negative (m * one)) = some ((if negative then -(m : Int) else m) * one) := by
  cases negative with
  | true => rw [scaled?, if_pos rfl, Int.neg_mul, Int.natCast_mul]
  | false => rw [scaled?, if_neg Bool.false_ne_true, Int.natCast_mul]

theorem scaled_signed (m : Int) : scaled? (.finite (decide (m < 0)) (m.natAbs * one)) = some (m * one) := by
  rw [scaled_whole]
  congr 2
  split
  · have below : m < 0 := of_decide_eq_true ‹_›
    omega
  · have above : ¬ m < 0 := mt decide_eq_true ‹_›
    omega

end Binary64

namespace Value

theorem of_number_whole {x : Binary64} {m : Int} (sized : x.scaled? = some (m * one)) : ofNumber x = .int m := by
  obtain ⟨worth, whole⟩ := of_number_sized sized
  obtain ⟨k, same⟩ := whole.mpr (Int.dvd_mul_left m one)
  rw [same, size?, Option.some.injEq] at worth
  rw [same, Int.eq_of_mul_eq_mul_right (by exact_mod_cast Binary64.one_positive.ne') worth]

theorem of_number_broken {x : Binary64} {size : Int} (sized : x.scaled? = some size) (broken : ¬ (one : Int) ∣ size) :
    ofNumber x = .float x := by
  rw [ofNumber, Binary64.toInt?, if_neg (mt (Binary64.whole_sized sized).mp broken)]

theorem of_number_present (x : Binary64) : (ofNumber x).isEmpty = false := by
  rw [ofNumber]
  cases x.toInt? <;> rfl

theorem to_number_valid {v : Value} {x : Binary64} (valid : ∀ y, v = .float y → y.Valid)
    (read : v.toNumber = some x) : x.Valid := by
  have kept {y : Binary64} (given : (if y.isFinite then some y else none) = some x) : y = x :=
    Option.some.inj (Option.ite_none_right_eq_some.mp given).2
  cases v with
  | int n => exact kept read ▸ (Binary64.of_int_rounds n).valid
  | float y => exact kept read ▸ valid y rfl
  | text s =>
      obtain ⟨y, text, given⟩ := Option.bind_eq_some_iff.mp read
      exact kept given ▸ Numeral.read_valid text
  | null | bool b | list items | object entries => cases read

-- What became of a number stands for the same number, and becomes the same once more.
theorem of_number_again {x : Binary64} (valid : x.Valid) (finite : x.isFinite = true) :
    ∃ y, (ofNumber x).toNumber = some y ∧ ofNumber y = ofNumber x := by
  obtain ⟨size, sized⟩ := Binary64.sized_of_finite finite
  by_cases whole : (one : Int) ∣ size
  · obtain ⟨m, rfl⟩ := whole
    rw [Int.mul_comm] at sized
    obtain ⟨fits, below⟩ := Binary64.valid_sized valid sized
    rw [Int.natAbs_mul, Int.natAbs_natCast] at fits below
    have exact := Binary64.of_int_exact ((Binary64.fits_parts_iff _).mp fits) below
    refine ⟨Binary64.ofInt m, ?_, ?_⟩
    · rw [of_number_whole sized, toNumber, Binary64.ofInt?, exact]
      rfl
    · rw [of_number_whole sized, exact, of_number_whole (Binary64.scaled_signed m)]
  · exact ⟨x, by rw [of_number_broken sized whole, toNumber, if_pos finite], rfl⟩

end Value

namespace Field

variable {f : Field} {v : Value}

theorem coerce_read {x : Binary64} (numeric : f.kind.isNumeric = true) (present : v.isEmpty = false)
    (read : v.toNumber = some x) : f.coerce v = Value.ofNumber x := by
  rw [f.coerce_numeric v numeric, present, read]
  rfl

theorem coerce_unread (numeric : f.kind.isNumeric = true) (unread : v.isEmpty = true ∨ v.toNumber = none) :
    f.coerce v = .null := by
  rw [f.coerce_numeric v numeric]
  rcases unread with empty | none
  · rw [if_pos empty]
  · rw [none]
    exact ite_self _

end Field

theorem coerced_again (f : Field) (v : Value) (valid : ∀ x, v = .float x → x.Valid) :
    f.coerce (f.coerce v) = f.coerce v := by
  by_cases box : f.kind.isBoolean = true
  · rw [Field.coerce, Field.coerce, if_pos box, if_pos box]
    rfl
  by_cases numeric : f.kind.isNumeric = true
  · by_cases unread : v.isEmpty = true ∨ v.toNumber = none
    · rw [Field.coerce_unread numeric unread]
      exact Field.coerce_unread numeric (.inl rfl)
    · obtain ⟨present, given⟩ := not_or.mp unread
      obtain ⟨x, read⟩ := Option.ne_none_iff_exists'.mp given
      obtain ⟨y, again, kept⟩ :=
        Value.of_number_again (Value.to_number_valid valid read) (Value.to_number_finite read)
      rw [Field.coerce_read numeric (Bool.eq_false_iff.mpr present) read, ← kept]
      exact Field.coerce_read numeric (kept ▸ Value.of_number_present x) (kept ▸ again)
  · have raw (w : Value) : f.coerce w = w := by rw [Field.coerce, if_neg box, if_neg numeric]
    rw [raw, raw]

theorem huge_amount_coerced_again :
    let amount := Field.create "amount" .currency
    let huge := Binary64.finite true (Binary64.powerOfTwo 2000)
    huge.Valid ∧ amount.coerce (.float huge) = .int (-(2 : Int) ^ 926) ∧
      amount.coerce (amount.coerce (.float huge)) = amount.coerce (.float huge) := by
  have valid : (Binary64.finite true (Binary64.powerOfTwo 2000)).Valid :=
    ⟨Binary64.fits_power 2000, by decide +kernel⟩
  refine ⟨valid, by decide +kernel, coerced_again _ _ ?_⟩
  rintro x same
  rwa [← Value.float.inj same]

structure RoundedTo (n m : Int) : Prop where
  above : 0 ≤ n → 0 ≤ m
  below : n < 0 → m ≤ 0
  nearest : Nearest (n.natAbs * one) 1 (m.natAbs * one)

theorem RoundedTo.kept_iff {n m : Int} (rounded : RoundedTo n m) : m = n ↔ Fits n.natAbs := by
  constructor
  · rintro rfl
    exact (Binary64.fits_parts_iff _).mp rounded.nearest.fits
  · intro fits
    have same := rounded.nearest.eq_of_exact Nat.one_pos ((Binary64.fits_parts_iff _).mpr fits) (Nat.mul_one _)
    have size : m.natAbs = n.natAbs := Nat.eq_of_mul_eq_mul_right Binary64.one_positive same
    have above := rounded.above
    have below := rounded.below
    omega

theorem whole_read {n : Int} (readable : (Value.int n).toNumber ≠ none) :
    ∃ x, ∃ m : Int, (Value.int n).toNumber = some x ∧ x.scaled? = some (m * one) ∧ RoundedTo n m := by
  obtain ⟨x, read⟩ := Option.ne_none_iff_exists'.mp readable
  obtain ⟨finite, same⟩ := Option.ite_none_right_eq_some.mp read
  obtain ⟨k, made, nearest⟩ := Binary64.of_int_whole finite
  have sized := Binary64.scaled_whole (decide (n < 0)) k
  rw [← made, Option.some.inj same] at sized
  simp only [decide_eq_true_eq] at sized
  refine ⟨x, _, read, sized, fun above => ?_, fun below => ?_, ?_⟩
  · rw [if_neg (Int.not_lt.mpr above)]
    exact Int.natCast_nonneg k
  · rw [if_pos below]
    omega
  · split
    · rwa [Int.natAbs_neg, Int.natAbs_natCast]
    · rwa [Int.natAbs_natCast]

theorem equals_sized {v w : Value} {x y : Binary64} {p q : Int} (left : v.toNumber = some x)
    (right : w.toNumber = some y) (first : x.scaled? = some p) (second : y.scaled? = some q) :
    Operator.equals.compare v w = true ↔ p = q := by
  simp only [Operator.compare, Operator.ordering?, Value.looselyEqual, left, right,
    Binary64.same_sized first second, decide_eq_true_eq]

theorem whole_equals {n other a b : Int} {x y : Binary64} (left : (Value.int n).toNumber = some x)
    (right : (Value.int other).toNumber = some y) (first : x.scaled? = some (a * one))
    (second : y.scaled? = some (b * one)) :
    Operator.equals.compare (.int n) (.int other) = true ↔ a = b :=
  (equals_sized left right first second).trans
    (Int.mul_eq_mul_right_iff (Int.natCast_ne_zero.mpr Binary64.one_positive.ne'))

theorem whole_numbers_rounded_once (f : Field) (numeric : f.kind.isNumeric = true) (n : Int)
    (readable : (Value.int n).toNumber ≠ none) :
    ∃ m, f.coerce (.int n) = .int m ∧ RoundedTo n m ∧ (m = n ↔ Fits n.natAbs) ∧
      (n.natAbs ≤ Binary64.powerOfTwo 53 → m = n) ∧
      ∀ other, (Value.int other).toNumber ≠ none →
        ∀ values key, SetTo values key (.int n) →
          (answer values key (.int other) .equals = true ↔ f.coerce (.int other) = .int m) ∧
          (n = other → answer values key (.int other) .equals = true) ∧
          (Fits n.natAbs → Fits other.natAbs → (answer values key (.int other) .equals = true ↔ n = other)) := by
  obtain ⟨x, m, read, sized, rounded⟩ := whole_read readable
  have made : f.coerce (.int n) = .int m :=
    (Field.coerce_read numeric rfl read).trans (Value.of_number_whole sized)
  refine ⟨m, made, rounded, rounded.kept_iff,
    fun small => rounded.kept_iff.mpr (Binary64.fits_of_le small), fun other readable' values key filled => ?_⟩
  obtain ⟨y, k, read', sized', rounded'⟩ := whole_read readable'
  have made' : f.coerce (.int other) = .int k :=
    (Field.coerce_read numeric rfl read').trans (Value.of_number_whole sized')
  have same : answer values key (.int other) .equals = true ↔ m = k := by
    rw [answer_set filled, whole_equals read read' sized sized']
  refine ⟨?_, ?_, fun fits fits' => ?_⟩
  · rw [same, made', Value.int.injEq, eq_comm]
  · rintro rfl
    rw [answer_set filled]
    exact Value.loosely_equal_self _
  · rw [same, rounded.kept_iff.mpr fits, rounded'.kept_iff.mpr fits']

theorem odd_number_rounded_once :
    (Value.int 9007199254740993).toNumber ≠ none ∧ (Value.int 9007199254740992).toNumber ≠ none ∧
      ∃ m, (Field.create "n" .range).coerce (.int 9007199254740993) = .int m ∧ RoundedTo 9007199254740993 m ∧
        (answer [("n", .int 9007199254740993)] "n" (.int 9007199254740992) .equals = true ↔
          (Field.create "n" .range).coerce (.int 9007199254740992) = .int m) := by
  have readable : (Value.int 9007199254740993).toNumber ≠ none := by decide +kernel
  have readable' : (Value.int 9007199254740992).toNumber ≠ none := by decide +kernel
  obtain ⟨m, made, rounded, -, -, compared⟩ :=
    whole_numbers_rounded_once (Field.create "n" .range) rfl 9007199254740993 readable
  obtain ⟨same, -, -⟩ := compared 9007199254740992 readable' [("n", .int 9007199254740993)] "n" ⟨rfl, rfl⟩
  exact ⟨readable, readable', m, made, rounded, same⟩

theorem odd_number_changed :
    (Value.int 9007199254740993).toNumber ≠ none ∧ (Value.int 9007199254740992).toNumber ≠ none ∧
      (Field.create "n" .number).coerce (.int 9007199254740993) = .int 9007199254740992 ∧
      answer [("a", .int 9007199254740992)] "a" (.int 9007199254740993) .equals = true := by
  decide +kernel

end FormEngine
