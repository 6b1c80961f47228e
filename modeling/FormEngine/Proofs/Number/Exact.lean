import FormEngine.Data.Value

set_option autoImplicit false

namespace FormEngine

namespace Binary64

theorem sized_of_finite {x : Binary64} (finite : x.isFinite = true) : ∃ size, x.scaled? = some size := by
  cases x with
  | nan => cases finite
  | infinite negative => cases finite
  | finite negative units => cases negative <;> exact ⟨_, rfl⟩

theorem finite_of_sized {x : Binary64} {size : Int} (sized : x.scaled? = some size) :
    ∃ negative units, x = .finite negative units := by
  cases x with
  | nan => cases sized
  | infinite negative => cases sized
  | finite negative units => exact ⟨negative, units, rfl⟩

section Order

variable {x y : Binary64} {a b : Int}

theorem less_sized (left : x.scaled? = some a) (right : y.scaled? = some b) : x.less y = decide (a < b) := by
  obtain ⟨n, units, rfl⟩ := finite_of_sized left
  obtain ⟨m, units', rfl⟩ := finite_of_sized right
  rw [less, left, right]
  rfl

theorem same_sized (left : x.scaled? = some a) (right : y.scaled? = some b) : x.same y = decide (a = b) := by
  obtain ⟨n, units, rfl⟩ := finite_of_sized left
  obtain ⟨m, units', rfl⟩ := finite_of_sized right
  rw [same, left, right]
  rfl

theorem less_or_same_sized (left : x.scaled? = some a) (right : y.scaled? = some b) :
    x.lessOrSame y = decide (a ≤ b) := by
  rw [lessOrSame, less_sized left right, same_sized left right, Bool.eq_iff_iff]
  simp only [Bool.or_eq_true, decide_eq_true_eq]
  omega

def IsAbove (size : Int) : Binary64 → Prop
  | .nan => False
  | .infinite negative => negative = false
  | .finite negative units => ∃ bound, scaled? (.finite negative units) = some bound ∧ size < bound

def IsBelow (size : Int) : Binary64 → Prop
  | .nan => False
  | .infinite negative => negative = true
  | .finite negative units => ∃ bound, scaled? (.finite negative units) = some bound ∧ bound < size

theorem less_iff_above (sized : x.scaled? = some a) (bound : Binary64) : x.less bound = true ↔ IsAbove a bound := by
  obtain ⟨n, units, rfl⟩ := finite_of_sized sized
  cases bound with
  | nan => simp [less, IsAbove]
  | infinite negative => simp [less, IsAbove]
  | finite negative units' =>
      obtain ⟨b, there⟩ := sized_of_finite (x := .finite negative units') rfl
      simp [less_sized sized there, IsAbove, there]

theorem less_iff_below (sized : x.scaled? = some a) (bound : Binary64) : bound.less x = true ↔ IsBelow a bound := by
  obtain ⟨n, units, rfl⟩ := finite_of_sized sized
  cases bound with
  | nan => simp [less, IsBelow]
  | infinite negative => simp [less, IsBelow]
  | finite negative units' =>
      obtain ⟨b, there⟩ := sized_of_finite (x := .finite negative units') rfl
      simp [less_sized there sized, IsBelow, there]

end Order

section Whole

-- It does not matter here how many parts there are to one.
attribute [local irreducible] one

variable {x : Binary64} {size : Int}

theorem whole_sized (sized : x.scaled? = some size) : x.isWhole = true ↔ (one : Int) ∣ size := by
  obtain ⟨negative, units, rfl⟩ := finite_of_sized sized
  have parts : isWhole (.finite negative units) = true ↔ (one : Int) ∣ units := by
    rw [isWhole, beq_iff_eq, ← Nat.dvd_iff_mod_eq_zero, Int.natCast_dvd_natCast]
  cases negative with
  | true =>
      cases sized
      rw [parts, Int.dvd_neg]
  | false =>
      cases sized
      exact parts

theorem truncate_sized (sized : x.scaled? = some size) (whole : (one : Int) ∣ size) :
    ∃ n, x.truncate? = some n ∧ n * one = size := by
  obtain ⟨negative, units, rfl⟩ := finite_of_sized sized
  cases negative with
  | true =>
      cases sized
      have parts : units / one * one = units :=
        Nat.div_mul_cancel (Int.natCast_dvd_natCast.mp (Int.dvd_neg.mp whole))
      exact ⟨_, rfl, by rw [Int.neg_mul, ← Int.natCast_mul, parts]⟩
  | false =>
      cases sized
      have parts : units / one * one = units := Nat.div_mul_cancel (Int.natCast_dvd_natCast.mp whole)
      exact ⟨_, rfl, by rw [← Int.natCast_mul, parts]⟩

end Whole

end Binary64

namespace Value

theorem to_number_finite {v : Value} {x : Binary64} (read : v.toNumber = some x) : x.isFinite = true := by
  have checked (y : Binary64) (given : (if y.isFinite then some y else none) = some x) : x.isFinite = true := by
    split at given
    · rename_i finite
      cases given
      exact finite
    · cases given
  cases v with
  | int n => exact checked (Binary64.ofInt n) read
  | float y => exact checked y read
  | text s =>
      obtain ⟨y, _, given⟩ := Option.bind_eq_some_iff.mp read
      exact checked y given
  | null | bool b | list items | object entries => cases read

def size? : Value → Option Int
  | .int n => some (n * Binary64.one)
  | .float x => x.scaled?
  | _ => none

-- A number becomes a whole one where it can, and is worth the same.
theorem of_number_sized {x : Binary64} {size : Int} (sized : x.scaled? = some size) :
    (ofNumber x).size? = some size ∧ ((∃ n, ofNumber x = .int n) ↔ (Binary64.one : Int) ∣ size) := by
  by_cases whole : (Binary64.one : Int) ∣ size
  · obtain ⟨n, truncated, worth⟩ := Binary64.truncate_sized sized whole
    have same : ofNumber x = .int n := by
      rw [ofNumber, Binary64.toInt?, if_pos ((Binary64.whole_sized sized).mpr whole), truncated]
    exact ⟨by rw [same, size?, worth], fun _ => whole, fun _ => ⟨n, same⟩⟩
  · have same : ofNumber x = .float x := by
      rw [ofNumber, Binary64.toInt?, if_neg (mt (Binary64.whole_sized sized).mp whole)]
    refine ⟨by rw [same, size?, sized], fun ⟨n, other⟩ => ?_, fun divides => absurd divides whole⟩
    cases same.symm.trans other

theorem to_number_sized {v : Value} {x : Binary64} (read : v.toNumber = some x) : ∃ size, x.scaled? = some size :=
  Binary64.sized_of_finite (to_number_finite read)

end Value

end FormEngine
