import FormEngine.Proofs.Number.Digits
import Mathlib.Tactic.Ring

set_option autoImplicit false

namespace FormEngine.Binary64

def Fits (n : Nat) : Prop := ∃ digits shift, digits < powerOfTwo 53 ∧ n = digits * powerOfTwo shift

-- How far so many units are from `target / scale` units, times the scale.
def gap (target scale units : Nat) : Nat := ((units * scale : Nat) - target : Int).natAbs

-- So many units are what is nearest to `target / scale` units in a format without a greatest number.
structure Nearest (target scale units : Nat) : Prop where
  fits : Fits units
  least : ∀ other, Fits other → gap target scale units ≤ gap target scale other
  even : ∀ other, Fits other → other ≠ units → gap target scale other = gap target scale units →
    2 * spacing units ∣ units

-- A number is what a quotient rounds to: infinite when the nearest would be too large for the format.
def Rounds (negative : Bool) (numerator denominator : Nat) (x : Binary64) : Prop :=
  ∃ units, Nearest (numerator * one) denominator units ∧
    x = if units < limit then .finite negative units else .infinite negative

def Valid : Binary64 → Prop
  | .finite _ units => Fits units ∧ units < limit
  | _ => True

theorem round_div_near (n d : Nat) :
    roundDiv n d = n / d ∧ 2 * (n % d) ≤ d ∨ roundDiv n d = n / d + 1 ∧ d ≤ 2 * (n % d) := by
  unfold roundDiv
  dsimp only
  split
  · omega
  · split
    · omega
    · rcases Nat.mod_two_eq_zero_or_one (n / d) with even | odd <;> omega

theorem round_div_tie (n d : Nat) (tie : 2 * (n % d) = d) : 2 ∣ roundDiv n d := by
  unfold roundDiv
  dsimp only
  rw [if_neg (by omega), if_neg (by omega)]
  omega

theorem multiple_apart (n d k : Nat) : k * d ≤ n / d * d ∨ n / d * d + d ≤ k * d := by
  rcases Nat.lt_or_ge (n / d) k with above | below
  · exact .inr (Nat.succ_mul (n / d) d ▸ Nat.mul_le_mul_right d above)
  · exact .inl (Nat.mul_le_mul_right d below)

theorem round_div_least (n d k : Nat) (positive : 0 < d) : gap n d (roundDiv n d) ≤ gap n d k := by
  have parts := Nat.div_add_mod' n d
  have rest := Nat.mod_lt n positive
  have apart := multiple_apart n d k
  unfold gap
  rcases round_div_near n d with ⟨down, near⟩ | ⟨up, near⟩
  · rw [down]
    omega
  · rw [up, Nat.succ_mul]
    omega

theorem round_div_even (n d k : Nat) (positive : 0 < d) (other : k ≠ roundDiv n d)
    (tie : gap n d k = gap n d (roundDiv n d)) : 2 ∣ roundDiv n d := by
  have parts := Nat.div_add_mod' n d
  have rest := Nat.mod_lt n positive
  have apart := multiple_apart n d k
  have different : k * d ≠ roundDiv n d * d := fun same => other (Nat.eq_of_mul_eq_mul_right positive same)
  refine round_div_tie n d ?_
  unfold gap at tie
  rcases round_div_near n d with ⟨down, near⟩ | ⟨up, near⟩
  · rw [down] at tie different
    omega
  · rw [up, Nat.succ_mul] at tie different
    omega

theorem power_of_two_add (a b : Nat) : powerOfTwo (a + b) = powerOfTwo a * powerOfTwo b := Nat.pow_add 2 a b

theorem power_of_two_le {a b : Nat} (le : a ≤ b) : powerOfTwo a ≤ powerOfTwo b := Nat.pow_le_pow_right (by decide) le

theorem power_of_two_dvd {a b : Nat} (le : a ≤ b) : powerOfTwo a ∣ powerOfTwo b := Nat.pow_dvd_pow 2 le

theorem fits_of_short {n : Nat} (short : n < powerOfTwo 53) : Fits n := ⟨n, 0, short, (Nat.mul_one n).symm⟩

theorem fits_shifted {n : Nat} (fits : Fits n) (shift : Nat) : Fits (n * powerOfTwo shift) := by
  obtain ⟨digits, more, short, rfl⟩ := fits
  exact ⟨digits, more + shift, short, by rw [power_of_two_add, Nat.mul_assoc]⟩

theorem fits_of_le {n : Nat} (bound : n ≤ powerOfTwo 53) : Fits n := by
  rcases Nat.lt_or_eq_of_le bound with short | rfl
  · exact fits_of_short short
  · exact ⟨1, 53, by decide, (Nat.one_mul _).symm⟩

theorem Fits.of_shifted {n shift : Nat} (fits : Fits (n * powerOfTwo shift)) : Fits n := by
  obtain ⟨digits, more, short, same⟩ := fits
  rcases Nat.le_total more shift with below | above
  · obtain ⟨rest, rfl⟩ := Nat.exists_eq_add_of_le below
    have all : n * powerOfTwo rest = digits := by
      refine Nat.eq_of_mul_eq_mul_right (power_of_two_positive more) (Eq.trans ?_ same)
      rw [power_of_two_add, Nat.mul_assoc, Nat.mul_comm (powerOfTwo rest)]
    exact fits_of_short (Nat.lt_of_le_of_lt (all ▸ Nat.le_mul_of_pos_right n (power_of_two_positive rest)) short)
  · obtain ⟨rest, rfl⟩ := Nat.exists_eq_add_of_le above
    refine ⟨digits, rest, short, Nat.eq_of_mul_eq_mul_right (power_of_two_positive shift) (same.trans ?_)⟩
    rw [power_of_two_add, Nat.mul_assoc, Nat.mul_comm (powerOfTwo shift)]

-- The digits are all left of a place, or the number does not reach fifty-three digits left of it.
theorem Fits.left_of {n : Nat} (fits : Fits n) (place : Nat) :
    powerOfTwo place ∣ n ∨ n < powerOfTwo 52 * powerOfTwo place := by
  obtain ⟨digits, shift, short, rfl⟩ := fits
  rcases Nat.lt_or_ge shift place with below | above
  · refine .inr ?_
    calc digits * powerOfTwo shift < powerOfTwo 53 * powerOfTwo shift :=
          Nat.mul_lt_mul_of_pos_right short (power_of_two_positive shift)
      _ = powerOfTwo 52 * powerOfTwo (shift + 1) := by
          rw [← power_of_two_add, ← power_of_two_add]
          congr 1
          omega
      _ ≤ powerOfTwo 52 * powerOfTwo place := Nat.mul_le_mul_left _ (power_of_two_le below)
  · exact .inl (Nat.dvd_mul_left_of_dvd (power_of_two_dvd above) digits)

theorem fits_power (n : Nat) : Fits (powerOfTwo n) := ⟨1, n, by decide, (Nat.one_mul _).symm⟩

theorem Fits.left_of_one {n : Nat} (fits : Fits n) : one ∣ n ∨ n < powerOfTwo 52 * one := by
  simpa only [one] using fits.left_of 1074

theorem fits_parts_iff (n : Nat) : Fits (n * one) ↔ Fits n := ⟨Fits.of_shifted, (fits_shifted · 1074)⟩

theorem fits_limit : Fits limit := fits_power 2098

theorem limit_positive : 0 < limit := power_of_two_positive 2098

theorem limit_parts : limit = powerOfTwo 1024 * one := by rw [limit, one, ← power_of_two_add]

theorem limit_le_power : limit ≤ powerOfTen 320 * one := by
  rw [limit_parts]
  exact Nat.mul_le_mul_right one (by decide +kernel)

theorem limit_edge : limit = powerOfTwo 53 * powerOfTwo (2044 + 1) := by rw [limit, ← power_of_two_add]

theorem half_step_edge : (powerOfTwo 1024 - powerOfTwo 970) * one = (powerOfTwo 54 - 1) * powerOfTwo 2044 := by
  rw [Nat.mul_sub_right_distrib, Nat.mul_sub_right_distrib, Nat.one_mul, one, ← power_of_two_add, ← power_of_two_add,
    ← power_of_two_add]

theorem one_le_power : 2 * one ≤ powerOfTen 330 := by decide +kernel

section Nearest

-- From here on it does not matter how many parts there are to one.
attribute [local irreducible] one limit

variable {target scale units : Nat}

theorem gap_shifted (target scale k grid : Nat) : gap target scale (k * grid) = gap target (scale * grid) k := by
  rw [gap, gap, Nat.mul_assoc, Nat.mul_comm grid]

theorem Nearest.eq_of_exact (nearest : Nearest target scale units) (positive : 0 < scale) {exact : Nat}
    (fits : Fits exact) (same : exact * scale = target) : units = exact := by
  have least := nearest.least exact fits
  refine Nat.eq_of_mul_eq_mul_right positive ?_
  rw [gap, gap] at least
  omega

theorem Nearest.le_of_le (nearest : Nearest target scale units) (positive : 0 < scale) {bound : Nat}
    (fits : Fits bound) (le : bound * scale ≤ target) : bound ≤ units := by
  have least := nearest.least bound fits
  rw [gap, gap] at least
  by_contra below
  have less : units * scale < bound * scale := Nat.mul_lt_mul_of_pos_right (Nat.lt_of_not_le below) positive
  omega

theorem spacing_positive (units : Nat) : 0 < spacing units := power_of_two_positive _

theorem spacing_bounds (units : Nat) :
    units < powerOfTwo 53 * spacing units ∧ (spacing units = 1 ∨ powerOfTwo 52 * spacing units ≤ units) := by
  rw [spacing, ← power_of_two_add, ← power_of_two_add]
  constructor
  · exact Nat.lt_of_lt_of_le Nat.lt_log2_self (power_of_two_le (by omega))
  · rcases Nat.le_total units.log2 52 with small | large
    · exact .inl (by rw [Nat.sub_eq_zero_of_le small]; rfl)
    · refine .inr ?_
      rw [Nat.add_sub_cancel' large]
      refine Nat.log2_self_le ?_
      rintro rfl
      simp at large

theorem spacing_dvd {k shift : Nat} (short : k < powerOfTwo 53) : spacing (k * powerOfTwo shift) ∣ powerOfTwo shift := by
  rcases Nat.eq_zero_or_pos k with rfl | positive
  · rw [Nat.zero_mul]
    exact Nat.one_dvd _
  · have large : k * powerOfTwo shift ≠ 0 := (Nat.mul_pos positive (power_of_two_positive shift)).ne'
    have below : (k * powerOfTwo shift).log2 < 53 + shift := by
      refine (Nat.log2_lt large).mpr (Nat.lt_of_lt_of_le ?_ (power_of_two_add 53 shift).ge)
      exact Nat.mul_lt_mul_of_pos_right short (power_of_two_positive shift)
    exact power_of_two_dvd (by omega)

-- A number with an even last digit, where fifty-three digits are kept, is even in its own last digit too.
theorem even_kept {k shift : Nat} (even : 2 ∣ k) (bound : k ≤ powerOfTwo 53) :
    2 * spacing (k * powerOfTwo shift) ∣ k * powerOfTwo shift := by
  rcases Nat.lt_or_eq_of_le bound with short | rfl
  · exact Nat.mul_dvd_mul even (spacing_dvd short)
  · have same : powerOfTwo 53 * powerOfTwo shift = powerOfTwo (53 + shift) := (power_of_two_add 53 shift).symm
    have digits : (powerOfTwo (53 + shift)).log2 = 53 + shift := Nat.log2_two_pow
    rw [same, spacing, digits]
    exact power_of_two_add 1 _ ▸ power_of_two_dvd (by omega)

def kept (target scale : Nat) : Nat := roundDiv target (scale * spacing (target / scale))

def rounded (target scale : Nat) : Nat := kept target scale * spacing (target / scale)

theorem kept_bound (target scale : Nat) : kept target scale ≤ powerOfTwo 53 := by
  have quotient : target / (scale * spacing (target / scale)) < powerOfTwo 53 := by
    rw [← Nat.div_div_eq_div_mul, Nat.div_lt_iff_lt_mul (spacing_positive _)]
    exact (spacing_bounds (target / scale)).1
  rw [kept]
  rcases round_div_near target (scale * spacing (target / scale)) with ⟨down, _⟩ | ⟨up, _⟩ <;> omega

-- Of the numbers of the format only the multiples of the distance between neighbours come into question.
theorem rounded_rivals (target : Nat) (positive : 0 < scale) {other : Nat} (fits : Fits other) :
    spacing (target / scale) ∣ other ∨ gap target scale (rounded target scale) < gap target scale other := by
  rcases (spacing_bounds (target / scale)).2 with finest | large
  · exact .inl (finest ▸ Nat.one_dvd other)
  · rcases fits.left_of ((target / scale).log2 - 52) with left | small
    · exact .inl left
    · have below : powerOfTwo 52 * spacing (target / scale) * scale ≤ target :=
        (Nat.mul_le_mul_right scale large).trans (Nat.div_mul_le_self target scale)
      have less : other * scale < powerOfTwo 52 * spacing (target / scale) * scale :=
        Nat.mul_lt_mul_of_pos_right small positive
      have near : gap target scale (rounded target scale) ≤
          gap target scale (powerOfTwo 52 * spacing (target / scale)) := by
        rw [rounded, gap_shifted, gap_shifted]
        exact round_div_least _ _ _ (Nat.mul_pos positive (spacing_positive _))
      refine .inr (Nat.lt_of_le_of_lt near ?_)
      rw [gap, gap]
      omega

theorem rounded_nearest (target : Nat) (positive : 0 < scale) : Nearest target scale (rounded target scale) := by
  have coarse : 0 < scale * spacing (target / scale) := Nat.mul_pos positive (spacing_positive _)
  constructor
  · exact fits_shifted (fits_of_le (kept_bound _ _)) _
  · intro other fits
    rcases rounded_rivals target positive fits with ⟨k, rfl⟩ | worse
    · rw [rounded, Nat.mul_comm _ k, gap_shifted, gap_shifted]
      exact round_div_least _ _ _ coarse
    · exact worse.le
  · intro other fits different tie
    rcases rounded_rivals target positive fits with ⟨k, rfl⟩ | worse
    · rw [Nat.mul_comm _ k] at different tie
      rw [rounded, gap_shifted, gap_shifted] at tie
      refine even_kept ?_ (kept_bound _ _)
      exact round_div_even _ _ k coarse (fun same => different (by rw [same]; rfl)) tie
    · exact absurd tie worse.ne'

theorem of_ratio_rounds (negative : Bool) (numerator : Nat) {denominator : Nat} (positive : 0 < denominator) :
    (ofRatio negative numerator denominator).Rounds negative numerator denominator :=
  ⟨rounded (numerator * one) denominator, rounded_nearest _ positive, rfl⟩

theorem Rounds.valid {negative : Bool} {numerator denominator : Nat} {x : Binary64}
    (rounds : x.Rounds negative numerator denominator) : x.Valid := by
  obtain ⟨units, nearest, rfl⟩ := rounds
  split
  · exact ⟨nearest.fits, ‹_›⟩
  · trivial

theorem infinite_rounds (negative : Bool) {numerator denominator : Nat} (positive : 0 < denominator)
    (large : limit * denominator ≤ numerator * one) :
    (infinite negative).Rounds negative numerator denominator := by
  have nearest := rounded_nearest (numerator * one) positive
  refine ⟨_, nearest, ?_⟩
  rw [if_neg (Nat.not_lt.mpr (nearest.le_of_le positive fits_limit large))]

theorem zero_rounds (negative : Bool) {numerator denominator : Nat} (small : 2 * (numerator * one) < denominator) :
    (finite negative 0).Rounds negative numerator denominator := by
  refine ⟨0, ⟨fits_of_le (Nat.zero_le _), fun other _ => ?_, fun _ _ _ _ => Nat.dvd_zero _⟩, ?_⟩
  · rcases Nat.eq_zero_or_pos other with rfl | above
    · exact Nat.le_refl _
    · have most : denominator ≤ other * denominator := Nat.le_mul_of_pos_left _ above
      rw [gap, gap]
      omega
  · rw [if_pos limit_positive]

theorem power_of_ten_add (a b : Nat) : powerOfTen (a + b) = powerOfTen a * powerOfTen b := Nat.pow_add 10 a b

theorem lt_power_of_digits (n : Nat) : n < powerOfTen (digitCount n) :=
  (Nat.length_toDigits_le_iff (by decide) Nat.length_toDigits_pos).mp (Nat.le_refl _)

theorem large_decimal {digits : Nat} {exponent : Int} (filled : digits ≠ 0)
    (large : (digitCount digits : Int) + exponent > 320) :
    limit * powerOfTen (-exponent).toNat ≤ digits * powerOfTen exponent.toNat * one :=
  calc limit * powerOfTen (-exponent).toNat
      ≤ powerOfTen 320 * one * powerOfTen (-exponent).toNat := Nat.mul_le_mul_right _ limit_le_power
    _ = powerOfTen (320 + (-exponent).toNat) * one := by rw [power_of_ten_add, Nat.mul_right_comm]
    _ ≤ powerOfTen (digitCount digits - 1 + exponent.toNat) * one :=
        Nat.mul_le_mul_right _ (power_of_ten_le (by omega))
    _ = powerOfTen (digitCount digits - 1) * powerOfTen exponent.toNat * one := by rw [power_of_ten_add]
    _ ≤ digits * powerOfTen exponent.toNat * one :=
        Nat.mul_le_mul_right _ (Nat.mul_le_mul_right _ (power_le_of_digits digits filled))

theorem small_decimal {digits : Nat} {exponent : Int} (small : (digitCount digits : Int) + exponent < -330) :
    2 * (digits * powerOfTen exponent.toNat * one) < powerOfTen (-exponent).toNat := by
  have down : exponent.toNat = 0 := by omega
  calc 2 * (digits * powerOfTen exponent.toNat * one)
      = digits * (2 * one) := by rw [down, powerOfTen, Nat.pow_eq, Nat.pow_zero, Nat.mul_one, Nat.mul_left_comm]
    _ ≤ digits * powerOfTen 330 := Nat.mul_le_mul_left _ one_le_power
    _ < powerOfTen (digitCount digits) * powerOfTen 330 :=
        Nat.mul_lt_mul_of_pos_right (lt_power_of_digits digits) (power_of_ten_positive 330)
    _ = powerOfTen (digitCount digits + 330) := (power_of_ten_add _ _).symm
    _ ≤ powerOfTen (-exponent).toNat := power_of_ten_le (by omega)

theorem of_decimal_rounds (negative : Bool) (digits : Nat) (exponent : Int) :
    (ofDecimal negative digits exponent).Rounds negative (digits * powerOfTen exponent.toNat)
      (powerOfTen (-exponent).toNat) := by
  have positive := power_of_ten_positive (-exponent).toNat
  unfold ofDecimal
  dsimp only
  split
  · rename_i zero
    refine zero_rounds negative ?_
    rw [zero, Nat.zero_mul, Nat.zero_mul]
    exact positive
  · rename_i filled
    split
    · exact infinite_rounds negative positive (large_decimal filled ‹_›)
    · split
      · exact zero_rounds negative (small_decimal ‹_›)
      · split
        · have places : (-exponent).toNat = exponent.natAbs := by omega
          have none : exponent.toNat = 0 := by omega
          rw [places] at positive ⊢
          rw [none, powerOfTen, Nat.pow_eq, Nat.pow_zero, Nat.mul_one]
          exact of_ratio_rounds negative digits positive
        · have places : exponent.toNat = exponent.natAbs := by omega
          have none : (-exponent).toNat = 0 := by omega
          rw [places, none]
          exact of_ratio_rounds negative _ Nat.one_pos

-- The greatest number with fifty-three digits left of a place, and that its last digit is odd.
theorem Fits.le_greatest (fits : Fits units) {place : Nat} (below : units < powerOfTwo 53 * powerOfTwo place) :
    units ≤ (powerOfTwo 53 - 1) * powerOfTwo place := by
  rcases fits.left_of place with ⟨k, rfl⟩ | small
  · rw [Nat.mul_comm] at below ⊢
    exact Nat.mul_le_mul_right _ (Nat.le_sub_one_of_lt (Nat.lt_of_mul_lt_mul_right below))
  · exact small.le.trans (Nat.mul_le_mul_right _ (by decide))

theorem greatest_odd (place : Nat) :
    ¬ 2 * spacing ((powerOfTwo 53 - 1) * powerOfTwo place) ∣ (powerOfTwo 53 - 1) * powerOfTwo place := by
  have digits : ((powerOfTwo 53 - 1) * powerOfTwo place).log2 = 52 + place := by
    rw [Nat.log2_eq_iff (Nat.mul_pos (by decide) (power_of_two_positive place)).ne']
    constructor
    · exact (power_of_two_add 52 place).le.trans (Nat.mul_le_mul_right _ (by decide))
    · refine Nat.lt_of_lt_of_le (Nat.mul_lt_mul_of_pos_right (by decide) (power_of_two_positive place))
        ((power_of_two_add 53 place).symm.le.trans (power_of_two_le (by omega)))
  rw [spacing, digits, Nat.add_sub_cancel_left]
  intro even
  exact absurd (Nat.dvd_of_mul_dvd_mul_right (power_of_two_positive place) even) (by decide)

-- Halfway between the greatest number with fifty-three digits left of a place and the next, the next is chosen.
theorem Nearest.beyond_iff (nearest : Nearest target scale units) (positive : 0 < scale) (place : Nat) :
    powerOfTwo 53 * powerOfTwo (place + 1) ≤ units ↔ (powerOfTwo 54 - 1) * powerOfTwo place * scale ≤ target := by
  have step : powerOfTwo (place + 1) = powerOfTwo place * 2 := power_of_two_add place 1
  have next : powerOfTwo 53 * powerOfTwo (place + 1) * scale = 18014398509481984 * (powerOfTwo place * scale) := by
    rw [step, show powerOfTwo 53 = 9007199254740992 from rfl]
    ring
  have greatest : (powerOfTwo 53 - 1) * powerOfTwo (place + 1) * scale =
      18014398509481982 * (powerOfTwo place * scale) := by
    rw [step, show powerOfTwo 53 - 1 = 9007199254740991 from rfl]
    ring
  have halfway : (powerOfTwo 54 - 1) * powerOfTwo place * scale = 18014398509481983 * (powerOfTwo place * scale) := by
    rw [show powerOfTwo 54 - 1 = 18014398509481983 from rfl, Nat.mul_assoc]
  rw [halfway]
  constructor
  · intro beyond
    have least := nearest.least _ (fits_shifted (fits_of_short (by decide : powerOfTwo 53 - 1 < _)) (place + 1))
    have far := Nat.mul_le_mul_right scale beyond
    rw [gap, gap, greatest] at least
    omega
  · intro large
    by_contra below
    have most := Nat.mul_le_mul_right scale (nearest.fits.le_greatest (Nat.lt_of_not_le below))
    have fits : Fits (powerOfTwo 53 * powerOfTwo (place + 1)) := fits_shifted (fits_power 53) _
    have least := nearest.least _ fits
    have even := nearest.even _ fits (Nat.ne_of_gt (Nat.lt_of_not_le below))
    rw [gap, gap, next] at least even
    have same : units = (powerOfTwo 53 - 1) * powerOfTwo (place + 1) := by
      refine Nat.eq_of_mul_eq_mul_right positive ?_
      rw [greatest]
      omega
    rw [same, greatest] at even
    exact greatest_odd (place + 1) (even (by omega))

theorem Nearest.limit_le_iff (nearest : Nearest target scale units) (positive : 0 < scale) :
    limit ≤ units ↔ (powerOfTwo 1024 - powerOfTwo 970) * one * scale ≤ target := by
  rw [limit_edge, half_step_edge]
  exact nearest.beyond_iff positive 2044

theorem of_int_rounds (n : Int) : (ofInt n).Rounds (decide (n < 0)) n.natAbs 1 := of_ratio_rounds _ _ Nat.one_pos

-- Whole numbers round to whole numbers: below two to the power fifty-two nothing is rounded, and above it the format
-- has no fractions.
theorem Nearest.whole {n : Nat} (nearest : Nearest (n * one) 1 units) : one ∣ units := by
  rcases Nat.le_total n (powerOfTwo 53) with short | long
  · have fits : Fits (n * one) := (fits_parts_iff n).mpr (fits_of_le short)
    exact nearest.eq_of_exact Nat.one_pos fits (Nat.mul_one _) ▸ Nat.dvd_mul_left one n
  · rcases nearest.fits.left_of_one with left | small
    · exact left
    · have fits : Fits (powerOfTwo 53 * one) := (fits_parts_iff _).mpr (fits_power 53)
      have beyond := nearest.le_of_le Nat.one_pos fits (by rw [Nat.mul_one]; exact Nat.mul_le_mul_right one long)
      exact absurd (Nat.lt_of_le_of_lt beyond small) (Nat.not_lt.mpr (Nat.mul_le_mul_right _ (by decide)))

theorem of_int_finite_iff (n : Int) :
    (ofInt n).isFinite = true ↔ n.natAbs < powerOfTwo 1024 - powerOfTwo 970 := by
  obtain ⟨units, nearest, same⟩ := of_int_rounds n
  have edge := nearest.limit_le_iff Nat.one_pos
  rw [Nat.mul_one, Nat.mul_le_mul_right_iff one_positive] at edge
  rw [same, ← not_iff_not, Nat.not_lt, ← edge]
  split
  · exact iff_of_false (not_not.mpr rfl) (Nat.not_le.mpr ‹_›)
  · exact iff_of_true nofun (Nat.not_lt.mp ‹_›)

theorem of_int_whole {n : Int} (finite : (ofInt n).isFinite = true) :
    ∃ m, ofInt n = .finite (decide (n < 0)) (m * one) ∧ Nearest (n.natAbs * one) 1 (m * one) := by
  obtain ⟨units, nearest, same⟩ := of_int_rounds n
  obtain ⟨m, rfl⟩ := nearest.whole
  rw [Nat.mul_comm one] at same nearest
  refine ⟨m, ?_, nearest⟩
  rw [same] at finite ⊢
  split
  · rfl
  · rw [if_neg ‹_›] at finite
    cases finite

theorem of_int_exact {n : Int} (fits : Fits n.natAbs) (below : n.natAbs * one < limit) :
    ofInt n = .finite (decide (n < 0)) (n.natAbs * one) := by
  obtain ⟨units, nearest, same⟩ := of_int_rounds n
  have exact := nearest.eq_of_exact Nat.one_pos ((fits_parts_iff _).mpr fits) (Nat.mul_one _)
  rw [same, exact, if_pos below]

end Nearest

end FormEngine.Binary64
