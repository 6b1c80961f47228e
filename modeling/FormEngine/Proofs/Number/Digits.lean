import FormEngine.Number.Numeral
import FormEngine.Number.Shortest
import Mathlib.Algebra.Ring.Nat
import Mathlib.Data.List.Induction
import Mathlib.Order.Nat

set_option autoImplicit false

namespace FormEngine

def Digits (cs : List Char) : Prop := ∀ c ∈ cs, Text.isAsciiDigit c = true

structure Whole (cs : List Char) : Prop where
  digits : Digits cs
  filled : cs ≠ []
  leading : ∀ rest, cs = '0' :: rest → rest = []

theorem Whole.of_leading {c : Char} {rest : List Char} (digits : Digits (c :: rest)) (leading : c ≠ '0') :
    Whole (c :: rest) :=
  ⟨digits, List.cons_ne_nil _ _, fun _ zero => absurd (List.cons.inj zero).1 leading⟩

namespace Digits

theorem append {a b : List Char} (left : Digits a) (right : Digits b) : Digits (a ++ b) := fun c member =>
  (List.mem_append.mp member).elim (left c) (right c)

theorem zeros (n : Nat) : Digits (List.replicate n '0') := fun _ member => List.eq_of_mem_replicate member ▸ rfl

theorem sublist {a b : List Char} (digits : Digits b) (part : a.Sublist b) : Digits a := fun c member =>
  digits c (part.subset member)

theorem to_digits (n : Nat) : Digits (Nat.toDigits 10 n) := by
  intro c member
  have digit := Nat.isDigit_of_mem_toDigits (by decide) (by decide) member
  simp only [Char.isDigit, Bool.and_eq_true, decide_eq_true_eq, ge_iff_le, UInt32.le_iff_toNat_le] at digit
  simp only [Text.isAsciiDigit, Bool.and_eq_true, decide_eq_true_eq]
  exact digit

theorem padded {digits : List Char} (sound : Digits digits) (width : Nat) : Digits (Binary64.padLeft width digits) :=
  (zeros _).append sound

end Digits

theorem digits_value_to_digits (n : Nat) : Numeral.digitsValue (Nat.toDigits 10 n) = n := by
  have read := @Nat.ofDigitChars_ten_toDigits n
  simp only [Nat.ofDigitChars, Nat.mul_comm 10] at read
  exact read

theorem to_digits_leading (n : Nat) (positive : n ≠ 0) : ∃ c rest, Nat.toDigits 10 n = c :: rest ∧ c ≠ '0' := by
  induction n using Nat.strongRecOn with
  | ind n ih =>
      rw [Nat.toDigits_eq_if (by decide)]
      split
      · exact ⟨n.digitChar, [], rfl, by simpa using positive⟩
      · obtain ⟨c, rest, digits, leading⟩ := ih (n / 10) (by omega) (by omega)
        exact ⟨c, rest ++ [(n % 10).digitChar], by rw [digits, List.cons_append], leading⟩

theorem whole_to_digits (n : Nat) : Whole (Nat.toDigits 10 n) := by
  refine ⟨Digits.to_digits n, Nat.toDigits_ne_nil, fun rest zero => ?_⟩
  by_cases positive : n = 0
  · rw [positive, Nat.toDigits_zero] at zero
    exact (List.cons.inj zero).2.symm
  · obtain ⟨c, rest', digits, leading⟩ := to_digits_leading n positive
    exact absurd (List.cons.inj (digits.symm.trans zero)).1 leading

theorem length_padded {base width n : Nat} (several : 1 < base) (wide : 0 < width) (small : n < base ^ width) :
    (Binary64.padLeft width (Nat.toDigits base n)).length = width := by
  have short := (Nat.length_toDigits_le_iff several wide).mpr small
  simp only [Binary64.padLeft, List.length_append, List.length_replicate]
  omega

theorem digits_value_padded (width : Nat) (digits : List Char) :
    Numeral.digitsValue (Binary64.padLeft width digits) = Numeral.digitsValue digits := by
  rw [Binary64.padLeft, Numeral.digitsValue, List.foldl_append]
  congr 1
  induction width - digits.length with
  | zero => rfl
  | succ n ih => exact ih

theorem digits_value_concat (digits : List Char) (c : Char) :
    Numeral.digitsValue (digits ++ [c]) = Numeral.digitsValue digits * 10 + (c.toNat - 48) :=
  List.foldl_append

namespace Digits

theorem of_concat {front : List Char} {c : Char} (digits : Digits (front ++ [c])) :
    Digits front ∧ 48 ≤ c.toNat ∧ c.toNat ≤ 57 := by
  have last := digits c (List.mem_append_right _ (List.mem_singleton_self c))
  simp only [Text.isAsciiDigit, Bool.and_eq_true, decide_eq_true_eq] at last
  exact ⟨digits.sublist (List.sublist_append_left _ _), last⟩

theorem value_lt {cs : List Char} (digits : Digits cs) : Numeral.digitsValue cs < 10 ^ cs.length := by
  induction cs using List.reverseRecOn with
  | nil => exact Nat.one_pos
  | append_singleton front c ih =>
      obtain ⟨front, low, high⟩ := digits.of_concat
      have below := ih front
      rw [digits_value_concat, List.length_append, List.length_singleton, Nat.pow_succ]
      omega

theorem determined {a b : List Char} (left : Digits a) (right : Digits b) (sizes : a.length = b.length)
    (values : Numeral.digitsValue a = Numeral.digitsValue b) : a = b := by
  induction a using List.reverseRecOn generalizing b with
  | nil => exact (List.length_eq_zero_iff.mp sizes.symm).symm
  | append_singleton front c ih =>
      cases b using List.reverseRecOn with
      | nil => simp at sizes
      | append_singleton others d =>
          obtain ⟨left, lowC, highC⟩ := left.of_concat
          obtain ⟨right, lowD, highD⟩ := right.of_concat
          rw [digits_value_concat, digits_value_concat] at values
          obtain rfl : front = others := ih left right (by simpa using sizes) (by omega)
          obtain rfl : c = d := Char.toNat_inj.mp (by omega)
          rfl

theorem padded_value {cs : List Char} (digits : Digits cs) (filled : cs ≠ []) :
    Binary64.padLeft cs.length (Nat.toDigits 10 (Numeral.digitsValue cs)) = cs := by
  refine determined ((to_digits _).padded _) digits ?_ ?_
  · exact length_padded (by decide) (List.length_pos_iff.mpr filled) digits.value_lt
  · rw [digits_value_padded, digits_value_to_digits]

end Digits

namespace Binary64

theorem power_of_ten_positive (n : Nat) : 0 < powerOfTen n := Nat.pow_pos (by decide)

theorem power_of_ten_le {a b : Nat} (le : a ≤ b) : powerOfTen a ≤ powerOfTen b := Nat.pow_le_pow_right (by decide) le

theorem power_of_two_positive (n : Nat) : 0 < powerOfTwo n := Nat.two_pow_pos n

theorem one_positive : 0 < one := power_of_two_positive 1074

theorem one_le : one ≤ powerOfTen 400 := by
  have thirds (n : Nat) : powerOfTwo (3 * n) ≤ powerOfTen n := by
    rw [powerOfTwo, Nat.pow_eq, Nat.pow_mul]
    exact Nat.pow_le_pow_left (by decide) n
  exact (thirds 358).trans (power_of_ten_le (by decide))

-- From here on it does not matter how many parts there are to one.
attribute [local irreducible] one

theorem spacing_le (units : Nat) (positive : units ≠ 0) : spacing units ≤ units :=
  calc spacing units ≤ 2 ^ units.log2 := Nat.pow_le_pow_right (by decide) (Nat.sub_le _ _)
    _ ≤ units := Nat.log2_self_le positive

theorem reads_back_positive (units : Nat) (positive : units ≠ 0) (digits : Nat) (exponent : Int)
    (back : readsBack (neighbourhood units) digits exponent = true) : digits ≠ 0 := by
  rintro rfl
  have low : 0 < (neighbourhood units).low * powerOfTen (-exponent).toNat := by
    refine Nat.mul_pos ?_ (power_of_ten_positive _)
    have near := spacing_le units positive
    simp only [neighbourhood]
    split <;> omega
  simp only [readsBack, Nat.mul_zero, Nat.zero_mul] at back
  split at back
  · simp only [Bool.and_eq_true, decide_eq_true_eq] at back
    exact absurd back.1 (Nat.not_le.mpr low)
  · simp at back

theorem with_digits_positive (units : Nat) (positive : units ≠ 0) (point : Int) (count : Nat) (found : Decimal)
    (some : withDigits? units point count = some found) : found.digits ≠ 0 := by
  unfold withDigits? at some
  extract_lets exponent numerator denominator below around nearest other at some
  split at some
  · rename_i back
    cases some
    exact reads_back_positive units positive _ _ back
  · split at some
    · rename_i back
      cases some
      exact reads_back_positive units positive _ _ back
    · cases some

theorem tenfolds_enough (fuel numerator denominator : Nat) (enough : denominator ≤ numerator * powerOfTen fuel) :
    denominator ≤ numerator * powerOfTen (tenfolds fuel numerator denominator) := by
  have tenfold (n k : Nat) : n * 10 * powerOfTen k = n * powerOfTen (k + 1) := by
    rw [Nat.mul_assoc, powerOfTen, powerOfTen, Nat.mul_comm 10]
    rfl
  induction fuel generalizing numerator with
  | zero => exact enough
  | succ fuel ih =>
      rw [tenfolds]
      split
      · exact (Nat.mul_one numerator).symm ▸ ‹denominator ≤ numerator›
      · have later := ih (numerator * 10) (by rw [tenfold]; exact enough)
        rwa [tenfold] at later

theorem power_le_of_digits (n : Nat) (positive : n ≠ 0) : powerOfTen (digitCount n - 1) ≤ n := by
  by_cases short : digitCount n - 1 = 0
  · rw [short]
    exact Nat.one_le_iff_ne_zero.mpr positive
  · have length := Nat.length_toDigits_le_iff (n := n) (by decide : 1 < 10) (Nat.pos_of_ne_zero short)
    have longer : ¬ (Nat.toDigits 10 n).length ≤ digitCount n - 1 := by
      rw [digitCount] at short ⊢
      omega
    exact Nat.not_lt.mp (mt length.mpr longer)

theorem point_reached (units : Nat) (positive : units ≠ 0) (count : Nat) (above : 0 < count) :
    one * powerOfTen (pointOf units - count).toNat ≤ units * powerOfTen (count - pointOf units).toNat := by
  rw [pointOf]
  split
  · rename_i large
    have quotient : units / one ≠ 0 := (Nat.div_pos large one_positive).ne'
    have reached : one * powerOfTen (digitCount (units / one) - 1) ≤ units :=
      (Nat.mul_le_mul_left _ (power_le_of_digits _ quotient)).trans (Nat.mul_div_le units one)
    calc one * powerOfTen ((digitCount (units / one) : Int) - count).toNat
        ≤ one * powerOfTen (digitCount (units / one) - 1) := Nat.mul_le_mul_left _ (power_of_ten_le (by omega))
      _ ≤ units := reached
      _ ≤ units * powerOfTen _ := Nat.le_mul_of_pos_right _ (power_of_ten_positive _)
  · have least : one ≤ units * powerOfTen 400 :=
      one_le.trans (Nat.le_mul_of_pos_left _ (Nat.pos_of_ne_zero positive))
    have enough := tenfolds_enough 400 units one least
    generalize tenfolds 400 units one = zeros at enough
    have none : (1 - (zeros : Int) - count).toNat = 0 := by omega
    rw [none]
    calc one * powerOfTen 0 = one := Nat.mul_one _
      _ ≤ units * powerOfTen zeros := enough
      _ ≤ units * powerOfTen _ := Nat.mul_le_mul_left _ (power_of_ten_le (by omega))

theorem shortest_from_positive (units : Nat) (positive : units ≠ 0) (fuel count : Nat) (above : 0 < count) :
    (shortestFrom units (pointOf units) fuel count).digits ≠ 0 := by
  induction fuel generalizing count with
  | zero =>
      have room : 0 < one * powerOfTen (pointOf units - count).toNat :=
        Nat.mul_pos one_positive (power_of_ten_positive _)
      exact (Nat.div_pos (point_reached units positive count above) room).ne'
  | succ fuel ih =>
      rw [shortestFrom]
      split
      · exact with_digits_positive units positive _ _ _ ‹_›
      · exact ih (count + 1) (Nat.succ_pos count)

theorem shortest_positive (units : Nat) (positive : units ≠ 0) : (shortest units).digits ≠ 0 :=
  shortest_from_positive units positive 17 1 Nat.one_pos

theorem significant_digits (n : Nat) : Digits (significant n) := by
  refine (Digits.to_digits n).sublist ?_
  rw [significant, ← List.reverse_sublist, List.reverse_reverse]
  exact List.dropWhile_sublist _

theorem significant_leading (n : Nat) (positive : n ≠ 0) : ∃ c rest, significant n = c :: rest ∧ c ≠ '0' := by
  obtain ⟨c, rest, digits, leading⟩ := to_digits_leading n positive
  rw [significant, digits, List.reverse_cons, List.dropWhile_append]
  split
  · exact ⟨c, [], by simp [leading], leading⟩
  · exact ⟨c, (rest.reverse.dropWhile (· == '0')).reverse, by simp, leading⟩

inductive Written : List Char → Prop
  | point (whole fraction : List Char) (first : Whole whole) (digits : Digits fraction) (filled : fraction ≠ []) :
      Written (whole ++ '.' :: fraction)
  | power (whole fraction : List Char) (negative : Bool) (exponent : List Char) (first : Whole whole)
      (digits : Digits fraction) (sound : Digits exponent) (filled : exponent ≠ []) :
      Written (whole ++ (if fraction.isEmpty then [] else '.' :: fraction) ++
        'e' :: (if negative then '-' else '+') :: exponent)

theorem lay_digits_written (layout : Layout) (c : Char) (rest : List Char) (digits : Digits (c :: rest))
    (leading : c ≠ '0') (point : Int) : Written (layDigits layout (c :: rest) point) := by
  have zero : Whole ['0'] := ⟨Digits.zeros 1, List.cons_ne_nil _ _, fun _ same => (List.cons.inj same).2.symm⟩
  simp only [layDigits]
  split
  · split
    · exact .point ['0'] _ zero ((Digits.zeros _).append digits) (by simp)
    · rename_i _ above
      obtain ⟨n, same⟩ : ∃ n, point.toNat = n + 1 := ⟨point.toNat - 1, by omega⟩
      simp only [same, List.take_succ_cons, List.drop_succ_cons, List.cons_append]
      refine .point (c :: (rest.take n ++ List.replicate _ '0')) _ (.of_leading ?_ leading) ?_ ?_
      · exact (digits.sublist ((List.take_sublist n rest).cons_cons c)).append (.zeros _)
      · split
        · exact Digits.zeros 1
        · exact digits.sublist ((List.drop_sublist n rest).cons c)
      · split
        · exact List.cons_ne_nil _ _
        · exact fun empty => absurd (List.isEmpty_iff.mpr empty) ‹_›
  · have exponent : exponentText layout.exponentWidth (point - 1) = (if decide (point - 1 < 0) then '-' else '+') ::
        padLeft layout.exponentWidth (Nat.toDigits 10 (point - 1).natAbs) := by
      rw [exponentText]
      congr 1
      simp only [decide_eq_true_eq]
    rw [exponent]
    exact .power [c] rest _ _ (.of_leading (digits.sublist (by simp)) leading)
      (digits.sublist (List.sublist_cons_self c rest)) ((Digits.to_digits _).padded _) (by simp [padLeft])

theorem magnitude_text_written (layout : Layout) (units : Nat) : Written (magnitudeText layout units) := by
  rw [magnitudeText]
  split
  · exact .point ['0'] ['0'] (whole_to_digits 0) (.zeros 1) (List.cons_ne_nil _ _)
  · rename_i positive
    obtain ⟨c, rest, same, leading⟩ := significant_leading _ (shortest_positive units positive)
    have digits := significant_digits (shortest units).digits
    rw [same] at digits
    simp only [same]
    exact lay_digits_written layout c rest digits leading _

end Binary64

end FormEngine
