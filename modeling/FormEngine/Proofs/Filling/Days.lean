import FormEngine.Proofs.Filling.Failing
import FormEngine.Proofs.Number.Notations
import FormEngine.Proofs.Pattern.Languages
import Mathlib.Tactic.IntervalCases

set_option autoImplicit false

namespace FormEngine

namespace Calendar

open Std.Time

def numeral (width : Nat) (n : Int) : List Char := Binary64.padLeft width (Nat.toDigits 10 n.toNat)

def written (date : PlainDate) : List Char :=
  numeral 4 date.year.toInt ++ '-' :: (numeral 2 date.month.val ++ '-' :: numeral 2 date.day.val)

def IsDay (cs : List Char) : Prop :=
  ∃ date : PlainDate, 1 ≤ date.year.toInt ∧ date.year.toInt ≤ 9999 ∧ cs = written date

theorem leap_same (year : Nat) : Year.Offset.isLeap (year : Int) = isLeap year := by
  have divides (n : Nat) : ((year : Int).tmod n = 0) ↔ year % n = 0 := by
    rw [← Int.ofNat_tmod]
    exact Int.natCast_eq_zero
  rw [Bool.eq_iff_iff, isLeap, Year.Offset.isLeap]
  simp only [decide_eq_true_eq, Bool.and_eq_true, Bool.or_eq_true, beq_iff_eq, bne_iff_ne]
  exact and_congr (divides 4) (or_congr (not_congr (divides 100)) (divides 400))

theorem days_same (year : Nat) (month : Month.Ordinal) :
    (Month.Ordinal.days (isLeap year) month).val = daysIn year month.val.toNat := by
  obtain ⟨m, low, high⟩ := month
  rw [daysIn]
  interval_cases m <;> cases isLeap year <;> rfl

theorem days_le (year month : Nat) : daysIn year month ≤ 31 := by
  rw [daysIn]
  split
  · split <;> decide
  · split <;> decide

theorem is_day_iff (year month day : Nat) : isDay year month day = true ↔
    1 ≤ year ∧ ∃ date : PlainDate, date.year.toInt = year ∧ date.month.val = month ∧ date.day.val = day := by
  simp only [isDay, Bool.and_eq_true, decide_eq_true_eq]
  constructor
  · rintro ⟨⟨⟨⟨begun, first⟩, last⟩, one⟩, within⟩
    have most := days_le year month
    let m : Month.Ordinal := ⟨month, by omega, by omega⟩
    let d : Day.Ordinal := ⟨day, by omega, by omega⟩
    have valid : Year.Offset.Valid (year : Int) m d := by
      change d.val ≤ (Month.Ordinal.days (Year.Offset.isLeap (year : Int)) m).val
      rw [leap_same, days_same]
      exact Int.ofNat_le.mpr within
    exact ⟨begun, ⟨(year : Int), m, d, valid⟩, rfl, rfl, rfl⟩
  · rintro ⟨begun, ⟨y, m, d, valid⟩, rfl, sameMonth, sameDay⟩
    have within : d.val ≤ (Month.Ordinal.days (Year.Offset.isLeap (year : Int)) m).val := valid
    rw [leap_same, days_same, show d.val = day from sameDay, show m.val = month from sameMonth] at within
    obtain ⟨m, low, high⟩ := m
    obtain ⟨d, one, _⟩ := d
    dsimp only at sameMonth sameDay
    subst sameMonth sameDay
    exact ⟨⟨⟨⟨begun, Int.ofNat_le.mp low⟩, Int.ofNat_le.mp high⟩, Int.ofNat_le.mp one⟩, Int.ofNat_le.mp within⟩

structure Shape (digit : Char → Bool) (year month day : List Char) : Prop where
  ofYear : year.length = 4 ∧ ∀ c ∈ year, digit c = true
  ofMonth : month.length = 2 ∧ ∀ c ∈ month, digit c = true
  ofDay : day.length = 2 ∧ ∀ c ∈ day, digit c = true

theorem is_date_iff (cs : List Char) : isDate cs = true ↔ ∃ year month day, cs = year ++ '-' :: (month ++ '-' :: day) ∧
    Shape Text.isAsciiDigit year month day ∧
    isDay (Numeral.digitsValue year) (Numeral.digitsValue month) (Numeral.digitsValue day) = true := by
  constructor
  · intro accepted
    unfold isDate at accepted
    split at accepted
    · rename_i a b c d e f g h
      obtain ⟨digits, real⟩ := Bool.and_eq_true_iff.mp accepted
      have all : ∀ x ∈ [a, b, c, d] ++ ([e, f] ++ [g, h]), Text.isAsciiDigit x = true := List.all_eq_true.mp digits
      obtain ⟨first, others⟩ := List.forall_mem_append.mp all
      obtain ⟨second, third⟩ := List.forall_mem_append.mp others
      exact ⟨[a, b, c, d], [e, f], [g, h], rfl, ⟨⟨rfl, first⟩, ⟨rfl, second⟩, ⟨rfl, third⟩⟩, real⟩
    · cases accepted
  · rintro ⟨year, month, day, rfl, ⟨⟨four, first⟩, ⟨two, second⟩, ⟨last, third⟩⟩, real⟩
    obtain ⟨a, b, c, d, rfl⟩ := List.length_eq_four.mp four
    obtain ⟨e, f, rfl⟩ := List.length_eq_two.mp two
    obtain ⟨g, h, rfl⟩ := List.length_eq_two.mp last
    have all : ∀ x ∈ [a, b, c, d] ++ ([e, f] ++ [g, h]), Text.isAsciiDigit x = true :=
      List.forall_mem_append.mpr ⟨first, List.forall_mem_append.mpr ⟨second, third⟩⟩
    exact Bool.and_eq_true_iff.mpr ⟨List.all_eq_true.mpr all, real⟩

theorem numeral_shape {width n : Nat} (wide : 0 < width) (small : n < 10 ^ width) :
    (numeral width n).length = width ∧ ∀ c ∈ numeral width n, Text.isAsciiDigit c = true :=
  ⟨length_padded (by decide) wide small, (Digits.to_digits _).padded _⟩

theorem numeral_value (width n : Nat) : Numeral.digitsValue (numeral width n) = n := by
  rw [numeral, digits_value_padded, digits_value_to_digits, Int.toNat_natCast]

theorem value_numeral {width : Nat} {cs : List Char} (wide : 0 < width)
    (shape : cs.length = width ∧ ∀ c ∈ cs, Text.isAsciiDigit c = true) :
    numeral width (Numeral.digitsValue cs) = cs := by
  obtain ⟨rfl, digits⟩ := shape
  exact Digits.padded_value digits (List.length_pos_iff.mp wide)

theorem is_date_iff_day (cs : List Char) : isDate cs = true ↔ IsDay cs := by
  rw [is_date_iff]
  constructor
  · rintro ⟨year, month, day, rfl, shape, real⟩
    obtain ⟨begun, date, sameYear, sameMonth, sameDay⟩ := (is_day_iff _ _ _).mp real
    have below := Digits.value_lt shape.ofYear.2
    rw [shape.ofYear.1] at below
    refine ⟨date, by omega, by omega, ?_⟩
    rw [written, sameYear, sameMonth, sameDay, value_numeral (by decide) shape.ofYear,
      value_numeral (by decide) shape.ofMonth, value_numeral (by decide) shape.ofDay]
  · rintro ⟨date, begun, short, rfl⟩
    have months := date.month.property
    have days := date.day.property
    obtain ⟨year, sameYear⟩ := Int.eq_ofNat_of_zero_le (show 0 ≤ date.year.toInt by omega)
    obtain ⟨month, sameMonth⟩ := Int.eq_ofNat_of_zero_le (show 0 ≤ date.month.val by omega)
    obtain ⟨day, sameDay⟩ := Int.eq_ofNat_of_zero_le (show 0 ≤ date.day.val by omega)
    refine ⟨numeral 4 year, numeral 2 month, numeral 2 day, by rw [written, sameYear, sameMonth, sameDay], ?_, ?_⟩
    · exact ⟨numeral_shape (by decide) (by omega), numeral_shape (by decide) (by omega),
        numeral_shape (by decide) (by omega)⟩
    · rw [numeral_value, numeral_value, numeral_value]
      exact (is_day_iff _ _ _).mpr ⟨by omega, date, sameYear, sameMonth, sameDay⟩

open Pattern

def decimalSet : CharSet := ⟨false, [.category .digit false false]⟩

def decimals (count : Nat) : Expr := .rounds count (some count) .greedy (.set decimalSet .exact)

def expr : Expr :=
  .seq (.anchor .textStart) (.seq (decimals 4) (.seq (.mark '-') (.seq (decimals 2) (.seq (.mark '-') (.seq (decimals 2)
    (.seq (.anchor .lastLineEnd) .empty))))))

theorem pattern_read : Pattern.read "^\\d\x7b4\x7d-\\d\x7b2\x7d-\\d\x7b2\x7d$" = .ok expr := by decide +kernel

def run (count : Nat) : Language Char :=
  letters (decimalSet.has .exact) ^ count * rounds (letters (decimalSet.has .exact)) (some (count - count))

theorem expr_closes :
    Closes (.seq (decimals 4) (.seq (.mark '-') (.seq (decimals 2) (.seq (.mark '-') (.seq (decimals 2)
      (.seq (.anchor .lastLineEnd) .empty)))))) (run 4 * ({['-']} * (run 2 * ({['-']} * (run 2 * 1))))) := by
  have part (count : Nat) : Denotes (decimals count) (run count) :=
    .rounds count (some count) .greedy (by decide) (.set decimalSet .exact)
  exact .after (part 4) (.after (mark_denotes '-') (.after (part 2) (.after (mark_denotes '-') (.after (part 2) .ends))))

theorem decimal_has (c : Char) : decimalSet.has .exact c = Text.isDecimal c := by
  change (((SetItem.category .digit false false).has .exact c.toNat || false) != false) = _
  change (((Text.isDecimal (Char.ofNat c.toNat) != false) || false) != false) = _
  rw [Char.ofNat_toNat, Bool.bne_false, Bool.or_false, Bool.bne_false]

theorem mem_run (count : Nat) (text : List Char) : text ∈ run count ↔ text.length = count ∧ Decimals text := by
  rw [run, Pattern.mem_run]
  simp only [decimal_has, Nat.sub_self, Option.some.injEq, forall_eq', Nat.add_zero]
  exact ⟨fun ⟨all, enough, within⟩ => ⟨within.antisymm enough, all⟩, fun ⟨size, all⟩ => ⟨all, size.ge, size.le⟩⟩

theorem pattern_accepts_iff (text : String) : expr.occursIn text = true ↔ ∃ year month day,
    Shape Text.isDecimal year month day ∧ (text.toList = year ++ '-' :: (month ++ '-' :: day) ∨
      text.toList = year ++ '-' :: (month ++ '-' :: day) ++ ['\n']) := by
  rw [expr, whole_text_iff expr_closes]
  simp only [mul_one, Language.mem_mul, mem_run]
  constructor
  · rintro ⟨_, ⟨year, first, _, ⟨_, rfl, _, ⟨month, second, _, ⟨_, rfl, day, third, rfl⟩, rfl⟩, rfl⟩, rfl⟩, same⟩
    exact ⟨year, month, day, ⟨first, second, third⟩, same⟩
  · rintro ⟨year, month, day, ⟨first, second, third⟩, same⟩
    exact ⟨_, ⟨year, first, _, ⟨_, rfl, _, ⟨month, second, _, ⟨_, rfl, day, third, rfl⟩, rfl⟩, rfl⟩, rfl⟩, same⟩

theorem day_passes {cs : List Char} (real : IsDay cs) : expr.occursIn (String.ofList cs) = true := by
  obtain ⟨year, month, day, rfl, shape, -⟩ := (is_date_iff cs).mp ((is_date_iff_day cs).mpr real)
  have plain (c : Char) (digit : Text.isAsciiDigit c = true) : Text.isDecimal c = true := by
    rw [Text.isDecimal, Text.digitValue?, if_pos digit]
    rfl
  refine (pattern_accepts_iff _).mpr ⟨year, month, day, ⟨?_, ?_, ?_⟩, .inl String.toList_ofList⟩
  · exact ⟨shape.ofYear.1, fun c member => plain c (shape.ofYear.2 c member)⟩
  · exact ⟨shape.ofMonth.1, fun c member => plain c (shape.ofMonth.2 c member)⟩
  · exact ⟨shape.ofDay.1, fun c member => plain c (shape.ofDay.2 c member)⟩

end Calendar

theorem date_accepted_iff (f : Field) (v : Value) (kind : f.kind = .date) (present : v.isEmpty = false) :
    let text := Text.trimBy Text.isBlank v.asText.toList
    (f.message v ≠ .ok (some "Enter a valid date (YYYY-MM-DD)") ↔ Calendar.IsDay text) ∧
    ∃ e, Pattern.read "^\\d\x7b4\x7d-\\d\x7b2\x7d-\\d\x7b2\x7d$" = .ok e ∧
      (Calendar.IsDay text → e.occursIn (String.ofList text) = true) := by
  intro text
  constructor
  · have only : f.kindComplaint v = if Calendar.isDate text then none else some .date := by
      rw [Field.kindComplaint, kind]
    refine Iff.trans ?_ (Calendar.is_date_iff_day text)
    exact f.kind_accepts_iff v .date _ (by rw [kind]; rfl) (by rw [kind]; rfl) present only rfl
  · exact ⟨Calendar.expr, Calendar.pattern_read, Calendar.day_passes⟩

theorem leap_day_accepted :
    (Value.text " 2000-02-29\n").isEmpty = false ∧
      (Field.create "born" .date).message (.text " 2000-02-29\n") ≠ .ok (some "Enter a valid date (YYYY-MM-DD)") := by
  have present : (Value.text " 2000-02-29\n").isEmpty = false := by decide +kernel
  obtain ⟨accepted, -⟩ := date_accepted_iff (Field.create "born" .date) _ rfl present
  have trimmed : Text.trimBy Text.isBlank (Value.text " 2000-02-29\n").asText.toList = "2000-02-29".toList := by
    decide +kernel
  have day : Calendar.IsDay "2000-02-29".toList := ⟨⟨2000, 2, 29, by decide⟩, by decide, by decide, by decide⟩
  exact ⟨present, accepted.mpr (trimmed ▸ day)⟩

end FormEngine
