import FormEngine.Proofs.Json.Texts
import FormEngine.Proofs.Number.Digits

set_option autoImplicit false

namespace FormEngine.Json

structure Ends (rest : Source) : Prop where
  digit : ∀ g after, rest = g :: after → isDigit g = false
  point : ∀ after, rest ≠ .char '.' :: after
  small : ∀ after, rest ≠ .char 'e' :: after
  large : ∀ after, rest ≠ .char 'E' :: after

theorem Ends.nil : Ends [] := ⟨nofun, nofun, nofun, nofun⟩

theorem Ends.comma (rest : Source) : Ends (.char ',' :: rest) :=
  ⟨fun _ _ same => (List.cons.inj same).1 ▸ rfl, by simp, by simp, by simp⟩

theorem Ends.line (rest : Source) : Ends (.char '\n' :: rest) :=
  ⟨fun _ _ same => (List.cons.inj same).1 ▸ rfl, by simp, by simp, by simp⟩

variable {limits : Limits} {inside : Enclosure} {begun : Nat} {negative : Bool} {whole fraction exponent : List Char}
  {rest : Source}

theorem split_digits (digits : Digits whole) (stops : ∀ g after, rest = g :: after → isDigit g = false) :
    splitDigits (glyphs whole ++ rest) = (whole, rest) := by
  induction whole with
  | nil =>
      cases rest with
      | nil => rfl
      | cons g after => simp [splitDigits, stops g after rfl]
  | cons c cs ih =>
      have first : isDigit (.char c) = true := digits c List.mem_cons_self
      have later := ih (fun d member => digits d (List.mem_cons_of_mem c member))
      simp only [splitDigits, Prod.mk.injEq] at later
      simp [splitDigits, first, later.1, later.2]

theorem read_number_whole (first : Whole whole) (stops : ∀ g after, rest = g :: after → isDigit g = false) :
    readNumber inside (glyphs ((if negative then ['-'] else []) ++ whole) ++ rest) =
      readFraction inside (glyphs ((if negative then ['-'] else []) ++ whole) ++ rest).length
        negative whole rest := by
  have split := split_digits first.digits stops
  obtain ⟨c, cs, rfl⟩ := List.exists_cons_of_ne_nil first.filled
  have digit : Text.isAsciiDigit c = true := first.digits c List.mem_cons_self
  have minus : c ≠ '-' := by rintro rfl; cases digit
  have infinite : c ≠ 'I' := by rintro rfl; cases digit
  by_cases zero : c = '0'
  · have single := first.leading cs (by rw [zero])
    subst zero single
    cases rest with
    | nil => cases negative <;> rfl
    | cons g after => cases negative <;> simp [readNumber, stops g after rfl]
  · rw [glyphs_cons, List.cons_append] at split
    cases negative with
    | true => simp [readNumber, zero, infinite, split]
    | false => simp [readNumber, zero, infinite, minus, split]

theorem read_fraction_none (stops : Ends rest) :
    (readFraction inside begun negative whole rest).toOption =
      if whole.length ≤ digitLimit then
        some (.int (if negative then -(Numeral.digitsValue whole : Int) else (Numeral.digitsValue whole : Int)), rest)
      else none := by
  rw [readFraction]
  · simp only [gt_iff_lt, ← Nat.not_le]
    split <;> simp_all [Except.toOption]
  · exact stops.point
  · exact stops.small
  · exact stops.large

theorem read_fraction_point (digits : Digits fraction) (filled : fraction ≠ []) (stops : Ends rest) :
    readFraction inside begun negative whole (glyphs ('.' :: fraction) ++ rest) =
      .ok (.float (.ofDecimal negative (Numeral.digitsValue (whole ++ fraction)) (-(fraction.length : Int))),
        rest) := by
  rw [glyphs_cons, List.cons_append, readFraction, split_digits digits stops.digit]
  split <;> rename_i same
  · exact absurd (Prod.mk.inj same).1 filled
  · exact absurd (Prod.mk.inj same).2 (stops.small _)
  · exact absurd (Prod.mk.inj same).2 (stops.large _)
  · obtain ⟨rfl, rfl⟩ := Prod.mk.inj same
    rfl

theorem read_exponent (digits : Digits exponent) (filled : exponent ≠ [])
    (stops : ∀ g after, rest = g :: after → isDigit g = false) (down : Bool) :
    readExponent (glyphs ((if down then '-' else '+') :: exponent) ++ rest) =
      .ok (if down then -(Numeral.digitsValue exponent : Int) else (Numeral.digitsValue exponent : Int), rest) := by
  have split := split_digits digits stops
  obtain ⟨d, ds, rfl⟩ := List.exists_cons_of_ne_nil filled
  rw [glyphs_cons, List.cons_append] at split
  cases down <;> simp [readExponent, split]

theorem read_fraction_power (digits : Digits fraction) (sound : Digits exponent) (filled : exponent ≠ [])
    (stops : Ends rest) (down : Bool) :
    readFraction inside begun negative whole
        (glyphs ((if fraction.isEmpty then [] else '.' :: fraction) ++ 'e' :: (if down then '-' else '+') :: exponent)
          ++ rest) =
      .ok (.float (.ofDecimal negative (Numeral.digitsValue (whole ++ fraction))
        ((if down then -(Numeral.digitsValue exponent : Int) else (Numeral.digitsValue exponent : Int))
          - fraction.length)), rest) := by
  have power := read_exponent sound filled stops.digit down
  generalize (if down then '-' else '+') :: exponent = text at power ⊢
  cases fraction with
  | nil =>
      rw [List.isEmpty_nil, if_pos rfl, List.nil_append, glyphs_cons, List.cons_append, readFraction]
      simp only [power]
  | cons d ds =>
      have split : splitDigits (glyphs (d :: ds) ++ (glyphs ('e' :: text) ++ rest)) = _ :=
        split_digits digits fun _ _ same => (List.cons.inj same).1 ▸ rfl
      rw [if_neg (by simp), glyphs_append, List.append_assoc, glyphs_cons, List.cons_append, readFraction, split]
      simp [power]

theorem written_read {cs : List Char} (written : Binary64.Written cs) (negative : Bool) :
    ∃ y, ∀ inside rest, Ends rest →
      readNumber inside (glyphs ((if negative then ['-'] else []) ++ cs) ++ rest) = .ok (.float y, rest) := by
  cases written with
  | point whole fraction first digits filled =>
      refine ⟨.ofDecimal negative (Numeral.digitsValue (whole ++ fraction)) (-(fraction.length : Int)),
        fun inside rest stops => ?_⟩
      rw [← List.append_assoc, glyphs_append, List.append_assoc, read_number_whole first,
        read_fraction_point digits filled stops]
      exact fun _ _ same => (List.cons.inj same).1 ▸ rfl
  | power whole fraction down exponent first digits sound filled =>
      refine ⟨.ofDecimal negative (Numeral.digitsValue (whole ++ fraction))
        ((if down then -(Numeral.digitsValue exponent : Int) else (Numeral.digitsValue exponent : Int))
          - fraction.length), fun inside rest stops => ?_⟩
      rw [List.append_assoc, ← List.append_assoc, glyphs_append, List.append_assoc, read_number_whole first,
        read_fraction_power digits sound filled stops]
      intro g after same
      split at same <;> exact (List.cons.inj same).1 ▸ rfl

theorem number_text_written (x : Binary64) (finite : x.isFinite = true) :
    ∃ (negative : Bool) (cs : List Char), Binary64.Written cs ∧
      numberText x = (if negative then ['-'] else []) ++ cs := by
  cases x with
  | nan | infinite => cases finite
  | finite negative units =>
      refine ⟨negative, _, Binary64.magnitude_text_written .exported units, ?_⟩
      rw [numberText, Binary64.finiteText, String.toList_ofList]

theorem number_text_read (inside : Enclosure) (x : Binary64) (finite : x.isFinite = true) (stops : Ends rest) :
    readNumber inside (glyphs (numberText x) ++ rest) = .ok (.float x.reread, rest) := by
  obtain ⟨negative, cs, written, text⟩ := number_text_written x finite
  obtain ⟨y, read⟩ := written_read written negative
  rw [← text] at read
  have alone := read .document [] .nil
  rw [List.append_nil] at alone
  have same : x.reread = y := by rw [Binary64.reread, alone]
  rw [same, read inside rest stops]

theorem int_text (n : Int) : (toString n).toList = (if n < 0 then ['-'] else []) ++ Nat.toDigits 10 n.natAbs := by
  cases n with
  | ofNat n => exact Nat.toList_repr
  | negSucc n =>
      show ("-" ++ Nat.repr (n + 1)).toList = _
      rw [String.toList_append, Nat.toList_repr]
      simp

theorem int_text_injective (a b : Int) (same : toString a = toString b) : a = b := by
  have texts := congrArg String.toList same
  rw [int_text, int_text] at texts
  have size (digits : Nat.toDigits 10 a.natAbs = Nat.toDigits 10 b.natAbs) : a.natAbs = b.natAbs := by
    rw [← digits_value_to_digits a.natAbs, digits, digits_value_to_digits]
  have unsigned (n : Nat) (rest : List Char) : '-' :: rest ≠ Nat.toDigits 10 n := fun begins =>
    absurd (Digits.to_digits n '-' (begins ▸ List.mem_cons_self)) (by decide)
  by_cases below : a < 0
  · by_cases other : b < 0
    · rw [if_pos below, if_pos other] at texts
      have sizes := size (List.append_cancel_left texts)
      omega
    · rw [if_pos below, if_neg other] at texts
      exact absurd texts (unsigned b.natAbs _)
  · by_cases other : b < 0
    · rw [if_neg below, if_pos other] at texts
      exact absurd texts.symm (unsigned a.natAbs _)
    · rw [if_neg below, if_neg other] at texts
      have sizes := size texts
      omega

theorem int_text_read (inside : Enclosure) (n : Int) (stops : Ends rest) :
    (readNumber inside (glyphs (toString n).toList ++ rest)).toOption =
      if Binary64.digitCount n.natAbs ≤ digitLimit then some (.int n, rest) else none := by
  have text : (toString n).toList = (if decide (n < 0) then ['-'] else []) ++ Nat.toDigits 10 n.natAbs := by
    simp only [int_text, decide_eq_true_eq]
  have value : (if decide (n < 0) then -(n.natAbs : Int) else (n.natAbs : Int)) = n := by
    simp only [decide_eq_true_eq]
    split <;> omega
  rw [text, read_number_whole (whole_to_digits _) stops.digit, read_fraction_none stops, digits_value_to_digits, value]
  rfl

end FormEngine.Json
