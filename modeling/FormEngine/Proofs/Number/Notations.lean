import FormEngine.Proofs.Number.Exact
import FormEngine.Proofs.Number.Rounding

set_option autoImplicit false

namespace FormEngine

open Text

def Decimals (cs : List Char) : Prop := ∀ c ∈ cs, isDecimal c = true

namespace Numeral

def saidBy (digits : List Char) : Nat := digits.foldl (fun n c => n * 10 + (digitValue? c).getD 0) 0

-- Comma notation: digits, those left of the comma either in one piece or in groups of three after the first, which is
-- no longer than three. Without a fraction there is no comma.
structure Comma where
  negative : Bool
  first : List Char
  groups : List (List Char)
  fraction : List Char
  filled : first ≠ []
  digits : Decimals first
  short : groups ≠ [] → first.length ≤ 3
  threes : ∀ group ∈ groups, Decimals group ∧ group.length = 3
  parts : Decimals fraction

namespace Comma

def sign (n : Comma) : List Char := if n.negative then ['-'] else []

def whole (n : Comma) : List Char := n.first ++ n.groups.flatten

def text (n : Comma) : List Char :=
  n.sign ++ (n.first ++ n.groups.flatMap ('.' :: ·) ++ if n.fraction = [] then [] else ',' :: n.fraction)

def pointed (n : Comma) : List Char :=
  n.sign ++ (n.whole ++ if n.fraction = [] then [] else '.' :: n.fraction)

end Comma

def rewritten (cs : List Char) : List Char := (cs.filter (· != '.')).map fun c => if c == ',' then '.' else c

theorem decimal_ne {c d : Char} (decimal : isDecimal c = true) (other : isDecimal d = false) : c ≠ d := by
  rintro rfl
  rw [decimal] at other
  cases other

theorem decimals_absent {cs : List Char} (decimals : Decimals cs) {mark : Char} (other : isDecimal mark = false) :
    mark ∉ cs := fun member => decimal_ne (decimals mark member) other rfl

theorem digit_value_small {c : Char} {value : Nat} (said : digitValue? c = some value) : value ≤ 9 := by
  rw [digitValue?] at said
  split at said
  · rename_i digit
    cases said
    simp only [isAsciiDigit, Bool.and_eq_true, decide_eq_true_eq] at digit
    omega
  · split at said
    · cases said
    · obtain ⟨start, found, rfl⟩ := Option.map_eq_some_iff.mp said
      have within := List.find?_some found
      simp only [Bool.and_eq_true, decide_eq_true_eq] at within
      omega

theorem plain_digit (c : Char) (decimal : isDecimal c = true) :
    isAsciiDigit (plainDigit c) = true ∧ (plainDigit c).toNat - 48 = (digitValue? c).getD 0 := by
  obtain ⟨value, said⟩ := Option.isSome_iff_exists.mp decimal
  have small := digit_value_small said
  have codes : ∀ value ≤ 9, (Char.ofNat (48 + value)).toNat = 48 + value := by decide
  have code := codes value small
  rw [plainDigit, said]
  simp only [isAsciiDigit, code, Option.getD_some, Bool.and_eq_true, decide_eq_true_eq]
  omega

theorem plain_digits {cs : List Char} (decimals : Decimals cs) : Digits (cs.map plainDigit) := by
  intro c member
  obtain ⟨d, inside, rfl⟩ := List.mem_map.mp member
  exact (plain_digit d (decimals d inside)).1

theorem plain_digits_value {cs : List Char} (decimals : Decimals cs) :
    digitsValue (cs.map plainDigit) = saidBy cs := by
  have steps (cs : List Char) (decimals : Decimals cs) (start : Nat) :
      (cs.map plainDigit).foldl (fun n c => n * 10 + (c.toNat - 48)) start =
        cs.foldl (fun n c => n * 10 + (digitValue? c).getD 0) start := by
    induction cs generalizing start with
    | nil => rfl
    | cons c rest ih =>
        rw [List.map_cons, List.foldl_cons, List.foldl_cons, (plain_digit c (decimals c List.mem_cons_self)).2]
        exact ih (fun d member => decimals d (List.mem_cons_of_mem c member)) _
  exact steps cs decimals 0

section Splitting

variable {mark : Char} {cs : List Char}

theorem split_absent (absent : mark ∉ cs) : splitAtChar mark cs = [cs] := by
  induction cs with
  | nil => rfl
  | cons c rest ih =>
      have other : c ≠ mark := fun same => absent (same ▸ List.mem_cons_self)
      simp [splitAtChar, other, ih fun member => absent (List.mem_cons_of_mem c member)]

theorem split_cut (absent : mark ∉ cs) (rest : List Char) :
    splitAtChar mark (cs ++ mark :: rest) = cs :: splitAtChar mark rest := by
  induction cs with
  | nil => simp [splitAtChar]
  | cons c more ih =>
      have other : c ≠ mark := fun same => absent (same ▸ List.mem_cons_self)
      simp [splitAtChar, other, ih fun member => absent (List.mem_cons_of_mem c member)]

theorem split_joined (first : List Char) (pieces : List (List Char)) (absent : mark ∉ first)
    (clean : ∀ piece ∈ pieces, mark ∉ piece) :
    splitAtChar mark (first ++ pieces.flatMap (mark :: ·)) = first :: pieces := by
  induction pieces generalizing first with
  | nil => simpa using split_absent absent
  | cons piece rest ih =>
      rw [List.flatMap_cons, List.cons_append, split_cut absent]
      rw [ih piece (clean piece List.mem_cons_self) fun other member => clean other (List.mem_cons_of_mem _ member)]

theorem split_rejoined (mark : Char) (cs : List Char) :
    ∃ first pieces, splitAtChar mark cs = first :: pieces ∧ cs = first ++ pieces.flatMap (mark :: ·) := by
  induction cs with
  | nil => exact ⟨[], [], rfl, rfl⟩
  | cons c rest ih =>
      obtain ⟨first, pieces, split, joined⟩ := ih
      by_cases here : c = mark
      · refine ⟨[], first :: pieces, by simp [splitAtChar, here, split], ?_⟩
        rw [here, List.flatMap_cons, List.nil_append, List.cons_append, ← joined]
      · refine ⟨c :: first, pieces, by simp [splitAtChar, here, split], ?_⟩
        rw [List.cons_append, ← joined]

theorem split_length (mark : Char) (cs : List Char) : (splitAtChar mark cs).length = cs.count mark + 1 := by
  induction cs with
  | nil => rfl
  | cons c rest ih =>
      obtain ⟨first, pieces, split, _⟩ := split_rejoined mark rest
      rw [split] at ih
      by_cases here : c = mark
      · simp [splitAtChar, here, split, ← ih]
      · simp [splitAtChar, here, split, ← ih, List.count_cons_of_ne here]

end Splitting

theorem Comma.decimals (n : Comma) : Decimals n.whole := by
  intro c member
  rcases List.mem_append.mp member with first | later
  · exact n.digits c first
  · obtain ⟨group, inside, there⟩ := List.mem_flatten.mp later
    exact (n.threes group inside).1 c there

theorem comma_whole (n : Comma) : commaWhole? (n.first ++ n.groups.flatMap ('.' :: ·)) = some n.whole := by
  have split : splitAtChar '.' (n.first ++ n.groups.flatMap ('.' :: ·)) = n.first :: n.groups :=
    split_joined _ _ (decimals_absent n.digits (by decide)) fun group member =>
      decimals_absent (n.threes group member).1 (by decide)
  have filled : n.whole ≠ [] := by simp [Comma.whole, n.filled]
  have decimals : n.whole.all isDecimal = true := List.all_eq_true.mpr n.decimals
  have sizes : ((n.first :: n.groups).length == 1 || grouped (n.first :: n.groups)) = true := by
    cases groups : n.groups with
    | nil => rfl
    | cons group more =>
        have short := n.short (by simp [groups])
        have threes := n.threes
        have filled := List.length_pos_iff.mpr n.filled
        rw [groups] at threes
        simp only [grouped, Bool.or_eq_true, Bool.and_eq_true, decide_eq_true_eq, List.all_eq_true, beq_iff_eq]
        exact .inr ⟨⟨filled, short⟩, fun other member => (threes other member).2⟩
  have flat : (n.first :: n.groups).flatten = n.whole := rfl
  rw [commaWhole?, split, flat, sizes, decimals, Bool.and_true, Bool.and_true, if_pos (by simp [filled])]

theorem comma_whole_parts {cs digits : List Char} (read : commaWhole? cs = some digits) :
    ∃ first groups, cs = first ++ groups.flatMap ('.' :: ·) ∧ first ≠ [] ∧ Decimals first ∧
      (groups ≠ [] → first.length ≤ 3) ∧ ∀ group ∈ groups, Decimals group ∧ group.length = 3 := by
  obtain ⟨first, groups, split, joined⟩ := split_rejoined '.' cs
  rw [commaWhole?, split] at read
  split at read
  · rename_i sound
    simp only [Bool.and_eq_true, List.all_eq_true, List.mem_flatten] at sound
    obtain ⟨⟨filled, decimals⟩, sizes⟩ := sound
    have digits : ∀ group ∈ first :: groups, Decimals group := fun group member c inside =>
      decimals c ⟨group, member, inside⟩
    cases groups with
    | nil =>
        rw [List.flatten_cons, List.flatten_nil, List.append_nil] at filled
        exact ⟨first, [], joined, by simpa using filled, digits first List.mem_cons_self, nofun, nofun⟩
    | cons group more =>
        simp only [grouped, List.length_cons, Bool.or_eq_true, Bool.and_eq_true, beq_iff_eq, decide_eq_true_eq,
          List.all_eq_true] at sizes
        obtain ⟨⟨above, short⟩, threes⟩ := sizes.resolve_left (by omega)
        exact ⟨first, group :: more, joined, List.length_pos_iff.mp above, digits first List.mem_cons_self,
          fun _ => short, fun other member => ⟨digits other (List.mem_cons_of_mem _ member), threes other member⟩⟩
  · cases read

theorem from_comma_signed (negative : Bool) (rest : List Char)
    (unsigned : negative = false → ∀ more, rest ≠ '-' :: more) :
    fromComma? ((if negative then ['-'] else []) ++ rest) = match splitAtChar ',' rest with
      | [whole] => (commaWhole? whole).map ((if negative then ['-'] else []) ++ ·)
      | [whole, fraction] =>
          if !fraction.isEmpty && fraction.all isDecimal then
            (commaWhole? whole).map ((if negative then ['-'] else []) ++ · ++ '.' :: fraction)
          else none
      | _ => none := by
  cases negative with
  | true => rfl
  | false => exact fromComma?.eq_2 rest (unsigned rfl)

theorem Comma.unsigned (n : Comma) (tail : List Char) : ∀ more, n.first ++ tail ≠ '-' :: more := by
  intro more same
  cases first : n.first with
  | nil => exact n.filled first
  | cons c rest =>
      rw [first, List.cons_append] at same
      have decimal := n.digits c (first ▸ List.mem_cons_self)
      rw [(List.cons.inj same).1] at decimal
      revert decimal
      decide

theorem from_comma (n : Comma) : fromComma? n.text = some n.pointed := by
  have unsplit : ',' ∉ n.first ++ n.groups.flatMap ('.' :: ·) := by
    rw [List.mem_append, List.mem_flatMap, not_or]
    refine ⟨decimals_absent n.digits (by decide), ?_⟩
    rintro ⟨group, member, inside⟩
    exact (List.mem_cons.mp inside).elim (by decide) (decimals_absent (n.threes group member).1 (by decide))
  rw [Comma.text, Comma.sign, from_comma_signed _ _ fun _ => by rw [List.append_assoc]; exact n.unsigned _]
  by_cases none : n.fraction = []
  · rw [if_pos none, List.append_nil, split_absent unsplit]
    simp [comma_whole, Comma.pointed, Comma.sign, none]
  · have decimals : n.fraction.all isDecimal = true := List.all_eq_true.mpr n.parts
    rw [if_neg none, split_cut unsplit, split_absent (decimals_absent n.parts (by decide))]
    simp [comma_whole, Comma.pointed, Comma.sign, none, decimals]

theorem from_comma_iff (cs : List Char) : (fromComma? cs).isSome ↔ ∃ n : Comma, n.text = cs := by
  constructor
  · intro read
    obtain ⟨negative, rest, rfl, unsigned⟩ : ∃ (negative : Bool) (rest : List Char),
        cs = (if negative then ['-'] else []) ++ rest ∧ (negative = false → ∀ more, rest ≠ '-' :: more) := by
      by_cases minus : ∃ more, cs = '-' :: more
      · obtain ⟨more, rfl⟩ := minus
        exact ⟨true, more, rfl, nofun⟩
      · exact ⟨false, cs, rfl, fun _ more same => minus ⟨more, same⟩⟩
    rw [from_comma_signed negative rest unsigned] at read
    obtain ⟨before, after, split, joined⟩ := split_rejoined ',' rest
    rw [split] at read
    cases after with
    | nil =>
        rw [Option.isSome_map] at read
        obtain ⟨digits, whole⟩ := Option.isSome_iff_exists.mp read
        obtain ⟨first, groups, same, filled, decimals, short, threes⟩ := comma_whole_parts whole
        exact ⟨⟨negative, first, groups, [], filled, decimals, short, threes, nofun⟩,
          by simp [Comma.text, Comma.sign, joined, same]⟩
    | cons fraction more =>
        cases more with
        | cons another rest => cases read
        | nil =>
            dsimp only at read
            split at read
            · rename_i sound
              simp only [Bool.and_eq_true, Bool.not_eq_true', List.isEmpty_eq_false_iff, List.all_eq_true] at sound
              rw [Option.isSome_map] at read
              obtain ⟨digits, whole⟩ := Option.isSome_iff_exists.mp read
              obtain ⟨first, groups, same, filled, decimals, short, threes⟩ := comma_whole_parts whole
              exact ⟨⟨negative, first, groups, fraction, filled, decimals, short, threes, sound.2⟩,
                by simp [Comma.text, Comma.sign, joined, same, sound.1]⟩
            · cases read
  · rintro ⟨n, rfl⟩
    rw [from_comma]
    rfl

theorem rewritten_append (a b : List Char) : rewritten (a ++ b) = rewritten a ++ rewritten b := by
  rw [rewritten, List.filter_append, List.map_append]
  rfl

theorem rewritten_decimals {cs : List Char} (decimals : Decimals cs) : rewritten cs = cs := by
  have kept : cs.filter (· != '.') = cs := List.filter_eq_self.mpr fun c member => by
    simpa using decimal_ne (decimals c member) (by decide)
  have same : ∀ c ∈ cs, (if c == ',' then '.' else c) = id c := fun c member => by
    simp [decimal_ne (decimals c member) (by decide : isDecimal ',' = false)]
  rw [rewritten, kept, List.map_congr_left same, List.map_id]

theorem rewritten_text (n : Comma) : rewritten n.text = n.pointed := by
  have sign : rewritten n.sign = n.sign := by cases negative : n.negative <;> simp [Comma.sign, negative, rewritten]
  have groups (all : List (List Char)) (sound : ∀ group ∈ all, Decimals group) :
      rewritten (all.flatMap ('.' :: ·)) = all.flatten := by
    induction all with
    | nil => rfl
    | cons group rest ih =>
        rw [List.flatMap_cons, List.flatten_cons, rewritten_append,
          ih fun other member => sound other (List.mem_cons_of_mem _ member)]
        exact congrArg (· ++ rest.flatten) (rewritten_decimals (sound group List.mem_cons_self))
  have fraction : rewritten (if n.fraction = [] then [] else ',' :: n.fraction) =
      if n.fraction = [] then [] else '.' :: n.fraction := by
    split
    · rfl
    · exact congrArg ('.' :: ·) (rewritten_decimals n.parts)
  rw [Comma.text, rewritten_append, rewritten_append, rewritten_append, sign, rewritten_decimals n.digits,
    groups _ fun group member => (n.threes group member).1, fraction]
  rfl

theorem no_underscores {cs : List Char} (absent : '_' ∉ cs) (afterDigit : Bool) :
    dropUnderscores afterDigit cs = some cs := by
  induction cs generalizing afterDigit with
  | nil => rfl
  | cons c rest ih =>
      have other : c ≠ '_' := fun same => absent (same ▸ List.mem_cons_self)
      rw [dropUnderscores, ih fun member => absent (List.mem_cons_of_mem c member)]
      · rfl
      · exact fun _ _ same => absurd same other
      · exact fun same => absurd same other

theorem split_at_end {digits rest : List Char} (sound : Digits digits)
    (stop : ∀ c more, rest = c :: more → isAsciiDigit c = false) : splitDigits (digits ++ rest) = (digits, rest) := by
  rw [splitDigits, List.takeWhile_append_of_pos sound, List.dropWhile_append_of_pos sound]
  cases rest with
  | nil => simp
  | cons c more => simp [stop c more rfl]

theorem read_digits (negative : Bool) {whole fraction : List Char} (left : Digits whole) (filled : whole ≠ [])
    (right : Digits fraction) :
    readUnsigned negative (whole ++ if fraction = [] then [] else '.' :: fraction) =
      some (.ofDecimal negative (digitsValue (whole ++ fraction)) (-(fraction.length : Int))) := by
  by_cases none : fraction = []
  · have alone : splitDigits (whole ++ []) = (whole, []) := split_at_end left nofun
    rw [if_pos none, readUnsigned, alone]
    simp [none, filled, readExponent]
  · have alone : splitDigits (fraction ++ []) = (fraction, []) := split_at_end right nofun
    have point : splitDigits (whole ++ '.' :: fraction) = (whole, '.' :: fraction) :=
      split_at_end left fun _ _ same => (List.cons.inj same).1 ▸ rfl
    rw [List.append_nil] at alone
    rw [if_neg none, readUnsigned, point]
    simp [alone, filled, readExponent]

theorem read_signed (negative : Bool) {whole fraction : List Char} (left : Digits whole) (filled : whole ≠ [])
    (right : Digits fraction) :
    readPlain ((if negative then ['-'] else []) ++ (whole ++ if fraction = [] then [] else '.' :: fraction)) =
      some (.ofDecimal negative (digitsValue (whole ++ fraction)) (-(fraction.length : Int))) := by
  have sign : splitSign ((if negative then ['-'] else []) ++
      (whole ++ if fraction = [] then [] else '.' :: fraction)) =
        (negative, whole ++ if fraction = [] then [] else '.' :: fraction) := by
    cases negative with
    | true => rfl
    | false =>
        obtain ⟨c, more, rfl⟩ := List.exists_cons_of_ne_nil filled
        have digit : isAsciiDigit c = true := left c List.mem_cons_self
        rw [if_neg Bool.false_ne_true, List.nil_append, List.cons_append, splitSign]
        all_goals
          rintro _ same
          rw [(List.cons.inj same).1] at digit
          revert digit
          decide
  rw [readPlain, sign]
  exact (congrArg (Option.or · _) (read_digits negative left filled right)).trans rfl

theorem plain_pointed (n : Comma) : n.pointed.map plainDigit =
    (if n.negative then ['-'] else []) ++
      (n.whole.map plainDigit ++ if n.fraction.map plainDigit = [] then [] else '.' :: n.fraction.map plainDigit) := by
  have sign : n.sign.map plainDigit = if n.negative then ['-'] else [] := by
    cases negative : n.negative <;> simp [Comma.sign, negative, plainDigit, digitValue?, isAsciiDigit]
  have fraction : (if n.fraction = [] then [] else '.' :: n.fraction).map plainDigit =
      if n.fraction.map plainDigit = [] then [] else '.' :: n.fraction.map plainDigit := by
    simp only [List.map_eq_nil_iff]
    split <;> rfl
  rw [Comma.pointed, List.map_append, List.map_append, sign, fraction]

theorem read_pointed (n : Comma) :
    readPoint n.pointed =
      some (.ofDecimal n.negative (saidBy (n.whole ++ n.fraction)) (-(n.fraction.length : Int))) := by
  have whole := plain_digits n.decimals
  have fraction := plain_digits n.parts
  have filled : n.whole.map plainDigit ≠ [] := by simp [Comma.whole, n.filled]
  have both : Decimals (n.whole ++ n.fraction) := fun c member =>
    (List.mem_append.mp member).elim (n.decimals c) (n.parts c)
  have plain : '_' ∉ n.pointed.map plainDigit := by
    have absent {cs : List Char} (digits : Digits cs) : '_' ∉ cs := fun member => absurd (digits _ member) (by decide)
    rw [plain_pointed]
    simp only [List.mem_append, not_or]
    refine ⟨by split <;> decide, absent whole, ?_⟩
    split
    · exact List.not_mem_nil
    · exact fun member => (List.mem_cons.mp member).elim (by decide) (absent fraction)
  rw [readPoint, no_underscores plain, plain_pointed]
  refine (read_signed n.negative whole filled fraction).trans ?_
  rw [← List.map_append, plain_digits_value both, List.length_map]

theorem read_unsigned_valid {negative : Bool} {cs : List Char} {x : Binary64}
    (read : readUnsigned negative cs = some x) : x.Valid := by
  obtain ⟨_, made⟩ := Option.ite_none_left_eq_some.mp read
  obtain ⟨exponent, _, rfl⟩ := Option.map_eq_some_iff.mp made
  exact (Binary64.of_decimal_rounds _ _ _).valid

theorem read_word_valid {negative : Bool} {cs : List Char} {x : Binary64} (read : readWord negative cs = some x) :
    x.Valid := by
  simp only [readWord] at read
  split at read
  · cases read
    trivial
  · split at read
    · cases read
      trivial
    · cases read

theorem read_point_valid {cs : List Char} {x : Binary64} (read : readPoint cs = some x) : x.Valid := by
  obtain ⟨plain, _, read⟩ := Option.bind_eq_some_iff.mp read
  rcases Option.or_eq_some_iff.mp read with unsigned | ⟨_, word⟩
  · exact read_unsigned_valid unsigned
  · exact read_word_valid word

theorem read_valid {s : String} {x : Binary64} (given : read s = some x) : x.Valid := by
  simp only [read] at given
  split at given
  · cases given
    exact read_point_valid ‹_›
  · obtain ⟨cs, _, given⟩ := Option.bind_eq_some_iff.mp given
    exact read_point_valid given

end Numeral

section Parsing

-- The sizes of the format are never worked out here.
attribute [local irreducible] Binary64.powerOfTwo Binary64.limit

variable {s : String} {x : Binary64}

theorem number_in_point (read : Numeral.readPoint (trimBy isBlank s.toList) = some x) :
    (Value.text s).toNumber = if x.isFinite then some x else none := by
  rw [Value.toNumber, Numeral.read]
  simp only [read]
  rfl

theorem number_in_comma (point : Numeral.readPoint (trimBy isBlank s.toList) = none) :
    (Value.text s).toNumber = ((Numeral.fromComma? (trimBy isBlank s.toList)).bind Numeral.readPoint).bind
      fun x => if x.isFinite then some x else none := by
  rw [Value.toNumber, Numeral.read]
  simp only [point]

theorem number_of_int (n : Int) :
    if n.natAbs < Binary64.powerOfTwo 1024 - Binary64.powerOfTwo 970 then
      ∃ x, (Value.int n).toNumber = some x ∧ x.isFinite = true ∧ x.Rounds (decide (n < 0)) n.natAbs 1
    else (Value.int n).toNumber = none := by
  simp only [Value.toNumber, Binary64.ofInt?, ← Binary64.of_int_finite_iff]
  split
  · exact ⟨_, rfl, ‹_›, Binary64.of_int_rounds n⟩
  · rfl

theorem number_parsed (v : Value) : match v with
    | .text s =>
        let t := trimBy isBlank s.toList
        (∀ x, Numeral.readPoint t = some x → v.toNumber = if x.isFinite then some x else none) ∧
        (Numeral.readPoint t = none → v.toNumber ≠ none → ∃ n : Numeral.Comma, n.text = t) ∧
        ∀ n : Numeral.Comma, n.text = t → ∃ x, Numeral.readPoint (Numeral.rewritten t) = some x ∧
          x.Rounds n.negative (Numeral.saidBy (n.whole ++ n.fraction)) (Binary64.powerOfTen n.fraction.length) ∧
          (Numeral.readPoint t = none → v.toNumber = if x.isFinite then some x else none)
    | .int n =>
        if n.natAbs < Binary64.powerOfTwo 1024 - Binary64.powerOfTwo 970 then
          ∃ x, v.toNumber = some x ∧ x.isFinite = true ∧ x.Rounds (decide (n < 0)) n.natAbs 1
        else v.toNumber = none
    | .float x => v.toNumber = if x.isFinite then some x else none
    | _ => v.toNumber = none := by
  cases v with
  | text s =>
      refine ⟨fun x read => number_in_point read, fun point given => ?_, fun n same => ?_⟩
      · rw [number_in_comma point] at given
        refine (Numeral.from_comma_iff _).mp ?_
        cases comma : Numeral.fromComma? (trimBy isBlank s.toList) with
        | none => exact absurd (by rw [comma]; rfl) given
        | some cs => rfl
      · have rounds := Binary64.of_decimal_rounds n.negative (Numeral.saidBy (n.whole ++ n.fraction))
          (-(n.fraction.length : Int))
        rw [Int.neg_neg, Int.toNat_natCast, Int.toNat_neg_natCast] at rounds
        refine ⟨_, ?_, Nat.mul_one _ ▸ rounds, fun point => ?_⟩
        · rw [← same, Numeral.rewritten_text, Numeral.read_pointed]
        · rw [number_in_comma point, ← same, Numeral.from_comma, Option.bind_some, Numeral.read_pointed]
          rfl
  | int n => exact number_of_int n
  | float x => rfl
  | null | bool b | list items | object entries => rfl

end Parsing

theorem comma_notation_parsed :
    Numeral.readPoint "-1.234,50".toList = none ∧
      ∃ x, Numeral.readPoint "-1234.50".toList = some x ∧ x.Rounds true 123450 100 ∧
        (Value.text " -1.234,50 ").toNumber = some x := by
  let n : Numeral.Comma := ⟨true, ['1'], [['2', '3', '4']], ['5', '0'], by decide, List.all_eq_true.mp rfl,
    fun _ => by decide, List.forall_mem_singleton.mpr ⟨List.all_eq_true.mp rfl, rfl⟩, List.all_eq_true.mp rfl⟩
  have unread : Numeral.readPoint "-1.234,50".toList = none := by decide +kernel
  obtain ⟨-, -, written⟩ := number_parsed (.text " -1.234,50 ")
  obtain ⟨x, read, rounds, said⟩ := written n (by decide +kernel)
  have finite : (Numeral.readPoint "-1234.50".toList).any Binary64.isFinite = true := by decide +kernel
  have same : Numeral.readPoint "-1234.50".toList = some x := read ▸ by decide +kernel
  refine ⟨unread, x, same, rounds, ?_⟩
  rw [same] at finite
  exact (said unread).trans (if_pos finite)

end FormEngine
