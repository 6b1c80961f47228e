import FormEngine.Json.Reader
import FormEngine.Tables.Fingerprint
import FormEngine.Proofs.Number.Digits
import Mathlib.Data.List.Chain
import Mathlib.Data.List.Nodup
import Mathlib.Data.List.Perm.Basic

set_option autoImplicit false

namespace FormEngine

namespace Json

-- What is written tells by itself where it ends, so what it says can be read off the beginning of whatever it stands
-- before.
def Delimited {α β : Type} (write : α → List Char) (said : α → β) : Prop :=
  ∀ a b r s, write a ++ r = write b ++ s → said a = said b ∧ r = s

def digitValue (c : Char) : Nat := ((List.range 16).find? (Nat.digitChar · == c)).getD 0

def hexValue (digits : List Char) : Nat := digits.foldl (fun value c => 16 * value + digitValue c) 0

theorem digit_value : ∀ d < 16, digitValue d.digitChar = d := by decide

theorem hex_value_append (digits : List Char) (c : Char) :
    hexValue (digits ++ [c]) = 16 * hexValue digits + digitValue c := by
  simp [hexValue]

theorem hex_value_digits (n : Nat) : hexValue (Nat.toDigits 16 n) = n := by
  induction n using Nat.strongRecOn with
  | ind n ih =>
      rw [Nat.toDigits_eq_if (by decide)]
      split
      · rename_i small
        show 16 * 0 + digitValue n.digitChar = n
        rw [digit_value n small]
        omega
      · rw [hex_value_append, ih (n / 16) (by omega), digit_value _ (Nat.mod_lt _ (by decide))]
        omega

theorem hex_value_padded (width : Nat) (digits : List Char) :
    hexValue (Binary64.padLeft width digits) = hexValue digits := by
  rw [Binary64.padLeft, hexValue]
  rw [List.foldl_append]
  congr 1
  induction width - digits.length with
  | zero => rfl
  | succ n ih => exact ih

theorem code_escape_read (a b : Nat) (r s : List Char) (smallA : a < 0x10000) (smallB : b < 0x10000)
    (same : codeEscape a ++ r = codeEscape b ++ s) : a = b ∧ r = s := by
  simp only [codeEscape, List.cons_append, List.cons.injEq, true_and] at same
  obtain ⟨digits, rest⟩ := List.append_inj same (by
    rw [length_padded (by decide) (by decide) smallA, length_padded (by decide) (by decide) smallB])
  refine ⟨?_, rest⟩
  have values := congrArg hexValue digits
  rwa [hex_value_padded, hex_value_padded, hex_value_digits, hex_value_digits] at values

def letterEscapes : List (Char × Char) :=
  [('"', '"'), ('\\', '\\'), ('\n', 'n'), ('\r', 'r'), ('\t', 't'), ('\x0c', 'f'), ('\x08', 'b')]

theorem letter_escapes_read : ∀ a ∈ letterEscapes, ∀ b ∈ letterEscapes, a.2 = b.2 → a.1 = b.1 := by decide

theorem letter_escapes_not_code : ∀ a ∈ letterEscapes, a.2 ≠ 'u' := by decide

theorem ascii_code (unit : Nat) (ascii : unit < 0x7f) : (Char.ofNat unit).toNat = unit := by
  have valid : unit.isValidChar := .inl (by omega)
  rw [Char.ofNat, dif_pos valid]
  rfl

inductive Escaped (unit : Nat) : List Char → Prop
  | plain (ascii : unit < 0x7f) (notQuote : Char.ofNat unit ≠ '"') (notBackslash : Char.ofNat unit ≠ '\\') :
      Escaped unit [Char.ofNat unit]
  | letter (ascii : unit < 0x7f) (x : Char) (listed : (Char.ofNat unit, x) ∈ letterEscapes) : Escaped unit ['\\', x]
  | code : Escaped unit (codeEscape unit)

theorem escape_unit_escaped (unit : Nat) : Escaped unit (escapeUnit unit) := by
  rw [escapeUnit]
  split
  · rename_i ascii
    rw [escapeChar]
    split
    · rename_i h
      exact .letter ascii '"' (by simp [h, letterEscapes])
    split
    · rename_i h
      exact .letter ascii '\\' (by simp [h, letterEscapes])
    split
    · rename_i h
      exact .letter ascii 'n' (by simp [h, letterEscapes])
    split
    · rename_i h
      exact .letter ascii 'r' (by simp [h, letterEscapes])
    split
    · rename_i h
      exact .letter ascii 't' (by simp [h, letterEscapes])
    split
    · rename_i h
      exact .letter ascii 'f' (by simp [h, letterEscapes])
    split
    · rename_i h
      exact .letter ascii 'b' (by simp [h, letterEscapes])
    split
    · rw [ascii_code unit ascii]
      exact .code
    · exact .plain ascii ‹_› ‹_›
  · exact .code

theorem escape_unit_read (a b : Nat) (r s : List Char) (smallA : a < 0x10000) (smallB : b < 0x10000)
    (same : escapeUnit a ++ r = escapeUnit b ++ s) : a = b ∧ r = s := by
  have first := escape_unit_escaped a
  have second := escape_unit_escaped b
  generalize escapeUnit a = writtenA at first same
  generalize escapeUnit b = writtenB at second same
  have units (asciiA : a < 0x7f) (asciiB : b < 0x7f) (chars : Char.ofNat a = Char.ofNat b) : a = b := by
    rw [← ascii_code a asciiA, chars, ascii_code b asciiB]
  cases first with
  | plain ascii _ other =>
      cases second with
      | plain ascii' _ _ => exact ⟨units ascii ascii' (List.cons.inj same).1, (List.cons.inj same).2⟩
      | letter _ _ _ => exact absurd (List.cons.inj same).1 other
      | code => exact absurd (List.cons.inj same).1 other
  | letter ascii x listed =>
      cases second with
      | plain _ _ other => exact absurd (List.cons.inj same).1.symm other
      | letter ascii' y listed' =>
          obtain ⟨letters, rest⟩ := List.cons.inj (List.cons.inj same).2
          exact ⟨units ascii ascii' (letter_escapes_read _ listed _ listed' letters), rest⟩
      | code => exact absurd (List.cons.inj (List.cons.inj same).2).1 (letter_escapes_not_code _ listed)
  | code =>
      cases second with
      | plain _ _ other => exact absurd (List.cons.inj same).1.symm other
      | letter _ _ listed =>
          exact absurd (List.cons.inj (List.cons.inj same).2).1.symm (letter_escapes_not_code _ listed)
      | code => exact code_escape_read a b r s smallA smallB same

theorem escape_unit_head (unit : Nat) : ∃ head tail, escapeUnit unit = head :: tail ∧ head ≠ '"' := by
  have written := escape_unit_escaped unit
  generalize escapeUnit unit = text at written
  cases written with
  | plain _ other _ => exact ⟨_, [], rfl, other⟩
  | letter _ x _ => exact ⟨'\\', [x], rfl, by decide⟩
  | code => exact ⟨'\\', _, rfl, by decide⟩

theorem escaped_units_read (a b : List Nat) (r s : List Char) (smallA : ∀ unit ∈ a, unit < 0x10000)
    (smallB : ∀ unit ∈ b, unit < 0x10000)
    (same : a.flatMap escapeUnit ++ '"' :: r = b.flatMap escapeUnit ++ '"' :: s) : a = b ∧ r = s := by
  induction a generalizing b with
  | nil =>
      cases b with
      | nil => exact ⟨rfl, (List.cons.inj same).2⟩
      | cons d b =>
          obtain ⟨head, tail, written, other⟩ := escape_unit_head d
          rw [List.flatMap_cons, written] at same
          exact absurd (List.cons.inj same).1.symm other
  | cons c a ih =>
      cases b with
      | nil =>
          obtain ⟨head, tail, written, other⟩ := escape_unit_head c
          rw [List.flatMap_cons, written] at same
          exact absurd (List.cons.inj same).1 other
      | cons d b =>
          rw [List.forall_mem_cons] at smallA smallB
          simp only [List.flatMap_cons, List.append_assoc] at same
          obtain ⟨units, same⟩ := escape_unit_read c d _ _ smallA.1 smallB.1 same
          obtain ⟨others, rest⟩ := ih b smallA.2 smallB.2 same
          exact ⟨by rw [units, others], rest⟩

def textUnits (text : Codes) : List Nat := text.flatMap fun code => unitsOf code.val

def quoteUnits (units : List Nat) : List Char := '"' :: units.flatMap escapeUnit ++ ['"']

theorem quote_ascii_units (text : Codes) : quoteAscii text = quoteUnits (textUnits text) := by
  rw [quoteAscii, quoteUnits, textUnits, List.flatMap_assoc]

theorem units_small (text : Codes) : ∀ unit ∈ textUnits text, unit < 0x10000 := by
  intro unit member
  obtain ⟨code, _, inside⟩ := List.mem_flatMap.mp member
  have bound := code.isLt
  rw [unitsOf] at inside
  split at inside
  · rename_i small
    rw [List.mem_singleton.mp inside]
    exact small
  · simp only [List.mem_cons, List.not_mem_nil, or_false] at inside
    omega

theorem quote_delimited : Delimited quoteAscii textUnits := by
  intro a b r s same
  simp only [quote_ascii_units, quoteUnits, List.cons_append, List.append_assoc, List.nil_append, List.cons.injEq,
    true_and] at same
  exact escaped_units_read _ _ _ _ (units_small a) (units_small b) same

def memberUnits (m : Codes × Codes) : List Nat × List Nat := (textUnits m.1, textUnits m.2)

theorem member_delimited :
    Delimited (fun m : Codes × Codes => quoteAscii m.1 ++ ':' :: ' ' :: quoteAscii m.2) memberUnits := by
  intro a b r s same
  simp only [List.append_assoc, List.cons_append] at same
  obtain ⟨keys, same⟩ := quote_delimited _ _ _ _ same
  obtain ⟨values, rest⟩ := quote_delimited _ _ _ _ (List.cons.inj (List.cons.inj same).2).2
  exact ⟨Prod.ext keys values, rest⟩

def members {α : Type} (write : α → List Char) (items : List α) : List Char :=
  [',', ' '].intercalate (items.map write) ++ ['\x7d']

theorem members_cons {α : Type} (write : α → List Char) (item : α) (items : List α) :
    members write (item :: items)
      = write item ++ (if items.isEmpty then ['\x7d'] else ',' :: ' ' :: members write items) := by
  cases items <;> simp [members, List.intercalate]

theorem members_delimited {α β : Type} (write : α → List Char) (said : α → β) (delimited : Delimited write said)
    (head : ∀ a, ∃ tail, write a = '"' :: tail) : Delimited (members write) (List.map said) := by
  intro a
  induction a with
  | nil =>
      intro b r s same
      cases b with
      | nil => exact ⟨rfl, List.append_cancel_left same⟩
      | cons item b =>
          obtain ⟨tail, written⟩ := head item
          rw [members_cons, written] at same
          simp [members] at same
  | cons item a ih =>
      intro b r s same
      cases b with
      | nil =>
          obtain ⟨tail, written⟩ := head item
          rw [members_cons, written] at same
          simp [members] at same
      | cons other b =>
          rw [members_cons, members_cons, List.append_assoc, List.append_assoc] at same
          obtain ⟨first, same⟩ := delimited _ _ _ _ same
          cases a with
          | nil =>
              cases b with
              | nil => exact ⟨by rw [List.map_singleton, List.map_singleton, first], by simpa using same⟩
              | cons x b => simp at same
          | cons x a =>
              cases b with
              | nil => simp at same
              | cons y b =>
                  obtain ⟨others, rest⟩ := ih (y :: b) r s (by simpa using same)
                  exact ⟨List.cons_eq_cons.mpr ⟨first, others⟩, rest⟩

-- No first half of a pair stands right before a second one, as it would if the two were a character.
def Unjoined (text : Codes) : Prop := text.IsChain fun a b => ¬ (isHighHalf a.val = true ∧ isLowHalf b.val = true)

instance (text : Codes) : Decidable (Unjoined text) :=
  inferInstanceAs (Decidable (text.IsChain fun a b => ¬ (isHighHalf a.val = true ∧ isLowHalf b.val = true)))

def joinUnits (unit : Nat) (rest : List Nat) : List Nat :=
  match rest with
  | low :: more =>
      if isHighHalf unit && isLowHalf low then ((unit - 0xd800) * 0x400 + (low - 0xdc00) + 0x10000) :: more
      else unit :: rest
  | [] => [unit]

theorem join_apart (unit : Nat) (rest : List Nat)
    (apart : ∀ low ∈ rest.head?, ¬ (isHighHalf unit = true ∧ isLowHalf low = true)) :
    joinUnits unit rest = unit :: rest := by
  cases rest with
  | nil => rfl
  | cons low more =>
      have here := apart low rfl
      rw [← Bool.and_eq_true] at here
      exact if_neg here

theorem join_pair (high low : Nat) (rest : List Nat) (first : isHighHalf high = true) (second : isLowHalf low = true) :
    joinUnits high (low :: rest) = ((high - 0xd800) * 0x400 + (low - 0xdc00) + 0x10000) :: rest := by
  rw [joinUnits, if_pos (Bool.and_eq_true_iff.mpr ⟨first, second⟩)]

theorem join_code (code : Nat) (large : ¬ code < 0x10000) (bound : code < 0x110000) (rest : List Nat) :
    joinUnits (0xd800 + (code - 0x10000) / 0x400) (joinUnits (0xdc00 + (code - 0x10000) % 0x400) rest)
      = code :: rest := by
  generalize highUnit : 0xd800 + (code - 0x10000) / 0x400 = high
  generalize lowUnit : 0xdc00 + (code - 0x10000) % 0x400 = low
  have first : isHighHalf high = true := by simp [isHighHalf]; omega
  have second : isLowHalf low = true := by simp [isLowHalf]; omega
  have apart : isHighHalf low = false := by simp [isHighHalf]; omega
  have value : (high - 0xd800) * 0x400 + (low - 0xdc00) + 0x10000 = code := by omega
  rw [join_apart low rest fun _ _ both => absurd (apart.symm.trans both.1) (by decide)]
  exact (join_pair high low rest first second).trans (by rw [value])

theorem units_joined (text : Codes) (unjoined : Unjoined text) :
    (textUnits text).foldr joinUnits [] = text.map Fin.val := by
  induction text with
  | nil => rfl
  | cons code rest ih =>
      obtain ⟨apart, unjoined⟩ := List.isChain_cons.mp unjoined
      rw [textUnits, List.flatMap_cons, List.foldr_append]
      rw [← textUnits, ih unjoined, List.map_cons, unitsOf]
      split
      · refine join_apart code.val (rest.map Fin.val) fun low next => ?_
        rw [List.head?_map] at next
        obtain ⟨other, found, rfl⟩ := Option.map_eq_some_iff.mp next
        exact apart other found
      · rename_i large
        exact join_code code.val large code.isLt _

theorem text_units_injective {a b : Codes} (unjoinedA : Unjoined a) (unjoinedB : Unjoined b)
    (same : textUnits a = textUnits b) : a = b := by
  have codes : a.map Fin.val = b.map Fin.val := by rw [← units_joined a unjoinedA, same, units_joined b unjoinedB]
  exact List.map_injective_iff.mpr (fun _ _ => Fin.eq_of_val_eq) codes

theorem member_units_injective (a b : List (Codes × Codes)) (unjoinedA : ∀ m ∈ a, Unjoined m.1 ∧ Unjoined m.2)
    (unjoinedB : ∀ m ∈ b, Unjoined m.1 ∧ Unjoined m.2) (same : a.map memberUnits = b.map memberUnits) : a = b := by
  induction a generalizing b with
  | nil => exact (List.map_eq_nil_iff.mp same.symm).symm
  | cons m a ih =>
      cases b with
      | nil => cases same
      | cons n b =>
          rw [List.forall_mem_cons] at unjoinedA unjoinedB
          obtain ⟨here, others⟩ := List.cons.inj same
          obtain ⟨keys, values⟩ := Prod.mk.inj here
          have first : m.1 = n.1 := text_units_injective unjoinedA.1.1 unjoinedB.1.1 keys
          have second : m.2 = n.2 := text_units_injective unjoinedA.1.2 unjoinedB.1.2 values
          rw [Prod.ext first second, ih b unjoinedA.2 unjoinedB.2 others]

theorem codes_of_unjoined (s : String) : Unjoined (codesOf s) := by
  refine List.Pairwise.isChain (List.pairwise_map.mpr (List.pairwise_of_forall fun c _ both => ?_))
  have bound := char_bound c
  have high := both.1
  rw [isHighHalf, Bool.and_eq_true, decide_eq_true_eq, decide_eq_true_eq] at high
  have code : (codeOf c).val = c.toNat := rfl
  omega

theorem codes_of_injective {s t : String} (same : codesOf s = codesOf t) : s = t := by
  have injective : Function.Injective codeOf := fun a b codes => Char.toNat_inj.mp (Fin.mk.inj codes)
  exact String.ext (List.map_injective_iff.mpr injective same)

end Json

open Json

namespace CodedApi

theorem text_or_null_delimited : Delimited textOrNull (Option.map textUnits) := by
  intro a b r s same
  cases a with
  | none =>
      cases b with
      | none => exact ⟨rfl, List.append_cancel_left same⟩
      | some y => simp [textOrNull, quoteAscii] at same
  | some x =>
      cases b with
      | none => simp [textOrNull, quoteAscii] at same
      | some y =>
          obtain ⟨texts, rest⟩ := quote_delimited x y r s same
          exact ⟨congrArg some texts, rest⟩

theorem headers_text_members (headers : List (Codes × Codes)) : headersText headers = '\x7b' :: members
    (fun m => quoteAscii m.1 ++ ':' :: ' ' :: quoteAscii m.2) (sortedHeaders headers) := by
  simp [headersText, lineObject, members, Function.comp_def]

theorem headers_text_delimited : Delimited headersText fun headers => (sortedHeaders headers).map memberUnits := by
  intro a b r s same
  rw [headers_text_members, headers_text_members] at same
  exact members_delimited _ _ member_delimited (fun m => ⟨_, rfl⟩) _ _ _ _ (List.cons.inj same).2

theorem method_name_injective (a b : Method) (same : textUnits (codesOf a.name) = textUnits (codesOf b.name)) :
    a = b := by
  cases a <;> cases b <;> first | rfl | exact absurd same (by decide)

-- All that a fingerprint tells: halves that stand side by side are told apart from no character.
structure SameUnits (a b : CodedApi) : Prop where
  url : textUnits a.url = textUnits b.url
  method : a.method = b.method
  headers : (sortedHeaders a.headers).map memberUnits = (sortedHeaders b.headers).map memberUnits
  body : a.body.map textUnits = b.body.map textUnits

theorem units_of_fingerprint (a b : CodedApi) (same : a.fingerprint = b.fingerprint) : SameUnits a b := by
  have texts := String.ofList_injective same
  have peel (config : CodedApi) : lineObject
      [(codesOf "body", textOrNull config.body), (codesOf "headers", headersText config.headers),
       (codesOf "method", textOrNull (some (codesOf config.method.name))), (codesOf "url", textOrNull (some config.url))]
      = "\x7b\"body\": ".toList ++ (textOrNull config.body ++ (", \"headers\": ".toList ++ (headersText config.headers
        ++ (", \"method\": ".toList ++ (textOrNull (some (codesOf config.method.name)) ++ (", \"url\": ".toList
        ++ (textOrNull (some config.url) ++ ['\x7d']))))))) := by
    have body : quoteAscii (codesOf "body") = "\"body\"".toList := by decide
    have headers : quoteAscii (codesOf "headers") = "\"headers\"".toList := by decide
    have method : quoteAscii (codesOf "method") = "\"method\"".toList := by decide
    have url : quoteAscii (codesOf "url") = "\"url\"".toList := by decide
    simp [lineObject, body, headers, method, url, List.intercalate]
  rw [peel, peel] at texts
  obtain ⟨body, texts⟩ := text_or_null_delimited _ _ _ _ (List.append_cancel_left texts)
  obtain ⟨headers, texts⟩ := headers_text_delimited _ _ _ _ (List.append_cancel_left texts)
  obtain ⟨method, texts⟩ := text_or_null_delimited _ _ _ _ (List.append_cancel_left texts)
  obtain ⟨url, _⟩ := text_or_null_delimited _ _ _ _ (List.append_cancel_left texts)
  exact ⟨Option.some.inj url, method_name_injective _ _ (Option.some.inj method), headers, body⟩

theorem fingerprint_of_units {a b : CodedApi} (same : SameUnits a b) : a.fingerprint = b.fingerprint := by
  have text (c : CodedApi) : textOrNull c.body = (c.body.map textUnits).elim "null".toList quoteUnits := by
    cases c.body with
    | none => rfl
    | some body => exact quote_ascii_units body
  have headers (c : CodedApi) : headersText c.headers = '\x7b' :: members
      (fun m => quoteUnits m.1 ++ ':' :: ' ' :: quoteUnits m.2) ((sortedHeaders c.headers).map memberUnits) := by
    rw [headers_text_members]
    simp only [members, List.map_map, Function.comp_def, memberUnits, quote_ascii_units]
  rw [fingerprint, fingerprint, text, text, headers, headers, same.body, same.headers, same.method]
  simp only [textOrNull, quote_ascii_units, same.url]

theorem fingerprint_units_iff (a b : CodedApi) : a.fingerprint = b.fingerprint ↔ SameUnits a b :=
  ⟨units_of_fingerprint a b, fingerprint_of_units⟩

structure Unjoined (a : CodedApi) : Prop where
  url : Json.Unjoined a.url
  headers : ∀ h ∈ a.headers, Json.Unjoined h.1 ∧ Json.Unjoined h.2
  body : ∀ text ∈ a.body, Json.Unjoined text

-- Two that ask for the same, whatever the order of their headers.
structure Agrees (a b : CodedApi) : Prop where
  url : a.url = b.url
  method : a.method = b.method
  headers : a.headers.Perm b.headers
  body : a.body = b.body

theorem agrees_of_units {a b : CodedApi} (unjoinedA : a.Unjoined) (unjoinedB : b.Unjoined) (same : SameUnits a b) :
    Agrees a b where
  url := text_units_injective unjoinedA.url unjoinedB.url same.url
  method := same.method
  headers := by
    have inside {c : CodedApi} (unjoined : c.Unjoined) (m : Codes × Codes) (member : m ∈ sortedHeaders c.headers) :
        Json.Unjoined m.1 ∧ Json.Unjoined m.2 :=
      unjoined.headers m ((List.mergeSort_perm c.headers _).mem_iff.mp member)
    have sorted := member_units_injective _ _ (inside unjoinedA) (inside unjoinedB) same.headers
    calc a.headers
      _ |>.Perm (sortedHeaders a.headers) := (List.mergeSort_perm a.headers _).symm
      _ = sortedHeaders b.headers := sorted
      _ |>.Perm b.headers := List.mergeSort_perm b.headers _
  body := by
    have bodies := same.body
    cases foundA : a.body with
    | none =>
        rw [foundA] at bodies
        exact (Option.map_eq_none_iff.mp bodies.symm).symm
    | some x =>
        cases foundB : b.body with
        | none =>
            rw [foundA, foundB] at bodies
            cases bodies
        | some y =>
            rw [foundA, foundB] at bodies
            have units : textUnits x = textUnits y := Option.some.inj bodies
            rw [text_units_injective (unjoinedA.body x foundA) (unjoinedB.body y foundB) units]

theorem up_to_iff (a b : Codes) : a.upTo b = true ↔ List.le a b := by
  rw [Codes.upTo, Bool.not_eq_true']
  exact List.lex_eq_false_iff_ge

theorem sorted_headers_eq {a b : List (Codes × Codes)} (distinct : (a.map Prod.fst).Nodup) (same : a.Perm b) :
    sortedHeaders a = sortedHeaders b := by
  have sorted (headers : List (Codes × Codes)) :
      (sortedHeaders headers).Pairwise fun a b => a.1.upTo b.1 = true := by
    refine List.pairwise_mergeSort (fun a b c first second => ?_) (fun a b => ?_) headers
    · rw [up_to_iff] at first second ⊢
      exact List.le_trans first second
    · rw [Bool.or_eq_true, up_to_iff, up_to_iff]
      exact List.le_total a.1 b.1
  refine List.Perm.eq_of_pairwise (fun x y here there first second => ?_) (sorted a) (sorted b) ?_
  · have left : x ∈ a := (List.mergeSort_perm a _).mem_iff.mp here
    have right : y ∈ a := same.mem_iff.mpr ((List.mergeSort_perm b _).mem_iff.mp there)
    rw [up_to_iff] at first second
    exact List.inj_on_of_nodup_map distinct left right (List.le_antisymm first second)
  · exact ((List.mergeSort_perm a _).trans same).trans (List.mergeSort_perm b _).symm

theorem fingerprint_of_agrees {a b : CodedApi} (distinct : (a.headers.map Prod.fst).Nodup) (agrees : Agrees a b) :
    a.fingerprint = b.fingerprint := by
  rw [fingerprint, fingerprint, headersText, headersText, sorted_headers_eq distinct agrees.headers, agrees.url,
    agrees.method, agrees.body]

theorem agrees_iff {a b : CodedApi} (distinct : (a.headers.map Prod.fst).Nodup)
    (distinctToo : (b.headers.map Prod.fst).Nodup) :
    Agrees a b ↔ a.url = b.url ∧ a.method = b.method ∧ a.body = b.body ∧ ∀ h, h ∈ a.headers ↔ h ∈ b.headers := by
  constructor
  · intro agrees
    exact ⟨agrees.url, agrees.method, agrees.body, fun h => agrees.headers.mem_iff⟩
  · rintro ⟨url, method, body, headers⟩
    exact ⟨url, method, (List.perm_ext_iff_of_nodup distinct.of_map distinctToo.of_map).mpr headers, body⟩

-- A header with a text that looks as if it went on with another header, one in characters beyond ASCII, and a half that
-- stands alone.
def quotingApi : CodedApi :=
  ⟨codesOf "https://a/\"?q=\\", .post,
    [(codesOf "A", codesOf "1\", \"B\": \"2"), (codesOf "ü", codesOf "\x01😀" ++ [0xd83d])], some (codesOf "null")⟩

def turnedApi : CodedApi := { quotingApi with headers := quotingApi.headers.reverse }

def splitApi : CodedApi :=
  { quotingApi with
    headers := [(codesOf "A", codesOf "1"), (codesOf "B", codesOf "2"), (codesOf "ü", codesOf "\x01😀" ++ [0xd83d])] }

def emptyApi : CodedApi := { quotingApi with body := none }

def astralApi : CodedApi := ⟨codesOf "https://a", .post, [], some (codesOf "𐁁°")⟩

def halvesApi : CodedApi := { astralApi with body := some ([0xd800, 0xdc41] ++ codesOf "°") }

end CodedApi

namespace TableApi

-- Two that ask for the same, whatever the order of their headers.
structure Agrees (a b : TableApi) : Prop where
  url : a.url = b.url
  method : a.method = b.method
  headers : a.headers.Perm b.headers
  body : a.body = b.body

theorem coded_unjoined (a : TableApi) : a.coded.Unjoined where
  url := codes_of_unjoined a.url
  headers := by
    intro h member
    obtain ⟨own, _, rfl⟩ := List.mem_map.mp member
    exact ⟨codes_of_unjoined own.1, codes_of_unjoined own.2⟩
  body := by
    intro text found
    obtain ⟨own, _, rfl⟩ := Option.map_eq_some_iff.mp found
    exact codes_of_unjoined own

theorem coded_agrees_iff (a b : TableApi) : a.coded.Agrees b.coded ↔ a.Agrees b := by
  have pairs : Function.Injective fun h : String × String => (codesOf h.1, codesOf h.2) := by
    intro x y same
    obtain ⟨keys, values⟩ := Prod.mk.inj same
    exact Prod.ext (codes_of_injective keys) (codes_of_injective values)
  constructor
  · rintro ⟨url, method, headers, body⟩
    exact ⟨codes_of_injective url, method, (List.map_perm_map_iff pairs).mp headers,
      Option.map_injective (fun _ _ => codes_of_injective) body⟩
  · rintro ⟨url, method, headers, body⟩
    exact ⟨congrArg codesOf url, method, headers.map _, congrArg (Option.map codesOf) body⟩

theorem agrees_of_fingerprint (a b : TableApi) (same : a.fingerprint = b.fingerprint) : Agrees a b :=
  (coded_agrees_iff a b).mp
    (CodedApi.agrees_of_units a.coded_unjoined b.coded_unjoined (CodedApi.units_of_fingerprint _ _ same))

theorem fingerprint_of_agrees {a b : TableApi} (distinct : (Keyed.names a.headers).Nodup) (agrees : Agrees a b) :
    a.fingerprint = b.fingerprint := by
  refine CodedApi.fingerprint_of_agrees ?_ ((coded_agrees_iff a b).mpr agrees)
  have names : a.coded.headers.map Prod.fst = (Keyed.names a.headers).map codesOf := by
    simp [coded, Keyed.names, Function.comp_def]
  rw [names]
  exact distinct.map fun _ _ => codes_of_injective

end TableApi

end FormEngine
