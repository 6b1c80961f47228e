import FormEngine.Proofs.Filling.Failing
import FormEngine.Proofs.Number.Notations
import FormEngine.Proofs.Pattern.Languages

set_option autoImplicit false

namespace FormEngine

structure IsAddress (cs : List Char) : Prop where
  unbroken : ∀ c ∈ cs, Text.isBlank c = false
  once : cs.count '@' = 1
  parts : ∃ name domain, cs = name ++ '@' :: domain ∧ name ≠ [] ∧
    ∃ start finish, domain = start ++ '.' :: finish ∧ start ≠ [] ∧ finish ≠ []

theorem point_inside_iff (domain : List Char) :
    '.' ∈ (domain.drop 1).dropLast ↔ ∃ start finish, domain = start ++ '.' :: finish ∧ start ≠ [] ∧ finish ≠ [] := by
  constructor
  · intro inside
    obtain ⟨before, after, split⟩ := List.append_of_mem inside
    cases domain with
    | nil => cases inside
    | cons c rest =>
        rw [List.drop_one, List.tail_cons] at split
        have some : rest ≠ [] := by
          rintro rfl
          cases inside
        refine ⟨c :: before, after ++ [rest.getLast some], ?_, List.cons_ne_nil _ _, by simp⟩
        have whole := List.dropLast_append_getLast some
        rw [split, List.append_assoc] at whole
        exact congrArg (c :: ·) whole.symm
  · rintro ⟨start, finish, rfl, begun, ended⟩
    cases start with
    | nil => exact absurd rfl begun
    | cons c start =>
        rw [List.cons_append, List.drop_one, List.tail_cons, List.dropLast_append_of_ne_nil (List.cons_ne_nil _ _),
          List.dropLast_cons_of_ne_nil ended]
        exact List.mem_append.mpr (.inr List.mem_cons_self)

theorem at_sign_absent {name domain : List Char} (once : (name ++ '@' :: domain).count '@' = 1) :
    '@' ∉ name ∧ '@' ∉ domain := by
  simp only [List.count_append, List.count_cons_self] at once
  exact ⟨List.not_mem_of_count_eq_zero (by omega), List.not_mem_of_count_eq_zero (by omega)⟩

theorem is_email_iff (cs : List Char) : isEmail cs = true ↔ IsAddress cs := by
  have blanks : cs.any Text.isBlank = false ↔ ∀ c ∈ cs, Text.isBlank c = false := by simp
  constructor
  · intro accepted
    rw [isEmail] at accepted
    split at accepted
    · rename_i name domain split
      simp only [Bool.and_eq_true, Bool.not_eq_true', List.isEmpty_eq_false_iff, List.contains_iff_mem] at accepted
      obtain ⟨⟨unbroken, named⟩, inside⟩ := accepted
      have pieces := Numeral.split_length '@' cs
      obtain ⟨first, others, same, joined⟩ := Numeral.split_rejoined '@' cs
      rw [split] at pieces same
      cases same
      rw [List.flatMap_singleton] at joined
      refine ⟨blanks.mp unbroken, (Nat.succ.inj pieces).symm, name, domain, joined, named, ?_⟩
      exact (point_inside_iff domain).mp inside
    · cases accepted
  · rintro ⟨unbroken, once, name, domain, rfl, named, inside⟩
    obtain ⟨left, right⟩ := at_sign_absent once
    have split : Numeral.splitAtChar '@' (name ++ '@' :: domain) = [name, domain] := by
      rw [Numeral.split_cut left, Numeral.split_absent right]
    rw [isEmail, split]
    simp only [Bool.and_eq_true, Bool.not_eq_true', List.isEmpty_eq_false_iff, List.contains_iff_mem]
    exact ⟨⟨blanks.mpr unbroken, named⟩, (point_inside_iff domain).mpr inside⟩

namespace Address

open Pattern

def partSet : CharSet := ⟨true, [.category .space false false, .code '@'.toNat]⟩

def part : Expr := .rounds 1 none .greedy (.set partSet .exact)

def expr : Expr :=
  .seq (.anchor .textStart) (.seq part (.seq (.mark '@') (.seq part (.seq (.mark '.') (.seq part
    (.seq (.anchor .lastLineEnd) .empty))))))

theorem pattern_read : Pattern.read "^[^\\s@]+@[^\\s@]+\\.[^\\s@]+$" = .ok expr := by decide +kernel

def run : Language Char := letters (partSet.has .exact) ^ 1 * rounds (letters (partSet.has .exact)) none

theorem expr_closes :
    Closes (.seq part (.seq (.mark '@') (.seq part (.seq (.mark '.') (.seq part
      (.seq (.anchor .lastLineEnd) .empty)))))) (run * ({['@']} * (run * ({['.']} * (run * 1))))) := by
  have parts : Denotes part run := .rounds 1 none .greedy (by decide) (.set partSet .exact)
  exact .after parts (.after (mark_denotes '@') (.after parts (.after (mark_denotes '.') (.after parts .ends))))

theorem part_has (c : Char) : partSet.has .exact c = true ↔ Text.isBlank c = false ∧ c ≠ '@' := by
  have blank : (SetItem.category .space false false).has .exact c.toNat = Text.isBlank c := by
    change (Text.isBlank (Char.ofNat c.toNat) != false) = _
    rw [Char.ofNat_toNat, Bool.bne_false]
  change (((SetItem.category .space false false).has .exact c.toNat ||
    ((SetItem.code '@'.toNat).has .exact c.toNat || false)) != true) = true ↔ _
  rw [blank, code_has]
  simp

theorem mem_run (text : List Char) :
    text ∈ run ↔ text ≠ [] ∧ ∀ c ∈ text, Text.isBlank c = false ∧ c ≠ '@' := by
  rw [run, Pattern.mem_run, and_comm]
  simp only [part_has]
  refine and_congr_left fun _ => ⟨fun within => List.length_pos_iff.mp within.1, fun some => ?_⟩
  exact ⟨List.length_pos_iff.mpr some, nofun⟩

theorem mem_language (text : List Char) :
    text ∈ run * ({['@']} * (run * ({['.']} * (run * 1)))) ↔
      ∃ name ∈ run, ∃ start ∈ run, ∃ finish ∈ run, text = name ++ '@' :: (start ++ '.' :: finish) := by
  simp only [mul_one, Language.mem_mul]
  constructor
  · rintro ⟨name, named, _, ⟨_, rfl, _, ⟨start, begun, _, ⟨_, rfl, finish, ended, rfl⟩, rfl⟩, rfl⟩, rfl⟩
    exact ⟨name, named, start, begun, finish, ended, rfl⟩
  · rintro ⟨name, named, start, begun, finish, ended, rfl⟩
    exact ⟨name, named, _, ⟨_, rfl, _, ⟨start, begun, _, ⟨_, rfl, finish, ended, rfl⟩, rfl⟩, rfl⟩, rfl⟩

theorem address_iff (text : List Char) :
    IsAddress text ↔ ∃ name ∈ run, ∃ start ∈ run, ∃ finish ∈ run, text = name ++ '@' :: (start ++ '.' :: finish) := by
  simp only [mem_run]
  constructor
  · rintro ⟨unbroken, once, name, _, rfl, named, start, finish, rfl, begun, ended⟩
    obtain ⟨left, right⟩ := at_sign_absent once
    refine ⟨name, ⟨named, fun c member => ⟨unbroken c (by simp [member]), ?_⟩⟩, start,
      ⟨begun, fun c member => ⟨unbroken c (by simp [member]), ?_⟩⟩, finish,
      ⟨ended, fun c member => ⟨unbroken c (by simp [member]), ?_⟩⟩, rfl⟩
    · exact fun same => left (same ▸ member)
    · exact fun same => right (same ▸ List.mem_append.mpr (.inl member))
    · exact fun same => right (same ▸ List.mem_append.mpr (.inr (List.mem_cons_of_mem _ member)))
  · rintro ⟨name, ⟨named, left⟩, start, ⟨begun, middle⟩, finish, ⟨ended, right⟩, rfl⟩
    have absent {part : List Char} (all : ∀ c ∈ part, Text.isBlank c = false ∧ c ≠ '@') : part.count '@' = 0 :=
      List.count_eq_zero.mpr fun member => (all '@' member).2 rfl
    refine ⟨fun c member => ?_, ?_, name, _, rfl, named, start, finish, rfl, begun, ended⟩
    · simp only [List.mem_append, List.mem_cons] at member
      rcases member with inside | rfl | inside | rfl | inside
      · exact (left c inside).1
      · decide
      · exact (middle c inside).1
      · decide
      · exact (right c inside).1
    · simp [absent left, absent middle, absent right]

theorem pattern_accepts_iff (text : String) : expr.occursIn text = true ↔
    ∃ address, IsAddress address ∧ (text.toList = address ∨ text.toList = address ++ ['\n']) := by
  rw [expr, whole_text_iff expr_closes]
  simp only [mem_language, ← address_iff]

end Address

theorem trimmed_end (text front : List Char) (c : Char) (same : Text.trimBy Text.isBlank text = front ++ [c]) :
    Text.isBlank c = false := by
  have back := congrArg List.reverse same
  rw [Text.trimBy, List.reverse_reverse, List.reverse_append] at back
  have kept := List.head?_dropWhile_not Text.isBlank (text.dropWhile Text.isBlank).reverse
  rw [back] at kept
  exact kept

theorem address_accepted_iff (f : Field) (v : Value) (kind : f.kind = .email) (present : v.isEmpty = false) :
    let text := Text.trimBy Text.isBlank v.asText.toList
    (f.message v ≠ .ok (some "Enter a valid email address") ↔ IsAddress text) ∧
    ∃ e, Pattern.read "^[^\\s@]+@[^\\s@]+\\.[^\\s@]+$" = .ok e ∧
      (e.occursIn (String.ofList text) = true ↔ IsAddress text) := by
  intro text
  constructor
  · have only : f.kindComplaint v = if isEmail text then none else some .email := by rw [Field.kindComplaint, kind]
    refine Iff.trans ?_ (is_email_iff text)
    exact f.kind_accepts_iff v .email _ (by rw [kind]; rfl) (by rw [kind]; rfl) present only rfl
  · refine ⟨Address.expr, Address.pattern_read, ?_⟩
    rw [Address.pattern_accepts_iff, String.toList_ofList]
    constructor
    · rintro ⟨address, sound, same | same⟩
      · exact same ▸ sound
      · have broken := trimmed_end _ address '\n' same
        cases broken
    · exact fun sound => ⟨text, sound, .inl rfl⟩

theorem padded_address_accepted :
    (Value.text " ana.b@mail.example.org\n").isEmpty = false ∧ IsAddress "ana.b@mail.example.org".toList ∧
      (Field.create "mail" .email).message (.text " ana.b@mail.example.org\n") ≠
        .ok (some "Enter a valid email address") := by
  have present : (Value.text " ana.b@mail.example.org\n").isEmpty = false := by decide +kernel
  obtain ⟨accepted, -⟩ := address_accepted_iff (Field.create "mail" .email) _ rfl present
  have sound : IsAddress "ana.b@mail.example.org".toList := (is_email_iff _).mp (by decide +kernel)
  have trimmed : Text.trimBy Text.isBlank (Value.text " ana.b@mail.example.org\n").asText.toList =
      "ana.b@mail.example.org".toList := by decide +kernel
  exact ⟨present, sound, accepted.mpr (trimmed ▸ sound)⟩

end FormEngine
