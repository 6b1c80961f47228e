import FormEngine.Proofs.Filling.Failing
import FormEngine.Proofs.Json.Numbers
import FormEngine.Proofs.Text.Pieces

set_option autoImplicit false

namespace FormEngine

namespace TagRules

inductive Divided (rules : TagRules) : String → Prop where
  | given (mark : String) (asked : rules.separator = some mark) (filled : mark ≠ "") : Divided rules mark
  | comma (free : rules.separator = none ∨ rules.separator = some "") : Divided rules ","

inductive Held (rules : TagRules) : Value → Nat → Prop where
  | items (items : List Value) : Held rules (.list items) items.length
  | pieces (v : Value) (other : ∀ items, v ≠ .list items) (mark : String) (divided : rules.Divided mark)
      (parts : List String) (cuts : Text.Cuts mark.toList v.asText.toList (parts.map String.toList)) :
      Held rules v (parts.filter (!Text.isBlankText ·)).length

structure ExceededBy (rules : TagRules) (v : Value) (limit : Int) : Prop where
  limited : rules.maxTags = some limit
  more : ∃ count, rules.Held v count ∧ limit < count

theorem divided_iff (rules : TagRules) (mark : String) :
    rules.Divided mark ↔ mark = (rules.separator.filter (· != "")).getD "," := by
  constructor
  · intro divided
    cases divided with
    | given mark asked filled => rw [(Field.filled_iff _ mark).mpr ⟨asked, filled⟩, Option.getD_some]
    | comma free => rcases free with asked | asked <;> (rw [asked]; rfl)
  · rintro rfl
    cases asked : rules.separator with
    | none => exact .comma (.inl asked)
    | some mark =>
        by_cases empty : mark = ""
        · subst empty
          exact .comma (.inr asked)
        · rw [(Field.filled_iff _ mark).mpr ⟨rfl, empty⟩, Option.getD_some]
          exact .given mark asked empty

theorem divided_filled {rules : TagRules} {mark : String} (divided : rules.Divided mark) : mark ≠ "" := by
  cases divided with
  | given mark asked filled => exact filled
  | comma free => decide

theorem count_of_pieces (rules : TagRules) {v : Value} (other : ∀ items, v ≠ .list items) {mark : String}
    (divided : rules.Divided mark) :
    Field.tagCount rules v = ((Text.pieces mark v.asText).filter (!Text.isBlankText ·)).length := by
  rw [(rules.divided_iff mark).mp divided]
  cases v with
  | list items => exact absurd rfl (other items)
  | null | bool b | int n | float x | text s | object entries => rfl

theorem held_iff (rules : TagRules) (v : Value) (count : Nat) : rules.Held v count ↔ count = Field.tagCount rules v := by
  constructor
  · intro held
    cases held with
    | items items => rfl
    | pieces v other mark divided parts cuts =>
        rw [rules.count_of_pieces other divided, (Text.cuts_iff (divided_filled divided) _ parts).mp cuts]
  · rintro rfl
    by_cases list : ∃ items, v = .list items
    · obtain ⟨items, rfl⟩ := list
      exact .items items
    · have other : ∀ items, v ≠ .list items := fun items same => list ⟨items, same⟩
      have divided := (rules.divided_iff _).mpr rfl
      rw [rules.count_of_pieces other divided]
      exact .pieces v other _ divided _ ((Text.cuts_iff (divided_filled divided) _ _).mpr rfl)

theorem exceeded_iff (rules : TagRules) (v : Value) (limit : Int) :
    rules.ExceededBy v limit ↔ rules.maxTags = some limit ∧ limit < Field.tagCount rules v := by
  constructor
  · rintro ⟨limited, count, held, more⟩
    exact ⟨limited, (rules.held_iff v count).mp held ▸ more⟩
  · rintro ⟨limited, more⟩
    exact ⟨limited, _, (rules.held_iff v _).mpr rfl, more⟩

end TagRules

namespace Field

def SaysTooMany (f : Field) (v : Value) (limit : Int) : Prop :=
  ∃ wrong, f.complaint v = .ok (some wrong) ∧ wrong.message = "At most " ++ toString limit ++ " tags allowed"

theorem limit_message_iff (a b : Int) :
    (Complaint.tooManyTags a).message = "At most " ++ toString b ++ " tags allowed" ↔ a = b := by
  change "At most " ++ toString a ++ " tags allowed" = _ ↔ _
  rw [String.append_left_inj, String.append_right_inj]
  exact ⟨Json.int_text_injective a b, congrArg toString⟩

theorem tag_complaint_said (f : Field) (v : Value) (wrong : Complaint) :
    f.tagComplaint v = some wrong ↔ ∃ rules limit, f.tags = some rules ∧ limit ≠ 0 ∧ rules.ExceededBy v limit ∧
      wrong = .tooManyTags limit := by
  constructor
  · intro said
    obtain ⟨rules, given, said⟩ := Option.bind_eq_some_iff.mp said
    obtain ⟨limit, limited, said⟩ := Option.bind_eq_some_iff.mp said
    obtain ⟨broken, same⟩ := Option.ite_none_right_eq_some.mp said
    simp only [Bool.and_eq_true, bne_iff_ne, decide_eq_true_eq] at broken
    exact ⟨rules, limit, given, broken.1, (rules.exceeded_iff v limit).mpr ⟨limited, broken.2⟩,
      (Option.some.inj same).symm⟩
  · rintro ⟨rules, limit, given, counts, exceeded, rfl⟩
    obtain ⟨limited, more⟩ := (rules.exceeded_iff v limit).mp exceeded
    simp [tagComplaint, given, limited, counts, more]

theorem limit_message_first (limit : Int) : (Complaint.tooManyTags limit).message.toList.head? = some 'A' := by
  change ("At most " ++ toString limit ++ " tags allowed").toList.head? = _
  rw [String.append_assoc, first_letter]
  rfl

theorem complaint_of_tags (f : Field) (v : Value) (kind : f.kind = .tags) (present : v.isEmpty = false) :
    f.complaint v = match f.tagComplaint v with
      | some wrong => .ok (some wrong)
      | none => f.ruleComplaint v := by
  have tags : f.kindComplaint v = f.tagComplaint v := by rw [kindComplaint, kind]
  rw [← tags]
  exact f.complaint_present v (by rw [kind]; rfl) (by rw [kind]; rfl) present

theorem says_too_many_iff (f : Field) (v : Value) (limit : Int) (kind : f.kind = .tags) (present : v.isEmpty = false) :
    f.SaysTooMany v limit ↔ limit ≠ 0 ∧ ∃ rules, f.tags = some rules ∧ rules.ExceededBy v limit := by
  rw [SaysTooMany, f.complaint_of_tags v kind present]
  constructor
  · rintro ⟨wrong, said, message⟩
    cases tags : f.tagComplaint v with
    | none =>
        rw [tags] at said
        have limits : wrong.message.toList.head? = some 'A' := message ▸ limit_message_first limit
        rcases f.rule_message_first v wrong said with first | first <;> (rw [first] at limits; cases limits)
    | some found =>
        rw [tags] at said
        cases said
        obtain ⟨rules, other, given, counts, exceeded, rfl⟩ := (f.tag_complaint_said v wrong).mp tags
        cases (limit_message_iff other limit).mp message
        exact ⟨counts, rules, given, exceeded⟩
  · rintro ⟨counts, rules, given, exceeded⟩
    refine ⟨.tooManyTags limit, ?_, (limit_message_iff limit limit).mpr rfl⟩
    rw [(f.tag_complaint_said v _).mpr ⟨rules, limit, given, counts, exceeded, rfl⟩]

end Field

theorem tag_limit_said_iff (f : Field) (v : Value) (kind : f.kind = .tags) (present : v.isEmpty = false) :
    (∀ limit, f.SaysTooMany v limit ↔ limit ≠ 0 ∧ ∃ rules, f.tags = some rules ∧ rules.ExceededBy v limit) ∧
    ((∀ limit, f.SaysTooMany v limit ↔ 0 < limit ∧ ∃ rules, f.tags = some rules ∧ rules.ExceededBy v limit) ↔
      ∀ rules limit, f.tags = some rules → rules.maxTags = some limit → 0 ≤ limit) := by
  have said (limit : Int) := f.says_too_many_iff v limit kind present
  refine ⟨said, fun positive rules limit given limited => ?_, fun sound limit => (said limit).trans ?_⟩
  · by_contra below
    have exceeded : rules.ExceededBy v limit := (rules.exceeded_iff v limit).mpr ⟨limited, by omega⟩
    have above := ((positive limit).mp ((said limit).mpr ⟨by omega, rules, given, exceeded⟩)).1
    omega
  · refine and_congr_left ?_
    rintro ⟨rules, given, exceeded⟩
    have := sound rules limit given exceeded.limited
    omega

def taggedField (rules : TagRules) : Field := { Field.create "t" .tags with tags := some rules }

theorem third_tag_refused : (Value.text "a--b-- ---c").isEmpty = false ∧
    (taggedField ⟨some "--", some 2⟩).SaysTooMany (.text "a--b-- ---c") 2 := by
  have present : (Value.text "a--b-- ---c").isEmpty = false := by decide
  obtain ⟨said, -⟩ := tag_limit_said_iff (taggedField ⟨some "--", some 2⟩) (.text "a--b-- ---c") rfl present
  refine ⟨present, (said 2).mpr ⟨by decide, _, rfl, rfl, 3, ?_, by decide⟩⟩
  exact (TagRules.held_iff _ _ 3).mpr (by decide)

theorem one_tag_above_negative_limit :
    (taggedField ⟨none, some (-1)⟩).SaysTooMany (.text "a") (-1) ∧
      validate [.field (taggedField ⟨none, some (-1)⟩)] [("t", .text "a")] = .ok [("t", "At most -1 tags allowed")] :=
  ⟨⟨.tooManyTags (-1), by decide +kernel, rfl⟩, by decide +kernel⟩

end FormEngine
