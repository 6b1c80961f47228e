import FormEngine.Proofs.Filling.Complaints
import FormEngine.Proofs.Filling.Leaves

set_option autoImplicit false

namespace FormEngine

namespace Field

-- The rules that the kind of a field brings.
inductive BreaksKind (f : Field) (v : Value) : Prop where
  | email (kind : f.kind = .email) (wrong : isEmail (Text.trimBy Text.isBlank v.asText.toList) = false)
  | notNumber (kind : f.kind.isNumeric = true) (wrong : v.toNumber = none)
  | tooSmall (kind : f.kind.isNumeric = true) (x low : Binary64) (read : v.toNumber = some x)
      (bound : f.lowerBound = some low) (wrong : x.less low = true)
  | tooLarge (kind : f.kind.isNumeric = true) (x high : Binary64) (read : v.toNumber = some x)
      (bound : f.upperBound = some high) (wrong : high.less x = true)
  | option (kind : f.kind.isChoice = true) (choices : List Choice) (given : f.choices = some choices)
      (offered : choices ≠ []) (wrong : ∀ c ∈ choices, c.value ≠ v.asText)
  | date (kind : f.kind = .date) (wrong : Calendar.isDate (Text.trimBy Text.isBlank v.asText.toList) = false)
  | mask (kind : f.kind = .masked) (mask : String) (given : f.mask = some mask) (filled : mask ≠ "")
      (wrong : fitsMask mask.toList v.asText.toList = false)
  | tags (kind : f.kind = .tags) (rules : TagRules) (limit : Int) (given : f.tags = some rules)
      (limited : rules.maxTags = some limit) (counts : limit ≠ 0) (wrong : limit < tagCount rules v)

-- The rules that a field has of its own. Only a pattern that can be read is one.
inductive BreaksRule (f : Field) (v : Value) : Prop where
  | pattern (rules : Rules) (pattern : String) (e : Pattern.Expr) (given : f.rules = some rules)
      (asked : rules.pattern = some pattern) (filled : pattern ≠ "") (read : Pattern.read pattern = .ok e)
      (wrong : e.occursIn v.asText = false)
  | tooShort (rules : Rules) (limit : Int) (given : f.rules = some rules) (asked : rules.minLength = some limit)
      (wrong : (v.asText.length : Int) < limit)
  | tooLong (rules : Rules) (limit : Int) (given : f.rules = some rules) (asked : rules.maxLength = some limit)
      (wrong : limit < (v.asText.length : Int))

inductive Fails (f : Field) (v : Value) : Prop where
  | missing (required : f.required = true) (missing : f.isMissing v = true)
  | broken (present : f.isMissing v = false) (plain : f.kind.isBoolean = false)
      (wrong : f.BreaksKind v ∨ f.BreaksRule v)

def Unreadable (f : Field) : Prop :=
  ∃ rules pattern why, f.rules = some rules ∧ rules.pattern = some pattern ∧ pattern ≠ "" ∧
    Pattern.read pattern = .error why ∧ why ≠ .malformed

structure BreaksOff (f : Field) (v : Value) : Prop where
  filled : f.kind.displayOnly = false
  present : f.isMissing v = false
  plain : f.kind.isBoolean = false
  fits : ¬ f.BreaksKind v
  unreadable : f.Unreadable

theorem filled_iff (given : Option String) (text : String) :
    given.filter (· != "") = some text ↔ given = some text ∧ text ≠ "" := by
  simp [Option.filter_eq_some_iff]

theorem kind_complaint_numeric (f : Field) (v : Value) (numeric : f.kind.isNumeric = true) :
    f.kindComplaint v = f.numberComplaint v := by
  rw [kindComplaint]
  cases kind : f.kind <;> simp [kind, FieldKind.isNumeric] at numeric ⊢

theorem kind_complaint_choice (f : Field) (v : Value) (choice : f.kind.isChoice = true) :
    f.kindComplaint v = if (f.choices.getD []).isEmpty || f.offers v.asText then none else some .option := by
  rw [kindComplaint]
  cases kind : f.kind <;> simp [kind, FieldKind.isChoice] at choice ⊢

theorem number_complaint_none_iff (f : Field) (v : Value) :
    f.numberComplaint v = none ↔ ∃ x, v.toNumber = some x ∧ (∀ low, f.lowerBound = some low → x.less low = false) ∧
      ∀ high, f.upperBound = some high → high.less x = false := by
  rw [numberComplaint]
  cases v.toNumber with
  | none => simp
  | some x =>
      have low : f.lowerBound.filter x.less = none ↔ ∀ low, f.lowerBound = some low → x.less low = false := by
        simp [Option.filter_eq_none_iff]
      have high : f.upperBound.filter (Binary64.less · x) = none ↔
          ∀ high, f.upperBound = some high → high.less x = false := by
        simp [Option.filter_eq_none_iff]
      simp only [Option.some.injEq, exists_eq_left', ← low, ← high]
      cases f.lowerBound.filter x.less with
      | some bound => simp
      | none => cases f.upperBound.filter (Binary64.less · x) <;> simp

theorem tag_complaint_iff (f : Field) (v : Value) :
    f.tagComplaint v ≠ none ↔ ∃ rules limit, f.tags = some rules ∧ rules.maxTags = some limit ∧ limit ≠ 0 ∧
      limit < tagCount rules v := by
  unfold tagComplaint
  cases f.tags with
  | none => simp
  | some rules => cases limited : rules.maxTags <;> simp [limited]

theorem offers_iff (f : Field) (choices : List Choice) (given : f.choices = some choices) (text : String) :
    f.offers text = true ↔ ∃ c ∈ choices, c.value = text := by
  simp [offers, given]

theorem kind_complaint_breaks (f : Field) (v : Value) (said : f.kindComplaint v ≠ none) : f.BreaksKind v := by
  by_cases numeric : f.kind.isNumeric = true
  · rw [kind_complaint_numeric f v numeric, ne_eq, number_complaint_none_iff] at said
    cases read : v.toNumber with
    | none => exact .notNumber numeric read
    | some x =>
        by_contra kept
        refine said ⟨x, read, fun low bound => ?_, fun high bound => ?_⟩
        · exact Bool.eq_false_iff.mpr fun wrong => kept (.tooSmall numeric x low read bound wrong)
        · exact Bool.eq_false_iff.mpr fun wrong => kept (.tooLarge numeric x high read bound wrong)
  · by_cases choice : f.kind.isChoice = true
    · rw [kind_complaint_choice f v choice] at said
      cases given : f.choices with
      | none => simp [given] at said
      | some choices =>
          have refused : choices ≠ [] ∧ ¬ f.offers v.asText = true := by simpa [given] using said
          refine .option choice choices given refused.1 fun c member same => refused.2 ?_
          exact (f.offers_iff choices given v.asText).mpr ⟨c, member, same⟩
    · cases kind : f.kind with
      | email => exact .email kind (by simpa [kindComplaint, kind] using said)
      | date => exact .date kind (by simpa [kindComplaint, kind] using said)
      | masked =>
          simp only [kindComplaint, kind] at said
          cases given : f.mask.filter (· != "") with
          | none => simp [given] at said
          | some mask =>
              obtain ⟨given', filled⟩ := (filled_iff f.mask mask).mp given
              exact .mask kind mask given' filled (by simpa [given] using said)
      | tags =>
          simp only [kindComplaint, kind] at said
          obtain ⟨rules, limit, given, limited, counts, wrong⟩ := (f.tag_complaint_iff v).mp said
          exact .tags kind rules limit given limited counts wrong
      | number | currency | range => simp [kind, FieldKind.isNumeric] at numeric
      | radio | select => simp [kind, FieldKind.isChoice] at choice
      | text | textarea | checkbox | table | switch | heading | divider => simp [kindComplaint, kind] at said

theorem kind_complaint_of_breaks (f : Field) (v : Value) (broken : f.BreaksKind v) : f.kindComplaint v ≠ none := by
  cases broken with
  | email kind wrong => simp [kindComplaint, kind, wrong]
  | notNumber numeric wrong => simp [kind_complaint_numeric f v numeric, number_complaint_none_iff, wrong]
  | tooSmall numeric x low read bound wrong =>
      rw [kind_complaint_numeric f v numeric, ne_eq, number_complaint_none_iff]
      rintro ⟨y, same, kept, _⟩
      cases read.symm.trans same
      exact Bool.false_ne_true ((kept low bound).symm.trans wrong)
  | tooLarge numeric x high read bound wrong =>
      rw [kind_complaint_numeric f v numeric, ne_eq, number_complaint_none_iff]
      rintro ⟨y, same, _, kept⟩
      cases read.symm.trans same
      exact Bool.false_ne_true ((kept high bound).symm.trans wrong)
  | option choice choices given offered wrong =>
      have refused : f.offers v.asText = false := Bool.eq_false_iff.mpr fun taken => by
        obtain ⟨c, member, same⟩ := (f.offers_iff choices given v.asText).mp taken
        exact wrong c member same
      simp [kind_complaint_choice f v choice, given, offered, refused]
  | date kind wrong => simp [kindComplaint, kind, wrong]
  | mask kind mask given filled wrong => simp [kindComplaint, kind, (filled_iff f.mask mask).mpr ⟨given, filled⟩, wrong]
  | tags kind rules limit given limited counts wrong =>
      simp only [kindComplaint, kind]
      exact (f.tag_complaint_iff v).mpr ⟨rules, limit, given, limited, counts, wrong⟩

theorem kind_complaint_iff (f : Field) (v : Value) : f.kindComplaint v ≠ none ↔ f.BreaksKind v :=
  ⟨f.kind_complaint_breaks v, f.kind_complaint_of_breaks v⟩

theorem length_complaint_iff (rules : Rules) (text : String) :
    lengthComplaint rules text ≠ none ↔
      (∃ limit, rules.minLength = some limit ∧ (text.length : Int) < limit) ∨
      ∃ limit, rules.maxLength = some limit ∧ limit < (text.length : Int) := by
  have short : rules.minLength.filter ((text.length : Int) < ·) = none ↔
      ¬ ∃ limit, rules.minLength = some limit ∧ (text.length : Int) < limit := by
    simp [Option.filter_eq_none_iff]
  have long : rules.maxLength.filter (· < (text.length : Int)) = none ↔
      ¬ ∃ limit, rules.maxLength = some limit ∧ limit < (text.length : Int) := by
    simp [Option.filter_eq_none_iff]
  rw [lengthComplaint, ← not_iff_not, not_or, ← short, ← long]
  cases rules.minLength.filter ((text.length : Int) < ·) with
  | some limit => simp
  | none => cases rules.maxLength.filter (· < (text.length : Int)) <;> simp

def accepts (rules : Rules) (text : String) : Except Breakdown Bool :=
  match rules.pattern.filter (· != "") with
  | some pattern => patternAccepts pattern text
  | none => .ok true

theorem rule_complaint_eq (f : Field) (v : Value) (rules : Rules) (given : f.rules = some rules) :
    f.ruleComplaint v = (accepts rules v.asText).map fun accepted =>
      if accepted then lengthComplaint rules v.asText else some .pattern := by
  simp only [ruleComplaint, given, accepts]
  cases rules.pattern.filter (· != "") with
  | none => rfl
  | some pattern => cases patternAccepts pattern v.asText <;> rfl

theorem pattern_refuses_iff (pattern text : String) :
    patternAccepts pattern text = .ok false ↔ ∃ e, Pattern.read pattern = .ok e ∧ e.occursIn text = false := by
  rw [patternAccepts]
  cases Pattern.read pattern with
  | ok e => simp
  | error why => cases why <;> simp

theorem pattern_breaks_iff (pattern text : String) : (∃ why, patternAccepts pattern text = .error why) ↔
    ∃ why, Pattern.read pattern = .error why ∧ why ≠ .malformed := by
  rw [patternAccepts]
  cases Pattern.read pattern with
  | ok e => simp
  | error why => cases why <;> simp

theorem accepts_refuses_iff (rules : Rules) (text : String) : accepts rules text = .ok false ↔
    ∃ pattern e, rules.pattern = some pattern ∧ pattern ≠ "" ∧ Pattern.read pattern = .ok e ∧
      e.occursIn text = false := by
  rw [accepts]
  cases given : rules.pattern.filter (· != "") with
  | none =>
      refine ⟨nofun, fun ⟨pattern, _, asked, filled, _⟩ => ?_⟩
      cases given.symm.trans ((filled_iff rules.pattern pattern).mpr ⟨asked, filled⟩)
  | some pattern =>
      obtain ⟨asked, filled⟩ := (filled_iff rules.pattern pattern).mp given
      simp [asked, filled, pattern_refuses_iff]

theorem accepts_breaks_iff (rules : Rules) (text : String) : (∃ why, accepts rules text = .error why) ↔
    ∃ pattern why, rules.pattern = some pattern ∧ pattern ≠ "" ∧ Pattern.read pattern = .error why ∧
      why ≠ .malformed := by
  rw [accepts]
  cases given : rules.pattern.filter (· != "") with
  | none =>
      refine ⟨nofun, fun ⟨pattern, _, asked, filled, _⟩ => ?_⟩
      cases given.symm.trans ((filled_iff rules.pattern pattern).mpr ⟨asked, filled⟩)
  | some pattern =>
      obtain ⟨asked, filled⟩ := (filled_iff rules.pattern pattern).mp given
      simp [asked, filled, pattern_breaks_iff]

theorem rule_complaint_breaks_iff (f : Field) (v : Value) : (∃ why, f.ruleComplaint v = .error why) ↔ f.Unreadable := by
  cases given : f.rules with
  | none => simp [ruleComplaint, Unreadable, given]
  | some rules =>
      have broken : (∃ why, f.ruleComplaint v = .error why) ↔ ∃ why, accepts rules v.asText = .error why := by
        rw [rule_complaint_eq f v rules given]
        cases accepts rules v.asText <;> simp [Except.map]
      simp [broken, accepts_breaks_iff, Unreadable, given]

theorem rule_complaint_iff (f : Field) (v : Value) (found : Option Complaint) (done : f.ruleComplaint v = .ok found) :
    found ≠ none ↔ f.BreaksRule v := by
  cases given : f.rules with
  | none =>
      simp only [ruleComplaint, given, Except.ok.injEq] at done
      subst done
      refine ⟨fun said => absurd rfl said, fun broken => ?_⟩
      cases broken with
      | pattern rules pattern e given' | tooShort rules limit given' | tooLong rules limit given' =>
          cases given.symm.trans given'
  | some rules =>
      rw [rule_complaint_eq f v rules given] at done
      cases asked : accepts rules v.asText with
      | error why => rw [asked] at done; cases done
      | ok accepted =>
          rw [asked] at done
          cases done
          cases accepted with
          | false =>
              obtain ⟨pattern, e, named, filled, read, wrong⟩ := (accepts_refuses_iff rules v.asText).mp asked
              exact ⟨fun _ => .pattern rules pattern e given named filled read wrong, fun _ => nofun⟩
          | true =>
              refine (length_complaint_iff rules v.asText).trans ⟨?_, fun broken => ?_⟩
              · rintro (⟨limit, named, wrong⟩ | ⟨limit, named, wrong⟩)
                · exact .tooShort rules limit given named wrong
                · exact .tooLong rules limit given named wrong
              · cases broken with
                | pattern rules' pattern e given' named filled read wrong =>
                    cases given.symm.trans given'
                    have refused := (accepts_refuses_iff rules v.asText).mpr ⟨pattern, e, named, filled, read, wrong⟩
                    cases asked.symm.trans refused
                | tooShort rules' limit given' named wrong =>
                    cases given.symm.trans given'
                    exact .inl ⟨limit, named, wrong⟩
                | tooLong rules' limit given' named wrong =>
                    cases given.symm.trans given'
                    exact .inr ⟨limit, named, wrong⟩

-- All that the check of a value can come to.
inductive Checked (f : Field) (v : Value) : Prop where
  | display (shown : f.kind.displayOnly = true) (done : f.complaint v = .ok none)
  | missing (filled : f.kind.displayOnly = false) (missing : f.isMissing v = true)
      (done : f.complaint v = .ok (if f.required then some (.missing f.requiredMessage) else none))
  | box (filled : f.kind.displayOnly = false) (present : f.isMissing v = false) (box : f.kind.isBoolean = true)
      (done : f.complaint v = .ok none)
  | kind (filled : f.kind.displayOnly = false) (present : f.isMissing v = false) (plain : f.kind.isBoolean = false)
      (broken : f.BreaksKind v) (done : ∃ wrong, f.complaint v = .ok (some wrong))
  | rules (filled : f.kind.displayOnly = false) (present : f.isMissing v = false) (plain : f.kind.isBoolean = false)
      (fits : ¬ f.BreaksKind v) (done : f.complaint v = f.ruleComplaint v)

theorem checked (f : Field) (v : Value) : f.Checked v := by
  cases filled : f.kind.displayOnly with
  | true => exact .display filled (by rw [complaint, if_pos filled])
  | false =>
      have first : ¬ f.kind.displayOnly = true := by simp [filled]
      cases present : f.isMissing v with
      | true => exact .missing filled present (by rw [complaint, if_neg first, if_pos present])
      | false =>
          have second : ¬ f.isMissing v = true := by simp [present]
          cases plain : f.kind.isBoolean with
          | true => exact .box filled present plain (by rw [complaint, if_neg first, if_neg second, if_pos plain])
          | false =>
              have third : ¬ f.kind.isBoolean = true := by simp [plain]
              cases said : f.kindComplaint v with
              | some wrong =>
                  have done : f.complaint v = .ok (some wrong) := by
                    rw [complaint, if_neg first, if_neg second, if_neg third, said]
                  exact .kind filled present plain ((f.kind_complaint_iff v).mp (by simp [said])) ⟨wrong, done⟩
              | none =>
                  have done : f.complaint v = f.ruleComplaint v := by
                    rw [complaint, if_neg first, if_neg second, if_neg third, said]
                  exact .rules filled present plain (fun broken => (f.kind_complaint_iff v).mpr broken said) done

theorem complaint_ends_iff (f : Field) (v : Value) : (∃ found, f.complaint v = .ok found) ↔ ¬ f.BreaksOff v := by
  cases f.checked v with
  | display shown done => exact ⟨fun _ off => by simp [off.filled] at shown, fun _ => ⟨_, done⟩⟩
  | missing filled missing done => exact ⟨fun _ off => by simp [off.present] at missing, fun _ => ⟨_, done⟩⟩
  | box filled present box done => exact ⟨fun _ off => by simp [off.plain] at box, fun _ => ⟨_, done⟩⟩
  | kind filled present plain broken done =>
      obtain ⟨wrong, done⟩ := done
      exact ⟨fun _ off => off.fits broken, fun _ => ⟨_, done⟩⟩
  | rules filled present plain fits done =>
      have unreadable := f.rule_complaint_breaks_iff v
      rw [done]
      cases came : f.ruleComplaint v with
      | ok found =>
          refine ⟨fun _ off => ?_, fun _ => ⟨found, rfl⟩⟩
          obtain ⟨why, broke⟩ := unreadable.mpr off.unreadable
          cases came.symm.trans broke
      | error why => exact ⟨nofun, fun kept => absurd ⟨filled, present, plain, fits, unreadable.mp ⟨why, came⟩⟩ kept⟩

theorem complaint_iff (f : Field) (v : Value) (found : Option Complaint) (came : f.complaint v = .ok found) :
    found ≠ none ↔ f.kind.displayOnly = false ∧ f.Fails v := by
  cases f.checked v with
  | display shown done =>
      cases came.symm.trans done
      exact ⟨fun said => absurd rfl said, fun ⟨filled, _⟩ => by simp [filled] at shown⟩
  | missing filled missing done =>
      cases came.symm.trans done
      refine ⟨fun said => ⟨filled, .missing (by simpa using said) missing⟩, fun ⟨_, fails⟩ => ?_⟩
      cases fails with
      | missing required => simp [required]
      | broken present => simp [present] at missing
  | box filled present box done =>
      cases came.symm.trans done
      refine ⟨fun said => absurd rfl said, fun ⟨_, fails⟩ => ?_⟩
      cases fails with
      | missing required missing => simp [present] at missing
      | broken present' plain => simp [plain] at box
  | kind filled present plain broken done =>
      obtain ⟨wrong, done⟩ := done
      cases came.symm.trans done
      exact ⟨fun _ => ⟨filled, .broken present plain (.inl broken)⟩, fun _ => nofun⟩
  | rules filled present plain fits done =>
      rw [f.rule_complaint_iff v found (done.symm.trans came)]
      refine ⟨fun broken => ⟨filled, .broken present plain (.inr broken)⟩, fun ⟨_, fails⟩ => ?_⟩
      cases fails with
      | missing required missing => simp [present] at missing
      | broken present' plain' wrong => exact wrong.resolve_left fits

theorem message_iff (f : Field) (v : Value) (told : Option String) (said : f.message v = .ok told) :
    told ≠ none ↔ f.kind.displayOnly = false ∧ f.Fails v := by
  rw [message] at said
  cases came : f.complaint v with
  | error why =>
      rw [came] at said
      cases said
  | ok found =>
      rw [came] at said
      cases said
      rw [← f.complaint_iff v found came]
      cases found <;> simp

theorem complaint_present (f : Field) (v : Value) (filled : f.kind.displayOnly = false)
    (plain : f.kind.isBoolean = false) (present : v.isEmpty = false) :
    f.complaint v = match f.kindComplaint v with
      | some wrong => .ok (some wrong)
      | none => f.ruleComplaint v := by
  simp only [complaint, isMissing, filled, plain, present]
  rfl

theorem kind_accepts_iff (f : Field) (v : Value) (wrong : Complaint) (kept : Bool) (filled : f.kind.displayOnly = false)
    (plain : f.kind.isBoolean = false) (present : v.isEmpty = false)
    (only : f.kindComplaint v = if kept then none else some wrong) (apart : wrong.message.toList.head? = some 'E') :
    f.message v ≠ .ok (some wrong.message) ↔ kept = true := by
  rw [message, f.complaint_present v filled plain present, only]
  cases kept with
  | false => exact ⟨fun other => absurd rfl other, fun never => Bool.noConfusion never⟩
  | true =>
      refine ⟨fun _ => rfl, fun _ said => ?_⟩
      cases ruled : f.ruleComplaint v with
      | error why => simp [ruled, Except.map] at said
      | ok found =>
          cases found with
          | none => simp [ruled, Except.map] at said
          | some other =>
              have same : other.message = wrong.message := by simpa [ruled, Except.map] using said
              rw [← same] at apart
              rcases f.rule_message_first v other ruled with first | first <;> (rw [first] at apart; cases apart)

end Field

section Reported

variable {nodes : List Node} {values : Keyed Value} {errors : Keyed String}

theorem reported_iff (distinct : (Node.idsOf nodes).Nodup) (done : validate nodes values = .ok errors) (id : String) :
    (∃ message, Keyed.value? errors id = some message) ↔
      ∃ f ∈ Node.openFields (valueIndex nodes values) nodes, f.id = id ∧ f.kind.displayOnly = false ∧
        f.Fails (heldValue (valueIndex nodes values) f) := by
  rw [validate, validateShown, visible_fields_open nodes values distinct] at done
  obtain ⟨others, told⟩ := errors_tell _ _ [] errors (Node.open_ids_nodup _ nodes distinct) done
  constructor
  · rintro ⟨message, found⟩
    by_cases among : id ∈ (Node.openFields (valueIndex nodes values) nodes).map (·.id)
    · obtain ⟨f, member, rfl⟩ := List.mem_map.mp among
      exact ⟨f, member, rfl, (f.message_iff _ _ (told f member rfl)).mp (by simp [found])⟩
    · rw [others id among] at found
      cases found
  · rintro ⟨f, member, rfl, fails⟩
    exact Option.ne_none_iff_exists'.mp ((f.message_iff _ _ (told f member rfl)).mpr fails)

theorem hidden_unreported (distinct : (Node.idsOf nodes).Nodup) (done : validate nodes values = .ok errors)
    (leaf : Node.Leaf) (member : leaf ∈ Node.leavesOf [] nodes)
    (closed : leaf.isOpen (valueIndex nodes values) = false) : Keyed.value? errors leaf.field.id = none := by
  by_contra entry
  obtain ⟨f, opened, same, _⟩ := (reported_iff distinct done leaf.field.id).mp (Option.ne_none_iff_exists'.mp entry)
  obtain ⟨other, among, rfl, isOpen⟩ := (Node.mem_open_fields _ nodes f).mp opened
  have alike : other = leaf := List.inj_on_of_nodup_map (Node.leaf_ids_nodup nodes distinct) among member same
  rw [← alike, isOpen] at closed
  cases closed

end Reported

theorem failing_fields_reported (nodes : List Node) (values : Keyed Value) (distinct : (Node.idsOf nodes).Nodup) :
    ((∃ errors, validate nodes values = .ok errors) ↔
      ∀ f ∈ Node.openFields (valueIndex nodes values) nodes, ¬ f.BreaksOff (heldValue (valueIndex nodes values) f)) ∧
    ∀ errors, validate nodes values = .ok errors →
      (∀ id, (∃ message, Keyed.value? errors id = some message) ↔
        ∃ leaf ∈ Node.leavesOf [] nodes, leaf.field.id = id ∧ leaf.field.kind.displayOnly = false ∧
          (∀ g ∈ leaf.around, ∀ c, g.condition = some c → c.holds (valueIndex nodes values) = true) ∧
          leaf.field.Fails (heldValue (valueIndex nodes values) leaf.field)) ∧
      (∀ id message, Keyed.value? errors id = some message → message ≠ "") ∧
      ∀ leaf ∈ Node.leavesOf [] nodes,
        (∃ g ∈ leaf.around, ∃ c, g.condition = some c ∧ c.holds (valueIndex nodes values) = false) →
        Keyed.value? errors leaf.field.id = none := by
  refine ⟨?_, fun errors done => ⟨fun id => ?_, fun id message found => ?_, fun leaf member closed => ?_⟩⟩
  · rw [validate_finishes_iff, visible_fields_open nodes values distinct]
    exact forall₂_congr fun f _ => f.complaint_ends_iff _
  · rw [reported_iff distinct done id]
    constructor
    · rintro ⟨f, opened, same, fails⟩
      obtain ⟨leaf, member, rfl, isOpen⟩ := (Node.mem_open_fields _ nodes f).mp opened
      exact ⟨leaf, member, same, fails.1, (leaf.open_iff _).mp isOpen, fails.2⟩
    · rintro ⟨leaf, member, same, filled, conditions, fails⟩
      have opened := (Node.mem_open_fields _ nodes leaf.field).mpr
        ⟨leaf, member, rfl, (leaf.open_iff _).mpr conditions⟩
      exact ⟨leaf.field, opened, same, filled, fails⟩
  · rcases message_from _ _ [] errors done id message found with before | ⟨_, _, _, _, written⟩
    · cases before
    · exact written
  · refine hidden_unreported distinct done leaf member (Bool.eq_false_iff.mpr fun isOpen => ?_)
    obtain ⟨g, around, c, conditioned, unmet⟩ := closed
    rw [(leaf.open_iff _).mp isOpen g around c conditioned] at unmet
    cases unmet

def codeField : Field :=
  { Field.create "code" .text with rules := some { Rules.unset with minLength := some 3, pattern := some "([" } }

def hiddenGroup : Group := { Group.create "hidden" with condition := some ⟨"age", .lessThan, .int 5⟩ }

def checkedNodes : List Node :=
  let shown : Group := { Group.create "shown" with condition := some ⟨"code", .contains, .text "x"⟩ }
  let age : Field := { Field.create "age" .number with rules := some { Rules.unset with max := some (.ofInt 10) } }
  [.field codeField, .group shown [.field age],
    .group hiddenGroup [.field { Field.create "secret" .text with required := true }]]

def checkedValues : Keyed Value := [("code", .text "x"), ("age", .text "10,5")]

theorem malformed_pattern_skipped :
    ∃ errors, validate checkedNodes checkedValues = .ok errors ∧
      (∃ message, Keyed.value? errors "code" = some message) ∧ Keyed.value? errors "secret" = none ∧
      errors = [("code", "Must be at least 3 characters"), ("age", "Must be at most 10")] := by
  obtain ⟨_, reported⟩ := failing_fields_reported checkedNodes checkedValues (by decide +kernel)
  have done : validate checkedNodes checkedValues
      = .ok [("code", "Must be at least 3 characters"), ("age", "Must be at most 10")] := by decide +kernel
  obtain ⟨entries, _, hidden⟩ := reported _ done
  refine ⟨_, done, ?_, ?_, rfl⟩
  · have held : heldValue (valueIndex checkedNodes checkedValues) codeField = .text "x" := by decide +kernel
    have short : codeField.Fails (.text "x") := .broken rfl rfl (.inr (.tooShort _ 3 rfl rfl (by decide)))
    refine (entries "code").mpr ⟨⟨[], codeField⟩, List.mem_cons_self, rfl, rfl, fun g inside => ?_, held ▸ short⟩
    exact absurd inside List.not_mem_nil
  · refine hidden ⟨[hiddenGroup], { Field.create "secret" .text with required := true }⟩ ?_ ?_
    · exact List.mem_cons_of_mem _ (List.mem_cons_of_mem _ List.mem_cons_self)
    · exact ⟨hiddenGroup, List.mem_cons_self, _, rfl, by decide +kernel⟩

def silencedField : Field :=
  { Field.create "code" .text with
    rules := some { Rules.unset with minLength := some 3, pattern := some "x\x7b99999999999\x7d" } }

theorem unreadable_pattern_silences :
    (Node.idsOf [.field silencedField]).Nodup ∧ silencedField.Fails (.text "x") ∧
    Node.leavesOf [] [.field silencedField] = [⟨[], silencedField⟩] ∧
    heldValue (valueIndex [.field silencedField] [("code", .text "x")]) silencedField = .text "x" ∧
    validate [.field silencedField] [("code", .text "x")] = .error .countTooLarge :=
  ⟨by decide, .broken rfl rfl (.inr (.tooShort _ 3 rfl rfl (by decide))), rfl, rfl, by decide +kernel⟩

end FormEngine
