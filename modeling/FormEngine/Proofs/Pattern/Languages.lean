import FormEngine.Pattern.Matcher
import Mathlib.Computability.Language

set_option autoImplicit false

namespace FormEngine.Pattern

def Takes (search : Search) (language : Language Char) : Prop :=
  ∀ (rest : Rest) (s : State), (search rest s).isSome = true ↔ ∃ taken ∈ language, ∃ more,
    s.ahead = taken ++ more ∧ (rest ⟨taken.reverse ++ s.behind, more, s.groups⟩).isSome = true

def letters (test : Char → Bool) : Language Char := {text | ∃ c, test c = true ∧ text = [c]}

def rounds (language : Language Char) (most : Option Nat) : Language Char :=
  {text | ∃ count, (∀ bound, most = some bound → count ≤ bound) ∧ text ∈ language ^ count}

-- The parts that have a language. A possessive repetition has none, for it may give up texts that others would take.
inductive Denotes : Expr → Language Char → Prop where
  | empty : Denotes .empty 1
  | set (allowed : CharSet) (folding : Folding) : Denotes (.set allowed folding) (letters (allowed.has folding))
  | any (breaks : Bool) : Denotes (.any breaks) (letters fun c => breaks || c != '\n')
  | seq {a b : Expr} {l m : Language Char} (first : Denotes a l) (second : Denotes b m) : Denotes (.seq a b) (l * m)
  | alt {a b : Expr} {l m : Language Char} (first : Denotes a l) (second : Denotes b m) : Denotes (.alt a b) (l + m)
  | rounds {body : Expr} {l : Language Char} (least : Nat) (most : Option Nat) (greed : Greed)
      (searching : greed ≠ .possessive) (each : Denotes body l) :
      Denotes (.rounds least most greed body) (l ^ least * rounds l (most.map (· - least)))

section Takes

variable {a b body : Search} {l m : Language Char}

theorem takes_one (test : Char → Bool) : Takes (takeOne test) (letters test) := by
  rintro rest ⟨behind, ahead, groups⟩
  cases ahead with
  | nil =>
      refine ⟨fun found => (nomatch found), ?_⟩
      rintro ⟨_, ⟨c, _, rfl⟩, _, split, _⟩
      cases split
  | cons c more =>
      rw [takeOne]
      dsimp only
      constructor
      · intro found
        split at found
        · exact ⟨[c], ⟨c, ‹_›, rfl⟩, more, rfl, found⟩
        · cases found
      · rintro ⟨_, ⟨d, passed, rfl⟩, _, split, found⟩
        cases split
        rw [if_pos passed]
        exact found

theorem takes_empty : Takes (fun rest s => rest s) 1 := by
  intro rest s
  refine ⟨fun found => ⟨[], rfl, s.ahead, rfl, found⟩, ?_⟩
  rintro ⟨_, rfl, more, split, found⟩
  have same : s = ⟨s.behind, more, s.groups⟩ := by rw [show more = s.ahead from split.symm]
  rw [same]
  exact found

theorem takes_seq (first : Takes a l) (second : Takes b m) : Takes (fun rest => a (b rest)) (l * m) := by
  intro rest s
  rw [first]
  constructor
  · rintro ⟨taken, inside, _, split, found⟩
    obtain ⟨next, after, more, rfl, found⟩ := (second _ _).mp found
    refine ⟨taken ++ next, Language.append_mem_mul inside after, more, by rw [split, List.append_assoc], ?_⟩
    rwa [List.reverse_append, List.append_assoc]
  · rintro ⟨_, inside, more, split, found⟩
    obtain ⟨taken, first, next, after, rfl⟩ := Language.mem_mul.mp inside
    rw [List.append_assoc] at split
    refine ⟨taken, first, next ++ more, split, (second _ _).mpr ⟨next, after, more, rfl, ?_⟩⟩
    rwa [List.reverse_append, List.append_assoc] at found

theorem takes_alt (first : Takes a l) (second : Takes b m) :
    Takes (fun rest s => match a rest s with
      | some found => some found
      | none => b rest s) (l + m) := by
  intro rest s
  have either : (match a rest s with
      | some found => some found
      | none => b rest s).isSome = true ↔ (a rest s).isSome = true ∨ (b rest s).isSome = true := by
    cases a rest s <;> simp
  rw [either, first, second]
  constructor
  · rintro (⟨taken, inside, found⟩ | ⟨taken, inside, found⟩)
    · exact ⟨taken, .inl inside, found⟩
    · exact ⟨taken, .inr inside, found⟩
  · rintro ⟨taken, inside | inside, found⟩
    · exact .inl ⟨taken, inside, found⟩
    · exact .inr ⟨taken, inside, found⟩

theorem takes_times (each : Takes body l) (count : Nat) : Takes (times body count) (l ^ count) := by
  induction count with
  | zero => exact takes_empty
  | succ count ih =>
      rw [pow_succ']
      exact fun rest s => takes_seq each ih rest s

theorem greedily_succ (fuel : Nat) (most last : Option Nat) (rest : Rest) (s : State) :
    (greedily body (fuel + 1) most last rest s).isSome = true ↔
      mayRepeat most last s = true ∧
        (body (greedily body fuel (most.map (· - 1)) (some s.ahead.length) rest) s).isSome = true ∨
      (rest s).isSome = true := by
  rw [greedily]
  split
  · cases body (greedily body fuel (most.map (· - 1)) (some s.ahead.length) rest) s <;> simp [*]
  · simp [*]

theorem greedily_sound (each : Takes body l) (fuel : Nat) (most last : Option Nat) (rest : Rest) (s : State)
    (found : (greedily body fuel most last rest s).isSome = true) :
    ∃ taken ∈ rounds l most, ∃ more, s.ahead = taken ++ more ∧
      (rest ⟨taken.reverse ++ s.behind, more, s.groups⟩).isSome = true := by
  induction fuel generalizing most last s with
  | zero => exact ⟨[], ⟨0, fun _ _ => Nat.zero_le _, rfl⟩, s.ahead, rfl, found⟩
  | succ fuel ih =>
      rcases (greedily_succ fuel most last rest s).mp found with ⟨may, found⟩ | found
      · obtain ⟨taken, inside, ahead, split, found⟩ := (each _ _).mp found
        obtain ⟨others, ⟨count, within, rounds⟩, more, rfl, found⟩ := ih _ _ _ found
        refine ⟨taken ++ others, ⟨count + 1, fun bound limited => ?_, ?_⟩, more, ?_, ?_⟩
        · subst limited
          have fewer : count ≤ bound - 1 := within _ rfl
          have some : bound ≠ 0 := fun zero => by simp [mayRepeat, zero] at may
          omega
        · rw [pow_succ']
          exact Language.append_mem_mul inside rounds
        · rw [split, List.append_assoc]
        · rwa [List.reverse_append, List.append_assoc]
      · exact ⟨[], ⟨0, fun _ _ => Nat.zero_le _, rfl⟩, s.ahead, rfl, found⟩

-- Rounds that take nothing are left out, so that every round shortens what is ahead and the fuel is enough.
theorem greedily_complete (each : Takes body l) (count fuel : Nat) (most last : Option Nat) (rest : Rest) (s : State)
    (within : ∀ bound, most = some bound → count ≤ bound) (enough : s.ahead.length < fuel)
    (moved : last ≠ some s.ahead.length) {taken more : List Char} (inside : taken ∈ l ^ count)
    (split : s.ahead = taken ++ more) (found : (rest ⟨taken.reverse ++ s.behind, more, s.groups⟩).isSome = true) :
    (greedily body fuel most last rest s).isSome = true := by
  obtain ⟨fuel, rfl⟩ : ∃ n, fuel = n + 1 := ⟨fuel - 1, by omega⟩
  induction count generalizing fuel most last s taken with
  | zero =>
      obtain rfl : taken = [] := inside
      have same : s = ⟨s.behind, more, s.groups⟩ := by rw [show more = s.ahead from split.symm]
      exact (greedily_succ fuel most last rest s).mpr (.inr (same ▸ found))
  | succ count ih =>
      rw [pow_succ'] at inside
      obtain ⟨first, begins, others, follow, rfl⟩ := Language.mem_mul.mp inside
      cases first with
      | nil =>
          have fewer : ∀ bound, most = some bound → count ≤ bound := fun bound limited =>
            Nat.le_of_succ_le (within bound limited)
          exact ih most last s fewer moved follow split found fuel enough
      | cons c first =>
          have may : mayRepeat most last s = true := by
            have some : most ≠ some 0 := fun zero => absurd (within 0 zero) (Nat.not_succ_le_zero count)
            simp [mayRepeat, some, moved]
          refine (greedily_succ fuel most last rest s).mpr (.inl ⟨may, (each _ _).mpr ?_⟩)
          rw [List.append_assoc] at split
          have sizes := congrArg List.length split
          simp only [List.length_append, List.length_cons] at sizes
          obtain ⟨fuel, rfl⟩ : ∃ n, fuel = n + 1 := ⟨fuel - 1, by omega⟩
          refine ⟨c :: first, begins, others ++ more, split, ih _ _ _ ?_ ?_ follow rfl ?_ fuel ?_⟩
          · intro bound limited
            obtain ⟨before, same, rfl⟩ := Option.map_eq_some_iff.mp limited
            exact Nat.le_sub_one_of_lt (within before same)
          · simp only [ne_eq, Option.some.injEq, List.length_append]
            omega
          · rwa [List.reverse_append, List.append_assoc] at found
          · simp only [List.length_append]
            omega

theorem takes_greedily (each : Takes body l) (most : Option Nat) :
    Takes (fun rest s => greedily body (s.ahead.length + 2) most none rest s) (rounds l most) := by
  refine fun rest s => ⟨greedily_sound each _ _ _ rest s, ?_⟩
  rintro ⟨taken, ⟨count, within, inside⟩, more, split, found⟩
  exact greedily_complete each count _ most none rest s within (by omega) nofun inside split found

theorem lazily_as_greedily (each : Takes body l) (fuel : Nat) (most last : Option Nat) (rest : Rest) (s : State) :
    (lazily body fuel most last rest s).isSome = true ↔ (greedily body fuel most last rest s).isSome = true := by
  induction fuel generalizing most last s with
  | zero => rfl
  | succ fuel ih =>
      have alike : (body (lazily body fuel (most.map (· - 1)) (some s.ahead.length) rest) s).isSome = true ↔
          (body (greedily body fuel (most.map (· - 1)) (some s.ahead.length) rest) s).isSome = true := by
        rw [each, each]
        simp only [ih]
      rw [greedily_succ, ← alike, lazily]
      cases rest s with
      | some found => simp
      | none => by_cases may : mayRepeat most last s = true <;> simp [may]

theorem takes_repeatedly (each : Takes body l) (least : Nat) (most : Option Nat) (greed : Greed)
    (searching : greed ≠ .possessive) :
    Takes (repeatedly least most greed body) (l ^ least * rounds l (most.map (· - least))) := by
  have first := takes_times each least
  have greedy := takes_greedily each (most.map (· - least))
  cases greed with
  | greedy => exact fun rest s => takes_seq first greedy rest s
  | lazy =>
      have alike : Takes (fun rest s => lazily body (s.ahead.length + 2) (most.map (· - least)) none rest s)
          (rounds l (most.map (· - least))) := by
        intro rest s
        rw [lazily_as_greedily each]
        exact greedy rest s
      exact fun rest s => takes_seq first alike rest s
  | possessive => exact absurd rfl searching

end Takes

theorem search_takes {e : Expr} {l : Language Char} (denotes : Denotes e l) : Takes e.search l := by
  induction denotes with
  | empty => exact takes_empty
  | set allowed folding => exact takes_one (allowed.has folding)
  | any breaks => exact takes_one _
  | seq _ _ first second => exact fun rest s => takes_seq first second rest s
  | alt _ _ first second => exact fun rest s => takes_alt first second rest s
  | rounds least most greed searching _ each => exact takes_repeatedly each least most greed searching

inductive Closes : Expr → Language Char → Prop where
  | ends : Closes (.seq (.anchor .lastLineEnd) .empty) 1
  | after {a b : Expr} {l m : Language Char} (first : Denotes a l) (others : Closes b m) : Closes (.seq a b) (l * m)

theorem closes_iff {e : Expr} {l : Language Char} (closes : Closes e l) (s : State) :
    (e.search some s).isSome = true ↔ ∃ taken ∈ l, s.ahead = taken ∨ s.ahead = taken ++ ['\n'] := by
  induction closes generalizing s with
  | ends =>
      have held : ((Expr.seq (.anchor .lastLineEnd) .empty).search some s).isSome = true ↔
          Anchor.holds s .lastLineEnd = true := by
        simp [Expr.search]
      rw [held]
      simp [Anchor.holds]
  | @after a b l m first _ ih =>
      have begins := search_takes first (b.search some) s
      refine begins.trans ⟨?_, ?_⟩
      · rintro ⟨taken, inside, _, split, found⟩
        obtain ⟨next, after, same⟩ := (ih _).mp found
        refine ⟨taken ++ next, Language.append_mem_mul inside after, ?_⟩
        rw [split, List.append_assoc]
        exact same.imp (congrArg (taken ++ ·)) (congrArg (taken ++ ·))
      · rintro ⟨_, inside, same⟩
        obtain ⟨taken, first, next, after, rfl⟩ := Language.mem_mul.mp inside
        rw [List.append_assoc] at same
        rcases same with same | same
        · exact ⟨taken, first, next, same, (ih _).mpr ⟨next, after, .inl rfl⟩⟩
        · exact ⟨taken, first, next ++ ['\n'], same, (ih _).mpr ⟨next, after, .inr rfl⟩⟩

theorem found_inside (e : Expr) (passed : List Char) (some : passed ≠ []) (text : List Char) :
    (Expr.seq (.anchor .textStart) e).found passed text = false := by
  have held (passed text : List Char) (some : passed ≠ []) :
      ((Expr.seq (.anchor .textStart) e).search Option.some ⟨passed, text, []⟩).isSome = false := by
    simp [Expr.search, Anchor.holds, some]
  induction text generalizing passed with
  | nil => exact held passed [] some
  | cons c rest ih => rw [Expr.found, held passed _ some, ih (c :: passed) (List.cons_ne_nil _ _), Bool.or_false]

theorem whole_text_iff {e : Expr} {l : Language Char} (closes : Closes e l) (text : String) :
    (Expr.seq (.anchor .textStart) e).occursIn text = true ↔
      ∃ taken ∈ l, text.toList = taken ∨ text.toList = taken ++ ['\n'] := by
  have started (text : List Char) : (Expr.seq (.anchor .textStart) e).found [] text = true ↔
      (e.search some ⟨[], text, []⟩).isSome = true := by
    cases text with
    | nil => simp [Expr.found, Expr.search, Anchor.holds]
    | cons c rest =>
        rw [Expr.found, found_inside e [c] (List.cons_ne_nil _ _), Bool.or_false]
        simp [Expr.search, Anchor.holds]
  rw [Expr.occursIn, started, closes_iff closes]

def Expr.mark (c : Char) : Expr := .set ⟨false, [.code c.toNat]⟩ .exact

theorem code_has (c d : Char) : (SetItem.code c.toNat).has .exact d.toNat = (d == c) := by
  change [c.toNat].contains d.toNat = _
  rw [Bool.eq_iff_iff, List.contains_iff_mem, List.mem_singleton, Char.toNat_inj, beq_iff_eq]

theorem mark_has (c d : Char) : CharSet.has ⟨false, [.code c.toNat]⟩ .exact d = (d == c) := by
  change (((SetItem.code c.toNat).has .exact d.toNat || false) != false) = _
  rw [code_has, Bool.or_false, Bool.bne_false]

theorem mark_denotes (c : Char) : Denotes (.mark c) {[c]} := by
  have same : letters (CharSet.has ⟨false, [.code c.toNat]⟩ .exact) = {[c]} := by
    refine Language.ext fun text => ⟨?_, ?_⟩
    · rintro ⟨d, passed, rfl⟩
      rw [mark_has, beq_iff_eq] at passed
      exact congrArg ([·]) passed
    · rintro rfl
      exact ⟨c, by rw [mark_has, beq_self_eq_true], rfl⟩
  rw [← same]
  exact .set _ _

theorem mem_letters_pow (test : Char → Bool) (count : Nat) (text : List Char) :
    text ∈ letters test ^ count ↔ text.length = count ∧ ∀ c ∈ text, test c = true := by
  induction count generalizing text with
  | zero =>
      rw [pow_zero, Language.mem_one, List.length_eq_zero_iff]
      exact ⟨fun empty => ⟨empty, fun c member => by rw [empty] at member; cases member⟩, And.left⟩
  | succ count ih =>
      rw [pow_succ', Language.mem_mul]
      constructor
      · rintro ⟨_, ⟨c, passed, rfl⟩, rest, others, rfl⟩
        obtain ⟨rfl, all⟩ := (ih rest).mp others
        exact ⟨rfl, List.forall_mem_cons.mpr ⟨passed, all⟩⟩
      · rintro ⟨size, all⟩
        cases text with
        | nil => cases size
        | cons c rest =>
            obtain ⟨passed, all⟩ := List.forall_mem_cons.mp all
            exact ⟨[c], ⟨c, passed, rfl⟩, rest, (ih rest).mpr ⟨Nat.succ.inj size, all⟩, rfl⟩

theorem mem_run (test : Char → Bool) (least : Nat) (more : Option Nat) (text : List Char) :
    text ∈ letters test ^ least * rounds (letters test) more ↔
      (∀ c ∈ text, test c = true) ∧ least ≤ text.length ∧ ∀ bound, more = some bound → text.length ≤ least + bound := by
  constructor
  · intro inside
    obtain ⟨first, begins, others, ⟨count, within, follow⟩, rfl⟩ := Language.mem_mul.mp inside
    obtain ⟨rfl, ones⟩ := (mem_letters_pow test _ first).mp begins
    obtain ⟨rfl, all⟩ := (mem_letters_pow test _ others).mp follow
    rw [List.length_append]
    refine ⟨fun c member => (List.mem_append.mp member).elim (ones c) (all c), Nat.le_add_right _ _, ?_⟩
    exact fun bound limited => Nat.add_le_add_left (within bound limited) _
  · rintro ⟨all, enough, within⟩
    rw [← List.take_append_drop least text]
    refine Language.append_mem_mul ((mem_letters_pow test _ _).mpr ⟨List.length_take_of_le enough, ?_⟩)
      ⟨text.length - least, fun bound limited => ?_, (mem_letters_pow test _ _).mpr ⟨List.length_drop, ?_⟩⟩
    · exact fun c member => all c (List.mem_of_mem_take member)
    · have := within bound limited
      omega
    · exact fun c member => all c (List.mem_of_mem_drop member)

end FormEngine.Pattern
