import FormEngine.Proofs.Builder.Draws
import FormEngine.Proofs.Builder.Outcomes
import Mathlib.Data.Finset.Card
import Mathlib.Data.List.GetD
import Mathlib.Data.Nat.Find
import Mathlib.Data.Nat.ModEq

set_option autoImplicit false

namespace FormEngine

namespace Draws

def scripted (d : Draws) : Nat := (d.script.length - d.drawn + (idLength - 1)) / idLength

def counterWords : Nat := idLetters.length ^ idLength

theorem lt_scripted_iff (d : Draws) (i : Nat) : i < d.scripted ↔ (d.after i).drawn < d.script.length := by
  simp only [scripted, after, idLength]
  omega

theorem mod_power_iff (base width a b : Nat) :
    a ≡ b [MOD base ^ width] ↔ ∀ j < width, a / base ^ j % base = b / base ^ j % base := by
  induction width with
  | zero => simp [Nat.modEq_one]
  | succ width ih =>
      constructor
      · intro same j below
        have shorter : a ≡ b [MOD base ^ (j + 1)] := same.of_dvd (Nat.pow_dvd_pow base below)
        rw [Nat.pow_succ] at shorter
        rw [← Nat.mod_mul_right_div_self, ← Nat.mod_mul_right_div_self, shorter]
      · intro digits
        have shorter : a % base ^ width = b % base ^ width := ih.mpr fun j below => digits j (by omega)
        rw [Nat.ModEq, Nat.mod_pow_succ, Nat.mod_pow_succ, shorter, digits width (Nat.lt_succ_self width)]

theorem id_letters_distinct : idLetters.Nodup := by decide

theorem counter_letter_iff (v w position : Nat) : counterLetter v position = counterLetter w position ↔
    v / idLetters.length ^ (idLength - 1 - position) % idLetters.length =
      w / idLetters.length ^ (idLength - 1 - position) % idLetters.length := by
  have small (n : Nat) : n % idLetters.length < idLetters.length := Nat.mod_lt n (by decide)
  rw [counterLetter, counterLetter, List.getD_eq_getElem _ _ (small _), List.getD_eq_getElem _ _ (small _)]
  exact id_letters_distinct.getElem_inj_iff

-- Letters in a row are the end of one word of the counter and the beginning of the next. The end tells the word as far
-- as it goes, hence the next word too, and the beginning of that is there to be read.
theorem same_window_iff (a b offset : Nat) (inside : offset < idLength) :
    (∀ k < idLength, counterLetter (a + (offset + k) / idLength) ((offset + k) % idLength) =
      counterLetter (b + (offset + k) / idLength) ((offset + k) % idLength)) ↔ a ≡ b [MOD counterWords] := by
  simp only [counter_letter_iff]
  constructor
  · intro letters
    have ends : a ≡ b [MOD idLetters.length ^ (idLength - offset)] := by
      apply (mod_power_iff _ _ a b).mpr
      intro j below
      have letter := letters (idLength - 1 - j - offset) (by omega)
      have place : offset + (idLength - 1 - j - offset) = idLength - 1 - j := by omega
      have early : idLength - 1 - j < idLength := by omega
      rw [place, Nat.div_eq_of_lt early, Nat.mod_eq_of_lt early, Nat.sub_sub_self (by omega)] at letter
      exact letter
    have next : a + 1 ≡ b + 1 [MOD counterWords] := by
      apply (mod_power_iff _ _ (a + 1) (b + 1)).mpr
      intro j below
      by_cases told : j < idLength - offset
      · exact (mod_power_iff _ _ (a + 1) (b + 1)).mp (ends.add_right 1) j told
      · have letter := letters (idLength - 1 - j + idLength - offset) (by omega)
        have place : offset + (idLength - 1 - j + idLength - offset) = idLength - 1 - j + idLength := by omega
        have early : idLength - 1 - j < idLength := by omega
        rw [place, Nat.add_div_right _ (Nat.zero_lt_of_lt inside), Nat.add_mod_right, Nat.div_eq_of_lt early,
          Nat.mod_eq_of_lt early, Nat.sub_sub_self (by omega)] at letter
        exact letter
    exact Nat.ModEq.add_right_cancel' 1 next
  · intro same k _
    have digit : idLength - 1 - (offset + k) % idLength < idLength := by omega
    exact (mod_power_iff _ _ _ _).mp (same.add_right ((offset + k) / idLength)) _ digit

def begun (d : Draws) : Nat := (d.after d.scripted).drawn - d.script.length

theorem letter_counted (d : Draws) (i k : Nat) :
    (d.after (d.scripted + i)).letter ((d.after (d.scripted + i)).drawn + k) =
      counterLetter (d.begun / idLength + i + (d.begun % idLength + k) / idLength)
        ((d.begun % idLength + k) % idLength) := by
  have beyond : d.script.length ≤ (d.after d.scripted).drawn :=
    Nat.le_of_not_lt fun touched => Nat.lt_irrefl _ ((d.lt_scripted_iff d.scripted).mpr touched)
  have place : (d.after (d.scripted + i)).drawn + k = d.script.length + (d.begun + idLength * i + k) := by
    simp only [begun, after, idLength] at beyond ⊢
    omega
  have unscripted : (d.after (d.scripted + i)).script[d.script.length + (d.begun + idLength * i + k)]? = none :=
    List.getElem?_eq_none (Nat.le_add_right _ _)
  have word : (d.begun + idLength * i + k) / idLength =
      d.begun / idLength + i + (d.begun % idLength + k) / idLength := by
    simp only [idLength]
    omega
  have position : (d.begun + idLength * i + k) % idLength = (d.begun % idLength + k) % idLength := by
    simp only [idLength]
    omega
  rw [place, letter, unscripted]
  show counterLetter ((d.script.length + _ - d.script.length) / idLength)
    ((d.script.length + _ - d.script.length) % idLength) = _
  rw [Nat.add_sub_cancel_left, word, position]

theorem candidate_eq_iff (d e : Draws) (word : String) : d.candidate word = e.candidate word ↔
    ∀ k < idLength, d.letter (d.drawn + k) = e.letter (e.drawn + k) := by
  constructor
  · intro same k below
    have texts := congrArg String.toList same
    simp only [candidate, String.toList_append, String.toList_ofList] at texts
    exact List.map_inj_left.mp (List.append_cancel_left texts) k (List.mem_range.mpr below)
  · intro letters
    have suffixes : d.suffix = e.suffix := List.map_inj_left.mpr fun k member => letters k (List.mem_range.mp member)
    rw [candidate, candidate, suffixes]

theorem same_candidate_iff (d : Draws) (word : String) (i j : Nat) :
    (d.after (d.scripted + i)).candidate word = (d.after (d.scripted + j)).candidate word ↔ i ≡ j [MOD counterWords] := by
  have inside : d.begun % idLength < idLength := Nat.mod_lt _ (by decide)
  rw [candidate_eq_iff]
  simp only [letter_counted]
  rw [same_window_iff _ _ _ inside]
  exact ⟨Nat.ModEq.add_left_cancel' _, fun same => same.add_left _⟩

theorem counted_le (d : Draws) (word : String) (taken : List String) (count : Nat) (round : count ≤ counterWords)
    (refused : ∀ i < count, (d.after (d.scripted + i)).candidate word ∈ taken) : count ≤ taken.toFinset.card := by
  have apart : Set.InjOn (fun i => (d.after (d.scripted + i)).candidate word) (Finset.range count : Finset Nat) := by
    intro i first j second same
    have congruent := (same_candidate_iff d word i j).mp same
    simp only [Finset.coe_range, Set.mem_Iio] at first second
    exact congruent.eq_of_lt_of_lt (by omega) (by omega)
  calc count = (Finset.range count).card := (Finset.card_range count).symm
    _ ≤ taken.toFinset.card := Finset.card_le_card_of_injOn _
      (fun i member => List.mem_toFinset.mpr (refused i (Finset.mem_range.mp member))) apart

theorem rejected_le (d : Draws) (word : String) (taken : List String) (rejected : Nat)
    (refused : ∀ i < rejected, (d.after i).candidate word ∈ taken)
    (free : (d.after rejected).candidate word ∉ taken) : rejected ≤ d.scripted + taken.toFinset.card := by
  by_cases touched : rejected ≤ d.scripted
  · omega
  · obtain ⟨count, rfl⟩ := Nat.exists_eq_add_of_le (Nat.le_of_not_le touched)
    by_cases round : count ≤ counterWords
    · have bound := counted_le d word taken count round fun i below => refused (d.scripted + i) (by omega)
      omega
    · have again : (d.after (d.scripted + count)).candidate word =
          (d.after (d.scripted + (count - counterWords))).candidate word := by
        apply (same_candidate_iff d word _ _).mpr
        apply Nat.ModEq.symm
        apply (Nat.modEq_iff_dvd' (Nat.sub_le count counterWords)).mpr
        rw [Nat.sub_sub_self (Nat.le_of_not_le round)]
      have positive : 0 < counterWords := Nat.pow_pos (by decide)
      rw [again] at free
      exact absurd (refused (d.scripted + (count - counterWords)) (by omega)) free

end Draws

namespace Store

def taken (s : Store) : List String := s.issued ++ s.ids

theorem patience_enough (s : Store) : s.draws.scripted + s.taken.toFinset.card < s.draws.patience s.taken := by
  have most : s.taken.toFinset.card ≤ s.taken.length := List.toFinset_card_le s.taken
  simp only [Draws.patience, Draws.scripted, idLength]
  omega

-- What comes of the search: the first candidate that is not taken, and no more are in its way than touch the script and
-- ids are taken. Or else all candidates ever are taken: then the counter came round, and as many ids as it has words are
-- taken.
theorem fresh_id_first_free (s : Store) (word : String) :
    (∃ rejected ≤ s.draws.scripted + s.taken.toFinset.card,
      (∀ i < rejected, (s.draws.after i).candidate word ∈ s.taken) ∧
      (s.draws.after rejected).candidate word ∉ s.taken ∧
      (freshId word).run s = .ok ((s.draws.after rejected).candidate word)
        ((s.withDraws (s.draws.after (rejected + 1))).issue [(s.draws.after rejected).candidate word])) ∨
    (Draws.counterWords ≤ s.taken.toFinset.card ∧ (∀ i, (s.draws.after i).candidate word ∈ s.taken) ∧
      (freshId word).run s = .error .noFreeId s) := by
  by_cases given : ∃ i, (s.draws.after i).candidate word ∉ s.taken
  · have free := Nat.find_spec given
    have refused (i : Nat) (below : i < Nat.find given) : (s.draws.after i).candidate word ∈ s.taken :=
      not_not.mp (Nat.find_min given below)
    generalize Nat.find given = rejected at free refused
    have bound := s.draws.rejected_le word s.taken rejected refused free
    have search : s.draws.fresh (s.issued ++ s.ids) word =
        some ((s.draws.after rejected).candidate word, s.draws.after (rejected + 1)) :=
      (Draws.first_free_iff s.taken word _ s.draws _ _).mpr
        ⟨rejected, Nat.lt_of_le_of_lt bound s.patience_enough, refused, free, rfl, rfl⟩
    exact .inl ⟨rejected, bound, refused, free, by simp [freshId, search]⟩
  · have refused (i : Nat) : (s.draws.after i).candidate word ∈ s.taken :=
      not_not.mp fun free => given ⟨i, free⟩
    have search : s.draws.fresh (s.issued ++ s.ids) word = none := by
      apply Option.eq_none_iff_forall_ne_some.mpr
      intro found drawn
      obtain ⟨rejected, _, _, free, _⟩ := (Draws.first_free_iff s.taken word _ s.draws found.2 found.1).mp drawn
      exact free (refused rejected)
    have round : Draws.counterWords ≤ s.taken.toFinset.card :=
      s.draws.counted_le word s.taken Draws.counterWords (Nat.le_refl _) fun i _ => refused (s.draws.scripted + i)
    exact .inr ⟨round, refused, by simp [freshId, search]⟩

-- Three letters of the script and four of the counter make the first id. The next candidate is the rest of one word of
-- the counter and the beginning of the next, and spells the same id again.
def threeDrawn : Store := (Store.new "Start" ['a', 'a', 'a']).run [.create "text"]

theorem id_across_words : ∃ left, (freshId "fld").run threeDrawn = .ok "fld_aabaaaa" left ∧ left.draws.drawn = 21 := by
  have again : (threeDrawn.draws.after 0).candidate "fld" ∈ threeDrawn.taken := by decide +kernel
  have free : (threeDrawn.draws.after 1).candidate "fld" ∉ threeDrawn.taken := by decide +kernel
  have spelled : (threeDrawn.draws.after 1).candidate "fld" = "fld_aabaaaa" := by decide +kernel
  rcases fresh_id_first_free threeDrawn "fld" with ⟨rejected, _, refused, unused, ran⟩ | ⟨_, all, _⟩
  · have some_refused : rejected ≠ 0 := by
      intro none
      subst none
      exact unused again
    have one_refused : ¬ 1 < rejected := fun later => free (refused 1 later)
    have once : rejected = 1 := by omega
    rw [once, spelled] at ran
    exact ⟨_, ran, rfl⟩
  · exact absurd (all 1) free

end Store

end FormEngine
