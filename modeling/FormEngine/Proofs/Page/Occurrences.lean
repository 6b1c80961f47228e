import FormEngine.Proofs.Page.Reading
import Mathlib.Data.List.Basic

set_option autoImplicit false

namespace FormEngine.Markup

mutual
def elements : Markup → List Markup
  | .text _ | .sign _ => []
  | .style rules => [.style rules]
  | .element tag attributes children => .element tag attributes children :: elementsOf children
  | .void tag attributes => [.void tag attributes]
def elementsOf : List Markup → List Markup
  | [] => []
  | m :: rest => elements m ++ elementsOf rest
end

mutual
theorem element_printed (m e : Markup) (member : e ∈ m.elements) : e.print <:+: m.print := by
  cases m with
  | text _ => cases member
  | sign _ => cases member
  | style rules =>
      cases List.mem_singleton.mp member
      exact List.infix_rfl
  | void tag attributes =>
      cases List.mem_singleton.mp member
      exact List.infix_rfl
  | element tag attributes children =>
      rw [elements] at member
      rcases List.mem_cons.mp member with rfl | inside
      · exact List.infix_rfl
      · have printed := element_printed_all children e inside
        rw [print_element]
        exact printed.trans ⟨opening tag attributes ++ ['>'], closing tag, by simp⟩
theorem element_printed_all (l : List Markup) (e : Markup) (member : e ∈ elementsOf l) : e.print <:+: printAll l := by
  cases l with
  | nil => cases member
  | cons m rest =>
      rw [elementsOf] at member
      rw [printAll]
      rcases List.mem_append.mp member with here | later
      · exact (element_printed m e here).trans (List.infix_append_left ..)
      · exact (element_printed_all rest e later).trans (List.infix_append_right ..)
end

mutual
theorem element_opens (m e : Markup) (member : e ∈ m.elements) : e.print.head? = some '<' := by
  cases m with
  | text _ => cases member
  | sign _ => cases member
  | style rules =>
      cases List.mem_singleton.mp member
      rfl
  | void tag attributes =>
      cases List.mem_singleton.mp member
      rfl
  | element tag attributes children =>
      rcases List.mem_cons.mp member with rfl | inside
      · rfl
      · exact element_opens_all children e inside
theorem element_opens_all (l : List Markup) (e : Markup) (member : e ∈ elementsOf l) : e.print.head? = some '<' := by
  cases l with
  | nil => cases member
  | cons m rest =>
      rcases List.mem_append.mp member with here | later
      · exact element_opens m e here
      · exact element_opens_all rest e later
end

theorem only_at_start {a before rest : List Char} (plain : '<' ∉ a) (split : '<' :: a = before ++ '<' :: rest) : rest = a := by
  cases before with
  | nil => exact (List.cons.inj split).2.symm
  | cons c sooner =>
      have inside : '<' ∈ a := (List.cons.inj split).2 ▸ List.mem_append_right _ List.mem_cons_self
      exact absurd inside plain

theorem split_append {a b before rest : List Char} {c : Char} (split : a ++ b = before ++ c :: rest) :
    (∃ after, a = before ++ c :: after ∧ rest = after ++ b) ∨ ∃ sooner, b = sooner ++ c :: rest := by
  rcases List.append_eq_append_iff.mp split with ⟨sooner, _, later⟩ | ⟨after, first, later⟩
  · exact .inr ⟨sooner, later⟩
  · cases after with
    | nil => exact .inr ⟨[], later.symm⟩
    | cons d after =>
        cases later
        exact .inl ⟨after, first, rfl⟩

theorem split_after {a b before rest : List Char} (plain : '<' ∉ a) (split : a ++ b = before ++ '<' :: rest) :
    ∃ sooner, b = sooner ++ '<' :: rest := by
  rcases split_append split with ⟨after, first, _⟩ | later
  · exact absurd (first ▸ List.mem_append_right _ List.mem_cons_self) plain
  · exact later

theorem tag_name_closed (tag : Tag) : '<' ∉ tag.name.toList := by
  cases tag <;> decide

theorem attribute_closed (a : Attribute) : '<' ∉ attributeText a := by
  have name (n : AttributeName) : '<' ∉ n.text.toList := by cases n <;> decide
  cases a with
  | flag n => simp [attributeText, name n]
  | value n s =>
      have value : '<' ∉ escape s := fun inside => (escape_safe s '<' inside).1 rfl
      simp [attributeText, name n, value]

-- An opening tag is its first character and a text without another one.
theorem opening_closed (tag : Tag) (attributes : List Attribute) :
    ∃ cs, opening tag attributes = '<' :: cs ∧ '<' ∉ cs := by
  refine ⟨tag.name.toList ++ attributes.flatMap attributeText, rfl, ?_⟩
  rw [List.mem_append, List.mem_flatMap, not_or, not_exists]
  exact ⟨tag_name_closed tag, fun a ⟨_, inside⟩ => attribute_closed a inside⟩

theorem closing_closed (tag : Tag) : '<' ∉ '/' :: (tag.name.toList ++ ['>']) := by
  simp [tag_name_closed]

def Begins (elements : List Markup) (rest : List Char) : Prop :=
  (∃ e ∈ elements, e.print <+: '<' :: rest) ∨ ∃ name, rest = '/' :: name

theorem Begins.longer {elements more : List Markup} {rest : List Char} (begins : Begins elements rest)
    (wider : elements ⊆ more) (after : List Char) : Begins more (rest ++ after) := by
  rcases begins with ⟨e, member, printed⟩ | ⟨name, rfl⟩
  · exact .inl ⟨e, wider member, printed.trans (List.prefix_append ('<' :: rest) after)⟩
  · exact .inr ⟨name ++ after, rfl⟩

mutual
theorem tag_begins (m : Markup) (tidy : m.Tidy) {before rest : List Char} (split : m.print = before ++ '<' :: rest) :
    Begins m.elements rest := by
  cases m with
  | text s =>
      have inside : '<' ∈ (text s).print := split ▸ List.mem_append_right _ List.mem_cons_self
      exact absurd rfl (escape_safe s '<' inside).1
  | sign s =>
      have inside : '<' ∈ (sign s).print := split ▸ List.mem_append_right _ List.mem_cons_self
      cases s <;> exact absurd inside (by decide)
  | style rules =>
      rw [print_style, List.append_assoc] at split
      rcases split_append split with ⟨after, first, rfl⟩ | ⟨sooner, later⟩
      · have opened : after = "style>".toList := only_at_start (by decide) first
        subst opened
        exact .inl ⟨_, List.mem_singleton_self _, by rw [print_style, List.append_assoc]; exact List.prefix_rfl⟩
      · obtain ⟨sooner, closed⟩ := split_after tidy later
        exact .inr ⟨"style>".toList, only_at_start (by decide) closed⟩
  | void tag attributes =>
      obtain ⟨cs, opened, plain⟩ := opening_closed tag attributes
      have printed : (void tag attributes).print = '<' :: (cs ++ " />".toList) := by
        rw [print_void, opened, List.cons_append]
      have plainToo : '<' ∉ cs ++ " />".toList := by simp [plain]
      cases only_at_start plainToo (printed ▸ split)
      exact .inl ⟨_, List.mem_singleton_self _, printed ▸ List.prefix_rfl⟩
  | element tag attributes children =>
      obtain ⟨cs, opened, plain⟩ := opening_closed tag attributes
      have printed : (element tag attributes children).print
          = '<' :: (cs ++ ['>']) ++ (printAll children ++ closing tag) := by
        rw [print_element, opened]
        simp
      have plainToo : '<' ∉ cs ++ ['>'] := by simp [plain]
      rcases split_append (printed ▸ split) with ⟨after, first, rfl⟩ | ⟨sooner, later⟩
      · cases only_at_start plainToo first
        exact .inl ⟨_, List.mem_cons_self, printed ▸ List.prefix_rfl⟩
      · rcases split_append later with ⟨after, inside, rfl⟩ | ⟨sooner, closed⟩
        · exact (tag_begins_all children tidy inside).longer (List.subset_cons_self _ _) (closing tag)
        · exact .inr ⟨_, only_at_start (closing_closed tag) closed⟩
theorem tag_begins_all (l : List Markup) (tidy : TidyAll l) {before rest : List Char}
    (split : printAll l = before ++ '<' :: rest) : Begins (elementsOf l) rest := by
  cases l with
  | nil => cases before <;> cases split
  | cons m others =>
      rw [printAll] at split
      rcases split_append split with ⟨after, first, rfl⟩ | ⟨sooner, later⟩
      · exact (tag_begins m tidy.1 first).longer (List.subset_append_left _ _) _
      · have begins := (tag_begins_all others tidy.2 later).longer (List.subset_append_right m.elements _) []
        rwa [List.append_nil] at begins
end

theorem escape_injective {s t : String} (same : escape s = escape t) : s = t := by
  rw [← String.toList_inj, ← unescape_escape, same, unescape_escape]

theorem mark_first {a x y : List Char} {mark : Char} (plain : mark ∉ a) (same : mark :: x = a ++ mark :: y) :
    a = [] ∧ x = y := by
  cases a with
  | nil => exact ⟨rfl, (List.cons.inj same).2⟩
  | cons c rest => exact absurd ((List.cons.inj same).1 ▸ List.mem_cons_self) plain

theorem ended_injective {a b x y : List Char} {mark : Char} (first : mark ∉ a) (second : mark ∉ b)
    (same : a ++ mark :: x = b ++ mark :: y) : a = b ∧ x = y := by
  rcases List.append_eq_append_iff.mp same with ⟨more, rfl, rest⟩ | ⟨more, rfl, rest⟩
  · obtain ⟨rfl, ends⟩ := mark_first (fun inside => second (List.mem_append_right _ inside)) rest
    exact ⟨(List.append_nil a).symm, ends⟩
  · obtain ⟨rfl, ends⟩ := mark_first (fun inside => first (List.mem_append_right _ inside)) rest
    exact ⟨List.append_nil b, ends.symm⟩

-- A value ends at its quotation mark, and a text at the next tag.
theorem escaped_injective {s t : String} {x y : List Char} {mark : Char} (ends : mark = '"' ∨ mark = '<')
    (same : escape s ++ mark :: x = escape t ++ mark :: y) : s = t ∧ x = y := by
  have outside (u : String) : mark ∉ escape u := by
    intro inside
    obtain ⟨noTag, _, noQuote, _⟩ := escape_safe u mark inside
    exact ends.elim noQuote noTag
  obtain ⟨texts, rest⟩ := ended_injective (outside s) (outside t) same
  exact ⟨escape_injective texts, rest⟩

end FormEngine.Markup
