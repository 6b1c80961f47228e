import FormEngine.Page.Elements
import FormEngine.Proofs.Page.Reading

set_option autoImplicit false

namespace FormEngine

def Attribute.seen : Attribute → String × Option String
  | .value name s => (name.text, some (Markup.escaped s))
  | .flag name => (name.text, none)

namespace Markup

mutual
def seen : Markup → List Seen
  | .text s => written s
  | .sign s => ('&' :: s.name.toList ++ [';']).map .char
  | .style rules => [.element "style" [] (rules.toList.map .char)]
  | .element tag attributes children => [.element tag.name (attributes.map Attribute.seen) (seenAll children)]
  | .void tag attributes => [.element tag.name (attributes.map Attribute.seen) []]
def seenAll : List Markup → List Seen
  | [] => []
  | m :: rest => seen m ++ seenAll rest
end

theorem seen_all_append (a b : List Markup) : seenAll (a ++ b) = seenAll a ++ seenAll b := by
  induction a with
  | nil => rfl
  | cons m rest ih => rw [List.cons_append, seenAll, ih, seenAll, List.append_assoc]

theorem seen_line (tag : Tag) (attributes : List Attribute) (text : String) :
    (element tag attributes [.text text]).seen = [.element tag.name (attributes.map Attribute.seen) (written text)] := by
  rw [seen, seenAll, seenAll, List.append_nil, seen]

theorem classes_seen (tag : Tag) (c : String) (rest : List Attribute) (inside : List Seen) :
    (Seen.element tag.name ((Attribute.value .classes c :: rest).map Attribute.seen) inside).classes
      = (escape c).splitOn ' ' := by
  have given : (Seen.element tag.name ((Attribute.value .classes c :: rest).map Attribute.seen) inside).attribute? "class"
      = some (escaped c) := rfl
  rw [Seen.classes, given, Option.getD_some, escaped, String.toList_ofList]

end Markup

namespace PageReader

open Scanner (isBlank isPlain)

theorem read_append (r : PageReader) (a b : List Char) : r.read (a ++ b) = (r.read a).read b := List.foldl_append

theorem read_cons (r : PageReader) (c : Char) (rest : List Char) : r.read (c :: rest) = (r.step c).read rest := rfl

theorem read_text (seen : List Seen) (around : List (OpenTag × List Seen)) (cs : List Char) (plain : '<' ∉ cs) :
    read ⟨.text, seen, around⟩ cs = ⟨.text, seen ++ cs.map .char, around⟩ := by
  induction cs generalizing seen with
  | nil => rw [List.map_nil, List.append_nil, read, List.foldl_nil]
  | cons c rest ih =>
      rw [List.mem_cons, not_or] at plain
      have next : step ⟨.text, seen, around⟩ c = ⟨.text, seen ++ [.char c], around⟩ := by
        simp [step, put, Ne.symm plain.1]
      rw [read_cons, next, ih _ plain.2, List.map_cons, List.append_assoc]
      rfl

def ended? : Position → Option OpenTag
  | .tag name => some ⟨String.ofList name, []⟩
  | .between t => some t
  | .attribute t name => some (t.with name none)
  | _ => none

variable {r : PageReader} {t : OpenTag}

theorem step_close (here : ended? r.position = some t) : r.step '>' = r.finish t := by
  unfold step
  split <;> rename_i place <;> rw [place] at here <;> cases here <;> rfl

theorem step_blank (here : ended? r.position = some t) : r.step ' ' = r.stand (.between t) := by
  unfold step
  split <;> rename_i place <;> rw [place] at here <;> cases here
  · rfl
  · rw [if_neg (by decide), if_pos (by decide), stand, ← place]
  · rfl

theorem plain_char (c : Char) (plain : isPlain c = true) : isBlank c = false ∧ c ≠ '>' ∧ c ≠ '=' ∧ c ≠ '/' := by
  simpa [isPlain, and_assoc] using plain

theorem read_longer (place : List Char → Position)
    (longer : ∀ (r : PageReader) name c, isPlain c = true → (r.stand (place name)).step c = r.stand (place (name ++ [c])))
    (r : PageReader) (name cs : List Char) (plain : cs.all isPlain = true) :
    (r.stand (place name)).read cs = r.stand (place (name ++ cs)) := by
  induction cs generalizing name with
  | nil => rw [List.append_nil, read, List.foldl_nil]
  | cons c rest ih =>
      rw [List.all_cons, Bool.and_eq_true] at plain
      rw [read_cons, longer r name c plain.1, ih _ plain.2, List.append_assoc]
      rfl

theorem read_tag_name (r : PageReader) (name cs : List Char) (plain : cs.all isPlain = true) :
    (r.stand (.tag name)).read cs = r.stand (.tag (name ++ cs)) := by
  apply read_longer .tag
  · intro r name c plain
    obtain ⟨noBlank, noEnd, _, noSlash⟩ := plain_char c plain
    simp [step, stand, noBlank, noEnd, noSlash]
  · exact plain

theorem read_attribute_name (r : PageReader) (t : OpenTag) (name : AttributeName) :
    (r.stand (.between t)).read name.text.toList = r.stand (.attribute t name.text.toList) := by
  have plain := Scanner.attribute_name_plain name
  cases shape : name.text.toList with
  | nil => cases name <;> cases shape
  | cons c rest =>
      rw [shape, List.all_cons, Bool.and_eq_true] at plain
      obtain ⟨noBlank, noEnd, _, noSlash⟩ := plain_char c plain.1
      have first : (r.stand (.between t)).step c = r.stand (.attribute t [c]) := by
        simp [step, stand, noBlank, noEnd, noSlash]
      rw [read_cons, first]
      apply read_longer (.attribute t)
      · intro r name c plain
        obtain ⟨noBlank, noEnd, noEquals, noSlash⟩ := plain_char c plain
        simp [step, stand, noBlank, noEnd, noEquals, noSlash]
      · exact plain.2

theorem read_value (r : PageReader) (t : OpenTag) (name value cs : List Char) (plain : '"' ∉ cs) :
    (r.stand (.value t name value)).read cs = r.stand (.value t name (value ++ cs)) := by
  induction cs generalizing value with
  | nil => rw [List.append_nil, read, List.foldl_nil]
  | cons c rest ih =>
      rw [List.mem_cons, not_or] at plain
      have next : (r.stand (.value t name value)).step c = r.stand (.value t name (value ++ [c])) := by
        simp [step, stand, Ne.symm plain.1]
      rw [read_cons, next, ih _ plain.2, List.append_assoc]
      rfl

theorem read_attribute (here : ended? r.position = some t) (a : Attribute) :
    ∃ position, r.read (Markup.attributeText a) = r.stand position ∧
      ended? position = some { t with attributes := t.attributes ++ [a.seen] } := by
  have named (name : AttributeName) :
      r.read (' ' :: name.text.toList) = r.stand (.attribute t name.text.toList) := by
    rw [read_cons, step_blank here, read_attribute_name]
  cases a with
  | flag name =>
      refine ⟨_, named name, ?_⟩
      rw [ended?, OpenTag.with, String.ofList_toList]
      rfl
  | value name s =>
      have quoted : (r.stand (.attribute t name.text.toList)).read ['=', '"']
          = r.stand (.value t name.text.toList []) := rfl
      have inside : '"' ∉ Markup.escape s := fun member => (Markup.escape_safe s '"' member).2.2.1 rfl
      have closed : (r.stand (.value t name.text.toList (Markup.escape s))).read ['"']
          = r.stand (.between (t.with name.text.toList (some (Markup.escape s)))) := rfl
      refine ⟨.between (t.with name.text.toList (some (Markup.escape s))), ?_, ?_⟩
      · have text : Markup.attributeText (.value name s)
            = (' ' :: name.text.toList) ++ (['=', '"'] ++ (Markup.escape s ++ ['"'])) := by
          simp [Markup.attributeText]
        rw [text, read_append, named, read_append, quoted, read_append, read_value _ _ _ _ _ inside, List.nil_append,
          closed]
      · rw [ended?, OpenTag.with, String.ofList_toList]
        rfl

theorem read_attributes (here : ended? r.position = some t) (attributes : List Attribute) :
    ∃ position, r.read (attributes.flatMap Markup.attributeText) = r.stand position ∧
      ended? position = some { t with attributes := t.attributes ++ attributes.map Attribute.seen } := by
  induction attributes generalizing r t with
  | nil => exact ⟨r.position, rfl, by simpa using here⟩
  | cons a rest ih =>
      obtain ⟨first, read, there⟩ := read_attribute here a
      obtain ⟨last, others, end_⟩ := ih (r := r.stand first) there
      refine ⟨last, ?_, ?_⟩
      · rw [List.flatMap_cons, read_append, read, others]
        rfl
      · rw [end_, List.append_assoc]
        rfl

theorem read_opening (seen : List Seen) (around : List (OpenTag × List Seen)) (tag : Tag)
    (attributes : List Attribute) :
    ∃ position, read ⟨.text, seen, around⟩ (Markup.opening tag attributes) = ⟨position, seen, around⟩ ∧
      ended? position = some ⟨tag.name, attributes.map Attribute.seen⟩ := by
  have named : read ⟨.text, seen, around⟩ ('<' :: tag.name.toList) = ⟨.tag tag.name.toList, seen, around⟩ :=
    read_tag_name ⟨.text, seen, around⟩ [] tag.name.toList (Scanner.tag_name_plain tag)
  have here : ended? (Position.tag tag.name.toList) = some ⟨tag.name, []⟩ := by
    rw [ended?, String.ofList_toList]
  obtain ⟨position, others, there⟩ :=
    read_attributes (r := ⟨.tag tag.name.toList, seen, around⟩) here attributes
  refine ⟨position, ?_, there⟩
  rw [Markup.opening, read_append, named, others]
  rfl

theorem tag_name_opens (tag : Tag) : tag.name.toList.head?.all (fun c => c != '/' && c != '!') = true := by
  cases tag <;> decide

theorem finish_opening (r : PageReader) (tag : Tag) (attributes : Keyed (Option String)) :
    r.finish ⟨tag.name, attributes⟩ = r.enter ⟨tag.name, attributes⟩ := by
  have opens := tag_name_opens tag
  unfold finish
  split
  · rename_i name slash
    rw [slash] at opens
    cases opens
  · rename_i name mark
    rw [mark] at opens
    cases opens
  · rfl

theorem read_closing (tag : Tag) (attributes : Keyed (Option String)) (seen before : List Seen)
    (around : List (OpenTag × List Seen)) :
    read ⟨.text, seen, (⟨tag.name, attributes⟩, before) :: around⟩ (Markup.closing tag)
      = ⟨.text, before ++ [.element tag.name attributes seen], around⟩ := by
  have text : Markup.closing tag = ['<', '/'] ++ (tag.name.toList ++ ['>']) := rfl
  rw [text, read_append, read_append]
  have named : (read ⟨.text, seen, (⟨tag.name, attributes⟩, before) :: around⟩ ['<', '/']).read tag.name.toList
      = ⟨.tag ('/' :: tag.name.toList), seen, (⟨tag.name, attributes⟩, before) :: around⟩ :=
    read_tag_name ⟨.text, seen, (⟨tag.name, attributes⟩, before) :: around⟩ ['/'] tag.name.toList
      (Scanner.tag_name_plain tag)
  rw [named, read_cons, step_close (t := ⟨String.ofList ('/' :: tag.name.toList), []⟩) rfl, finish,
    String.toList_ofList]
  simp [leave, read]

end PageReader

namespace Markup

open PageReader

mutual
theorem read_tree (m : Markup) (tidy : m.Tidy) (before : List Seen) (around : List (OpenTag × List Seen)) :
    PageReader.read ⟨.text, before, around⟩ m.print = ⟨.text, before ++ m.seen, around⟩ := by
  cases m with
  | text s =>
      have plain : '<' ∉ escape s := fun member => (escape_safe s '<' member).1 rfl
      exact read_text before around (escape s) plain
  | sign s => 
      have plain : '<' ∉ (sign s).print := by cases s <;> decide
      exact read_text before around _ plain
  | style rules =>
      have opened : PageReader.read ⟨.text, before, around⟩ "<style>".toList
          = ⟨.text, [], (⟨"style", []⟩, before) :: around⟩ := rfl
      have closed (inside : List Seen) :
          PageReader.read ⟨.text, inside, (⟨"style", []⟩, before) :: around⟩ "</style>".toList
            = ⟨.text, before ++ [.element "style" [] inside], around⟩ := rfl
      rw [print_style, List.append_assoc, read_append, opened, read_append, read_text _ _ _ tidy, closed]
      rfl
  | element tag attributes children =>
      obtain ⟨position, opened, here⟩ := read_opening before around tag attributes
      rw [print_element, List.append_assoc, read_append, opened, List.cons_append, read_cons, step_close here,
        finish_opening, read_append, enter, read_trees children tidy, read_closing]
      rfl
  | void tag attributes =>
      obtain ⟨position, opened, here⟩ := read_opening before around tag attributes
      have slash : " />".toList = [' ', '/', '>'] := rfl
      rw [print_void, read_append, opened, slash, read_cons, step_blank here]
      rfl
theorem read_trees (l : List Markup) (tidy : TidyAll l) (before : List Seen) (around : List (OpenTag × List Seen)) :
    PageReader.read ⟨.text, before, around⟩ (printAll l) = ⟨.text, before ++ seenAll l, around⟩ := by
  cases l with
  | nil => exact congrArg (PageReader.mk .text · around) (List.append_nil before).symm
  | cons m rest =>
      rw [printAll, read_append, read_tree m tidy.1, read_trees rest tidy.2, List.append_assoc]
      rfl
end

theorem document_read (m : Markup) (tidy : m.Tidy) : seenOn m.document = m.seen := by
  have declared : PageReader.start.read "<!DOCTYPE html>".toList = PageReader.start := rfl
  rw [seenOn, document_text, read_append, declared, start, read_tree m tidy, List.nil_append]

end Markup

end FormEngine
