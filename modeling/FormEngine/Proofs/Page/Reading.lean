import FormEngine.Page.Tokens

set_option autoImplicit false

namespace FormEngine

namespace Attribute

def token (a : Attribute) : Token := .attribute a.name.text.toList

def bare : Attribute → Attribute
  | .value name _ => .value name ""
  | .flag name => .flag name

def pieces : Attribute → List Piece
  | .value name s => [.fixed (' ' :: name.text.toList ++ ['=', '"']), .given s, .fixed ['"']]
  | .flag name => [.fixed (' ' :: name.text.toList)]

@[simp] theorem bare_token (a : Attribute) : a.bare.token = a.token := by
  cases a <;> rfl

theorem print_pieces (a : Attribute) : a.pieces.flatMap Piece.print = Markup.attributeText a := by
  cases a <;> simp [pieces, Piece.print, Markup.attributeText]

theorem bare_pieces (a : Attribute) : a.bare.pieces.map Piece.blank = a.pieces.map Piece.blank := by
  cases a <;> rfl

end Attribute

namespace Markup

mutual
def names : Markup → List Token
  | .text _ | .sign _ => []
  | .style _ => [.element "style".toList, .element "/style".toList]
  | .element tag attributes children =>
      .element tag.name.toList :: attributes.map Attribute.token
        ++ (namesAll children ++ [.element ('/' :: tag.name.toList)])
  | .void tag attributes => .element tag.name.toList :: attributes.map Attribute.token
def namesAll : List Markup → List Token
  | [] => []
  | m :: rest => names m ++ namesAll rest
end

mutual
def bare : Markup → Markup
  | .text _ => .text ""
  | .sign s => .sign s
  | .style rules => .style rules
  | .element tag attributes children => .element tag (attributes.map Attribute.bare) (bareAll children)
  | .void tag attributes => .void tag (attributes.map Attribute.bare)
def bareAll : List Markup → List Markup
  | [] => []
  | m :: rest => bare m :: bareAll rest
end

mutual
def pieces : Markup → List Piece
  | .text s => [.given s]
  | .sign s => [.fixed ('&' :: s.name.toList ++ [';'])]
  | .style rules => [.fixed ("<style>".toList ++ rules.toList ++ "</style>".toList)]
  | .element tag attributes children =>
      .fixed ('<' :: tag.name.toList) :: attributes.flatMap Attribute.pieces
        ++ .fixed ['>'] :: piecesAll children ++ [.fixed (closing tag)]
  | .void tag attributes =>
      .fixed ('<' :: tag.name.toList) :: attributes.flatMap Attribute.pieces ++ [.fixed " />".toList]
def piecesAll : List Markup → List Piece
  | [] => []
  | m :: rest => pieces m ++ piecesAll rest
end

mutual
def Tidy : Markup → Prop
  | .text _ | .sign _ | .void _ _ => True
  | .style rules => '<' ∉ rules.toList
  | .element _ _ children => TidyAll children
def TidyAll : List Markup → Prop
  | [] => True
  | m :: rest => Tidy m ∧ TidyAll rest
end

attribute [simp] Tidy TidyAll

theorem tidy_all_iff (l : List Markup) : TidyAll l ↔ ∀ m ∈ l, m.Tidy := by
  induction l with
  | nil => simp
  | cons m rest ih => rw [TidyAll, ih, List.forall_mem_cons]

def reserved : List Char := ['&', '<', '>', '"', '\'']

theorem escape_plain_char (c : Char) (plain : c ∉ reserved) : escapeChar c = [c] := by
  simp only [reserved, List.mem_cons, List.not_mem_nil, or_false, not_or] at plain
  simp [escapeChar, plain]

def isSafe (c : Char) : Bool := c != '<' && c != '>' && c != '"' && c != '\''

theorem escape_char_safe (c : Char) : (escapeChar c).all isSafe = true := by
  by_cases special : c ∈ reserved
  · have written : (reserved.all fun c => (escapeChar c).all isSafe) = true := by rfl
    exact List.all_eq_true.mp written c special
  · rw [escape_plain_char c special, List.all_cons, List.all_nil, Bool.and_true]
    simp only [reserved, List.mem_cons, List.not_mem_nil, or_false, not_or] at special
    simp [isSafe, special]

theorem escape_safe (s : String) (c : Char) (inside : c ∈ escape s) :
    c ≠ '<' ∧ c ≠ '>' ∧ c ≠ '"' ∧ c ≠ '\'' := by
  obtain ⟨d, -, written⟩ := List.mem_flatMap.mp inside
  have safe := List.all_eq_true.mp (escape_char_safe d) c written
  simpa [isSafe, and_assoc] using safe

theorem unescape_escape_char (c : Char) (rest : List Char) : unescape (escapeChar c ++ rest) = c :: unescape rest := by
  by_cases special : c ∈ reserved
  · revert c
    simp only [reserved, List.forall_mem_cons]
    exact ⟨rfl, rfl, rfl, rfl, rfl, fun _ member => nomatch member⟩
  · have first : c ≠ '&' := by
      rintro rfl
      exact special List.mem_cons_self
    rw [escape_plain_char c special, List.singleton_append]
    simp [unescape, first]

theorem unescape_escape (s : String) : unescape (escape s) = s.toList := by
  rw [escape]
  induction s.toList with
  | nil => rfl
  | cons c rest ih => rw [List.flatMap_cons, unescape_escape_char, ih]

end Markup

namespace Scanner

theorem read_append (p : Scanner) (a b : List Char) :
    p.read (a ++ b) = (((p.read a).1.read b).1, (p.read a).2 ++ ((p.read a).1.read b).2) := by
  induction a generalizing p with
  | nil => rfl
  | cons c rest ih => rw [List.cons_append, read, ih, read, List.append_assoc]

theorem read_then {p q r : Scanner} {a b : List Char} {out more : List Token} (first : p.read a = (q, out))
    (second : q.read b = (r, more)) : p.read (a ++ b) = (r, out ++ more) := by
  rw [read_append, first, second]

theorem read_still (p : Scanner) (cs : List Char) (still : ∀ c ∈ cs, p.step c = (p, [])) : p.read cs = (p, []) := by
  induction cs with
  | nil => rfl
  | cons c rest ih => rw [read, still c (by simp), ih fun d inside => still d (by simp [inside]), List.nil_append]

theorem read_escaped_text (s : String) : text.read (Markup.escape s) = (.text, []) := by
  apply read_still
  intro c inside
  simp [step, (Markup.escape_safe s c inside).1]

theorem read_escaped_value (s : String) : (quoted '"').read (Markup.escape s) = (.quoted '"', []) := by
  apply read_still
  intro c inside
  simp [step, (Markup.escape_safe s c inside).2.2.1]

def isPlain (c : Char) : Bool := !isBlank c && c != '>' && c != '=' && c != '/'

theorem tag_name_plain (tag : Tag) : tag.name.toList.all isPlain = true := by
  cases tag <;> decide

theorem attribute_name_plain (name : AttributeName) : name.text.toList.all isPlain = true := by
  cases name <;> decide

theorem read_longer (place : List Char → Scanner)
    (longer : ∀ name c, isPlain c = true → (place name).step c = (place (name ++ [c]), [])) (name cs : List Char)
    (plain : cs.all isPlain = true) : (place name).read cs = (place (name ++ cs), []) := by
  induction cs generalizing name with
  | nil => rw [List.append_nil, read]
  | cons c rest ih =>
      rw [List.all_cons, Bool.and_eq_true] at plain
      rw [read, longer name c plain.1, ih _ plain.2, List.append_assoc]
      rfl

theorem step_plain (c : Char) (plain : isPlain c = true) (name : List Char) :
    (tag name).step c = (.tag (name ++ [c]), []) ∧ inside.step c = (.attributeName [c], [])
      ∧ (attributeName name).step c = (.attributeName (name ++ [c]), []) := by
  simp only [isPlain, Bool.and_eq_true, Bool.not_eq_true', bne_iff_ne] at plain
  simp [step, plain]

theorem read_tag_name (name cs : List Char) (plain : cs.all isPlain = true) :
    (tag name).read cs = (.tag (name ++ cs), []) :=
  read_longer tag (fun name c plain => (step_plain c plain name).1) name cs plain

theorem read_attribute_name (name : AttributeName) :
    inside.read name.text.toList = (.attributeName name.text.toList, []) := by
  have plain := attribute_name_plain name
  cases shape : name.text.toList with
  | nil => cases name <;> cases shape
  | cons c rest =>
      rw [shape, List.all_cons, Bool.and_eq_true] at plain
      rw [read, (step_plain c plain.1 []).2.1,
        read_longer attributeName (fun name c plain => (step_plain c plain name).2.2) [c] rest plain.2]
      rfl

-- Where a tag may end and where another attribute of it may begin.
def inTag : Scanner → Bool
  | .tag _ | .inside | .attributeName _ => true
  | _ => false

theorem step_blank (p : Scanner) (here : p.inTag) : p.step ' ' = (.inside, p.pending) := by
  cases p <;> first | rfl | cases here

theorem step_close (p : Scanner) (here : p.inTag) : p.step '>' = (.text, p.pending) := by
  cases p <;> first | rfl | cases here

theorem read_name (p : Scanner) (here : p.inTag) (name : AttributeName) :
    p.read (' ' :: name.text.toList) = (.attributeName name.text.toList, p.pending) := by
  rw [read, step_blank p here, read_attribute_name, List.append_nil]

-- A name is only given out when it ends. So what was found, with the name that is pending, is what stood in the tag so
-- far; that is what each attribute, and then the whole tag, keeps true.
theorem read_attribute (p : Scanner) (here : p.inTag) (a : Attribute) :
    ∃ q out, q.inTag ∧ p.read (Markup.attributeText a) = (q, out) ∧ out ++ q.pending = p.pending ++ [a.token] := by
  cases a with
  | flag name => exact ⟨_, _, rfl, read_name p here name, rfl⟩
  | value name s =>
      have opened : (attributeName name.text.toList).read ('=' :: '"' :: Markup.escape s)
          = (.quoted '"', [.attribute name.text.toList]) := by
        have begun : (attributeName name.text.toList).read ['=', '"']
            = (.quoted '"', [.attribute name.text.toList]) := by rfl
        exact read_then begun (read_escaped_value s)
      have ended : (quoted '"').read ['"'] = (.inside, []) := by rfl
      refine ⟨_, _, rfl, read_then (read_then (read_name p here name) opened) ended, ?_⟩
      simp [pending, Attribute.token, Attribute.name]

theorem read_attributes (p : Scanner) (here : p.inTag) (attributes : List Attribute) :
    ∃ q out, q.inTag ∧ p.read (attributes.flatMap Markup.attributeText) = (q, out)
      ∧ out ++ q.pending = p.pending ++ attributes.map Attribute.token := by
  induction attributes generalizing p with
  | nil => exact ⟨p, [], here, rfl, by simp⟩
  | cons a rest ih =>
      obtain ⟨q, out, there, first, found⟩ := read_attribute p here a
      obtain ⟨r, more, last, others, foundMore⟩ := ih q there
      refine ⟨r, out ++ more, last, read_then first others, ?_⟩
      rw [List.append_assoc, foundMore, ← List.append_assoc, found, List.append_assoc]
      rfl

theorem read_opening (tag : Tag) (attributes : List Attribute) :
    ∃ q out, q.inTag ∧ text.read (Markup.opening tag attributes) = (q, out)
      ∧ out ++ q.pending = .element tag.name.toList :: attributes.map Attribute.token := by
  have named : text.read ('<' :: tag.name.toList) = (.tag tag.name.toList, []) :=
    read_tag_name [] tag.name.toList (tag_name_plain tag)
  obtain ⟨q, out, there, others, found⟩ := read_attributes (.tag tag.name.toList) rfl attributes
  exact ⟨q, out, there, read_then named others, found⟩

theorem read_closing (tag : Tag) :
    text.read (Markup.closing tag) = (.text, [.element ('/' :: tag.name.toList)]) := by
  have begun : text.read ['<', '/'] = (.tag ['/'], []) := by rfl
  have named := read_tag_name ['/'] tag.name.toList (tag_name_plain tag)
  have ended : (Scanner.tag ('/' :: tag.name.toList)).read ['>'] = (.text, [.element ('/' :: tag.name.toList)]) := by
    rfl
  exact read_then (read_then begun named) ended

end Scanner

namespace Markup

-- The equations of printing, stated on their own: those that are made for the definition spell every text out.
theorem print_style (rules : String) :
    (style rules).print = "<style>".toList ++ rules.toList ++ "</style>".toList := rfl

theorem print_element (tag : Tag) (attributes : List Attribute) (children : List Markup) :
    (element tag attributes children).print = opening tag attributes ++ '>' :: printAll children ++ closing tag := rfl

theorem print_void (tag : Tag) (attributes : List Attribute) :
    (void tag attributes).print = opening tag attributes ++ " />".toList := rfl

mutual
theorem read_print (m : Markup) (tidy : m.Tidy) : Scanner.text.read m.print = (.text, m.names) := by
  cases m with
  | text s => exact Scanner.read_escaped_text s
  | sign s => cases s <;> rfl
  | style rules =>
      have still : Scanner.text.read rules.toList = (.text, []) := by
        apply Scanner.read_still
        intro c inside
        have other : c ≠ '<' := by
          intro same
          exact tidy (same ▸ inside)
        simp [Scanner.step, other]
      have opened : Scanner.text.read "<style>".toList = (.text, [.element "style".toList]) := by rfl
      have closed : Scanner.text.read "</style>".toList = (.text, [.element "/style".toList]) := by rfl
      rw [print_style]
      exact Scanner.read_then (Scanner.read_then opened still) closed
  | element tag attributes children =>
      obtain ⟨q, out, there, opened, found⟩ := Scanner.read_opening tag attributes
      have ended : q.read ['>'] = (.text, q.pending) := by
        rw [Scanner.read, Scanner.step_close q there, Scanner.read, List.append_nil]
      have inside : q.read ('>' :: printAll children) = (.text, q.pending ++ namesAll children) :=
        Scanner.read_then ended (read_print_all children tidy)
      rw [print_element, Scanner.read_then (Scanner.read_then opened inside) (Scanner.read_closing tag), names, ← found]
      simp only [List.append_assoc]
  | void tag attributes =>
      obtain ⟨q, out, there, opened, found⟩ := Scanner.read_opening tag attributes
      have ended : q.read " />".toList = (.text, q.pending) := by
        show q.read [' ', '/', '>'] = _
        rw [Scanner.read, Scanner.step_blank q there]
        simp [Scanner.read, Scanner.step, Scanner.isBlank]
      rw [print_void, Scanner.read_then opened ended, found, names]
theorem read_print_all (l : List Markup) (tidy : TidyAll l) : Scanner.text.read (printAll l) = (.text, namesAll l) := by
  cases l with
  | nil => rfl
  | cons m rest => exact Scanner.read_then (read_print m tidy.1) (read_print_all rest tidy.2)
end

mutual
theorem bare_names (m : Markup) : m.bare.names = m.names := by
  cases m with
  | text _ | sign _ | style _ => rfl
  | element tag attributes children =>
      rw [bare, names, names, bare_names_all children, List.map_map]
      simp [Function.comp_def]
  | void tag attributes =>
      rw [bare, names, names, List.map_map]
      simp [Function.comp_def]
theorem bare_names_all (l : List Markup) : namesAll (bareAll l) = namesAll l := by
  cases l with
  | nil => rfl
  | cons m rest => rw [bareAll, namesAll, namesAll, bare_names m, bare_names_all rest]
end

theorem print_attribute_pieces (attributes : List Attribute) :
    (attributes.flatMap Attribute.pieces).flatMap Piece.print = attributes.flatMap attributeText := by
  simp [List.flatMap_assoc, Attribute.print_pieces]

theorem bare_attribute_pieces (attributes : List Attribute) :
    ((attributes.map Attribute.bare).flatMap Attribute.pieces).map Piece.blank
      = (attributes.flatMap Attribute.pieces).map Piece.blank := by
  simp [List.flatMap_map, List.map_flatMap, Attribute.bare_pieces]

mutual
theorem print_pieces (m : Markup) : m.pieces.flatMap Piece.print = m.print := by
  cases m with
  | text s => exact List.append_nil _
  | sign s => exact List.append_nil _
  | style rules => exact List.append_nil _
  | element tag attributes children =>
      rw [print_element, pieces]
      simp [Piece.print, opening, print_attribute_pieces, print_all_pieces children]
  | void tag attributes =>
      rw [print_void, pieces]
      simp [Piece.print, opening, print_attribute_pieces]
theorem print_all_pieces (l : List Markup) : (piecesAll l).flatMap Piece.print = printAll l := by
  cases l with
  | nil => rfl
  | cons m rest =>
      rw [piecesAll, List.flatMap_append, print_pieces m, print_all_pieces rest]
      rfl
end

mutual
theorem bare_pieces (m : Markup) : m.bare.pieces.map Piece.blank = m.pieces.map Piece.blank := by
  cases m with
  | text _ | sign _ | style _ => rfl
  | element tag attributes children =>
      simp [bare, pieces, Piece.blank, bare_attribute_pieces, bare_all_pieces children]
  | void tag attributes =>
      simp [bare, pieces, Piece.blank, bare_attribute_pieces]
theorem bare_all_pieces (l : List Markup) :
    (piecesAll (bareAll l)).map Piece.blank = (piecesAll l).map Piece.blank := by
  cases l with
  | nil => rfl
  | cons m rest =>
      rw [bareAll, piecesAll, piecesAll, List.map_append, List.map_append, bare_pieces m, bare_all_pieces rest]
end

theorem document_text (m : Markup) : m.document.toList = "<!DOCTYPE html>".toList ++ m.print := by
  have printed : (String.ofList m.print).toList = m.print := String.toList_ofList
  rw [document, String.toList_append, printed]

theorem document_tokens (m : Markup) (tidy : m.Tidy) :
    tokensOf m.document = .element "!DOCTYPE".toList :: .attribute "html".toList :: m.names := by
  have declared : Scanner.text.read "<!DOCTYPE html>".toList
      = (.text, [.element "!DOCTYPE".toList, .attribute "html".toList]) := by rfl
  rw [tokensOf, document_text, Scanner.read_then declared (read_print m tidy)]
  rfl

example : tokensOf "<input id=\"\"><hr>" =
    [.element "input".toList, .attribute "id".toList, .element "hr".toList] := by rfl

def outline (m : Markup) : List Piece := .fixed "<!DOCTYPE html>".toList :: m.pieces.map Piece.blank

theorem document_fills (m : Markup) : Fills m.outline m.document := by
  refine ⟨.fixed "<!DOCTYPE html>".toList :: m.pieces, ?_, rfl⟩
  rw [document_text, List.flatMap_cons, print_pieces, Piece.print]

theorem read_alike_of_bare (m n : Markup) (tidy : m.Tidy) (tidyToo : n.Tidy) (same : m.bare = n.bare) :
    ReadAlike m.outline m.document n.document where
  names := by rw [document_tokens m tidy, document_tokens n tidyToo, ← bare_names m, same, bare_names n]
  first := document_fills m
  second := by
    have outlines : m.outline = n.outline := by rw [outline, outline, ← bare_pieces m, same, bare_pieces n]
    rw [outlines]
    exact document_fills n

end Markup

end FormEngine
