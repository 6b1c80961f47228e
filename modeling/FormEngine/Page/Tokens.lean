import FormEngine.Page.Markup

set_option autoImplicit false

namespace FormEngine

inductive Token where
  | element (name : List Char)
  | attribute (name : List Char)
deriving DecidableEq

-- Where a reader of tags stands: in the text, or in a tag, where it reads the name of the element, is between
-- attributes, reads the name of one, is past its equals sign, or is in its value, which ends at the mark it began with
-- or, without one, at a blank.
inductive Scanner where
  | text
  | tag (name : List Char)
  | inside
  | attributeName (name : List Char)
  | equals
  | quoted (mark : Char)
  | bare
deriving DecidableEq

namespace Scanner

def isBlank (c : Char) : Bool := c == ' ' || c == '\n' || c == '\t' || c == '\r'

def pending : Scanner → List Token
  | .tag name => [.element name]
  | .attributeName name => [.attribute name]
  | _ => []

def step : Scanner → Char → Scanner × List Token
  | .text, c => (if c = '<' then .tag [] else .text, [])
  | .tag name, c =>
      if c = '>' then (.text, [.element name])
      else if isBlank c || (c == '/' && name != []) then (.inside, [.element name])
      else (.tag (name ++ [c]), [])
  | .inside, c => (if c = '>' then .text else if isBlank c || c == '/' then .inside else .attributeName [c], [])
  | .attributeName name, c =>
      if c = '>' then (.text, [.attribute name])
      else if c = '=' then (.equals, [.attribute name])
      else if isBlank c || c == '/' then (.inside, [.attribute name])
      else (.attributeName (name ++ [c]), [])
  | .equals, c =>
      (if c = '>' then .text else if isBlank c then .equals else if c = '"' ∨ c = '\'' then .quoted c else .bare, [])
  | .quoted mark, c => (if c = mark then .inside else .quoted mark, [])
  | .bare, c => (if c = '>' then .text else if isBlank c then .inside else .bare, [])

def read : Scanner → List Char → Scanner × List Token
  | p, [] => (p, [])
  | p, c :: rest => ((read (p.step c).1 rest).1, (p.step c).2 ++ (read (p.step c).1 rest).2)

end Scanner

def tokensOf (page : String) : List Token := (Scanner.read .text page.toList).2

namespace Markup

def unescape : List Char → List Char
  | '&' :: 'a' :: 'm' :: 'p' :: ';' :: rest => '&' :: unescape rest
  | '&' :: 'l' :: 't' :: ';' :: rest => '<' :: unescape rest
  | '&' :: 'g' :: 't' :: ';' :: rest => '>' :: unescape rest
  | '&' :: 'q' :: 'u' :: 'o' :: 't' :: ';' :: rest => '"' :: unescape rest
  | '&' :: '#' :: 'x' :: '2' :: '7' :: ';' :: rest => '\'' :: unescape rest
  | c :: rest => c :: unescape rest
  | [] => []

end Markup

inductive Piece where
  | fixed (cs : List Char)
  | given (s : String)
deriving DecidableEq

namespace Piece

def print : Piece → List Char
  | .fixed cs => cs
  | .given s => Markup.escape s

-- The place of a text, whatever it is.
def blank : Piece → Piece
  | .fixed cs => .fixed cs
  | .given _ => .given ""

end Piece

def Fills (outline : List Piece) (page : String) : Prop :=
  ∃ p : List Piece, page.toList = p.flatMap Piece.print ∧ p.map Piece.blank = outline

-- Two pages in which a reader finds the same elements and attributes in the same order, both made of one outline.
structure ReadAlike (outline : List Piece) (a b : String) : Prop where
  names : tokensOf a = tokensOf b
  first : Fills outline a
  second : Fills outline b

end FormEngine
