import FormEngine.Page.Tokens
import FormEngine.Data.Keyed

set_option autoImplicit false

namespace FormEngine

inductive Seen where
  | char (c : Char)
  | element (name : String) (attributes : Keyed (Option String)) (inside : List Seen)

namespace Seen

def name : Seen → String
  | .char _ => ""
  | .element name _ _ => name

def inside : Seen → List Seen
  | .char _ => []
  | .element _ _ inside => inside

def attribute? (key : String) : Seen → Option String
  | .char _ => none
  | .element _ attributes _ => (Keyed.value? attributes key).join

def classes (s : Seen) : List (List Char) := ((s.attribute? "class").getD "").toList.splitOn ' '

mutual
def elements : Seen → List Seen
  | .char _ => []
  | .element name attributes inside => .element name attributes inside :: elementsOf inside
def elementsOf : List Seen → List Seen
  | [] => []
  | s :: rest => elements s ++ elementsOf rest
end

end Seen

structure OpenTag where
  name : String
  attributes : Keyed (Option String)

def OpenTag.with (t : OpenTag) (name : List Char) (value : Option (List Char)) : OpenTag :=
  { t with attributes := t.attributes ++ [(String.ofList name, value.map String.ofList)] }

-- Where a reader stands: in the text, or in a tag, where it reads the name of the element, is between attributes, reads
-- the name of one, waits for its value, reads the value, or is past a slash.
inductive Position where
  | text
  | tag (name : List Char)
  | between (t : OpenTag)
  | attribute (t : OpenTag) (name : List Char)
  | equals (t : OpenTag) (name : List Char)
  | value (t : OpenTag) (name value : List Char)
  | slash (t : OpenTag)

structure PageReader where
  position : Position
  seen : List Seen
  around : List (OpenTag × List Seen)

namespace PageReader

open Scanner (isBlank)

def start : PageReader := ⟨.text, [], []⟩

def stand (r : PageReader) (position : Position) : PageReader := { r with position := position }

def put (r : PageReader) (s : Seen) : PageReader := ⟨.text, r.seen ++ [s], r.around⟩

def enter (r : PageReader) (t : OpenTag) : PageReader := ⟨.text, [], (t, r.seen) :: r.around⟩

def leave (r : PageReader) (name : String) : PageReader :=
  match r.around with
  | (t, before) :: around =>
      if t.name = name then ⟨.text, before ++ [.element t.name t.attributes r.seen], around⟩ else r.stand .text
  | [] => r.stand .text

def finish (r : PageReader) (t : OpenTag) : PageReader :=
  match t.name.toList with
  | '/' :: name => r.leave (String.ofList name)
  | '!' :: _ => r.stand .text
  | _ => r.enter t

def step (r : PageReader) (c : Char) : PageReader :=
  match r.position with
  | .text => if c = '<' then r.stand (.tag []) else r.put (.char c)
  | .tag name =>
      let t : OpenTag := ⟨String.ofList name, []⟩
      if c = '>' then r.finish t
      else if isBlank c then r.stand (.between t)
      else if c = '/' ∧ name ≠ [] then r.stand (.slash t)
      else r.stand (.tag (name ++ [c]))
  | .between t =>
      if c = '>' then r.finish t
      else if isBlank c then r
      else if c = '/' then r.stand (.slash t)
      else r.stand (.attribute t [c])
  | .attribute t name =>
      if c = '>' then r.finish (t.with name none)
      else if c = '=' then r.stand (.equals t name)
      else if isBlank c then r.stand (.between (t.with name none))
      else if c = '/' then r.stand (.slash (t.with name none))
      else r.stand (.attribute t (name ++ [c]))
  | .equals t name => if c = '"' then r.stand (.value t name []) else r
  | .value t name value =>
      if c = '"' then r.stand (.between (t.with name (some value))) else r.stand (.value t name (value ++ [c]))
  | .slash t =>
      if c = '>' then r.put (.element t.name t.attributes [])
      else if isBlank c then r.stand (.between t)
      else r.stand (.attribute t [c])

def read (r : PageReader) (cs : List Char) : PageReader := cs.foldl step r

end PageReader

def seenOn (page : String) : List Seen := (PageReader.start.read page.toList).seen

namespace Markup

def escaped (s : String) : String := String.ofList (escape s)

def written (s : String) : List Seen := (escape s).map .char

end Markup

end FormEngine
