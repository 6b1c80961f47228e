import FormEngine.Text.CharTables

set_option autoImplicit false

namespace FormEngine.Text

open CharTables

def isBlank (c : Char) : Bool := within blankRuns c.toNat

def isSpace (c : Char) : Bool := isBlank c && !(0x1c ≤ c.toNat && c.toNat ≤ 0x1f)

def isAsciiDigit (c : Char) : Bool := 48 ≤ c.toNat && c.toNat ≤ 57

def digitValue? (c : Char) : Option Nat :=
  if isAsciiDigit c then some (c.toNat - 48)
  else if c.toNat < 128 then none
  else (decimalZeros.find? fun start => start ≤ c.toNat && c.toNat ≤ start + 9).map (c.toNat - ·)

def isDecimal (c : Char) : Bool := (digitValue? c).isSome

def isDigit (c : Char) : Bool := isDecimal c || within otherDigitRuns c.toNat

def isLetter (c : Char) : Bool :=
  if c.toNat < 128 then c.isAlpha else within letterRuns c.toNat

def isAlphanumeric (c : Char) : Bool := isLetter c || isDigit c || within numericRuns c.toNat

def isWordChar (c : Char) : Bool := c == '_' || isAlphanumeric c

def isNameStart (c : Char) : Bool :=
  c == '_' || (isLetter c && !within nameBarredRuns c.toNat) || within nameStartRuns c.toNat

def isNameChar (c : Char) : Bool := isNameStart c || isDecimal c || within nameMarkRuns c.toNat

def isPrintable (c : Char) : Bool := within printableRuns c.toNat

def trimBy (blank : Char → Bool) (cs : List Char) : List Char :=
  ((cs.dropWhile blank).reverse.dropWhile blank).reverse

def trim (s : String) : String := String.ofList (trimBy isBlank s.toList)

def isBlankText (s : String) : Bool := s.toList.all isBlank

-- The pieces of a text between the occurrences of a separator that is not empty, found from the left; `skip` counts
-- the characters of the separator just found that are still to be passed over.
def piecesOn (separator : List Char) : Nat → List Char → List Char → List (List Char)
  | _, piece, [] => [piece.reverse]
  | skip + 1, piece, _ :: rest => piecesOn separator skip piece rest
  | 0, piece, c :: rest =>
      if separator.isPrefixOf (c :: rest) then piece.reverse :: piecesOn separator (separator.length - 1) [] rest
      else piecesOn separator 0 (c :: piece) rest

def pieces (separator text : String) : List String :=
  (piecesOn separator.toList 0 [] text.toList).map String.ofList

def occursIn (needle : List Char) : List Char → Bool
  | [] => needle.isEmpty
  | c :: rest => needle.isPrefixOf (c :: rest) || occursIn needle rest

def asciiLower (s : String) : String := String.ofList (s.toList.map Char.toLower)

end FormEngine.Text
