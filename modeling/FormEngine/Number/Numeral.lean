import FormEngine.Number.Binary64
import FormEngine.Text.CharClass

set_option autoImplicit false

namespace FormEngine.Numeral

open Text

def splitSign : List Char → Bool × List Char
  | '-' :: rest => (true, rest)
  | '+' :: rest => (false, rest)
  | rest => (false, rest)

def plainDigit (c : Char) : Char :=
  match digitValue? c with
  | some value => Char.ofNat (48 + value)
  | none => c

def dropUnderscores : Bool → List Char → Option (List Char)
  | _, [] => some []
  | afterDigit, '_' :: c :: rest => if afterDigit && isAsciiDigit c then dropUnderscores false (c :: rest) else none
  | _, ['_'] => none
  | _, c :: rest => (dropUnderscores (isAsciiDigit c) rest).map (c :: ·)

def digitsValue (digits : List Char) : Nat := digits.foldl (fun n c => n * 10 + (c.toNat - 48)) 0

def splitDigits (cs : List Char) : List Char × List Char := (cs.takeWhile isAsciiDigit, cs.dropWhile isAsciiDigit)

def readExponent : List Char → Option Int
  | [] => some 0
  | c :: rest =>
      if c == 'e' || c == 'E' then
        let (negative, digits) := splitSign rest
        if digits.isEmpty || !digits.all isAsciiDigit then none
        else some (if negative then -(digitsValue digits : Int) else (digitsValue digits : Int))
      else none

def readUnsigned (negative : Bool) (cs : List Char) : Option Binary64 :=
  let (whole, rest) := splitDigits cs
  let (fraction, rest) := match rest with
    | '.' :: more => splitDigits more
    | _ => ([], rest)
  if whole.isEmpty && fraction.isEmpty then none
  else (readExponent rest).map fun exponent =>
    Binary64.ofDecimal negative (digitsValue (whole ++ fraction)) (exponent - fraction.length)

def infinityWords : List (List Char) := ["inf".toList, "infinity".toList]

def readWord (negative : Bool) (cs : List Char) : Option Binary64 :=
  let word := cs.map Char.toLower
  if infinityWords.contains word then some (.infinite negative)
  else if word == "nan".toList then some .nan
  else none

def readPlain (cs : List Char) : Option Binary64 :=
  let (negative, rest) := splitSign cs
  (readUnsigned negative rest).or (readWord negative rest)

def readPoint (cs : List Char) : Option Binary64 := (dropUnderscores false (cs.map plainDigit)).bind readPlain

def grouped : List (List Char) → Bool
  | first :: second :: more =>
      0 < first.length && first.length ≤ 3 && (second :: more).all (·.length == 3)
  | _ => false

def splitAtChar (separator : Char) : List Char → List (List Char)
  | [] => [[]]
  | c :: rest =>
      if c == separator then [] :: splitAtChar separator rest
      else match splitAtChar separator rest with
        | piece :: pieces => (c :: piece) :: pieces
        | [] => [[c]]

def commaWhole? (cs : List Char) : Option (List Char) :=
  let groups := splitAtChar '.' cs
  let digits := groups.flatten
  if !digits.isEmpty && digits.all isDecimal && (groups.length == 1 || grouped groups) then some digits else none

def fromComma? (cs : List Char) : Option (List Char) :=
  let (sign, rest) := match cs with
    | '-' :: more => (['-'], more)
    | _ => ([], cs)
  match splitAtChar ',' rest with
  | [whole] => (commaWhole? whole).map (sign ++ ·)
  | [whole, fraction] =>
      if !fraction.isEmpty && fraction.all isDecimal then (commaWhole? whole).map (sign ++ · ++ '.' :: fraction)
      else none
  | _ => none

def read (text : String) : Option Binary64 :=
  let cs := trimBy isBlank text.toList
  match readPoint cs with
  | some x => some x
  | none => (fromComma? cs).bind readPoint

end FormEngine.Numeral
