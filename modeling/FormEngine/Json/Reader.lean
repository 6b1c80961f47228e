import FormEngine.Data.Value

set_option autoImplicit false

namespace FormEngine.Json

-- What a text is made of: characters, halves of surrogate pairs that stand by themselves, and bytes that are neither.
inductive Glyph where
  | char (c : Char)
  | half (code : Nat)
  | stray (byte : UInt8)
deriving DecidableEq

def Glyph.width : Glyph → Nat
  | .char c => c.utf8Size
  | .half _ => 3
  | .stray _ => 1

abbrev Source := List Glyph

def source (text : String) : Source := text.toList.map .char

inductive Enclosure where
  | document
  | list
  | object
deriving DecidableEq

inductive Problem where
  | value
  | emptyList
  | afterItem
  | listComma
  | firstKey
  | nextKey
  | colon
  | afterMember
  | word
  -- A number breaks off; `sound` is what is left after the part of it that is a number.
  | number (inside : Enclosure) (sound : Option Nat)
  | longNumber
  | unterminated
  | control
  | escape
  | shortCode
  | codeDigit
  | loneHalf
  | noSecondHalf
  | encoding
  | trailing
  | depth
deriving DecidableEq

-- How a reading failed: `begun` glyphs were left where the token began, `left` where the problem shows.
structure Failure where
  problem : Problem
  begun : Nat
  left : Nat
deriving DecidableEq

-- What a user of the reader allows: how deep values nest, and whether half a surrogate pair may stand by itself.
structure Limits where
  depth : Nat
  halves : Bool

def isWhite : Glyph → Bool
  | .char c => c = ' ' || c = '\t' || c = '\n' || c = '\r'
  | _ => false

def skipWhite (rest : Source) : Source := rest.dropWhile isWhite

def isDigit : Glyph → Bool
  | .char c => Text.isAsciiDigit c
  | _ => false

def hexDigit? : Glyph → Option Nat
  | .char c =>
      if '0' ≤ c && c ≤ '9' then some (c.toNat - 48)
      else if 'a' ≤ c && c ≤ 'f' then some (c.toNat - 87)
      else if 'A' ≤ c && c ≤ 'F' then some (c.toNat - 55)
      else none
  | _ => none

def hexCode : Nat → Nat → List Glyph → Except Nat Nat
  | _, code, [] => .ok code
  | good, code, g :: more =>
      match hexDigit? g with
      | some digit => hexCode (good + 1) (code * 16 + digit) more
      | none => .error good

def escapedChar? : Char → Option Char
  | '"' => some '"'
  | '\\' => some '\\'
  | '/' => some '/'
  | 'b' => some '\x08'
  | 'f' => some '\x0c'
  | 'n' => some '\n'
  | 'r' => some '\r'
  | 't' => some '\t'
  | _ => none

def isHighHalf (code : Nat) : Bool := 0xd800 ≤ code && code ≤ 0xdbff

def isLowHalf (code : Nat) : Bool := 0xdc00 ≤ code && code ≤ 0xdfff

def joinHalves (high low : Nat) : Char := Char.ofNat ((high - 0xd800) * 0x400 + (low - 0xdc00) + 0x10000)

-- What is wrong when the first half of a surrogate pair is not followed by a whole code.
def halfFailure (begun : Nat) : Source → Failure
  | [] => ⟨.unterminated, begun, 0⟩
  | .char '\\' :: [] => ⟨.unterminated, begun, 0⟩
  | .char '\\' :: .char 'u' :: rest => ⟨.shortCode, rest.length + 1, 0⟩
  | .char '\\' :: rest => ⟨.noSecondHalf, begun, rest.length⟩
  | rest => ⟨.noSecondHalf, begun, rest.length⟩

-- Puts a glyph before a reading, and before it the half of a pair that stayed alone.
def emit (pending : Option Nat) (g : Glyph) (reading : Except Failure (List Glyph × Source)) :
    Except Failure (List Glyph × Source) :=
  reading.map fun r => (pending.toList.map .half ++ g :: r.1, r.2)

-- The glyphs of a text up to its closing quotation mark, escapes resolved, and what follows the mark; `pending` is
-- the first half of a surrogate pair just read as an escape. Only two escapes make up a pair.
def readGlyphs (limits : Limits) (begun : Nat) : Option Nat → Source → Except Failure (List Glyph × Source)
  | pending, .char '\\' :: .char 'u' :: a :: b :: c :: d :: rest =>
      match hexCode 0 0 [a, b, c, d], pending with
      | .error good, _ => .error ⟨.codeDigit, rest.length + 5, rest.length + 4 - good⟩
      | .ok code, some high =>
          if isLowHalf code then emit none (.char (joinHalves high code)) (readGlyphs limits begun none rest)
          else if !limits.halves then .error ⟨.loneHalf, begun, rest.length + 1⟩
          else if isHighHalf code then emit none (.half high) (readGlyphs limits begun (some code) rest)
          else emit pending (.char (Char.ofNat code)) (readGlyphs limits begun none rest)
      | .ok code, none =>
          if isHighHalf code then readGlyphs limits begun (some code) rest
          else if isLowHalf code then
            if limits.halves then emit none (.half code) (readGlyphs limits begun none rest)
            else .error ⟨.loneHalf, begun, rest.length + 1⟩
          else emit none (.char (Char.ofNat code)) (readGlyphs limits begun none rest)
  | pending, text =>
      if pending.isSome && !limits.halves then .error (halfFailure begun text)
      else match text with
        | [] => .error ⟨.unterminated, begun, 0⟩
        | .stray byte :: rest => emit pending (.stray byte) (readGlyphs limits begun none rest)
        | .half code :: rest =>
            if limits.halves then emit pending (.half code) (readGlyphs limits begun none rest)
            else .error ⟨.loneHalf, begun, rest.length + 1⟩
        | .char '"' :: rest => .ok (pending.toList.map .half, rest)
        | .char '\\' :: .char 'u' :: rest => .error ⟨.shortCode, rest.length + 1, 0⟩
        | .char '\\' :: .char c :: rest =>
            match escapedChar? c with
            | some plain => emit pending (.char plain) (readGlyphs limits begun none rest)
            | none => .error ⟨.escape, rest.length + 2, rest.length + 1⟩
        | .char '\\' :: _ :: rest => .error ⟨.escape, rest.length + 2, rest.length + 1⟩
        | .char '\\' :: [] => .error ⟨.unterminated, begun, 0⟩
        | .char c :: rest =>
            if c.toNat < 0x20 then .error ⟨.control, begun, rest.length + 1⟩
            else emit pending (.char c) (readGlyphs limits begun none rest)

def pairWith (g : Glyph) (rest : List Glyph) : List Glyph :=
  match g, rest with
  | .half high, .half low :: more =>
      if isHighHalf high && isLowHalf low then .char (joinHalves high low) :: more else g :: rest
  | _, _ => g :: rest

def pairHalves (glyphs : List Glyph) : List Glyph := glyphs.foldr pairWith []

-- The characters of a text. A String has no place for half a pair: next to its other half it is read as the character,
-- alone as the replacement character.
def charsOf : Nat → List Glyph → Except Nat (List Char)
  | _, [] => .ok []
  | bytes, .half _ :: rest => (charsOf (bytes + 3) rest).map ('\ufffd' :: ·)
  | bytes, .char c :: rest => (charsOf (bytes + c.utf8Size) rest).map (c :: ·)
  | bytes, .stray _ :: _ => .error bytes

-- A text, its opening quotation mark already passed. A failure of the encoding carries the count of sound bytes in
-- place of what is left.
def readText (limits : Limits) (rest : Source) : Except Failure (String × Source) :=
  match readGlyphs limits (rest.length + 1) none rest with
  | .error failure => .error failure
  | .ok (glyphs, after) =>
      match charsOf 0 (pairHalves glyphs) with
      | .ok cs => .ok (String.ofList cs, after)
      | .error bytes => .error ⟨.encoding, rest.length, bytes⟩

def readWord (begun : Nat) (value : Value) : List Char → Source → Except Failure (Value × Source)
  | [], rest => .ok (value, rest)
  | _ :: _, [] => .error ⟨.word, begun, 0⟩
  | c :: cs, g :: rest =>
      if g = .char c then readWord begun value cs rest else .error ⟨.word, begun, rest.length + 1⟩

def wordOf? : Glyph → Option (List Char × Value)
  | .char 't' => some ("true".toList, .bool true)
  | .char 'f' => some ("false".toList, .bool false)
  | .char 'n' => some ("null".toList, .null)
  | .char 'N' => some ("NaN".toList, .float .nan)
  | .char 'I' => some ("Infinity".toList, .float (.infinite false))
  | _ => none

def digitLimit : Nat := 4300

def splitDigits (rest : Source) : List Char × Source :=
  ((rest.takeWhile isDigit).filterMap fun g => match g with
    | .char c => some c
    | _ => none,
   rest.dropWhile isDigit)

def readExponent (rest : Source) : Except Nat (Int × Source) :=
  let (negative, rest) := match rest with
    | .char '-' :: more => (true, more)
    | .char '+' :: more => (false, more)
    | _ => (false, rest)
  match splitDigits rest with
  | ([], after) => .error after.length
  | (digits, after) =>
      let size : Int := (Numeral.digitsValue digits : Nat)
      .ok (if negative then -size else size, after)

def readFraction (inside : Enclosure) (begun : Nat) (negative : Bool) (whole : List Char) (rest : Source) :
    Except Failure (Value × Source) :=
  let broken (left sound : Nat) : Except Failure (Value × Source) := .error ⟨.number inside (some sound), begun, left⟩
  let withExponent (fraction : List Char) (before after : Source) : Except Failure (Value × Source) :=
    match readExponent after with
    | .error left => broken left before.length
    | .ok (exponent, after) =>
        .ok (.float (.ofDecimal negative (Numeral.digitsValue (whole ++ fraction)) (exponent - fraction.length)), after)
  match rest with
  | .char '.' :: more =>
      match splitDigits more with
      | ([], after) => broken after.length rest.length
      | (fraction, .char 'e' :: after) => withExponent fraction (.char 'e' :: after) after
      | (fraction, .char 'E' :: after) => withExponent fraction (.char 'E' :: after) after
      | (fraction, after) =>
          .ok (.float (.ofDecimal negative (Numeral.digitsValue (whole ++ fraction)) (-(fraction.length : Int))), after)
  | .char 'e' :: after => withExponent [] rest after
  | .char 'E' :: after => withExponent [] rest after
  | _ =>
      if whole.length > digitLimit then .error ⟨.longNumber, begun, begun - (digitLimit + 1)⟩
      else
        let size : Int := (Numeral.digitsValue whole : Nat)
        .ok (.int (if negative then -size else size), rest)

def readNumber (inside : Enclosure) (start : Source) : Except Failure (Value × Source) :=
  let begun := start.length
  let (negative, rest) := match start with
    | .char '-' :: more => (true, more)
    | _ => (false, start)
  match rest with
  | .char 'I' :: more => readWord begun (.float (.infinite negative)) "nfinity".toList more
  | .char '0' :: more =>
      match more with
      | next :: _ =>
          if isDigit next then .error ⟨.number inside (some more.length), begun, more.length⟩
          else readFraction inside begun negative ['0'] more
      | [] => readFraction inside begun negative ['0'] more
  | _ =>
      match splitDigits rest with
      | ([], after) => .error ⟨.number inside none, begun, after.length⟩
      | (whole, after) => readFraction inside begun negative whole after

def startsNumber : Glyph → Bool
  | .char '-' => true
  | g => isDigit g

mutual
-- A value; the blanks before it are already passed. The fuel is more than the text can use.
def readValue (limits : Limits) : Nat → Nat → Enclosure → Source → Except Failure (Value × Source)
  | 0, _, _, rest => .error ⟨.value, rest.length, rest.length⟩
  | fuel + 1, depth, inside, rest =>
      match rest with
      | [] => .error ⟨.value, 0, 0⟩
      | .char '"' :: more => (readText limits more).map fun r => (.text r.1, r.2)
      | .char '[' :: more =>
          match skipWhite more with
          | [] => .error ⟨.emptyList, 0, 0⟩
          | .char ']' :: after => .ok (.list [], after)
          | first => (readItems limits fuel depth first).map fun r => (.list r.1, r.2)
      | .char '\x7b' :: more =>
          match skipWhite more with
          | .char '\x7d' :: after => .ok (.object [], after)
          | .char '"' :: after =>
              (readMembers limits fuel depth after).map fun r => (.object (Keyed.putAll [] r.1), r.2)
          | other => .error ⟨.firstKey, other.length, other.length⟩
      | g :: more =>
          match wordOf? g with
          | some (word, value) => readWord rest.length value (word.drop 1) more
          | none =>
              if startsNumber g then readNumber inside rest else .error ⟨.value, rest.length, rest.length⟩
-- The items of a list from the first one on, up to and with the closing bracket. How deep values may still nest counts
-- the list itself, which is refused where its first item begins.
def readItems (limits : Limits) : Nat → Nat → Source → Except Failure (List Value × Source)
  | 0, _, rest => .error ⟨.value, rest.length, rest.length⟩
  | fuel + 1, depth, rest =>
      if depth = 0 then .error ⟨.depth, rest.length, rest.length⟩
      else match readValue limits fuel (depth - 1) .list rest with
      | .error failure => .error failure
      | .ok (item, after) =>
          match skipWhite after with
          | .char ']' :: more => .ok ([item], more)
          | .char ',' :: more =>
              match skipWhite more with
              | .char ']' :: tail => .error ⟨.listComma, tail.length + 1, tail.length + 1⟩
              | next => (readItems limits fuel depth next).map fun r => (item :: r.1, r.2)
          | other => .error ⟨.afterItem, other.length, other.length⟩
-- The members of an object from the first key on, its quotation mark passed, up to and with the closing brace. An
-- object that nests too deep is refused where its first value begins.
def readMembers (limits : Limits) : Nat → Nat → Source → Except Failure (List (String × Value) × Source)
  | 0, _, rest => .error ⟨.value, rest.length, rest.length⟩
  | fuel + 1, depth, rest =>
      match readText limits rest with
      | .error failure => .error failure
      | .ok (key, after) =>
          match skipWhite after with
          | .char ':' :: more =>
              let start := skipWhite more
              if depth = 0 ∧ start ≠ [] then .error ⟨.depth, start.length, start.length⟩
              else match readValue limits fuel (depth - 1) .object start with
              | .error failure => .error failure
              | .ok (value, after) =>
                  match skipWhite after with
                  | .char '\x7d' :: more => .ok ([(key, value)], more)
                  | .char ',' :: more =>
                      match skipWhite more with
                      | .char '"' :: next =>
                          (readMembers limits fuel depth next).map fun r => ((key, value) :: r.1, r.2)
                      | other => .error ⟨.nextKey, other.length, other.length⟩
                  | other => .error ⟨.afterMember, other.length, other.length⟩
          | other => .error ⟨.colon, other.length, other.length⟩
end

def readDocument (limits : Limits) (text : Source) : Except Failure Value :=
  match readValue limits (2 * text.length + 2) limits.depth .document (skipWhite text) with
  | .error failure => .error failure
  | .ok (value, after) =>
      match skipWhite after with
      | [] => .ok value
      | rest => .error ⟨.trailing, rest.length, rest.length⟩

end FormEngine.Json
