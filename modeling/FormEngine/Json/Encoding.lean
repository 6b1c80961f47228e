import FormEngine.Json.Bytes

set_option autoImplicit false

namespace FormEngine.Json

inductive Encoding where
  | utf8
  | utf16 (bigEndian : Bool)
  | utf32 (bigEndian : Bool)
deriving DecidableEq

namespace Encoding

def marks : List (List UInt8 × Encoding) :=
  [([0, 0, 0xfe, 0xff], .utf32 true), ([0xff, 0xfe, 0, 0], .utf32 false), ([0xfe, 0xff], .utf16 true),
   ([0xff, 0xfe], .utf16 false), ([0xef, 0xbb, 0xbf], .utf8)]

-- JSON begins with characters in ASCII, so zeros among the first bytes tell how wide a character is.
def byZeros : List UInt8 → Encoding
  | a :: b :: c :: d :: _ =>
      if a = 0 then (if b = 0 then .utf32 true else .utf16 true)
      else if b = 0 then (if c = 0 ∧ d = 0 then .utf32 false else .utf16 false)
      else .utf8
  | [a, b] => if a = 0 then .utf16 true else if b = 0 then .utf16 false else .utf8
  | _ => .utf8

def detect (bytes : List UInt8) : Encoding × List UInt8 :=
  match marks.find? fun mark => mark.1.isPrefixOf bytes with
  | some (mark, encoding) => (encoding, bytes.drop mark.length)
  | none => (byZeros bytes, bytes)

end Encoding

def unitOf (bigEndian : Bool) (bytes : List UInt8) : Nat :=
  (if bigEndian then bytes else bytes.reverse).foldl (fun unit b => unit * 256 + b.toNat) 0

def pairsOf (bigEndian : Bool) : List UInt8 → Option (List Nat)
  | [] => some []
  | a :: b :: rest => (pairsOf bigEndian rest).map (unitOf bigEndian [a, b] :: ·)
  | [_] => none

def foursOf (bigEndian : Bool) : List UInt8 → Option (List Nat)
  | [] => some []
  | a :: b :: c :: d :: rest => (foursOf bigEndian rest).map (unitOf bigEndian [a, b, c, d] :: ·)
  | _ => none

def isHalf (code : Nat) : Bool := isHighHalf code || isLowHalf code

def glyphOf? (code : Nat) : Option Glyph :=
  if code.isValidChar then some (.char (Char.ofNat code)) else if isHalf code then some (.half code) else none

-- In UTF-8 half a pair takes three bytes, of which none belongs to a character; no other byte may be stray.
def withHalves : Source → Option Source
  | [] => some []
  | .stray a :: .stray b :: .stray c :: rest =>
      let code := joinByte (joinByte (a.toNat % 16) b) c
      if a = 0xed && isContinuation b && isContinuation c && isHalf code then (withHalves rest).map (.half code :: ·)
      else none
  | .stray _ :: _ => none
  | g :: rest => (withHalves rest).map (g :: ·)

-- The text that bytes hold in the encoding they show by themselves.
def decode (bytes : List UInt8) : Option Source :=
  match Encoding.detect bytes with
  | (.utf8, bytes) => withHalves (sourceOfBytes bytes)
  | (.utf16 bigEndian, bytes) => (pairsOf bigEndian bytes).bind fun units => (units.mapM glyphOf?).map pairHalves
  | (.utf32 bigEndian, bytes) => (foursOf bigEndian bytes).bind fun codes => codes.mapM glyphOf?

end FormEngine.Json
