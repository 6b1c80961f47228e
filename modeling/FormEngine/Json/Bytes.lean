import FormEngine.Json.Reader

set_option autoImplicit false

namespace FormEngine.Json

def isContinuation (b : UInt8) : Bool := 0x80 ≤ b && b ≤ 0xbf

def joinByte (code : Nat) (b : UInt8) : Nat := code * 64 + b.toNat % 64

-- The character that bytes begin with, and how many bytes it takes. Each character has one form only: overlong forms,
-- halves of surrogate pairs and codes beyond the last one are none.
def charAt? : List UInt8 → Option (Char × Nat)
  | [] => none
  | a :: rest =>
      let code (first : Nat) (tail : List UInt8) (least : Nat) : Option (Char × Nat) :=
        let value := tail.foldl joinByte first
        if tail.all isContinuation && least ≤ value && value.isValidChar then
          some (Char.ofNat value, tail.length + 1)
        else none
      if a < 0x80 then some (Char.ofNat a.toNat, 1)
      else if 0xc2 ≤ a && a ≤ 0xdf && 1 ≤ rest.length then code (a.toNat % 32) (rest.take 1) 0x80
      else if 0xe0 ≤ a && a ≤ 0xef && 2 ≤ rest.length then code (a.toNat % 16) (rest.take 2) 0x800
      else if 0xf0 ≤ a && a ≤ 0xf4 && 3 ≤ rest.length then code (a.toNat % 8) (rest.take 3) 0x10000
      else none

-- The glyphs of bytes; `skip` counts the bytes of the character just found that are still to be passed over.
def glyphsFrom : Nat → List UInt8 → Source
  | _, [] => []
  | skip + 1, _ :: rest => glyphsFrom skip rest
  | 0, b :: rest =>
      match charAt? (b :: rest) with
      | some (c, size) => .char c :: glyphsFrom (size - 1) rest
      | none => .stray b :: glyphsFrom 0 rest

def sourceOfBytes (bytes : List UInt8) : Source := glyphsFrom 0 bytes

def textOf (glyphs : Source) : String :=
  String.ofList (glyphs.map fun g => match g with
    | .char c => c
    | _ => '\ufffd')

end FormEngine.Json
