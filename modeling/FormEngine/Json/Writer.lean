import FormEngine.Data.Value
import FormEngine.Text.Codes

set_option autoImplicit false

namespace FormEngine.Json

def codeEscape (code : Nat) : List Char := '\\' :: 'u' :: Binary64.padLeft 4 (Nat.toDigits 16 code)

def escapeChar (c : Char) : List Char :=
  if c = '"' then ['\\', '"']
  else if c = '\\' then ['\\', '\\']
  else if c = '\n' then ['\\', 'n']
  else if c = '\r' then ['\\', 'r']
  else if c = '\t' then ['\\', 't']
  else if c = '\x0c' then ['\\', 'f']
  else if c = '\x08' then ['\\', 'b']
  else if c.toNat < 0x20 then codeEscape c.toNat
  else [c]

-- What is escaped one by one in ASCII: a code itself, or the halves of the pair for a code that takes more than four digits.
def unitsOf (code : Nat) : List Nat :=
  if code < 0x10000 then [code] else [0xd800 + (code - 0x10000) / 0x400, 0xdc00 + (code - 0x10000) % 0x400]

def escapeUnit (unit : Nat) : List Char := if unit < 0x7f then escapeChar (Char.ofNat unit) else codeEscape unit

def quote (escape : Char → List Char) (s : String) : List Char := '"' :: s.toList.flatMap escape ++ ['"']

def quoteAscii (text : Codes) : List Char :=
  '"' :: text.flatMap (fun code => (unitsOf code.val).flatMap escapeUnit) ++ ['"']

def numberText : Binary64 → List Char
  | .finite negative units => (Binary64.finiteText .exported negative units).toList
  | _ => "null".toList

def lineBreak (level : Nat) : List Char := '\n' :: List.replicate (2 * level) ' '

mutual
def indented (level : Nat) : Value → List Char
  | .null => "null".toList
  | .bool b => if b then "true".toList else "false".toList
  | .int n => (toString n).toList
  | .float x => numberText x
  | .text s => quote escapeChar s
  | .list [] => ['[', ']']
  | .list (item :: rest) =>
      '[' :: lineBreak (level + 1) ++ indented (level + 1) item ++ indentedItems (level + 1) rest
        ++ lineBreak level ++ [']']
  | .object [] => ['\x7b', '\x7d']
  | .object ((key, value) :: rest) =>
      '\x7b' :: lineBreak (level + 1) ++ quote escapeChar key ++ ':' :: ' ' :: indented (level + 1) value
        ++ indentedEntries (level + 1) rest ++ lineBreak level ++ ['\x7d']
def indentedItems (level : Nat) : List Value → List Char
  | [] => []
  | item :: rest => ',' :: lineBreak level ++ indented level item ++ indentedItems level rest
def indentedEntries (level : Nat) : List (String × Value) → List Char
  | [] => []
  | (key, value) :: rest =>
      ',' :: lineBreak level ++ quote escapeChar key ++ ':' :: ' ' :: indented level value ++ indentedEntries level rest
end

def document (value : Value) : String := String.ofList (indented 0 value)

def lineObject (members : List (Codes × List Char)) : List Char :=
  let written := members.map fun m => quoteAscii m.1 ++ ':' :: ' ' :: m.2
  '\x7b' :: ([',', ' '].intercalate written) ++ ['\x7d']

end FormEngine.Json
