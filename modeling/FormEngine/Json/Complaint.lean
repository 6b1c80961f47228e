import FormEngine.Json.Reader

set_option autoImplicit false

namespace FormEngine.Json

-- The line of a byte, counted from one, and its column there; a line break already belongs to the line it opens, as
-- column zero, and so does the end of the text to its last byte.
def place : Source → Nat → Nat → Nat → Nat × Nat
  | [], _, line, column => (line, column)
  | g :: rest, bytes, line, column =>
      let opened := g = .char '\n'
      let line := if opened then line + 1 else line
      let column := if opened then 0 else column + 1
      if bytes < g.width then (line, column + (if opened then 0 else bytes))
      else place rest (bytes - g.width) line (if opened then 0 else column + g.width - 1)

def widthOf (glyphs : Source) : Nat := glyphs.foldl (fun n g => n + g.width) 0

namespace Failure

def bytesBefore (text : Source) (left : Nat) : Nat := widthOf (text.take (text.length - left))

def byteOffset (text : Source) (failure : Failure) : Nat :=
  match failure.problem with
  | .encoding => bytesBefore text failure.begun + failure.left + 1
  | _ => bytesBefore text failure.left

def reason (failure : Failure) : String :=
  let ended := failure.left = 0
  match failure.problem with
  | .value => if ended then "EOF while parsing a value" else "expected value"
  | .emptyList => "EOF while parsing a list"
  | .afterItem => if ended then "EOF while parsing a list" else "expected `,` or `]`"
  | .listComma => "trailing comma"
  | .firstKey => if ended then "EOF while parsing an object" else "key must be a string"
  | .nextKey => if ended then "EOF while parsing a value" else "key must be a string"
  | .colon => if ended then "EOF while parsing an object" else "expected `:`"
  | .afterMember => if ended then "EOF while parsing an object" else "expected `,` or `\x7d`"
  | .word => if ended then "EOF while parsing a value" else "expected ident"
  | .number _ _ => if ended then "EOF while parsing a value" else "invalid number"
  | .longNumber => "number out of range"
  | .unterminated => "EOF while parsing a string"
  | .control => "control character (\\u0000-\\u001F) found while parsing a string"
  | .escape => "invalid escape"
  | .shortCode => "EOF while parsing a string"
  | .codeDigit => "invalid escape"
  | .loneHalf => "lone leading surrogate in hex escape"
  | .noSecondHalf => "unexpected end of hex escape"
  | .encoding => "invalid unicode code point"
  | .trailing => "trailing characters"
  | .depth => "recursion limit exceeded"

def commaBeforeBrace (text : Source) (failure : Failure) : Bool :=
  failure.problem == .nextKey && (text.drop (text.length - failure.left)).head? == some (.char '\x7d')

def importText (text : Source) (failure : Failure) : String :=
  let (line, column) := place text (byteOffset text failure) 1 0
  let reason := if commaBeforeBrace text failure then "trailing comma" else failure.reason
  s!"Invalid JSON: {reason} at line {line} column {column}"

-- Whether a text that breaks off inside a string does so right after an escape with a code: the backslash before it
-- is then no second one of a pair.
def endsInCode (text : Source) : Bool :=
  match text.reverse with
  | d :: c :: b :: a :: .char 'u' :: before =>
      [a, b, c, d].all (fun g => (hexDigit? g).isSome)
        && (before.takeWhile (· = .char '\\')).length % 2 == 1
  | _ => false

def requestText (text : Source) (failure : Failure) : String × Nat :=
  let offset (left : Nat) : Nat := text.length - left
  match failure.problem with
  | .value | .emptyList | .listComma => ("Expecting value", offset failure.left)
  | .word => ("Expecting value", offset failure.begun)
  | .afterItem | .afterMember => ("Expecting ',' delimiter", offset failure.left)
  | .firstKey | .nextKey => ("Expecting property name enclosed in double quotes", offset failure.left)
  | .colon => ("Expecting ':' delimiter", offset failure.left)
  | .number _ none => ("Expecting value", offset failure.begun)
  | .number .document (some sound) => ("Extra data", offset sound)
  | .number _ (some sound) => ("Expecting ',' delimiter", offset sound)
  | .unterminated =>
      if endsInCode text then ("Invalid \\uXXXX escape", text.length - 5)
      else ("Unterminated string starting at", offset failure.begun)
  | .control => ("Invalid control character at", offset failure.left)
  | .escape => ("Invalid \\escape", offset failure.begun)
  | .shortCode | .codeDigit => ("Invalid \\uXXXX escape", offset failure.begun)
  | .trailing => ("Extra data", offset failure.left)
  | .longNumber | .loneHalf | .noSecondHalf | .encoding | .depth => ("Expecting value", offset failure.begun)

end Failure

end FormEngine.Json
