import FormEngine.Data.Keyed
import FormEngine.Number.Shortest
import FormEngine.Number.Numeral

set_option autoImplicit false

namespace FormEngine

inductive Value where
  | null
  | bool (b : Bool)
  | int (n : Int)
  | float (x : Binary64)
  | text (s : String)
  | list (items : List Value)
  | object (entries : List (String × Value))

instance : Inhabited Value := ⟨.null⟩

namespace Value

mutual
def decEqValue : (a b : Value) → Decidable (a = b)
  | .null, .null => isTrue rfl
  | .bool a, .bool b => if h : a = b then isTrue (by rw [h]) else isFalse (by intro e; cases e; exact h rfl)
  | .int a, .int b => if h : a = b then isTrue (by rw [h]) else isFalse (by intro e; cases e; exact h rfl)
  | .float a, .float b => if h : a = b then isTrue (by rw [h]) else isFalse (by intro e; cases e; exact h rfl)
  | .text a, .text b => if h : a = b then isTrue (by rw [h]) else isFalse (by intro e; cases e; exact h rfl)
  | .list a, .list b =>
      match decEqItems a b with
      | isTrue h => isTrue (by rw [h])
      | isFalse h => isFalse (by intro e; cases e; exact h rfl)
  | .object a, .object b =>
      match decEqEntries a b with
      | isTrue h => isTrue (by rw [h])
      | isFalse h => isFalse (by intro e; cases e; exact h rfl)
  | .null, .bool _ | .null, .int _ | .null, .float _ | .null, .text _ | .null, .list _ | .null, .object _
  | .bool _, .null | .bool _, .int _ | .bool _, .float _ | .bool _, .text _ | .bool _, .list _ | .bool _, .object _
  | .int _, .null | .int _, .bool _ | .int _, .float _ | .int _, .text _ | .int _, .list _ | .int _, .object _
  | .float _, .null | .float _, .bool _ | .float _, .int _ | .float _, .text _ | .float _, .list _
  | .float _, .object _ | .text _, .null | .text _, .bool _ | .text _, .int _ | .text _, .float _ | .text _, .list _
  | .text _, .object _ | .list _, .null | .list _, .bool _ | .list _, .int _ | .list _, .float _ | .list _, .text _
  | .list _, .object _ | .object _, .null | .object _, .bool _ | .object _, .int _ | .object _, .float _
  | .object _, .text _ | .object _, .list _ => isFalse (by intro e; cases e)
def decEqItems : (a b : List Value) → Decidable (a = b)
  | [], [] => isTrue rfl
  | [], _ :: _ => isFalse (by intro e; cases e)
  | _ :: _, [] => isFalse (by intro e; cases e)
  | a :: as, b :: bs =>
      match decEqValue a b with
      | isFalse h => isFalse (by intro e; cases e; exact h rfl)
      | isTrue h =>
          match decEqItems as bs with
          | isTrue t => isTrue (by rw [h, t])
          | isFalse t => isFalse (by intro e; cases e; exact t rfl)
def decEqEntries : (a b : List (String × Value)) → Decidable (a = b)
  | [], [] => isTrue rfl
  | [], _ :: _ => isFalse (by intro e; cases e)
  | _ :: _, [] => isFalse (by intro e; cases e)
  | (j, a) :: as, (k, b) :: bs =>
      if n : j = k then
        match decEqValue a b with
        | isFalse h => isFalse (by intro e; cases e; exact h rfl)
        | isTrue h =>
            match decEqEntries as bs with
            | isTrue t => isTrue (by rw [n, h, t])
            | isFalse t => isFalse (by intro e; cases e; exact t rfl)
      else isFalse (by intro e; cases e; exact n rfl)
end

instance : DecidableEq Value := decEqValue

def isEmpty : Value → Bool
  | .null => true
  | .text s => Text.isBlankText s
  | .list items => items.isEmpty
  | .object entries => entries.isEmpty
  | _ => false

def toNumber : Value → Option Binary64
  | .int n => Binary64.ofInt? n
  | .float x => if x.isFinite then some x else none
  | .text s => (Numeral.read s).bind fun x => if x.isFinite then some x else none
  | _ => none

def trueWords : List String := ["true", "on", "1", "yes"]

def toBool : Value → Bool
  | .null => false
  | .bool b => b
  | .int n => n != 0
  | .float x => !x.same .zero
  | .text s => trueWords.contains (Text.asciiLower (Text.trim s))
  | .list items => !items.isEmpty
  | .object entries => !entries.isEmpty

def ofNumber (x : Binary64) : Value :=
  match x.toInt? with
  | some n => .int n
  | none => .float x

def quotedChar (mark : Char) (c : Char) : List Char :=
  let code := c.toNat
  let hex (width : Nat) := Binary64.padLeft width (Nat.toDigits 16 code)
  if c = mark ∨ c = '\\' then ['\\', c]
  else if c = '\t' then ['\\', 't']
  else if c = '\n' then ['\\', 'n']
  else if c = '\r' then ['\\', 'r']
  else if Text.isPrintable c then [c]
  else if code < 0x100 then '\\' :: 'x' :: hex 2
  else if code < 0x10000 then '\\' :: 'u' :: hex 4
  else '\\' :: 'U' :: hex 8

-- A text in quotation marks: single ones, unless it holds a single one and no double one.
def quoted (s : String) : String :=
  let mark := if s.toList.contains '\'' && !s.toList.contains '"' then '"' else '\''
  String.ofList (mark :: s.toList.flatMap (quotedChar mark) ++ [mark])

mutual
def spelled : Value → String
  | .null => "None"
  | .bool b => if b then "True" else "False"
  | .int n => toString n
  | .float x => x.text
  | .text s => quoted s
  | .list items => "[" ++ ", ".intercalate (spelledItems items) ++ "]"
  | .object entries => "\x7b" ++ ", ".intercalate (spelledEntries entries) ++ "\x7d"
def spelledItems : List Value → List String
  | [] => []
  | item :: rest => spelled item :: spelledItems rest
def spelledEntries : List (String × Value) → List String
  | [] => []
  | (key, value) :: rest => (quoted key ++ ": " ++ spelled value) :: spelledEntries rest
end

def shown : Value → String
  | .text s => s
  | value => spelled value

mutual
-- The text that rules and controls see: nothing is empty, whole numbers have no point, lists are joined by commas.
def asText : Value → String
  | .null => ""
  | .bool b => if b then "true" else "false"
  | .int n => toString n
  | .float x => match x.toInt? with
      | some n => toString n
      | none => x.text
  | .text s => s
  | .list items => ",".intercalate (asTexts items)
  | .object entries => spelled (.object entries)
def asTexts : List Value → List String
  | [] => []
  | item :: rest => asText item :: asTexts rest
end

end Value

end FormEngine
