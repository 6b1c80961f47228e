import FormEngine.Schema.Fault

set_option autoImplicit false

namespace FormEngine.Reading

abbrev Reader (α : Type) := Origin → Value → Reading α

def text : Reader String := fun _ v =>
  match v with
  | .text s => .ok s
  | _ => fault .text v

def falseWords : List String := ["0", "off", "f", "false", "n", "no"]

def trueWords : List String := ["1", "on", "t", "true", "y", "yes"]

def wordLimit : Int := 9223372036854775808

def bool : Reader Bool := fun _ v =>
  let ofInt (n : Int) : Reading Bool :=
    if n = 0 then .ok false else if n = 1 then .ok true else fault .boolReading v
  match v with
  | .bool b => .ok b
  | .text s =>
      let word := Text.asciiLower s
      if falseWords.contains word then .ok false
      else if trueWords.contains word then .ok true
      else fault .boolReading v
  | .int n => if -wordLimit ≤ n ∧ n < wordLimit then ofInt n else fault .bool v
  | .float x =>
      match x.toInt? with
      | some n => if -wordLimit < n ∧ n < wordLimit then ofInt n else fault .bool v
      | none => fault .bool v
  | _ => fault .bool v

def dropUnderscores (cs : List Char) : Option (List Char) :=
  if !cs.contains '_' || cs.head? == some '_' || cs.getLast? == some '_' || Text.occursIn ['_', '_'] cs then none
  else some (cs.filter (· != '_'))

-- Leading zeros dropped, single underscores among them too; the last zero stays before a point and at the end.
def dropZeros : List Char → Option (List Char)
  | [] => none
  | '0' :: rest => go rest
  | c :: rest => if '1' ≤ c && c ≤ '9' then some (c :: rest) else none
where
  go : List Char → Option (List Char)
    | [] => some ['0']
    | '0' :: rest => go rest
    | '_' :: c :: rest => if c == '_' then none else go (c :: rest)
    | '.' :: rest => some ('0' :: '.' :: rest)
    | c :: rest => if '1' ≤ c && c ≤ '9' then some (c :: rest) else none

def dropZeroFraction (cs : List Char) : List Char :=
  let after := cs.dropWhile (· != '.')
  if !after.isEmpty && (after.drop 1).all (· == '0') then cs.takeWhile (· != '.') else cs

def intTextLimit : Nat := 4300

inductive IntText where
  | value (n : Int)
  | tooLong
  | malformed

def readIntText (s : String) : IntText :=
  let cs := Text.trimBy Text.isSpace s.toList
  let (signed, negative, cs) := match cs with
    | '+' :: rest => (true, false, rest)
    | '-' :: rest => (true, true, rest)
    | _ => (false, false, cs)
  if signed && (cs.head? == some '+' || cs.head? == some '-') then .malformed
  else match dropZeros cs with
    | none => .malformed
    | some cs =>
        let cs := dropZeroFraction cs
        let digits := (dropUnderscores cs).getD cs
        if digits.isEmpty || !digits.all Text.isAsciiDigit then .malformed
        else if digits.length > intTextLimit then .tooLong
        else
          let size : Int := (Numeral.digitsValue digits : Nat)
          .value (if negative then -size else size)

def int : Reader Int := fun _ v =>
  match v with
  | .int n => .ok n
  | .bool b => .ok (if b then 1 else 0)
  | .float x =>
      if !x.isFinite then fault .finite v
      else match x.toInt? with
        | none => fault .intFraction v
        | some n => if -wordLimit < n ∧ n < wordLimit then .ok n else fault .intSize v
  | .text s =>
      match readIntText s with
      | .value n => .ok n
      | .tooLong => fault .intSize v
      | .malformed => fault .intReading v
  | _ => fault .int v

def documentIntDigits : Nat := 18

def number : Reader Binary64 := fun origin v =>
  match v with
  | .float x => .ok x
  | .int n =>
      if origin = .document ∧ Binary64.digitCount n.natAbs > documentIntDigits then fault .number v
      else match Binary64.ofInt? n with
        | some x => .ok x
        | none => fault .number v
  | .bool b => .ok (Binary64.ofInt (if b then 1 else 0))
  | .text s =>
      let trimmed (cs : List Char) := Text.trimBy Text.isSpace cs
      match Numeral.readPlain (trimmed s.toList) with
      | some x => .ok x
      | none =>
          match (dropUnderscores s.toList).bind fun cs => Numeral.readPlain (trimmed cs) with
          | some x => .ok x
          | none => fault .numberReading v
  | _ => fault .number v

def word {α : Type} (ofName? : String → Option α) (names : List String) : Reader α := fun _ v =>
  match v with
  | .text s =>
      match ofName? s with
      | some x => .ok x
      | none => fault (.choice names) v
  | _ => fault (.choice names) v

def nullable {α : Type} (read : Reader α) : Reader (Option α) := fun origin v =>
  match v with
  | .null => .ok none
  | _ => (read origin v).map some

def list {α : Type} (read : Reader α) : Reader (List α) := fun origin v =>
  match v with
  | .list all => items (read origin) 0 all
  | _ => fault .list v

def dictionary {α : Type} (read : Reader α) : Reader (Keyed α) := fun origin v =>
  match v with
  | .object entries => members (read origin) entries
  | _ => fault .dictionary v

def entries (record : String) (v : Value) : Reading (List (String × Value)) :=
  match v with
  | .object found => .ok found
  | _ => fault (.model record) v

def attribute? (found : List (String × Value)) (key plain : String) : Option Value :=
  (Keyed.value? found key).or (Keyed.value? found plain)

def required {α : Type} (origin : Origin) (found : List (String × Value)) (key plain : String) (read : Reader α) :
    Reading α :=
  match attribute? found key plain with
  | some v => below (.key key) (read origin v)
  | none => below (.key key) (fault .missing (.object found))

def optional {α : Type} (origin : Origin) (found : List (String × Value)) (key plain : String) (fallback : α)
    (read : Reader α) : Reading α :=
  match attribute? found key plain with
  | some v => below (.key key) (read origin v)
  | none => .ok fallback

end FormEngine.Reading
