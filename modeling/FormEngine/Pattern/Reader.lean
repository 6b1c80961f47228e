import FormEngine.Pattern.Syntax

set_option autoImplicit false

namespace FormEngine.Pattern

inductive Refusal where
  | malformed
  | countTooLarge
  | settingClash
deriving DecidableEq

inductive Token where
  | plain (c : Char)
  | escaped (c : Char)
deriving DecidableEq

def tokens : List Char → Option (List Token)
  | [] => some []
  | '\\' :: c :: rest => (tokens rest).map (.escaped c :: ·)
  | ['\\'] => none
  | c :: rest => (tokens rest).map (.plain c :: ·)

structure Settings where
  ignoreCase : Bool
  lines : Bool
  breaks : Bool
  spaced : Bool
  ascii : Bool
  unicode : Bool
deriving DecidableEq

def Settings.none : Settings := ⟨false, false, false, false, false, false⟩

def Settings.folding (m : Settings) : Folding := if !m.ignoreCase then .exact else if m.ascii then .ascii else .all

-- What the reader keeps: the tokens left, the settings of the whole pattern, the width of each group once it is
-- closed, the names of groups, the groups that existed before the look-behind being read, the greatest group asked
-- for before it was seen, and whether a look-behind has no fixed width.
structure Progress where
  rest : List Token
  settings : Settings
  widths : List (Option Width)
  names : List (String × Nat)
  visible : Option Nat
  asked : Nat
  unfixed : Bool

abbrev Read := StateT Progress (Except Refusal)

def refuse {α : Type} (why : Refusal) : Read α := fun _ => .error why

def malformed {α : Type} : Read α := refuse .malformed

def peek : Read (Option Token) := do return (← get).rest.head?

def next : Read (Option Token) := do
  let s ← get
  match s.rest with
  | [] => return none
  | t :: rest => set { s with rest := rest }; return some t

def accept (c : Char) : Read Bool := do
  if (← peek) == some (.plain c) then
    let _ ← next
    return true
  else return false

def expect (c : Char) : Read Unit := do if !(← accept c) then malformed

def isIn (chars : String) (c : Char) : Bool := chars.toList.contains c

def decimalDigits : String := "0123456789"

def octalDigits : String := "01234567"

def hexDigits : String := "0123456789abcdefABCDEF"

def takeUpTo (chars : String) : Nat → Read (List Char)
  | 0 => return []
  | n + 1 => do
      match ← peek with
      | some (.plain c) =>
          if isIn chars c then
            let _ ← next
            return c :: (← takeUpTo chars n)
          else return []
      | _ => return []

def hexValue (c : Char) : Nat :=
  if '0' ≤ c && c ≤ '9' then c.toNat - 48
  else if 'a' ≤ c && c ≤ 'f' then c.toNat - 87
  else c.toNat - 55

def valueIn (base : Nat) (digits : List Char) : Nat := digits.foldl (fun n c => n * base + hexValue c) 0

def hexCode (count : Nat) : Read Nat := do
  let digits ← takeUpTo hexDigits count
  let code := valueIn 16 digits
  if digits.length != count || code > 0x10ffff then malformed else return code

def controlCode? : Char → Option Nat
  | 'a' => some 7
  | 'b' => some 8
  | 'f' => some 12
  | 'n' => some 10
  | 'r' => some 13
  | 't' => some 9
  | 'v' => some 11
  | _ => none

def category? : Char → Option (Category × Bool)
  | 'd' => some (.digit, false)
  | 'D' => some (.digit, true)
  | 's' => some (.space, false)
  | 'S' => some (.space, true)
  | 'w' => some (.word, false)
  | 'W' => some (.word, true)
  | _ => none

def isAsciiLetter (c : Char) : Bool := c.isAlpha

def setEscape (m : Settings) (c : Char) : Read SetItem := do
  match controlCode? c, category? c with
  | some code, _ => return .code code
  | none, some (category, negated) => return .category category m.ascii negated
  | none, none =>
      if c == 'x' then return .code (← hexCode 2)
      else if c == 'u' then return .code (← hexCode 4)
      else if c == 'U' then return .code (← hexCode 8)
      else if isIn octalDigits c then
        let code := valueIn 8 (c :: (← takeUpTo octalDigits 2))
        if code > 0o377 then malformed else return .code code
      else if isIn decimalDigits c || isAsciiLetter c then malformed
      else return .code c.toNat

inductive Shape where
  | anchor
  | repeated
  | other
deriving DecidableEq

structure Item where
  expr : Expr
  width : Width
  shape : Shape

def Item.other (expr : Expr) (width : Width) : Item := ⟨expr, width, .other⟩

def Item.ofSet (m : Settings) (set : CharSet) : Item := .other (.set set m.folding) .one

def Item.ofCode (m : Settings) (code : Nat) : Item := .ofSet m ⟨false, [.code code]⟩

def Item.ofAnchor (a : Anchor) : Item := ⟨.anchor a, .zero, .anchor⟩

def closedWidth? (s : Progress) (index : Nat) : Option Width :=
  if index = 0 then none else (s.widths[index - 1]?).join

def reference (m : Settings) (index : Nat) : Read Item := do
  let s ← get
  match closedWidth? s index with
  | none => malformed
  | some width =>
      match s.visible with
      | some count => if count < index then malformed else return .other (.reference index m.folding) width
      | none => return .other (.reference index m.folding) width

def escape (m : Settings) (c : Char) : Read Item := do
  if c == 'A' then return .ofAnchor .textStart
  else if c == 'Z' then return .ofAnchor .textEnd
  else if c == 'b' then return .ofAnchor (.boundary m.ascii false)
  else if c == 'B' then return .ofAnchor (.boundary m.ascii true)
  else match category? c, controlCode? c with
    | some (category, negated), _ => return .ofSet m ⟨false, [.category category m.ascii negated]⟩
    | none, some code => return .ofCode m code
    | none, none =>
        if c == 'x' then return .ofCode m (← hexCode 2)
        else if c == 'u' then return .ofCode m (← hexCode 4)
        else if c == 'U' then return .ofCode m (← hexCode 8)
        else if c == '0' then return .ofCode m (valueIn 8 (← takeUpTo octalDigits 2))
        else if isIn decimalDigits c then
          match ← takeUpTo decimalDigits 1 with
          | [] => reference m (valueIn 10 [c])
          | second :: _ =>
              let octal := isIn octalDigits c && isIn octalDigits second
              let third ← if octal then takeUpTo octalDigits 1 else pure []
              if third.isEmpty then reference m (valueIn 10 [c, second])
              else
                let code := valueIn 8 (c :: second :: third)
                if code > 0o377 then malformed else return .ofCode m code
        -- Among them \N, since no character is known by its name.
        else if isAsciiLetter c then malformed
        else return .ofCode m c.toNat

-- The members of a set up to its closing bracket. A bracket that comes first, and a hyphen at an end, stand for
-- themselves.
def setItems (m : Settings) : Nat → Bool → Read (List SetItem)
  | 0, _ => malformed
  | fuel + 1, first => do
      let one (t : Token) : Read SetItem :=
        match t with
        | .escaped c => setEscape m c
        | .plain c => return .code c.toNat
      match ← next with
      | none => malformed
      | some t =>
          if t == .plain ']' && !first then return []
          else
            let low ← one t
            if ← accept '-' then
              match ← next with
              | none => malformed
              | some t =>
                  if t == .plain ']' then return [low, .code '-'.toNat]
                  else
                    let high ← one t
                    match low, high with
                    | .code a, .code b => if b < a then malformed else return .run a b :: (← setItems m fuel false)
                    | _, _ => malformed
            else return low :: (← setItems m fuel false)

def takeName (closing : Char) : Nat → Read (List Char)
  | 0 => malformed
  | fuel + 1 => do
      match ← next with
      | none => malformed
      | some (.escaped c) => return '\\' :: c :: (← takeName closing fuel)
      | some (.plain c) => if c == closing then return [] else return c :: (← takeName closing fuel)

def isIdentifier : List Char → Bool
  | [] => false
  | c :: rest => Text.isNameStart c && rest.all Text.isNameChar

def takeIdentifier (closing : Char) : Read String := do
  let name ← takeName closing ((← get).rest.length + 1)
  if isIdentifier name then return String.ofList name else malformed

def skipComment : Nat → Read Unit
  | 0 => malformed
  | fuel + 1 => do
      match ← next with
      | none => malformed
      | some t => if t == .plain ')' then return () else skipComment fuel

def skipLine : Nat → Read Unit
  | 0 => return ()
  | fuel + 1 => do
      match ← next with
      | none => return ()
      | some t => if t == .plain '\n' then return () else skipLine fuel

inductive Setting where
  | ignoreCase | lines | breaks | spaced | ascii | unicode
deriving DecidableEq

def setting? : Char → Option Setting
  | 'i' => some .ignoreCase
  | 'm' => some .lines
  | 's' => some .breaks
  | 'x' => some .spaced
  | 'a' => some .ascii
  | 'u' => some .unicode
  | _ => none

def Setting.isScript : Setting → Bool
  | .ascii | .unicode => true
  | _ => false

def Settings.put (m : Settings) (on : Bool) : Setting → Settings
  | .ignoreCase => { m with ignoreCase := on }
  | .lines => { m with lines := on }
  | .breaks => { m with breaks := on }
  | .spaced => { m with spaced := on }
  | .ascii => { m with ascii := on }
  | .unicode => { m with unicode := on }

def settingLetters (closing : String) : Nat → Char → Read (List Setting × Char)
  | 0, _ => malformed
  | fuel + 1, letter => do
      match setting? letter with
      | none => malformed
      | some flag =>
          match ← next with
          | some (.plain c) =>
              if isIn closing c then return ([flag], c)
              else
                let (more, closed) ← settingLetters closing fuel c
                return (flag :: more, closed)
          | _ => malformed

inductive Scope where
  | whole (on : List Setting)
  | group (on off : List Setting)

def settingScope (letter : Char) : Read Scope := do
  let fuel := (← get).rest.length + 1
  let (on, closed) ← if letter == '-' then pure ([], '-') else settingLetters ")-:" fuel letter
  if on.contains .ascii && on.contains .unicode then malformed
  else if closed == ')' then return .whole on
  else if closed == ':' then return .group on []
  else match ← next with
    | some (.plain c) =>
        let (off, _) ← settingLetters ":" fuel c
        if off.any Setting.isScript || on.any off.contains then malformed else return .group on off
    | _ => malformed

def Settings.within (m : Settings) (on off : List Setting) : Settings :=
  let m := if on.any Setting.isScript then { m with ascii := false, unicode := false } else m
  off.foldl (fun m flag => m.put false flag) (on.foldl (fun m flag => m.put true flag) m)

def countLimit : Nat := 4294967295

-- The bounds of a repetition after its opening brace; nothing when the brace stands for itself.
def bounds : Read (Option (Nat × Option Nat)) := do
  let saved ← get
  if (← peek) == some (.plain '\x7d') then return none
  else
    let fuel := saved.rest.length + 1
    let low ← takeUpTo decimalDigits fuel
    let comma ← accept ','
    let high ← if comma then takeUpTo decimalDigits fuel else pure low
    if ← accept '\x7d' then
      let least := valueIn 10 low
      let most := if high.isEmpty then none else some (valueIn 10 high)
      if least ≥ countLimit || (most.getD 0) ≥ countLimit then refuse .countTooLarge
      else if most.any (· < least) then malformed
      else return some (least, most)
    else
      set saved
      return none

def greedSign : Read Greed := do
  if ← accept '?' then return .lazy
  else if ← accept '+' then return .possessive
  else return .greedy

def repeatLast (least : Nat) (most : Option Nat) (items : List Item) : Read (List Item) := do
  match items with
  | [] => malformed
  | item :: before =>
      if item.shape != .other then malformed
      else
        let greed ← greedSign
        return ⟨.rounds least most greed item.expr, item.width.times least most, .repeated⟩ :: before

def sequence (items : List Item) : Expr × Width :=
  items.foldr (fun item all => (.seq item.expr all.1, item.width.plus all.2)) (.empty, .zero)

def openGroup (name : Option String) : Read Nat := do
  let s ← get
  let index := s.widths.length + 1
  match name with
  | none => set { s with widths := s.widths ++ [none] }; return index
  | some name =>
      if s.names.any (·.1 == name) then malformed
      else set { s with widths := s.widths ++ [none], names := (name, index) :: s.names }; return index

def closeGroup (index : Nat) (width : Width) : Read Unit :=
  modify fun s => { s with widths := s.widths.set (index - 1) (some width) }

def askedGroup : Read Nat := do
  let s ← get
  let name ← takeName ')' (s.rest.length + 1)
  let index ←
    if isIdentifier name then
      match s.names.find? (·.1 == String.ofList name) with
      | some (_, index) => pure index
      | none => malformed
    else if !name.isEmpty && name.all Text.isAsciiDigit then
      let index := valueIn 10 name
      if index = 0 || index ≥ countLimit then malformed
      else modify fun s => { s with asked := max s.asked index }; pure index
    else malformed
  match s.visible with
  | none => return index
  | some count => if (closedWidth? s index).isNone || count < index then malformed else return index

def lookingBehind {α : Type} (read : Read α) : Read α := do
  let before ← get
  set { before with visible := before.visible.or (some before.widths.length) }
  let result ← read
  modify fun s => { s with visible := before.visible }
  return result

def lookAround (behind negated : Bool) (body : Expr × Width) : Read Item := do
  expect ')'
  if !behind then return .other (.ahead negated body.1) .zero
  else match body.2.fixed? with
    | some width => return .other (.behind width negated body.1) .zero
    | none =>
        modify fun s => { s with unfixed := true }
        return .other .empty .zero

inductive Group where
  | items (all : List Item)
  | whole (on : List Setting)

mutual
def choices : Nat → Option Settings → Bool → Read (Expr × Width)
  | 0, _, _ => malformed
  | fuel + 1, scope, first => do
      let one := sequence (← parts fuel scope first []).reverse
      if ← accept '|' then
        let more ← choices fuel scope false
        return (.alt one.1 more.1, one.2.either more.2)
      else return one
def parts : Nat → Option Settings → Bool → List Item → Read (List Item)
  | 0, _, _, _ => malformed
  | fuel + 1, scope, first, items => do
      let s ← get
      let m := scope.getD s.settings
      match s.rest with
      | [] => return items
      | .escaped c :: rest =>
          set { s with rest := rest }
          parts fuel scope first ((← escape m c) :: items)
      | .plain c :: rest =>
          if c == '|' || c == ')' then return items
          set { s with rest := rest }
          if m.spaced && isIn " \t\n\r\x0b\x0c" c then parts fuel scope first items
          else if m.spaced && c == '#' then
            skipLine (rest.length + 1)
            parts fuel scope first items
          else if c == '[' then
            let negated ← accept '^'
            let found ← setItems m (rest.length + 1) true
            parts fuel scope first (.ofSet m ⟨negated, found⟩ :: items)
          else if c == '.' then parts fuel scope first (.other (.any m.breaks) .one :: items)
          else if c == '^' then
            parts fuel scope first (.ofAnchor (if m.lines then .lineStart else .textStart) :: items)
          else if c == '$' then
            parts fuel scope first (.ofAnchor (if m.lines then .lineEnd else .lastLineEnd) :: items)
          else if c == '?' then parts fuel scope first (← repeatLast 0 (some 1) items)
          else if c == '*' then parts fuel scope first (← repeatLast 0 none items)
          else if c == '+' then parts fuel scope first (← repeatLast 1 none items)
          else if c == '\x7b' then
            match ← bounds with
            | some (least, most) => parts fuel scope first (← repeatLast least most items)
            | none => parts fuel scope first (.ofCode m c.toNat :: items)
          else if c == '(' then
            match ← group fuel m with
            | .items found => parts fuel scope first (found ++ items)
            | .whole on =>
                if !first || !items.isEmpty then malformed
                else
                  modify fun s => { s with settings := on.foldl (fun m flag => m.put true flag) s.settings }
                  parts fuel scope first items
          else parts fuel scope first (.ofCode m c.toNat :: items)
def group : Nat → Settings → Read Group
  | 0, _ => malformed
  | fuel + 1, m => do
      let captured (name : Option String) : Read Group := do
        let index ← openGroup name
        let body ← choices fuel (some m) false
        expect ')'
        closeGroup index body.2
        return .items [.other (.capture index body.1) body.2]
      if !(← accept '?') then captured none
      else match ← next with
        | none | some (.escaped _) => malformed
        | some (.plain c) =>
            if c == 'P' then
              if ← accept '<' then captured (some (← takeIdentifier '>'))
              else if ← accept '=' then
                let name ← takeIdentifier ')'
                match (← get).names.find? (·.1 == name) with
                | some (_, index) => return .items [← reference m index]
                | none => malformed
              else malformed
            else if c == ':' then
              let body ← choices fuel (some m) false
              expect ')'
              return .items [.other body.1 body.2]
            else if c == '#' then
              skipComment ((← get).rest.length + 1)
              return .items []
            else if c == '=' || c == '!' then
              return .items [← lookAround false (c == '!') (← choices fuel (some m) false)]
            else if c == '<' then
              match ← next with
              | some (.plain d) =>
                  if d == '=' || d == '!' then
                    return .items [← lookAround true (d == '!') (← lookingBehind (choices fuel (some m) false))]
                  else malformed
              | _ => malformed
            else if c == '(' then
              let index ← askedGroup
              let yes := sequence (← parts fuel (some m) false []).reverse
              if ← accept '|' then
                let no := sequence (← parts fuel (some m) false []).reverse
                expect ')'
                return .items [.other (.conditional index yes.1 no.1) (yes.2.either no.2)]
              else
                expect ')'
                return .items [.other (.conditional index yes.1 .empty) (yes.2.either .zero)]
            else if c == '>' then
              let body ← choices fuel (some m) false
              expect ')'
              return .items [.other (.atomic body.1) body.2]
            else match ← settingScope c with
              | .whole on => return .whole on
              | .group on off =>
                  let body ← choices fuel (some (m.within on off)) false
                  expect ')'
                  return .items [.other body.1 body.2]
end

def read (text : String) : Except Refusal Expr :=
  match tokens text.toList with
  | none => .error .malformed
  | some all =>
      let start : Progress := ⟨all, .none, [], [], none, 0, false⟩
      match (choices (4 * all.length + 4) none true).run start with
      | .error why => .error why
      | .ok ((expr, _), s) =>
          if s.settings.ascii && s.settings.unicode then .error .settingClash
          else if !s.rest.isEmpty || s.widths.length < s.asked || s.unfixed then .error .malformed
          else .ok expr

end FormEngine.Pattern
