import FormEngine.Pattern.Syntax

set_option autoImplicit false

namespace FormEngine.Pattern

-- A place in a text, and what the groups have taken so far. The text before the place is reversed.
structure State where
  behind : List Char
  ahead : List Char
  groups : List (Nat × List Char)

namespace State

def taken? (s : State) (index : Nat) : Option (List Char) := (s.groups.find? (·.1 == index)).map (·.2)

def keep (s : State) (index : Nat) (text : List Char) : State :=
  { s with groups := (index, text) :: s.groups.filter (·.1 != index) }

def back? : Nat → State → Option State
  | 0, s => some s
  | n + 1, s =>
      match s.behind with
      | [] => none
      | c :: rest => back? n { s with behind := rest, ahead := c :: s.ahead }

end State

-- What comes after a part: it takes the place reached and says where the whole match ends.
abbrev Rest := State → Option State

-- A part of a pattern as a search: it tries its ways to match, each followed by the rest.
abbrev Search := Rest → Rest

def isWordAt (ascii : Bool) : List Char → Bool
  | [] => false
  | c :: _ => Category.word.has ascii c.toNat

def Anchor.holds (s : State) : Anchor → Bool
  | .textStart => s.behind.isEmpty
  | .lineStart => s.behind.isEmpty || s.behind.head? == some '\n'
  | .textEnd => s.ahead.isEmpty
  | .lastLineEnd => s.ahead.isEmpty || s.ahead == ['\n']
  | .lineEnd => s.ahead.isEmpty || s.ahead.head? == some '\n'
  | .boundary ascii negated =>
      if s.behind.isEmpty && s.ahead.isEmpty then false
      else (isWordAt ascii s.behind != isWordAt ascii s.ahead) != negated

def takeOne (test : Char → Bool) : Search := fun rest s =>
  match s.ahead with
  | [] => none
  | c :: more => if test c then rest { s with behind := c :: s.behind, ahead := more } else none

def takeText (folding : Folding) : List Char → Search
  | [], rest, s => rest s
  | c :: cs, rest, s =>
      takeOne (fun d => folding.lower d.toNat == folding.lower c.toNat) (takeText folding cs rest) s

def times (body : Search) : Nat → Search
  | 0, rest, s => rest s
  | n + 1, rest, s => body (times body n rest) s

def mayRepeat (most : Option Nat) (last : Option Nat) (s : State) : Bool :=
  most != some 0 && last != some s.ahead.length

-- As many rounds as possible, then fewer. A round that takes nothing is the last one, so the length of the text
-- bounds the rounds.
def greedily (body : Search) : Nat → Option Nat → Option Nat → Search
  | 0, _, _, rest, s => rest s
  | fuel + 1, most, last, rest, s =>
      if mayRepeat most last s then
        match body (greedily body fuel (most.map (· - 1)) (some s.ahead.length) rest) s with
        | some found => some found
        | none => rest s
      else rest s

def lazily (body : Search) : Nat → Option Nat → Option Nat → Search
  | 0, _, _, rest, s => rest s
  | fuel + 1, most, last, rest, s =>
      match rest s with
      | some found => some found
      | none =>
          if mayRepeat most last s then
            body (lazily body fuel (most.map (· - 1)) (some s.ahead.length) rest) s
          else none

-- As many rounds as possible; a round once made is not tried again in another way.
def possessively (body : Search) : Nat → Option Nat → Rest
  | 0, _, s => some s
  | fuel + 1, most, s =>
      if most == some 0 then some s
      else match body some s with
        | none => some s
        | some next =>
            if next.ahead.length == s.ahead.length then some next else possessively body fuel (most.map (· - 1)) next

def timesOnce (body : Search) : Nat → Rest
  | 0, s => some s
  | n + 1, s => (body some s).bind (timesOnce body n)

def repeatedly (least : Nat) (most : Option Nat) (greed : Greed) (body : Search) : Search := fun rest s =>
  let more := most.map (· - least)
  match greed with
  | .greedy => times body least (fun s => greedily body (s.ahead.length + 2) more none rest s) s
  | .lazy => times body least (fun s => lazily body (s.ahead.length + 2) more none rest s) s
  | .possessive =>
      ((timesOnce body least s).bind fun s => possessively body (s.ahead.length + 2) more s).bind rest

namespace Expr

def search : Expr → Search
  | .empty => fun rest s => rest s
  | .set allowed folding => takeOne (allowed.has folding)
  | .any breaks => takeOne fun c => breaks || c != '\n'
  | .anchor a => fun rest s => if a.holds s then rest s else none
  | .seq a b => fun rest s => a.search (b.search rest) s
  | .alt a b => fun rest s =>
      match a.search rest s with
      | some found => some found
      | none => b.search rest s
  | .rounds least most greed body => repeatedly least most greed body.search
  | .capture index body => fun rest s =>
      body.search (fun next => rest (next.keep index (s.ahead.take (s.ahead.length - next.ahead.length)))) s
  | .atomic body => fun rest s => (body.search some s).bind rest
  | .ahead negated body => fun rest s =>
      match body.search some s with
      | some found => if negated then none else rest { s with groups := found.groups }
      | none => if negated then rest s else none
  | .behind width negated body => fun rest s =>
      match (State.back? width s).bind (body.search some) with
      | some found => if negated then none else rest { s with groups := found.groups }
      | none => if negated then rest s else none
  | .reference index folding => fun rest s =>
      match s.taken? index with
      | some text => takeText folding text rest s
      | none => none
  | .conditional index yes no => fun rest s =>
      if (s.taken? index).isSome then yes.search rest s else no.search rest s

def found (e : Expr) : List Char → List Char → Bool
  | passed, [] => (e.search some ⟨passed, [], []⟩).isSome
  | passed, c :: rest => (e.search some ⟨passed, c :: rest, []⟩).isSome || e.found (c :: passed) rest

def occursIn (e : Expr) (text : String) : Bool := e.found [] text.toList

end Expr

end FormEngine.Pattern
