import FormEngine.Text.CharClass
import FormEngine.Text.CaseMap

set_option autoImplicit false

namespace FormEngine.Pattern

inductive Folding where
  | exact
  | ascii
  | all
deriving DecidableEq

inductive Category where
  | digit
  | space
  | word
deriving DecidableEq

inductive SetItem where
  | code (n : Nat)
  | run (low high : Nat)
  | category (c : Category) (ascii negated : Bool)
deriving DecidableEq

structure CharSet where
  negated : Bool
  items : List SetItem
deriving DecidableEq

inductive Anchor where
  | textStart
  | lineStart
  | textEnd
  | lastLineEnd
  | lineEnd
  | boundary (ascii negated : Bool)
deriving DecidableEq

inductive Greed where
  | greedy
  | lazy
  | possessive
deriving DecidableEq

inductive Expr where
  | empty
  | set (s : CharSet) (folding : Folding)
  | any (breaks : Bool)
  | anchor (a : Anchor)
  | seq (a b : Expr)
  | alt (a b : Expr)
  | rounds (least : Nat) (most : Option Nat) (greed : Greed) (body : Expr)
  | capture (index : Nat) (body : Expr)
  | atomic (body : Expr)
  | ahead (negated : Bool) (body : Expr)
  | behind (width : Nat) (negated : Bool) (body : Expr)
  | reference (index : Nat) (folding : Folding)
  | conditional (index : Nat) (yes no : Expr)
deriving DecidableEq

def isAsciiWord (code : Nat) : Bool :=
  (48 ≤ code && code ≤ 57) || (65 ≤ code && code ≤ 90) || code == 95 || (97 ≤ code && code ≤ 122)

def isAsciiSpace (code : Nat) : Bool := code == 32 || (9 ≤ code && code ≤ 13)

def Category.has (category : Category) (ascii : Bool) (code : Nat) : Bool :=
  let c := Char.ofNat code
  match category, ascii with
  | .digit, true => 48 ≤ code && code ≤ 57
  | .digit, false => Text.isDecimal c
  | .space, true => isAsciiSpace code
  | .space, false => Text.isBlank c
  | .word, true => isAsciiWord code
  | .word, false => Text.isWordChar c

def Folding.lower (folding : Folding) (code : Nat) : Nat :=
  match folding with
  | .exact => code
  | .ascii => if 65 ≤ code && code ≤ 90 then code + 32 else code
  | .all => Text.lowerCode code

def Folding.partners (folding : Folding) (lower : Nat) : List Nat :=
  match folding with
  | .all => Text.caseClass lower
  | _ => [lower]

def Folding.sources (folding : Folding) (lower : Nat) : List Nat :=
  match folding with
  | .exact => [lower]
  | .ascii => if 97 ≤ lower && lower ≤ 122 then [lower, lower - 32] else [lower]
  | .all => lower :: Text.upperCodes lower

def SetItem.has (folding : Folding) (lower : Nat) : SetItem → Bool
  | .code n => (folding.partners (folding.lower n)).contains lower
  | .run low high =>
      (folding.partners lower).any fun partner =>
        (folding.sources partner).any fun source => low ≤ source && source ≤ high
  | .category c ascii negated => c.has ascii lower != negated

def CharSet.has (set : CharSet) (folding : Folding) (c : Char) : Bool :=
  let lower := folding.lower c.toNat
  set.items.any (·.has folding lower) != set.negated

structure Width where
  least : Nat
  most : Option Nat
deriving DecidableEq

namespace Width

def zero : Width := ⟨0, some 0⟩

def one : Width := ⟨1, some 1⟩

def plus (a b : Width) : Width := ⟨a.least + b.least, do return (← a.most) + (← b.most)⟩

def either (a b : Width) : Width := ⟨min a.least b.least, do return max (← a.most) (← b.most)⟩

def times (w : Width) (least : Nat) (most : Option Nat) : Width :=
  ⟨w.least * least,
   match w.most, most with
   | some 0, _ => some 0
   | _, some 0 => some 0
   | some n, some m => some (n * m)
   | _, _ => none⟩

def fixed? (w : Width) : Option Nat := if w.most = some w.least then some w.least else none

end Width

end FormEngine.Pattern
