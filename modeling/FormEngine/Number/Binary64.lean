set_option autoImplicit false

namespace FormEngine

inductive Binary64 where
  | nan
  | infinite (negative : Bool)
  | finite (negative : Bool) (units : Nat)
deriving DecidableEq

namespace Binary64

def powerOfTwo (n : Nat) : Nat := Nat.pow 2 n

def powerOfTen (n : Nat) : Nat := Nat.pow 10 n

def one : Nat := powerOfTwo 1074

def limit : Nat := powerOfTwo 2098

def zero : Binary64 := .finite false 0

def isFinite : Binary64 → Bool
  | .finite _ _ => true
  | _ => false

def scaled? : Binary64 → Option Int
  | .finite true units => some (-(units : Int))
  | .finite false units => some (units : Int)
  | _ => none

def isWhole : Binary64 → Bool
  | .finite _ units => units % one == 0
  | _ => false

def truncate? : Binary64 → Option Int
  | .finite true units => some (-((units / one : Nat) : Int))
  | .finite false units => some ((units / one : Nat) : Int)
  | _ => none

def toInt? (x : Binary64) : Option Int := if x.isWhole then x.truncate? else none

def less : Binary64 → Binary64 → Bool
  | .nan, _ => false
  | _, .nan => false
  | .infinite a, .infinite b => a && !b
  | .infinite a, .finite _ _ => a
  | .finite _ _, .infinite b => !b
  | x@(.finite _ _), y@(.finite _ _) => decide (x.scaled?.getD 0 < y.scaled?.getD 0)

-- Equality of the values: the two zeros are equal, and a number that is not one equals nothing.
def same : Binary64 → Binary64 → Bool
  | .infinite a, .infinite b => a == b
  | x@(.finite _ _), y@(.finite _ _) => decide (x.scaled?.getD 0 = y.scaled?.getD 0)
  | _, _ => false

def lessOrSame (x y : Binary64) : Bool := x.less y || x.same y

def roundDiv (numerator denominator : Nat) : Nat :=
  let quotient := numerator / denominator
  let rest := 2 * (numerator % denominator)
  if rest < denominator then quotient
  else if rest > denominator then quotient + 1
  else quotient + quotient % 2

-- The distance between neighbours at a magnitude of so many units: fifty-three binary digits are kept.
def spacing (units : Nat) : Nat := powerOfTwo (units.log2 - 52)

def ofRatio (negative : Bool) (numerator denominator : Nat) : Binary64 :=
  let grid := spacing (numerator * one / denominator)
  let units := roundDiv (numerator * one) (denominator * grid) * grid
  if units < limit then .finite negative units else .infinite negative

def ofInt (n : Int) : Binary64 := ofRatio (n < 0) n.natAbs 1

def ofInt? (n : Int) : Option Binary64 :=
  let x := ofInt n
  if x.isFinite then some x else none

def digitCount (n : Nat) : Nat := (Nat.toDigits 10 n).length

-- The number nearest to `digits` times ten to the power `exponent`. Powers far outside the format are settled by the
-- count of digits alone.
def ofDecimal (negative : Bool) (digits : Nat) (exponent : Int) : Binary64 :=
  let magnitude := (digitCount digits : Int) + exponent
  if digits = 0 then .finite negative 0
  else if magnitude > 320 then .infinite negative
  else if magnitude < -330 then .finite negative 0
  else if exponent < 0 then ofRatio negative digits (powerOfTen exponent.natAbs)
  else ofRatio negative (digits * powerOfTen exponent.natAbs) 1

end Binary64

end FormEngine
