import FormEngine.Number.Binary64

set_option autoImplicit false

namespace FormEngine.Binary64

structure Decimal where
  digits : Nat
  exponent : Int
deriving DecidableEq

-- The magnitudes that round to a number of so many units, both scaled by four. The ends belong to them when the last
-- binary digit is even; below a power of two the neighbours are twice as near.
structure Neighbourhood where
  low : Nat
  high : Nat
  closed : Bool

def neighbourhood (units : Nat) : Neighbourhood :=
  let grid := spacing units
  let below := if units / grid = powerOfTwo 52 ∧ 1 < grid then grid else 2 * grid
  ⟨4 * units - below, 4 * units + 2 * grid, (units / grid) % 2 == 0⟩

def tenfolds : Nat → Nat → Nat → Nat
  | 0, _, _ => 0
  | fuel + 1, numerator, denominator =>
      if denominator ≤ numerator then 0 else tenfolds fuel (numerator * 10) denominator + 1

def pointOf (units : Nat) : Int :=
  if one ≤ units then (digitCount (units / one) : Int) else 1 - (tenfolds 400 units one : Int)

-- Whether the decimal `digits` times ten to the power `exponent` rounds to the number.
def readsBack (around : Neighbourhood) (digits : Nat) (exponent : Int) : Bool :=
  let value := 4 * one * digits * powerOfTen exponent.toNat
  let scale := powerOfTen (-exponent).toNat
  if around.closed then around.low * scale ≤ value && value ≤ around.high * scale
  else around.low * scale < value && value < around.high * scale

def withDigits? (units : Nat) (point : Int) (count : Nat) : Option Decimal :=
  let exponent := point - count
  let numerator := units * powerOfTen (-exponent).toNat
  let denominator := one * powerOfTen exponent.toNat
  let below := numerator / denominator
  let around := neighbourhood units
  let nearest := roundDiv numerator denominator
  let other := if nearest = below then below + 1 else below
  if readsBack around nearest exponent then some ⟨nearest, exponent⟩
  else if readsBack around other exponent then some ⟨other, exponent⟩
  else none

def shortestFrom (units : Nat) (point : Int) : Nat → Nat → Decimal
  | 0, count => ⟨units * powerOfTen (count - point).toNat / (one * powerOfTen (point - count).toNat), point - count⟩
  | fuel + 1, count =>
      match withDigits? units point count with
      | some found => found
      | none => shortestFrom units point fuel (count + 1)

def shortest (units : Nat) : Decimal := shortestFrom units (pointOf units) 17 1

-- How a format lays digits out. Exponents from `plainFrom` up to but not including `plainUpTo` are written
-- positionally, with at least one digit on both sides of the point; others get a sign and `exponentWidth` digits.
structure Layout where
  plainFrom : Int
  plainUpTo : Int
  exponentWidth : Nat

def padLeft (width : Nat) (digits : List Char) : List Char :=
  List.replicate (width - digits.length) '0' ++ digits

def exponentText (width : Nat) (exponent : Int) : List Char :=
  (if exponent < 0 then '-' else '+') :: padLeft width (Nat.toDigits 10 exponent.natAbs)

def significant (digits : Nat) : List Char :=
  ((Nat.toDigits 10 digits).reverse.dropWhile (· == '0')).reverse

def layDigits (layout : Layout) (digits : List Char) (point : Int) : List Char :=
  let exponent := point - 1
  if layout.plainFrom ≤ exponent ∧ exponent < layout.plainUpTo then
    if point ≤ 0 then '0' :: '.' :: (List.replicate (-point).toNat '0' ++ digits)
    else
      let whole := digits.take point.toNat
      let rest := digits.drop point.toNat
      whole ++ List.replicate (point.toNat - whole.length) '0' ++ '.' :: (if rest.isEmpty then ['0'] else rest)
  else
    let head := digits.take 1
    let rest := digits.drop 1
    head ++ (if rest.isEmpty then [] else '.' :: rest) ++ 'e' :: exponentText layout.exponentWidth exponent

def magnitudeText (layout : Layout) (units : Nat) : List Char :=
  if units = 0 then ['0', '.', '0']
  else
    let found := shortest units
    layDigits layout (significant found.digits) (digitCount found.digits + found.exponent)

def finiteText (layout : Layout) (negative : Bool) (units : Nat) : String :=
  String.ofList ((if negative then ['-'] else []) ++ magnitudeText layout units)

def Layout.spoken : Layout := ⟨-4, 16, 2⟩

def Layout.exported : Layout := ⟨-5, 16, 1⟩

def text : Binary64 → String
  | .nan => "nan"
  | .infinite negative => if negative then "-inf" else "inf"
  | .finite negative units => finiteText .spoken negative units

end FormEngine.Binary64
