import FormEngine.Text.CharClass

set_option autoImplicit false

namespace FormEngine.Calendar

def isLeap (year : Nat) : Bool := year % 4 == 0 && (year % 100 != 0 || year % 400 == 0)

def daysIn (year month : Nat) : Nat :=
  if month = 2 then if isLeap year then 29 else 28
  else if month = 4 ∨ month = 6 ∨ month = 9 ∨ month = 11 then 30
  else 31

def isDay (year month day : Nat) : Bool := 1 ≤ year && 1 ≤ month && month ≤ 12 && 1 ≤ day && day ≤ daysIn year month

def value (digits : List Char) : Nat := digits.foldl (fun n c => n * 10 + (c.toNat - 48)) 0

def isDate : List Char → Bool
  | [a, b, c, d, '-', e, f, '-', g, h] =>
      [a, b, c, d, e, f, g, h].all Text.isAsciiDigit && isDay (value [a, b, c, d]) (value [e, f]) (value [g, h])
  | _ => false

end FormEngine.Calendar
