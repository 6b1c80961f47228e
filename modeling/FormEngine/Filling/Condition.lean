import FormEngine.Schema.Form

set_option autoImplicit false

namespace FormEngine

namespace Operator

def ordering? : Operator → Option (Binary64 → Binary64 → Bool)
  | .greaterThan => some fun x y => y.less x
  | .greaterOrEqual => some fun x y => y.lessOrSame x
  | .lessThan => some Binary64.less
  | .lessOrEqual => some Binary64.lessOrSame
  | _ => none

end Operator

namespace Value

def looselyEqual (current expected : Value) : Bool :=
  match current.toNumber, expected.toNumber with
  | some x, some y => x.same y
  | _, _ => current.asText == expected.asText

def containsText (current part : Value) : Bool := Text.occursIn part.asText.toList current.asText.toList

end Value

def Operator.compare (op : Operator) (current expected : Value) : Bool :=
  match op.ordering? with
  | some holds =>
      match current.toNumber, expected.toNumber with
      | some x, some y => holds x y
      | _, _ => false
  | none =>
      match op with
      | .equals => current.looselyEqual expected
      | .notEquals => !current.looselyEqual expected
      | .contains => current.containsText expected
      | _ => !current.containsText expected

def Condition.holds (c : Condition) (values : Keyed Value) : Bool :=
  match Keyed.value? values c.whenField with
  | none => false
  | some current => if current.isEmpty then false else c.operator.compare current c.value

end FormEngine
