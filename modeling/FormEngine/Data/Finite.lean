import FormEngine.Data.Value

set_option autoImplicit false

namespace FormEngine.Value

mutual
def finiteOnly : Value → Value
  | .float x => if x.isFinite then .float x else .null
  | .list items => .list (finiteItems items)
  | .object entries => .object (finiteEntries entries)
  | value => value
def finiteItems : List Value → List Value
  | [] => []
  | item :: rest => finiteOnly item :: finiteItems rest
def finiteEntries : List (String × Value) → List (String × Value)
  | [] => []
  | (key, value) :: rest => (key, finiteOnly value) :: finiteEntries rest
end

def isFinite (value : Value) : Bool := value.finiteOnly == value

end FormEngine.Value
