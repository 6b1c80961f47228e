import FormEngine.Data.Value

set_option autoImplicit false

namespace FormEngine.Value

mutual
def floats : Value → List Binary64
  | .float x => [x]
  | .list items => floatsOfItems items
  | .object entries => floatsOfEntries entries
  | _ => []
def floatsOfItems : List Value → List Binary64
  | [] => []
  | item :: rest => floats item ++ floatsOfItems rest
def floatsOfEntries : List (String × Value) → List Binary64
  | [] => []
  | (_, value) :: rest => floats value ++ floatsOfEntries rest
end

mutual
def distinctKeys : Value → Bool
  | .list items => distinctKeysOfItems items
  | .object entries => decide (Keyed.names entries).Nodup && distinctKeysOfEntries entries
  | _ => true
def distinctKeysOfItems : List Value → Bool
  | [] => true
  | item :: rest => distinctKeys item && distinctKeysOfItems rest
def distinctKeysOfEntries : List (String × Value) → Bool
  | [] => true
  | (_, value) :: rest => distinctKeys value && distinctKeysOfEntries rest
end

end FormEngine.Value
