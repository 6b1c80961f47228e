import FormEngine.Json.Reader
import FormEngine.Json.Writer

set_option autoImplicit false

namespace FormEngine

namespace Json

def glyphs (cs : List Char) : Source := cs.map .char

end Json

def Binary64.reread (x : Binary64) : Binary64 :=
  match Json.readNumber .document (Json.glyphs (Json.numberText x)) with
  | .ok (.float y, _) => y
  | _ => .nan

namespace Value

mutual
def reread : Value → Value
  | .float x => if x.isFinite then .float x.reread else .null
  | .list items => .list (rereadItems items)
  | .object entries => .object (Keyed.putAll [] (rereadEntries entries))
  | value => value
def rereadItems : List Value → List Value
  | [] => []
  | item :: rest => reread item :: rereadItems rest
def rereadEntries : List (String × Value) → List (String × Value)
  | [] => []
  | (key, value) :: rest => (key, reread value) :: rereadEntries rest
end

mutual
-- Whether a reader that allows values to nest so deep takes the document of a value: lists and objects count for as
-- long as something is in them, and whole numbers must not have too many digits.
def fits (depth : Nat) : Value → Bool
  | .int n => Binary64.digitCount n.natAbs ≤ Json.digitLimit
  | .list items => items.isEmpty || (0 < depth && fitItems (depth - 1) items)
  | .object entries => entries.isEmpty || (0 < depth && fitEntries (depth - 1) entries)
  | _ => true
def fitItems (depth : Nat) : List Value → Bool
  | [] => true
  | item :: rest => fits depth item && fitItems depth rest
def fitEntries (depth : Nat) : List (String × Value) → Bool
  | [] => true
  | (_, value) :: rest => fits depth value && fitEntries depth rest
end

end Value

end FormEngine
