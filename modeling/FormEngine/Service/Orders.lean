import FormEngine.Schema.Decode

set_option autoImplicit false

namespace FormEngine

open Reading

structure AddOrder where
  type : String
  parent : Option String

def AddOrder.read : Reader AddOrder := fun origin v => do
  let found ← entries "addition" v
  .ok AddOrder.mk
    |> feed (Reading.required origin found "type" "type"
        (word (fun name => if Node.tagNames.contains name then some name else none) (inQuotes Node.tagNames)))
    |> feed (Reading.optional origin found "parentId" "parent_id" none (nullable text))

structure MoveOrder where
  source : Place
  target : Place

def MoveOrder.read : Reader MoveOrder := fun origin v => do
  let found ← entries "move" v
  .ok MoveOrder.mk
    |> feed (Reading.required origin found "from" "source" Place.read)
    |> feed (Reading.required origin found "to" "target" Place.read)

def readOrder : Reader (List String) := fun origin v => do
  let found ← entries "order" v
  Reading.required origin found "order" "order" (list text)

def readTitle : Reader String := fun origin v => do
  let found ← entries "title" v
  Reading.required origin found "formTitle" "form_title" text

def readSelection : Reader (Option String) := fun origin v => do
  let found ← entries "selection" v
  Reading.optional origin found "id" "id" none (nullable text)

def readValues : Reader (Keyed Value) := fun origin v => do
  let found ← entries "values" v
  Reading.optional origin found "values" "values" [] (dictionary fun _ v => .ok v)

def readObject : Reader (Keyed Value) := dictionary fun _ v => .ok v

end FormEngine
