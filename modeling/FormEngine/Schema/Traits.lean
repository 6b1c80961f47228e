import FormEngine.Schema.Decode

set_option autoImplicit false

namespace FormEngine

open Reading

-- A trait that has no fallback has to be given.
structure Trait (α : Type) where
  name : String
  Content : Type
  fallback : Option Content
  read : Reader Content
  of : α → Content

namespace Trait

variable {α β : Type}

def via (f : β → α) (t : Trait α) : Trait β := { t with of := t.of ∘ f }

def readIn (t : Trait α) (origin : Origin) (found : Keyed Value) : Reading t.Content :=
  match t.fallback with
  | none => Reading.required origin found t.name t.name t.read
  | some content => Reading.optional origin found t.name t.name content t.read

end Trait

def Node.read : Reader Node := fun origin v => Node.readDeep (v.height + 1) origin v

def Basics.traits : List (Trait Basics) :=
  [⟨"id", String, none, text, Basics.id⟩, ⟨"name", Option String, some none, nullable text, Basics.name⟩,
   ⟨"label", String, some "", text, Basics.label⟩,
   ⟨"placeholder", Option String, some none, nullable text, Basics.placeholder⟩,
   ⟨"required", Bool, some false, bool, Basics.required⟩,
   ⟨"validation", Option Rules, some none, nullable Rules.read, Basics.rules⟩]

def Field.traits : List (Trait Field) :=
  Basics.traits.map (Trait.via Field.toBasics) ++
    [⟨"type", FieldKind, none, word FieldKind.ofName? (inQuotes FieldKind.names), Field.kind⟩,
     ⟨"options", Option (List Choice), some none, nullable (list Choice.read), Field.choices⟩,
     ⟨"table", Option TableApi, some none, nullable TableApi.readTable, Field.table⟩,
     ⟨"mask", Option String, some none, nullable text, Field.mask⟩,
     ⟨"currency", Option Currency, some none, nullable Currency.read, Field.currency⟩,
     ⟨"range", Option Scale, some none, nullable Scale.read, Field.scale⟩,
     ⟨"tags", Option TagRules, some none, nullable TagRules.read, Field.tags⟩,
     ⟨"heading", Option Heading, some none, nullable Heading.read, Field.heading⟩]

def Group.traits : List (Trait (Group × List Node)) :=
  Basics.traits.map (Trait.via fun g => g.1.toBasics) ++
    [⟨"type", Unit, some (), word (fun name => if name = groupName then some () else none) (inQuotes [groupName]),
       fun _ => ()⟩,
     ⟨"children", List Node, some [], list Node.read, Prod.snd⟩,
     ⟨"condition", Option Condition, some none, nullable Condition.read, fun g => g.1.condition⟩]

end FormEngine
