import FormEngine.Builder.Store

set_option autoImplicit false

namespace FormEngine

def Field.plain (id : String) (kind : FieldKind) (label : String) (required : Bool) (rules : Option Rules) : Field :=
  { id := id, name := none, label := label, placeholder := none, required := required, rules := rules, kind := kind,
    choices := none, table := none, mask := none, currency := none, scale := none, tags := none, heading := none }

def sampleForm : Form :=
  { title := "Driver registration",
    nodes :=
      [.field (.plain "name" .text "Name" true (some { Rules.unset with requiredMessage := some "Name is required" })),
       .field (.plain "age" .number "Age" false none),
       .group
         { id := "adult", name := none, label := "Adult details", placeholder := none, required := false, rules := none,
           condition := some ⟨"age", .greaterOrEqual, .int 18⟩ }
         [.field (.plain "license" .text "Driver License" true none)]] }

end FormEngine
