import FormEngine.Page.Markup
import FormEngine.Schema.Form

set_option autoImplicit false

namespace FormEngine.Field

def identity (f : Field) : List Attribute := [.value .id f.id, .value .controlName f.id]

def hint (f : Field) : List Attribute := Attribute.given .placeholder f.placeholder

def mandatory (f : Field) : List Attribute := Attribute.flagIf .required f.required

def textareaControl (f : Field) (v : Value) : Markup :=
  .element .textarea (f.identity ++ f.hint ++ f.mandatory) [.text v.asText]

def boxControl (f : Field) (v : Value) : Markup :=
  .void .input (f.identity ++ [.value .type "checkbox"]
    ++ (if f.kind = .switch then [.value .role "switch"] else [])
    ++ Attribute.flagIf .checked v.toBool ++ f.mandatory)

def radioChoice (f : Field) (v : Value) (index : Nat) (c : Choice) : Markup :=
  .element .label []
    [.void .input ([.value .id (f.id ++ "-" ++ toString index), .value .controlName f.id, .value .type "radio",
       .value .value c.value] ++ Attribute.flagIf .checked (v.asText == c.value)),
     .text (" " ++ c.label)]

def radioControl (f : Field) (v : Value) : Markup :=
  .element .div [.value .classes "radio-group", .value .id f.id]
    ((f.choices.getD []).mapIdx (f.radioChoice v))

def selectChoice (v : Value) (c : Choice) : Markup :=
  .element .option (.value .value c.value :: Attribute.flagIf .selected (v.asText == c.value)) [.text c.label]

def selectControl (f : Field) (v : Value) : Markup :=
  .element .select (f.identity ++ f.mandatory)
    (.element .option [.value .value ""] [.sign .dash] :: (f.choices.getD []).map (selectChoice v))

def numberText (x : Binary64) : String := (Value.float x).asText

def scaleAttributes (s : Scale) : List Attribute :=
  [.value .min (numberText s.min), .value .max (numberText s.max)]
    ++ (match s.step with
        | some step => [.value .step (numberText step)]
        | none => [])

def rangeControl (f : Field) (v : Value) : Markup :=
  .void .input (f.identity ++ [.value .type "range", .value .value v.asText]
    ++ (f.scale.map scaleAttributes).getD [])

def inputType : FieldKind → String
  | .email => "email"
  | .number => "number"
  | .date => "date"
  | _ => "text"

def inputDetails (f : Field) : List Attribute :=
  match f.kind with
  | .masked => Attribute.given .mask f.mask
  | .currency =>
      match f.currency with
      | some c => [.value .inputmode "decimal", .value .currency c.code]
      | none => []
  | _ => []

def inputControl (f : Field) (v : Value) : Markup :=
  .void .input (f.identity ++ [.value .type (inputType f.kind), .value .value v.asText] ++ f.hint ++ f.inputDetails
    ++ f.mandatory)

def control (f : Field) (v : Value) : Markup :=
  match f.kind with
  | .textarea => f.textareaControl v
  | .checkbox | .switch => f.boxControl v
  | .radio => f.radioControl v
  | .select => f.selectControl v
  | .range => f.rangeControl v
  | _ => f.inputControl v

end FormEngine.Field
