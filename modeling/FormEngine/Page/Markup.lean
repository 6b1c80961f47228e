set_option autoImplicit false

namespace FormEngine

inductive Tag where
  | html | head | title | body | div | h1 | h2 | h3 | form | button | fieldset | legend | label | span | p | table
  | thead | tbody | tr | th | td | textarea | select | option | input | hr
deriving DecidableEq

def Tag.name : Tag → String
  | .html => "html"
  | .head => "head"
  | .title => "title"
  | .body => "body"
  | .div => "div"
  | .h1 => "h1"
  | .h2 => "h2"
  | .h3 => "h3"
  | .form => "form"
  | .button => "button"
  | .fieldset => "fieldset"
  | .legend => "legend"
  | .label => "label"
  | .span => "span"
  | .p => "p"
  | .table => "table"
  | .thead => "thead"
  | .tbody => "tbody"
  | .tr => "tr"
  | .th => "th"
  | .td => "td"
  | .textarea => "textarea"
  | .select => "select"
  | .option => "option"
  | .input => "input"
  | .hr => "hr"

inductive AttributeName where
  | id | controlName | type | value | classes | role | labelFor | min | max | step | inputmode | placeholder | checked | selected
  | required | disabled | novalidate | mask | currency | fieldId | fieldType | status | testId
deriving DecidableEq

namespace AttributeName

def text : AttributeName → String
  | .id => "id"
  | .controlName => "name"
  | .type => "type"
  | .value => "value"
  | .classes => "class"
  | .role => "role"
  | .labelFor => "for"
  | .min => "min"
  | .max => "max"
  | .step => "step"
  | .inputmode => "inputmode"
  | .placeholder => "placeholder"
  | .checked => "checked"
  | .selected => "selected"
  | .required => "required"
  | .disabled => "disabled"
  | .novalidate => "novalidate"
  | .mask => "data-mask"
  | .currency => "data-currency"
  | .fieldId => "data-field-id"
  | .fieldType => "data-type"
  | .status => "data-status"
  | .testId => "data-testid"

end AttributeName

inductive Attribute where
  | value (name : AttributeName) (text : String)
  | flag (name : AttributeName)
deriving DecidableEq

def Attribute.name : Attribute → AttributeName
  | .value name _ => name
  | .flag name => name

inductive Sign where
  | ellipsis
  | dash
deriving DecidableEq

def Sign.name : Sign → String
  | .ellipsis => "hellip"
  | .dash => "mdash"

inductive Markup where
  | text (s : String)
  | sign (s : Sign)
  | style (rules : String)
  | element (tag : Tag) (attributes : List Attribute) (children : List Markup)
  | void (tag : Tag) (attributes : List Attribute)

namespace Markup

def escapeChar (c : Char) : List Char :=
  if c = '&' then "&amp;".toList
  else if c = '<' then "&lt;".toList
  else if c = '>' then "&gt;".toList
  else if c = '"' then "&quot;".toList
  else if c = '\'' then "&#x27;".toList
  else [c]

def escape (s : String) : List Char := s.toList.flatMap escapeChar

def attributeText : Attribute → List Char
  | .value name s => ' ' :: name.text.toList ++ '=' :: '"' :: escape s ++ ['"']
  | .flag name => ' ' :: name.text.toList

def opening (tag : Tag) (attributes : List Attribute) : List Char :=
  '<' :: tag.name.toList ++ attributes.flatMap attributeText

def closing (tag : Tag) : List Char := '<' :: '/' :: tag.name.toList ++ ['>']

mutual
def print : Markup → List Char
  | .text s => escape s
  | .sign s => '&' :: s.name.toList ++ [';']
  | .style rules => "<style>".toList ++ rules.toList ++ "</style>".toList
  | .element tag attributes children => opening tag attributes ++ '>' :: printAll children ++ closing tag
  | .void tag attributes => opening tag attributes ++ " />".toList
def printAll : List Markup → List Char
  | [] => []
  | m :: rest => print m ++ printAll rest
end

def document (m : Markup) : String := "<!DOCTYPE html>" ++ String.ofList m.print

end Markup

def Attribute.flagIf (name : AttributeName) (applies : Bool) : List Attribute := if applies then [.flag name] else []

def Attribute.given (name : AttributeName) (text : Option String) : List Attribute :=
  match text.filter (· != "") with
  | some s => [.value name s]
  | none => []

end FormEngine
