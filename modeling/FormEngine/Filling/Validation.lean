import FormEngine.Filling.Calendar
import FormEngine.Filling.Visibility
import FormEngine.Pattern.Matcher
import FormEngine.Pattern.Reader

set_option autoImplicit false

namespace FormEngine

inductive Breakdown where
  | countTooLarge
  | settingClash
deriving DecidableEq

def Breakdown.message : Breakdown → String
  | .countTooLarge => "the repetition number is too large"
  | .settingClash => "ASCII and UNICODE flags are incompatible"

inductive Complaint where
  | missing (message : String)
  | email
  | number
  | tooSmall (bound : Binary64)
  | tooLarge (bound : Binary64)
  | option
  | date
  | mask
  | tooManyTags (limit : Int)
  | pattern
  | tooShort (limit : Int)
  | tooLong (limit : Int)
deriving DecidableEq

def Complaint.message : Complaint → String
  | .missing message => message
  | .email => "Enter a valid email address"
  | .number => "Enter a valid number"
  | .tooSmall bound => "Must be at least " ++ (Value.ofNumber bound).shown
  | .tooLarge bound => "Must be at most " ++ (Value.ofNumber bound).shown
  | .option => "Select one of the available options"
  | .date => "Enter a valid date (YYYY-MM-DD)"
  | .mask => "Value does not match the expected format"
  | .tooManyTags limit => "At most " ++ toString limit ++ " tags allowed"
  | .pattern => "Value does not match the expected pattern"
  | .tooShort limit => "Must be at least " ++ toString limit ++ " characters"
  | .tooLong limit => "Must be at most " ++ toString limit ++ " characters"

def isEmail (cs : List Char) : Bool :=
  match Numeral.splitAtChar '@' cs with
  | [name, domain] => !cs.any Text.isBlank && !name.isEmpty && ((domain.drop 1).dropLast).contains '.'
  | _ => false

def slotTakes (slot c : Char) : Bool :=
  if slot == '9' || slot == '#' then Text.isDigit c
  else if slot == 'a' || slot == 'A' then Text.isLetter c
  else if slot == '*' then Text.isAlphanumeric c
  else slot == c

def fitsMask : List Char → List Char → Bool
  | [], [] => true
  | slot :: mask, c :: cs => slotTakes slot c && fitsMask mask cs
  | _, _ => false

namespace Field

def isMissing (f : Field) (v : Value) : Bool := if f.kind.isBoolean then !v.toBool else v.isEmpty

def requiredMessage (f : Field) : String :=
  match (f.rules.bind Rules.requiredMessage).filter (· != "") with
  | some message => message
  | none => (if f.label = "" then f.id else f.label) ++ " is required"

def lowerBound (f : Field) : Option Binary64 :=
  (f.rules.bind Rules.min).or
    (match f.kind with
     | .currency => f.currency.bind Currency.min
     | .range => f.scale.map Scale.min
     | _ => none)

def upperBound (f : Field) : Option Binary64 :=
  (f.rules.bind Rules.max).or
    (match f.kind with
     | .currency => f.currency.bind Currency.max
     | .range => f.scale.map Scale.max
     | _ => none)

def numberComplaint (f : Field) (v : Value) : Option Complaint :=
  match v.toNumber with
  | none => some .number
  | some x =>
      match f.lowerBound.filter x.less, f.upperBound.filter (Binary64.less · x) with
      | some low, _ => some (.tooSmall low)
      | none, some high => some (.tooLarge high)
      | none, none => none

def offers (f : Field) (text : String) : Bool := (f.choices.getD []).any (·.value == text)

-- How many tags a value holds: the items of a list, or the pieces of its text that are not blank.
def tagCount (rules : TagRules) : Value → Nat
  | .list items => items.length
  | v =>
      let separator := (rules.separator.filter (· != "")).getD ","
      ((Text.pieces separator v.asText).filter (!Text.isBlankText ·)).length

def tagComplaint (f : Field) (v : Value) : Option Complaint := do
  let rules ← f.tags
  let limit ← rules.maxTags
  if limit != 0 && limit < tagCount rules v then some (.tooManyTags limit) else none

def kindComplaint (f : Field) (v : Value) : Option Complaint :=
  let trimmed := Text.trimBy Text.isBlank v.asText.toList
  match f.kind with
  | .email => if isEmail trimmed then none else some .email
  | .number | .currency | .range => f.numberComplaint v
  | .radio | .select => if (f.choices.getD []).isEmpty || f.offers v.asText then none else some .option
  | .date => if Calendar.isDate trimmed then none else some .date
  | .masked =>
      match f.mask.filter (· != "") with
      | some mask => if fitsMask mask.toList v.asText.toList then none else some .mask
      | none => none
  | .tags => f.tagComplaint v
  | _ => none

def patternAccepts (pattern text : String) : Except Breakdown Bool :=
  match Pattern.read pattern with
  | .ok e => .ok (e.occursIn text)
  | .error .malformed => .ok true
  | .error .countTooLarge => .error .countTooLarge
  | .error .settingClash => .error .settingClash

def lengthComplaint (rules : Rules) (text : String) : Option Complaint :=
  match rules.minLength.filter ((text.length : Int) < ·), rules.maxLength.filter (· < (text.length : Int)) with
  | some limit, _ => some (.tooShort limit)
  | none, some limit => some (.tooLong limit)
  | none, none => none

def ruleComplaint (f : Field) (v : Value) : Except Breakdown (Option Complaint) :=
  match f.rules with
  | none => .ok none
  | some rules => do
      let accepted ← match rules.pattern.filter (· != "") with
        | some pattern => patternAccepts pattern v.asText
        | none => .ok true
      return if accepted then lengthComplaint rules v.asText else some .pattern

def complaint (f : Field) (v : Value) : Except Breakdown (Option Complaint) :=
  if f.kind.displayOnly then .ok none
  else if f.isMissing v then .ok (if f.required then some (.missing f.requiredMessage) else none)
  else if f.kind.isBoolean then .ok none
  else match f.kindComplaint v with
    | some wrong => .ok (some wrong)
    | none => f.ruleComplaint v

end Field

def heldValue (index : Keyed Value) (f : Field) : Value := (Keyed.value? index f.id).getD .null

def complain (index : Keyed Value) (errors : Keyed String) (f : Field) : Except Breakdown (Keyed String) := do
  match ← f.complaint (heldValue index f) with
  | some wrong => return Keyed.put errors f.id wrong.message
  | none => return errors

def validateShown (nodes : List Node) (values : Keyed Value) (visibility : Keyed Bool) :
    Except Breakdown (Keyed String) :=
  (visibleFields nodes visibility).foldlM (complain (valueIndex nodes values)) []

def validate (nodes : List Node) (values : Keyed Value) : Except Breakdown (Keyed String) :=
  validateShown nodes values (visibilityOf nodes values)

end FormEngine
