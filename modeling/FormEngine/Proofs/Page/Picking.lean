import FormEngine.Page.Fragments
import FormEngine.Proofs.Page.Trees
import Mathlib.Data.List.Nodup

set_option autoImplicit false

namespace FormEngine

namespace Markup

def self (tag : Tag) (attributes : List Attribute) (children : List Markup) : Seen :=
  .element tag.name (attributes.map Attribute.seen) (seenAll children)

def picked (p : Seen → Bool) (l : List Markup) : List Seen := (Seen.elementsOf (seenAll l)).filter p

variable (p : Seen → Bool)

theorem elements_of_append (a b : List Seen) : Seen.elementsOf (a ++ b) = Seen.elementsOf a ++ Seen.elementsOf b := by
  induction a with
  | nil => rfl
  | cons s rest ih => rw [List.cons_append, Seen.elementsOf, ih, Seen.elementsOf, List.append_assoc]

theorem elements_of_chars (cs : List Char) : Seen.elementsOf (cs.map .char) = [] := by
  induction cs with
  | nil => rfl
  | cons c rest ih => rw [List.map_cons, Seen.elementsOf, Seen.elements, ih, List.append_nil]

theorem picked_cons (m : Markup) (rest : List Markup) : picked p (m :: rest) = picked p [m] ++ picked p rest := by
  simp [picked, seenAll, elements_of_append]

theorem picked_text (s : String) : picked p [.text s] = [] := by
  rw [picked, seenAll, seenAll, List.append_nil, seen, written, elements_of_chars, List.filter_nil]

theorem picked_element (tag : Tag) (attributes : List Attribute) (children : List Markup) :
    picked p [.element tag attributes children]
      = (if p (self tag attributes children) then [self tag attributes children] else []) ++ picked p children := by
  rw [picked, seenAll, seenAll, List.append_nil, seen, Seen.elementsOf, Seen.elementsOf, List.append_nil, Seen.elements,
    List.filter_cons, picked, self]
  split <;> rfl

theorem picked_void (tag : Tag) (attributes : List Attribute) :
    picked p [.void tag attributes] = if p (self tag attributes []) then [self tag attributes []] else [] :=
  (picked_element p tag attributes []).trans (List.append_nil _)

theorem picked_each (l : List Markup) : picked p l = l.flatMap fun m => picked p [m] := by
  induction l with
  | nil => rfl
  | cons m rest ih => rw [picked_cons, ih, List.flatMap_cons]

theorem picked_congr (q : Seen → Bool) (l : List Markup) (each : ∀ m ∈ l, picked p [m] = picked q [m]) :
    picked p l = picked q l := by
  rw [picked_each, picked_each q, List.flatMap_congr each]

theorem picked_none (l : List Markup) (each : ∀ m ∈ l, picked p [m] = []) : picked p l = [] := by
  rw [picked_each, List.flatMap_eq_nil_iff]
  exact each

theorem picked_map {α : Type} (m : α → Markup) (e : α → Seen) (xs : List α) (each : ∀ x ∈ xs, picked p [m x] = [e x]) :
    picked p (xs.map m) = xs.map e := by
  rw [picked_each, List.flatMap_map, List.flatMap_congr each, List.map_eq_flatMap]

theorem picked_self (tag : Tag) (attributes : List Attribute) (children : List Markup) :
    (self tag attributes children).elements.filter p = picked p [.element tag attributes children] := by
  rw [picked, seenAll, seenAll, List.append_nil, seen, Seen.elementsOf, Seen.elementsOf, List.append_nil, self]

end Markup

namespace AttributeName

def all : List AttributeName :=
  [.id, .controlName, .type, .value, .classes, .role, .labelFor, .min, .max, .step, .inputmode, .placeholder, .checked,
   .selected, .required, .disabled, .novalidate, .mask, .currency, .fieldId, .fieldType, .status, .testId]

theorem mem_all (a : AttributeName) : a ∈ all := by
  cases a <;> decide

theorem text_injective (a b : AttributeName) (same : a.text = b.text) : a = b := by
  have distinct : (all.map text).Nodup := by decide
  exact List.inj_on_of_nodup_map distinct (mem_all a) (mem_all b) same

end AttributeName

namespace Attribute

def lacks (name : AttributeName) (l : List Attribute) : Bool := l.all (·.name != name)

variable (name : AttributeName)

@[simp] theorem lacks_nil : lacks name [] = true := rfl

@[simp] theorem lacks_cons (a : Attribute) (rest : List Attribute) :
    lacks name (a :: rest) = (a.name != name && lacks name rest) := rfl

@[simp] theorem lacks_append (one two : List Attribute) : lacks name (one ++ two) = (lacks name one && lacks name two) :=
  List.all_append

@[simp] theorem lacks_given (other : AttributeName) (text : Option String) (different : other ≠ name) :
    lacks name (given other text) = true := by
  unfold given
  split
  · simp [Attribute.name, different]
  · rfl

@[simp] theorem lacks_flag (other : AttributeName) (applies : Bool) (different : other ≠ name) :
    lacks name (flagIf other applies) = true := by
  unfold flagIf
  split
  · simp [Attribute.name, different]
  · rfl

end Attribute

namespace Markup

variable (tag : Tag) (name : AttributeName) (children : List Markup)

theorem attribute_later (a : Attribute) (attributes : List Attribute) (other : a.name ≠ name) :
    (self tag (a :: attributes) children).attribute? name.text = (self tag attributes children).attribute? name.text := by
  have different : a.seen.1 ≠ name.text := by
    cases a <;> exact fun same => other (AttributeName.text_injective _ _ same)
  rw [self, Seen.attribute?, List.map_cons, Keyed.value?, if_neg different, self, Seen.attribute?]

theorem attribute_absent (attributes : List Attribute) (absent : Attribute.lacks name attributes = true) :
    (self tag attributes children).attribute? name.text = none := by
  induction attributes with
  | nil => rfl
  | cons a rest ih =>
      rw [Attribute.lacks_cons, Bool.and_eq_true, bne_iff_ne] at absent
      rw [attribute_later tag name children a rest absent.1, ih absent.2]

theorem attribute_first (s : String) (attributes : List Attribute) :
    (self tag (.value name s :: attributes) children).attribute? name.text = some (escaped s) := by
  rw [self, Seen.attribute?, List.map_cons, Attribute.seen, Keyed.value?, if_pos rfl]
  rfl

end Markup

end FormEngine
