import FormEngine.Data.Finite
import FormEngine.Schema.Form

set_option autoImplicit false

namespace FormEngine

def Rules.bounds (r : Rules) : List Binary64 := r.min.toList ++ r.max.toList

def Currency.bounds (c : Currency) : List Binary64 := c.min.toList ++ c.max.toList

def Scale.bounds (s : Scale) : List Binary64 := s.min :: s.max :: s.step.toList

def Basics.bounds (b : Basics) : List Binary64 := b.rules.toList.flatMap Rules.bounds

namespace Node

def bounds : Node → List Binary64
  | .field f => f.toBasics.bounds ++ f.currency.toList.flatMap Currency.bounds ++ f.scale.toList.flatMap Scale.bounds
  | .group g _ => g.toBasics.bounds

def compared? : Node → Option Value
  | .field _ => none
  | .group g _ => g.condition.map Condition.value

def BoundsFinite (nodes : List Node) : Prop := ∀ n ∈ nodesOf nodes, ∀ x ∈ n.bounds, x.isFinite = true

def ComparedFinite (nodes : List Node) : Prop := ∀ n ∈ nodesOf nodes, ∀ v ∈ n.compared?, v.isFinite = true

instance (nodes : List Node) : Decidable (BoundsFinite nodes) :=
  inferInstanceAs (Decidable (∀ n ∈ nodesOf nodes, ∀ x ∈ n.bounds, x.isFinite = true))

instance (nodes : List Node) : Decidable (ComparedFinite nodes) :=
  inferInstanceAs (Decidable (∀ n ∈ nodesOf nodes, ∀ v ∈ n.compared?, v.isFinite = true))

theorem bounds_finite_field (f : Field) (rest : List Node) :
    BoundsFinite (.field f :: rest) ↔ (∀ x ∈ bounds (.field f), x.isFinite = true) ∧ BoundsFinite rest := by
  rw [BoundsFinite, nodesOf, nodes, List.singleton_append, List.forall_mem_cons]
  rfl

theorem bounds_finite_group (g : Group) (children rest : List Node) :
    BoundsFinite (.group g children :: rest) ↔
      (∀ x ∈ g.toBasics.bounds, x.isFinite = true) ∧ BoundsFinite children ∧ BoundsFinite rest := by
  rw [BoundsFinite, nodesOf, nodes, List.forall_mem_append, List.forall_mem_cons, and_assoc]
  rfl

end Node

end FormEngine
