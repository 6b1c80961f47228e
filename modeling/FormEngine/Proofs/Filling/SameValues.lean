import FormEngine.Proofs.Filling.Hidden

set_option autoImplicit false

namespace FormEngine

def SameValues (one two : Keyed Value) : Prop := ∀ key, Keyed.value? one key = Keyed.value? two key

namespace SameValues

variable {one two : Keyed Value}

theorem index_id (same : SameValues one two) {first second : Keyed Value} (before : SameValues first second)
    (n : Node) : SameValues (indexId one first n) (indexId two second n) := by
  intro key
  have named : named one n = named two n := congrArg n.basics.alias?.bind (funext same)
  rw [value_index_id, value_index_id, same n.id, named, before key]

theorem index_name (same : SameValues one two) {first second : Keyed Value} (before : SameValues first second)
    (n : Node) : SameValues (indexName one first n) (indexName two second n) := by
  intro key
  have lent : lends one key n = lends two key n := by rw [lends, lends, same n.id]
  rw [value_index_name, value_index_name, before key, lent]

theorem value_index (same : SameValues one two) (nodes : List Node) :
    SameValues (valueIndex nodes one) (valueIndex nodes two) := by
  have pass (add add' : Keyed Value → Node → Keyed Value)
      (step : ∀ {first second}, SameValues first second → ∀ n, SameValues (add first n) (add' second n)) :
      ∀ (all : List Node) {first second}, SameValues first second →
        SameValues (all.foldl add first) (all.foldl add' second) := by
    intro all
    induction all with
    | nil => exact id
    | cons n rest ih => exact fun before => ih (step before n)
  exact pass _ _ same.index_name _ (pass _ _ same.index_id _ same)

theorem holds (same : SameValues one two) (c : Condition) : c.holds one = c.holds two := by
  rw [Condition.holds, Condition.holds, same c.whenField]

theorem admits (same : SameValues one two) (n : Node) : n.admits one = n.admits two := by
  cases n with
  | field f => rfl
  | group g children =>
      simp only [Node.admits]
      cases g.condition with
      | none => rfl
      | some c => exact same.holds c

theorem marks (same : SameValues one two) (nodes : List Node) (shown : Bool) :
    Node.marksOf one shown nodes = Node.marksOf two shown nodes := by
  induction nodes using Node.forest_induction generalizing shown with
  | nil => rfl
  | field f rest ih => simp only [Node.marksOf, Node.marks, ih]
  | group g children rest ihChildren ihRest =>
      simp only [Node.marksOf, Node.marks, same.admits (.group g children), ihChildren, ihRest]

theorem visibility (same : SameValues one two) (nodes : List Node) : visibilityOf nodes one = visibilityOf nodes two := by
  rw [visibilityOf, visibilityOf, (same.value_index nodes).marks]

theorem outcome (same : SameValues one two) (nodes : List Node) (f : Field) :
    SameOutcome f (heldValue (valueIndex nodes one) f) (heldValue (valueIndex nodes two) f) := by
  rw [heldValue, heldValue, same.value_index nodes f.id]
  exact ⟨rfl, fun _ => rfl⟩

theorem errors (same : SameValues one two) (nodes : List Node) : validate nodes one = validate nodes two := by
  rw [validate, validate, validateShown, validateShown, same.visibility nodes]
  exact errors_of_same _ _ _ [] fun f _ => same.outcome nodes f

end SameValues

end FormEngine
