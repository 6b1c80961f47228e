import FormEngine.Filling.Condition
import FormEngine.Proofs.Number.Exact

set_option autoImplicit false

namespace FormEngine

def answer (values : Keyed Value) (key : String) (expected : Value) (op : Operator) : Bool :=
  Condition.holds ⟨key, op, expected⟩ values

def SetTo (values : Keyed Value) (key : String) (current : Value) : Prop :=
  Keyed.value? values key = some current ∧ current.isEmpty = false

def Operator.orderings : List Operator := [.greaterThan, .greaterOrEqual, .lessThan, .lessOrEqual]

theorem answer_set {values : Keyed Value} {key : String} {current : Value} (filled : SetTo values key current)
    (expected : Value) (op : Operator) : answer values key expected op = op.compare current expected := by
  simp only [answer, Condition.holds, filled.1, filled.2, Bool.false_eq_true, if_false]

theorem answer_unset {values : Keyed Value} {key : String} (unset : ∀ current, ¬ SetTo values key current)
    (expected : Value) (op : Operator) : answer values key expected op = false := by
  simp only [answer, Condition.holds]
  split
  · rfl
  · rename_i current found
    cases blank : current.isEmpty with
    | true => rfl
    | false => exact absurd ⟨found, blank⟩ (unset current)

namespace Value

theorem loosely_equal_self (v : Value) : v.looselyEqual v = true := by
  rw [looselyEqual]
  cases read : v.toNumber with
  | none => exact beq_self_eq_true v.asText
  | some x =>
      obtain ⟨size, sized⟩ := to_number_sized read
      simp [Binary64.same_sized sized sized]

theorem loosely_equal_symm (v w : Value) : v.looselyEqual w = w.looselyEqual v := by
  rw [looselyEqual, looselyEqual]
  cases left : v.toNumber with
  | none =>
      cases w.toNumber with
      | none => exact BEq.comm
      | some y => exact BEq.comm
  | some x =>
      cases right : w.toNumber with
      | none => exact BEq.comm
      | some y =>
          obtain ⟨a, first⟩ := to_number_sized left
          obtain ⟨b, second⟩ := to_number_sized right
          simp only [Binary64.same_sized first second, Binary64.same_sized second first, eq_comm]

end Value

namespace Operator

-- Between two numbers every comparison is one of their sizes.
structure BySize (current expected : Value) (a b : Int) : Prop where
  equals : equals.compare current expected = decide (a = b)
  lessThan : lessThan.compare current expected = decide (a < b)
  lessOrEqual : lessOrEqual.compare current expected = decide (a ≤ b)
  greaterThan : greaterThan.compare current expected = decide (b < a)
  greaterOrEqual : greaterOrEqual.compare current expected = decide (b ≤ a)

theorem compare_numbers {current expected : Value} {x y : Binary64} (left : current.toNumber = some x)
    (right : expected.toNumber = some y) :
    ∃ a b, BySize current expected a b ∧ BySize expected current b a := by
  have sided {v w : Value} {x y : Binary64} {a b : Int} (left : v.toNumber = some x) (right : w.toNumber = some y)
      (first : x.scaled? = some a) (second : y.scaled? = some b) : BySize v w a b := by
    constructor
    · simp only [compare, ordering?, Value.looselyEqual, left, right, Binary64.same_sized first second]
    · simp only [compare, ordering?, left, right, Binary64.less_sized first second]
    · simp only [compare, ordering?, left, right, Binary64.less_or_same_sized first second]
    · simp only [compare, ordering?, left, right, Binary64.less_sized second first]
    · simp only [compare, ordering?, left, right, Binary64.less_or_same_sized second first]
  obtain ⟨a, first⟩ := Value.to_number_sized left
  obtain ⟨b, second⟩ := Value.to_number_sized right
  exact ⟨a, b, sided left right first second, sided right left second first⟩

theorem compare_ordering {op : Operator} {holds : Binary64 → Binary64 → Bool} (ordered : op.ordering? = some holds)
    (current expected : Value) :
    op.compare current expected = match current.toNumber, expected.toNumber with
      | some x, some y => holds x y
      | _, _ => false := by
  cases op <;> cases ordered <;> rfl

theorem compare_unordered {current expected : Value} (apart : current.toNumber = none ∨ expected.toNumber = none)
    (op : Operator) (orders : op ∈ orderings) : op.compare current expected = false := by
  obtain ⟨holds, ordered⟩ : ∃ holds, op.ordering? = some holds := by
    simp only [orderings, List.mem_cons, List.not_mem_nil, or_false] at orders
    rcases orders with rfl | rfl | rfl | rfl <;> exact ⟨_, rfl⟩
  rw [compare_ordering ordered]
  rcases apart with missing | missing
  · rw [missing]
  · rw [missing]
    cases current.toNumber <;> rfl

end Operator

structure Coherent (current expected : Value) (answer : Operator → Bool) : Prop where
  notEquals : answer .notEquals = !answer .equals
  notContains : answer .notContains = !answer .contains
  same : current = expected → answer .equals = true
  oneOf : current.toNumber.isSome → expected.toNumber.isSome →
    [Operator.lessThan, .equals, .greaterThan].countP answer = 1
  lessOrEqual : current.toNumber.isSome → expected.toNumber.isSome →
    answer .lessOrEqual = (answer .lessThan || answer .equals)
  greaterOrEqual : current.toNumber.isSome → expected.toNumber.isSome →
    answer .greaterOrEqual = (answer .greaterThan || answer .equals)
  unordered : current.toNumber = none ∨ expected.toNumber = none → ∀ op ∈ Operator.orderings, answer op = false

structure Mirrored (one other : Operator → Bool) : Prop where
  equals : one .equals = other .equals
  lessThan : one .lessThan = other .greaterThan
  greaterThan : one .greaterThan = other .lessThan
  lessOrEqual : one .lessOrEqual = other .greaterOrEqual
  greaterOrEqual : one .greaterOrEqual = other .lessOrEqual

theorem compare_coherent (current expected : Value) : Coherent current expected (·.compare current expected) := by
  have ordered (left : current.toNumber.isSome) (right : expected.toNumber.isSome) :
      ∃ a b, Operator.BySize current expected a b := by
    obtain ⟨x, left⟩ := Option.isSome_iff_exists.mp left
    obtain ⟨y, right⟩ := Option.isSome_iff_exists.mp right
    obtain ⟨a, b, sizes, _⟩ := Operator.compare_numbers left right
    exact ⟨a, b, sizes⟩
  constructor
  · rfl
  · rfl
  · rintro rfl
    exact current.loosely_equal_self
  · intro left right
    obtain ⟨a, b, sizes⟩ := ordered left right
    simp only [List.countP_cons, List.countP_nil, sizes.lessThan, sizes.equals, sizes.greaterThan, decide_eq_true_eq]
    rcases Int.lt_trichotomy a b with less | same | more
    · simp [less, Int.ne_of_lt less, Int.lt_asymm less]
    · simp [same]
    · simp [more, Int.ne_of_gt more, Int.lt_asymm more]
  · intro left right
    obtain ⟨a, b, sizes⟩ := ordered left right
    simp only [sizes.lessOrEqual, sizes.lessThan, sizes.equals, ← Bool.decide_or, decide_eq_decide]
    omega
  · intro left right
    obtain ⟨a, b, sizes⟩ := ordered left right
    simp only [sizes.greaterOrEqual, sizes.greaterThan, sizes.equals, ← Bool.decide_or, decide_eq_decide]
    omega
  · exact fun apart op orders => Operator.compare_unordered apart op orders

theorem compare_mirrored (current expected : Value) :
    Mirrored (·.compare current expected) (·.compare expected current) := by
  have quiet (apart : current.toNumber = none ∨ expected.toNumber = none) (op other : Operator)
      (orders : op ∈ Operator.orderings) (orders' : other ∈ Operator.orderings) :
      op.compare current expected = other.compare expected current := by
    rw [Operator.compare_unordered apart op orders, Operator.compare_unordered apart.symm other orders']
  refine ⟨current.loosely_equal_symm expected, ?_, ?_, ?_, ?_⟩
  all_goals
    cases left : current.toNumber with
    | none => exact quiet (.inl left) _ _ (by decide) (by decide)
    | some x =>
        cases right : expected.toNumber with
        | none => exact quiet (.inr right) _ _ (by decide) (by decide)
        | some y =>
            obtain ⟨a, b, sizes, turned⟩ := Operator.compare_numbers left right
            simp only [sizes.lessThan, sizes.greaterThan, sizes.lessOrEqual, sizes.greaterOrEqual, turned.lessThan,
              turned.greaterThan, turned.lessOrEqual, turned.greaterOrEqual]

theorem operators_cohere (values : Keyed Value) (key : String) (expected : Value) :
    ((∀ current, ¬ SetTo values key current) → ∀ op, answer values key expected op = false) ∧
    ∀ current, SetTo values key current →
      Coherent current expected (answer values key expected) ∧
      ∀ (turned : Keyed Value) (other : String), SetTo turned other expected →
        Mirrored (answer values key expected) (answer turned other current) := by
  refine ⟨fun unset => answer_unset unset expected, fun current filled => ?_⟩
  have answers : answer values key expected = (·.compare current expected) := funext (answer_set filled expected)
  rw [answers]
  refine ⟨compare_coherent current expected, fun turned other filled' => ?_⟩
  have turnedAnswers : answer turned other current = (·.compare expected current) :=
    funext (answer_set filled' current)
  rw [turnedAnswers]
  exact compare_mirrored current expected

theorem comma_price_ordered :
    answer [("price", .text "1.234,50")] "price" (.int 1235) .lessOrEqual = true ∧
    answer [("cap", .int 1235)] "cap" (.text "1.234,50") .greaterThan = true ∧
    answer [("price", .text " ")] "price" (.int 1235) .notEquals = false := by
  obtain ⟨_, filled⟩ := operators_cohere [("price", .text "1.234,50")] "price" (.int 1235)
  obtain ⟨coherent, turned⟩ := filled (.text "1.234,50") ⟨rfl, by decide⟩
  have less : answer [("price", .text "1.234,50")] "price" (.int 1235) .lessThan = true := by decide +kernel
  refine ⟨?_, ?_, ?_⟩
  · rw [coherent.lessOrEqual (by decide +kernel) (by decide +kernel), less, Bool.true_or]
  · rw [← (turned [("cap", .int 1235)] "cap" ⟨rfl, rfl⟩).lessThan, less]
  · refine (operators_cohere [("price", .text " ")] "price" (.int 1235)).1 ?_ .notEquals
    rintro current ⟨found, filled⟩
    cases found
    revert filled
    decide

end FormEngine
