import FormEngine.Service.Exchange

set_option autoImplicit false

namespace FormEngine

namespace Value

mutual
theorem finite_sendable : (v : Value) → v.sendable.finiteOnly = v.finiteOnly.sendable
  | .null | .bool _ | .int _ | .text _ => rfl
  | .float x => by
      by_cases finite : x.isFinite <;> simp [sendable, finiteOnly, finite]
  | .list items => by
      rw [sendable, finiteOnly, finiteOnly, sendable, finite_sendable_items items]
  | .object entries => by
      rw [sendable, finiteOnly, finiteOnly, sendable, finite_sendable_entries entries]
theorem finite_sendable_items : (items : List Value) → finiteItems (sendableItems items) = sendableItems (finiteItems items)
  | [] => rfl
  | item :: rest => by
      simp only [sendableItems, finiteItems, finite_sendable item, finite_sendable_items rest]
theorem finite_sendable_entries :
    (entries : List (String × Value)) → finiteEntries (sendableEntries entries) = sendableEntries (finiteEntries entries)
  | [] => rfl
  | (key, value) :: rest => by
      by_cases reserved : isReserved key = true
      · simp only [sendableEntries, finiteEntries, reserved, if_true, finite_sendable_entries rest]
      · simp only [sendableEntries, finiteEntries, if_neg reserved, finite_sendable value, finite_sendable_entries rest]
end

theorem sendable_finite (v : Value) (finite : v.isFinite = true) : v.sendable.isFinite = true := by
  rw [isFinite, beq_iff_eq] at finite ⊢
  rw [finite_sendable, finite]

def member? : Value → String → Option Value
  | .object entries, key => Keyed.value? entries key
  | _, _ => none

theorem sendable_members (entries : List (String × Value)) (free : ∀ e ∈ entries, isReserved e.1 = false) :
    sendableEntries entries = Keyed.mapValues sendable entries := by
  induction entries with
  | nil => rfl
  | cons e rest ih =>
      rcases e with ⟨key, value⟩
      have here : ¬ isReserved key = true := by simp [free (key, value) List.mem_cons_self]
      rw [sendableEntries, if_neg here, ih fun e member => free e (List.mem_cons_of_mem _ member)]
      rfl

theorem finite_members (entries : List (String × Value)) : finiteEntries entries = Keyed.mapValues finiteOnly entries := by
  induction entries with
  | nil => rfl
  | cons e rest ih =>
      rw [finiteEntries, ih]
      rfl

variable {α : Type} (plain : α → Value)

def unreserved (m : Keyed α) : Keyed Value := Keyed.mapValues plain (m.filter (!isReserved ·.1))

theorem sendable_plain (simple : ∀ x, (plain x).sendable = plain x) (m : Keyed α) :
    sendableEntries (Keyed.mapValues plain m) = unreserved plain m := by
  induction m with
  | nil => rfl
  | cons e rest ih =>
      simp only [unreserved, Keyed.mapValues, List.map_cons, sendableEntries, List.filter_cons, simple] at ih ⊢
      cases isReserved e.1 <;> simp [ih]

theorem unreserved_all_iff (m : Keyed α) :
    unreserved plain m = Keyed.mapValues plain m ↔ ∀ key ∈ Keyed.names m, isReserved key = false := by
  constructor
  · intro same key member
    obtain ⟨e, here, rfl⟩ := List.mem_map.mp member
    have length := congrArg List.length same
    simp only [unreserved, Keyed.mapValues, List.length_map] at length
    have kept := List.length_filter_eq_length_iff.mp length e here
    simpa using kept
  · intro all
    rw [unreserved, List.filter_eq_self.mpr]
    intro e member
    simp [all e.1 (List.mem_map_of_mem member)]

theorem finite_plain (simple : ∀ x, (plain x).finiteOnly = plain x) (m : Keyed α) :
    finiteEntries (Keyed.mapValues plain m) = Keyed.mapValues plain m := by
  rw [finite_members]
  simp [Keyed.mapValues, simple]

end Value

namespace Response

def member? (r : Response) (path : List String) : Option Value :=
  match r with
  | .json _ content => path.foldl (fun found key => found.bind (·.member? key)) (some content)
  | .text _ _ => none

theorem reply_finite (status : Nat) (content : Value) (finite : content.isFinite = true) :
    reply status content = .json status content := if_pos finite

end Response

end FormEngine
