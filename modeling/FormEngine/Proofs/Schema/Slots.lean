import FormEngine.Proofs.Json.Documents
import FormEngine.Schema.Transfer

set_option autoImplicit false

namespace FormEngine

open Reading

theorem to_option_below {α : Type} (step : Step) (x : Reading α) : (below step x).toOption = x.toOption := by
  cases x <;> rfl

theorem to_option_feed {α β : Type} (x : Reading α) (f : Reading (α → β)) :
    (feed x f).toOption = f.toOption.bind fun f => x.toOption.map f := by
  cases f <;> cases x <;> rfl

namespace Slot

structure Apart (slots : List Slot) : Prop where
  keys : (slots.map Slot.key).Nodup
  plain : ∀ s ∈ slots, ∀ t ∈ slots, t.key = s.plain → t.key = s.key
  safe : ∀ s ∈ slots, s.key.toList.head? ≠ some '_'

variable (t : Transfer) {slots : List Slot}

def entriesCarried (slots : List Slot) : List (String × Value) :=
  slots.filterMap fun slot => slot.value.map fun v => (slot.key, t.carry v)

theorem value_carried_absent {key : String} (absent : key ∉ slots.map Slot.key) :
    Keyed.value? (entriesCarried t slots) key = none := by
  induction slots with
  | nil => rfl
  | cons slot rest ih =>
      rw [List.map_cons, List.mem_cons, not_or] at absent
      rw [entriesCarried, List.filterMap_cons]
      cases slot.value with
      | none => exact ih absent.2
      | some v => exact (if_neg (Ne.symm absent.1)).trans (ih absent.2)

theorem value_carried (keys : (slots.map Slot.key).Nodup) {slot : Slot} (member : slot ∈ slots) :
    Keyed.value? (entriesCarried t slots) slot.key = slot.value.map t.carry := by
  induction slots with
  | nil => cases member
  | cons first rest ih =>
      rw [List.map_cons, List.nodup_cons] at keys
      rw [entriesCarried, List.filterMap_cons]
      rcases List.mem_cons.mp member with rfl | later
      · cases slot.value with
        | none => exact value_carried_absent t keys.1
        | some v => exact if_pos rfl
      · have other : first.key ≠ slot.key := fun same => keys.1 (same ▸ List.mem_map_of_mem later)
        cases first.value with
        | none => exact ih keys.2 later
        | some v => exact (if_neg other).trans (ih keys.2 later)

theorem attribute_carried (apart : Apart slots) {slot : Slot} (member : slot ∈ slots) :
    attribute? (entriesCarried t slots) slot.key slot.plain = slot.value.map t.carry := by
  rw [attribute?, value_carried t apart.keys member]
  cases found : slot.value with
  | some v => rfl
  | none =>
      by_cases known : slot.plain ∈ slots.map Slot.key
      · obtain ⟨other, there, same⟩ := List.mem_map.mp known
        rw [← same, apart.plain slot member other there same, value_carried t apart.keys member, found]
        rfl
      · exact value_carried_absent t known

theorem keys_written (slots : List Slot) :
    (Keyed.names (slots.filterMap fun slot => slot.value.map (slot.key, ·))).Sublist (slots.map Slot.key) := by
  induction slots with
  | nil => exact List.Sublist.slnil
  | cons slot rest ih =>
      rw [List.filterMap_cons]
      cases slot.value with
      | none => exact ih.cons _
      | some v => exact ih.cons_cons _

theorem record_carried (apart : Apart slots) :
    t.carry (Style.document.record slots) = .object (entriesCarried t slots) := by
  have names := keys_written slots
  rw [Style.record, t.record _ (apart.keys.sublist names)]
  · rw [Keyed.mapValues, List.map_filterMap, entriesCarried]
    simp only [Option.map_map]
    rfl
  · intro key member
    obtain ⟨slot, here, rfl⟩ := List.mem_map.mp (names.subset member)
    exact apart.safe slot here

def taken {α : Type} (read : Reader α) (fallback : Option α) : Option Value → Option α
  | none => fallback
  | some v => (read t.origin (t.carry v)).toOption

theorem optional_taken {α : Type} (apart : Apart slots) (n : Nat) {key plain : String} {value : Option Value}
    (there : slots[n]? = some ⟨key, plain, value⟩) (fallback : α) (read : Reader α) :
    (Reading.optional t.origin (entriesCarried t slots) key plain fallback read).toOption
      = taken t read (some fallback) value := by
  have found := attribute_carried t apart (List.mem_of_getElem? there)
  dsimp only at found
  rw [Reading.optional, found]
  cases value with
  | none => rfl
  | some v => exact to_option_below _ _

theorem required_taken {α : Type} (apart : Apart slots) (n : Nat) {key plain : String} {value : Option Value}
    (there : slots[n]? = some ⟨key, plain, value⟩) (read : Reader α) :
    (Reading.required t.origin (entriesCarried t slots) key plain read).toOption = taken t read none value := by
  have found := attribute_carried t apart (List.mem_of_getElem? there)
  dsimp only at found
  rw [Reading.required, found]
  cases value with
  | none => rfl
  | some v => exact to_option_below _ _

variable {α : Type}

theorem taken_text (fallback : Option String) (s : String) : taken t text fallback (some (.text s)) = some s := by
  rw [taken, t.text]
  rfl

theorem taken_bool (fallback : Option Bool) (b : Bool) : taken t bool fallback (some (.bool b)) = some b := by
  rw [taken, t.bool]
  rfl

theorem taken_texts (o : Option String) : taken t (nullable text) (some none) (o.map .text) = some o := by
  cases o with
  | none => rfl
  | some s =>
      rw [Option.map_some, taken, t.text]
      rfl

theorem taken_bools (o : Option Bool) : taken t (nullable bool) (some none) (o.map .bool) = some o := by
  cases o with
  | none => rfl
  | some b =>
      rw [Option.map_some, taken, t.bool]
      rfl

theorem taken_ints (o : Option Int) : taken t (nullable int) (some none) (o.map .int) = some o := by
  cases o with
  | none => rfl
  | some n =>
      rw [Option.map_some, taken, t.int]
      rfl

theorem taken_number (fallback : Option Binary64) (x : Binary64) :
    taken t number fallback (some (.float x)) = t.number x := by
  rw [taken, t.float]
  cases t.number x <;> rfl

theorem taken_numbers (o : Option Binary64) :
    taken t (nullable number) (some none) (o.map .float) = some (o.bind t.number) := by
  cases o with
  | none => rfl
  | some x =>
      rw [Option.map_some, taken, t.float, Option.bind_some]
      cases t.number x <;> rfl

theorem taken_records {β : Type} {read : Reader β} {slotsOf : α → List Slot} {arrived : α → Option β}
    (apart : ∀ a, Apart (slotsOf a))
    (reads : ∀ a, (read t.origin (t.carry (Style.document.record (slotsOf a)))).toOption = arrived a) (o : Option α) :
    taken t (nullable read) (some none) (o.map fun a => Style.document.record (slotsOf a)) =
      match o with
      | none => some none
      | some a => (arrived a).map some := by
  cases o with
  | none => rfl
  | some a =>
      have read := reads a
      rw [record_carried t (apart a)] at read
      simp only [taken, Option.map_some, record_carried t (apart a), nullable, to_option_map, read]

theorem taken_all_records {β : Type} {read : Reader β} {slotsOf : α → List Slot} {arrived : α → β}
    (apart : ∀ a, Apart (slotsOf a))
    (reads : ∀ a, (read t.origin (t.carry (Style.document.record (slotsOf a)))).toOption = some (arrived a))
    (o : Option α) :
    taken t (nullable read) (some none) (o.map fun a => Style.document.record (slotsOf a)) = some (o.map arrived) := by
  rw [taken_records t apart reads]
  cases o <;> rfl

end Slot

end FormEngine
