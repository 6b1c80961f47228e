import FormEngine.Data.Keyed

set_option autoImplicit false

namespace FormEngine.Keyed

universe u

variable {α : Type u}

def SameMap (a b : Keyed α) : Prop := ∀ key, Keyed.value? a key = Keyed.value? b key

theorem mem_iff_value (entries : Keyed α) (distinct : (names entries).Nodup) (key : String) (value : α) :
    (key, value) ∈ entries ↔ Keyed.value? entries key = some value :=
  ⟨value?_of_mem distinct, mem_of_value?⟩

theorem same_map_of_perm {a b : Keyed α} (distinct : (names a).Nodup) (perm : a.Perm b) : SameMap a b := by
  have distinctToo : (names b).Nodup := (perm.map Prod.fst).nodup_iff.mp distinct
  intro key
  apply Option.ext
  intro value
  rw [← mem_iff_value a distinct, ← mem_iff_value b distinctToo]
  exact perm.mem_iff

theorem same_map_put_all {a b : Keyed α} (distinct : (names a).Nodup) (perm : a.Perm b) :
    SameMap (putAll [] a) (putAll [] b) := by
  have distinctToo : (names b).Nodup := (perm.map Prod.fst).nodup_iff.mp distinct
  intro key
  rw [value?_putAll [] a distinct, value?_putAll [] b distinctToo, same_map_of_perm distinct perm key]

end FormEngine.Keyed
