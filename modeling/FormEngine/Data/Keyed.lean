set_option autoImplicit false

namespace FormEngine

universe u v

-- Pairs of a name and a value; of two pairs with one name the first counts.
abbrev Keyed (α : Type u) := List (String × α)

namespace Keyed

def value? {α : Type u} : Keyed α → String → Option α
  | [], _ => none
  | (key, value) :: rest, wanted => if key = wanted then some value else Keyed.value? rest wanted

def has {α : Type u} (entries : Keyed α) (key : String) : Bool := (Keyed.value? entries key).isSome

-- Gives a name a value: a name already there keeps its place, a new one comes last.
def put {α : Type u} : Keyed α → String → α → Keyed α
  | [], key, value => [(key, value)]
  | (old, before) :: rest, key, value =>
      if old = key then (key, value) :: rest else (old, before) :: Keyed.put rest key value

def putNew {α : Type u} (entries : Keyed α) (key : String) (value : α) : Keyed α :=
  if Keyed.has entries key then entries else Keyed.put entries key value

def putAll {α : Type u} (entries extra : Keyed α) : Keyed α :=
  extra.foldl (fun all entry => Keyed.put all entry.1 entry.2) entries

def without {α : Type u} (entries : Keyed α) (key : String) : Keyed α := entries.filter (·.1 != key)

def names {α : Type u} (entries : Keyed α) : List String := entries.map (·.1)

def mapValues {α : Type u} {β : Type v} (f : α → β) (entries : Keyed α) : Keyed β := entries.map fun e => (e.1, f e.2)

variable {α : Type u}

@[simp] theorem value?_nil (wanted : String) : Keyed.value? ([] : Keyed α) wanted = none := rfl

theorem value?_cons (key : String) (value : α) (rest : Keyed α) (wanted : String) :
    Keyed.value? ((key, value) :: rest) wanted = if key = wanted then some value else Keyed.value? rest wanted := rfl

theorem value?_put (entries : Keyed α) (key : String) (value : α) (wanted : String) :
    Keyed.value? (Keyed.put entries key value) wanted = if key = wanted then some value else Keyed.value? entries wanted := by
  induction entries with
  | nil => rfl
  | cons entry rest ih =>
      rcases entry with ⟨old, before⟩
      by_cases same : old = key
      · subst same
        simp only [Keyed.put, if_pos, value?_cons]
        split <;> rfl
      · simp only [Keyed.put, if_neg same, value?_cons, ih]
        by_cases found : old = wanted
        · simp [found, show ¬ key = wanted from fun h => same (found.trans h.symm)]
        · simp [found]

@[simp] theorem value?_put_self (entries : Keyed α) (key : String) (value : α) :
    Keyed.value? (Keyed.put entries key value) key = some value := by
  simp [value?_put]

theorem value?_put_of_ne (entries : Keyed α) {key wanted : String} (value : α) (different : key ≠ wanted) :
    Keyed.value? (Keyed.put entries key value) wanted = Keyed.value? entries wanted := by
  simp [value?_put, different]

theorem has_iff_mem_names (entries : Keyed α) (key : String) : Keyed.has entries key = true ↔ key ∈ names entries := by
  induction entries with
  | nil => simp [Keyed.has, names]
  | cons entry rest ih =>
      rcases entry with ⟨old, before⟩
      simp only [Keyed.has, names, value?_cons, List.map_cons, List.mem_cons] at ih ⊢
      by_cases same : old = key
      · simp [same]
      · simp only [if_neg same, ih]
        constructor
        · exact Or.inr
        · rintro (h | h)
          · exact absurd h.symm same
          · exact h

theorem mem_names_iff (entries : Keyed α) (key : String) :
    key ∈ names entries ↔ ∃ value, Keyed.value? entries key = some value := by
  rw [← has_iff_mem_names, Keyed.has, Option.isSome_iff_exists]

theorem names_put (entries : Keyed α) (key : String) (value : α) :
    names (Keyed.put entries key value) = if Keyed.has entries key then names entries else names entries ++ [key] := by
  induction entries with
  | nil => rfl
  | cons entry rest ih =>
      rcases entry with ⟨old, before⟩
      by_cases same : old = key
      · simp [Keyed.put, names, Keyed.has, value?_cons, same]
      · simp only [names, Keyed.has] at ih
        simp only [Keyed.put, names, Keyed.has, value?_cons, if_neg same, List.map_cons, ih]
        by_cases present : (Keyed.value? rest key).isSome <;> simp [present]

theorem nodup_put {entries : Keyed α} (distinct : (names entries).Nodup) (key : String) (value : α) :
    (names (Keyed.put entries key value)).Nodup := by
  rw [names_put]
  split
  · exact distinct
  · rename_i absent
    rw [has_iff_mem_names] at absent
    refine List.nodup_append.mpr ⟨distinct, List.pairwise_singleton _ _, fun name member other last same => absent ?_⟩
    rw [← List.mem_singleton.mp last, ← same]
    exact member

theorem value?_putNew (entries : Keyed α) (key : String) (value : α) (wanted : String) :
    Keyed.value? (putNew entries key value) wanted
      = (Keyed.value? entries wanted).or (if key = wanted then some value else none) := by
  rw [putNew]
  by_cases found : Keyed.has entries key
  · rw [if_pos found]
    by_cases same : key = wanted
    · subst same
      cases h : Keyed.value? entries key with
      | none => simp [Keyed.has, h] at found
      | some x => rfl
    · simp [same]
  · rw [if_neg found, value?_put]
    by_cases same : key = wanted
    · subst same
      simp only [Keyed.has, Bool.not_eq_true, Option.isSome_eq_false_iff, Option.isNone_iff_eq_none] at found
      simp [found]
    · simp [same]

theorem value?_without (entries : Keyed α) (key wanted : String) :
    Keyed.value? (without entries key) wanted = if key = wanted then none else Keyed.value? entries wanted := by
  induction entries with
  | nil => simp [without]
  | cons entry rest ih =>
      rcases entry with ⟨old, before⟩
      simp only [without, List.filter_cons, bne_iff_ne, ne_eq] at ih ⊢
      by_cases dropped : old = key
      · simp only [dropped, not_true_eq_false, if_false, ih, value?_cons]
        split <;> rfl
      · simp only [dropped, not_false_eq_true, if_true, value?_cons, ih]
        by_cases found : old = wanted
        · simp [found, show ¬ key = wanted from fun h => dropped (found.trans h.symm)]
        · simp [found]

theorem nodup_without {entries : Keyed α} (distinct : (names entries).Nodup) (key : String) :
    (names (without entries key)).Nodup :=
  distinct.sublist (List.filter_sublist.map Prod.fst)

theorem put_of_absent (entries : Keyed α) (key : String) (value : α) (absent : key ∉ names entries) :
    Keyed.put entries key value = entries ++ [(key, value)] := by
  induction entries with
  | nil => rfl
  | cons entry rest ih =>
      rcases entry with ⟨old, before⟩
      simp only [names, List.map_cons, List.mem_cons, not_or] at absent ih
      simp [Keyed.put, show ¬ old = key from fun h => absent.1 h.symm, ih absent.2]

theorem put_ne_nil (entries : Keyed α) (key : String) (value : α) : Keyed.put entries key value ≠ [] := by
  cases entries with
  | nil => exact List.cons_ne_nil _ _
  | cons entry rest =>
      rw [Keyed.put]
      split <;> exact List.cons_ne_nil _ _

theorem mem_of_value? {entries : Keyed α} {key : String} {value : α} (found : Keyed.value? entries key = some value) :
    (key, value) ∈ entries := by
  induction entries with
  | nil => cases found
  | cons entry rest ih =>
      rcases entry with ⟨old, before⟩
      rw [value?_cons] at found
      split at found
      · rename_i same
        cases found
        exact same ▸ List.mem_cons_self
      · exact List.mem_cons_of_mem _ (ih found)

theorem value?_of_mem {entries : Keyed α} {key : String} {value : α} (distinct : (names entries).Nodup)
    (member : (key, value) ∈ entries) : Keyed.value? entries key = some value := by
  induction entries with
  | nil => cases member
  | cons entry rest ih =>
      rcases entry with ⟨old, before⟩
      simp only [names, List.map_cons, List.nodup_cons] at distinct ih
      rw [value?_cons]
      rcases List.mem_cons.mp member with same | later
      · cases same
        exact if_pos rfl
      · have different : old ≠ key := fun same => distinct.1 (same ▸ List.mem_map_of_mem later)
        rw [if_neg different]
        exact ih distinct.2 later

theorem putAll_of_fresh (entries extra : Keyed α) (fresh : (names (entries ++ extra)).Nodup) :
    putAll entries extra = entries ++ extra := by
  induction extra generalizing entries with
  | nil => simp [putAll]
  | cons entry rest ih =>
      have absent : entry.1 ∉ names entries := by
        intro present
        simp only [names, List.map_append, List.map_cons] at fresh present
        exact (List.nodup_append.mp fresh).2.2 _ present _ List.mem_cons_self rfl
      have later := ih (entries ++ [entry]) (by simpa using fresh)
      simp only [putAll, List.foldl_cons] at later ⊢
      rw [put_of_absent entries entry.1 entry.2 absent, later]
      simp

theorem value?_putAll (entries extra : Keyed α) (distinct : (names extra).Nodup) (wanted : String) :
    Keyed.value? (putAll entries extra) wanted = (Keyed.value? extra wanted).or (Keyed.value? entries wanted) := by
  induction extra generalizing entries with
  | nil => rfl
  | cons entry rest ih =>
      rcases entry with ⟨key, value⟩
      simp only [names, List.map_cons, List.nodup_cons] at distinct
      have later := ih (Keyed.put entries key value) distinct.2
      simp only [putAll, List.foldl_cons] at later ⊢
      rw [later, value?_cons, value?_put]
      by_cases same : key = wanted
      · have absent : Keyed.value? rest wanted = none := by
          cases found : Keyed.value? rest wanted with
          | none => rfl
          | some x => exact absurd ((mem_names_iff rest key).mpr ⟨x, same ▸ found⟩) distinct.1
        rw [if_pos same, if_pos same, absent]
        rfl
      · rw [if_neg same, if_neg same]

end Keyed

end FormEngine
