import FormEngine.Tables.History
import Mathlib.Data.List.Induction

set_option autoImplicit false

namespace FormEngine

theorem fetch_outcome (api : TableApi) (patience : Value) (n : Network) :
    (api.fetch patience n).1.outcome = (api.exchange patience n).outcome := by
  rw [TableApi.fetch, TableApi.exchange]
  cases api.call? patience <;> rfl

theorem exchange_call (api : TableApi) (patience : Value) (n : Network) :
    (api.exchange patience n).map (·.1) = api.call? patience := by
  rw [TableApi.exchange]
  cases api.call? patience <;> rfl

theorem send_calls (n : Network) (call : Call) : (n.send call).2.calls = n.calls ++ [call] := by
  rw [Network.send]
  dsimp only
  split <;> rfl

theorem fetch_calls (api : TableApi) (patience : Value) (n : Network) :
    (api.fetch patience n).2.calls = n.calls ++ ((api.exchange patience n).map (·.1)).toList := by
  rw [exchange_call]
  rw [TableApi.fetch]
  cases api.call? patience with
  | none => simp
  | some call => simp [send_calls]

namespace TableNote

variable (notes : List TableNote) (note : TableNote) (field : String) (load : Nat)

@[simp] theorem standing_append : standing (notes ++ [note]) field = stand field (standing notes field) note := by
  simp [standing]

@[simp] theorem wanted_append : wanted (notes ++ [note]) field = want field (wanted notes field) note := by
  simp [wanted]

@[simp] theorem numbers_append (more : List TableNote) : numbers (notes ++ more) = numbers notes ++ numbers more := by
  simp [numbers]

@[simp] theorem fetches_append (more : List TableNote) :
    fetches (notes ++ more) load = fetches notes load ++ fetches more load := by
  simp [fetches]

@[simp] theorem calls_append (more : List TableNote) : calls (notes ++ more) = calls notes ++ calls more := by
  simp [calls]

theorem mem_numbers {notes : List TableNote} {load : Nat} {field : String} {api : TableApi}
    (begun : .begun load field api ∈ notes) : load ∈ numbers notes :=
  List.mem_filterMap.mpr ⟨_, begun, rfl⟩

theorem standing_begun {notes : List TableNote} {field : String} {load : Nat} {api : TableApi}
    (counts : standing notes field = some (load, api)) : .begun load field api ∈ notes := by
  induction notes using List.reverseRecOn with
  | nil => cases counts
  | append_singleton notes note ih =>
      rw [standing_append] at counts
      have earlier (same : standing notes field = some (load, api)) : .begun load field api ∈ notes ++ [note] :=
        List.mem_append.mpr (.inl (ih same))
      cases note with
      | begun number name config =>
          by_cases same : name = field
          · simp only [stand, if_pos same, Option.some.injEq, Prod.mk.injEq] at counts
            simp [same, counts.1, counts.2]
          · rw [stand, if_neg same] at counts
            exact earlier counts
      | forgotten name =>
          by_cases same : name = field
          · simp [stand, same] at counts
          · rw [stand, if_neg same] at counts
            exact earlier counts
      | asked name config => exact earlier counts
      | fetched number config exchange => exact earlier counts
      | turned number ending => exact earlier counts

theorem begun_unique {notes : List TableNote} {load : Nat} {field field' : String} {api api' : TableApi}
    (distinct : (numbers notes).Nodup) (one : .begun load field api ∈ notes) (two : .begun load field' api' ∈ notes) :
    field = field' ∧ api = api' := by
  induction notes with
  | nil => cases one
  | cons note rest ih =>
      have later : (numbers rest).Nodup := distinct.sublist ((List.sublist_cons_self note rest).filterMap begun?)
      have apart (name : String) (config : TableApi) (first : note = .begun load name config) : load ∉ numbers rest := by
        rw [first] at distinct
        exact (List.nodup_cons.mp distinct).1
      rcases List.mem_cons.mp one with first | one
      · rcases List.mem_cons.mp two with again | two
        · cases first.trans again.symm
          exact ⟨rfl, rfl⟩
        · exact absurd (mem_numbers two) (apart field api first.symm)
      · rcases List.mem_cons.mp two with first | two
        · exact absurd (mem_numbers one) (apart field' api' first.symm)
        · exact ih later one two

theorem superseded_begun {notes : List TableNote} {load : Nat} (superseded : Superseded notes load) :
    ∃ field api, .begun load field api ∈ notes ∧
      ((numbers notes).Nodup → ∀ other, standing notes field ≠ some (load, other)) := by
  obtain ⟨before, field, api, after, split, note, member, supersedes⟩ := superseded
  refine ⟨field, api, by simp [split], fun distinct other => ?_⟩
  -- Of the notes after, the last that supersedes says what counts, and that is another load or none.
  induction after using List.reverseRecOn generalizing notes with
  | nil => cases member
  | append_singleton after last ih =>
      have shorter : notes = (before ++ .begun load field api :: after) ++ [last] := by simp [split]
      rw [shorter, numbers_append] at distinct
      have begun : .begun load field api ∈ before ++ .begun load field api :: after := by simp
      have known := mem_numbers begun
      have earlier (apart : ¬ last.Supersedes field) :
          standing (before ++ .begun load field api :: after) field ≠ some (load, other) := by
        rcases List.mem_append.mp member with old | new
        · exact ih rfl old (List.nodup_append.mp distinct).1
        · exact absurd (List.mem_singleton.mp new ▸ supersedes) apart
      rw [shorter, standing_append]
      cases last with
      | begun number name config =>
          by_cases same : name = field
          · have different : ¬ number = load := fun equal =>
              (List.nodup_append.mp distinct).2.2 load known number (List.mem_cons_self) equal.symm
            simp [stand, same, different]
          · rw [stand, if_neg same]
            exact earlier same
      | forgotten name =>
          by_cases same : name = field
          · simp [stand, same]
          · rw [stand, if_neg same]
            exact earlier same
      | asked name config => exact earlier id
      | fetched number config exchange => exact earlier id
      | turned number ending => exact earlier id

theorem superseded_append {notes : List TableNote} {load : Nat} (superseded : Superseded notes load)
    (more : List TableNote) : Superseded (notes ++ more) load := by
  obtain ⟨before, field, api, after, split, note, member, supersedes⟩ := superseded
  exact ⟨before, field, api, after ++ more, by simp [split], note, List.mem_append.mpr (.inl member), supersedes⟩

-- Every load was begun once, in the order of the numbers, nothing was fetched by loads still to come, every call belongs
-- to a fetch, and no result came too late.
structure Recorded (earlier made : List Call) (begun : Nat) (notes : List TableNote) : Prop where
  counted : numbers notes = List.range begun
  unfetched : ∀ number, begun ≤ number → fetches notes number = []
  called : made = earlier ++ calls notes
  fresh : ∀ number, .turned number .stale ∉ notes

structure Quiet (note : TableNote) : Prop where
  begun : note.begun? = none
  fetched : ∀ number, note.fetchedBy? number = none
  called : note.call? = none
  fresh : ∀ number, note ≠ .turned number .stale

theorem Quiet.fetches {note : TableNote} (quiet : Quiet note) (number : Nat) : TableNote.fetches [note] number = [] := by
  simp [TableNote.fetches, quiet.fetched number]

theorem quiet_asked (field : String) (api : TableApi) : Quiet (.asked field api) :=
  ⟨rfl, fun _ => rfl, rfl, fun _ same => nomatch same⟩

theorem quiet_forgotten (field : String) : Quiet (.forgotten field) :=
  ⟨rfl, fun _ => rfl, rfl, fun _ same => nomatch same⟩

theorem quiet_turned (number : Nat) (ending : TableSource.Ending) (wanted : ending ≠ .stale) :
    Quiet (.turned number ending) := by
  refine ⟨rfl, fun _ => rfl, rfl, fun other same => wanted ?_⟩
  cases same
  rfl

namespace Recorded

variable {earlier made : List Call} {begun : Nat} {notes : List TableNote}

theorem distinct (recorded : Recorded earlier made begun notes) : (numbers notes).Nodup := by
  rw [recorded.counted]
  exact List.nodup_range

theorem number_lt (recorded : Recorded earlier made begun notes) {number : Nat} {field : String} {api : TableApi}
    (member : .begun number field api ∈ notes) : number < begun := by
  have counted := mem_numbers member
  rw [recorded.counted] at counted
  exact List.mem_range.mp counted

theorem fresh_append (recorded : Recorded earlier made begun notes) (note : TableNote)
    (fresh : ∀ number, note ≠ .turned number .stale) (number : Nat) : .turned number .stale ∉ notes ++ [note] := by
  intro member
  rcases List.mem_append.mp member with old | new
  · exact recorded.fresh number old
  · exact fresh number (List.mem_singleton.mp new).symm

theorem quiet (recorded : Recorded earlier made begun notes) {note : TableNote} (quiet : Quiet note) :
    Recorded earlier made begun (notes ++ [note]) where
  counted := by
    rw [numbers_append, recorded.counted]
    simp [numbers, quiet.begun]
  unfetched := by
    intro number new
    rw [fetches_append, recorded.unfetched number new, quiet.fetches, List.append_nil]
  called := by
    rw [calls_append, recorded.called]
    simp [calls, quiet.called]
  fresh := recorded.fresh_append note quiet.fresh

theorem begin (recorded : Recorded earlier made begun notes) (field : String) (api : TableApi) :
    Recorded earlier made (begun + 1) (notes ++ [.begun begun field api]) where
  counted := by
    rw [numbers_append, recorded.counted, List.range_succ]
    rfl
  unfetched := by
    intro number new
    rw [fetches_append, recorded.unfetched number (Nat.le_of_succ_le new)]
    rfl
  called := by
    rw [calls_append, recorded.called]
    exact congrArg (earlier ++ ·) (List.append_nil _).symm
  fresh := recorded.fresh_append _ fun _ same => nomatch same

theorem fetch (recorded : Recorded earlier made begun notes) (number : Nat) (old : number < begun) (api : TableApi)
    (exchange : Exchange) :
    Recorded earlier (made ++ (exchange.map (·.1)).toList) begun (notes ++ [.fetched number api exchange]) where
  counted := by
    rw [numbers_append, recorded.counted]
    exact List.append_nil _
  unfetched := by
    intro other new
    rw [fetches_append, recorded.unfetched other new]
    simp [TableNote.fetches, fetchedBy?, show number ≠ other by omega]
  called := by
    rw [calls_append, recorded.called, List.append_assoc]
    cases exchange <;> rfl
  fresh := recorded.fresh_append _ fun _ same => nomatch same

end Recorded

end TableNote

namespace TableHistory

theorem fold_source (stepOf : TableHistory → Nat → TableHistory) (step : TableSource → Nat → TableSource)
    (source : ∀ h number, (stepOf h number).source = step h.source number)
    (network : ∀ h number, (stepOf h number).network = h.network) (numbers : List Nat) (h : TableHistory) :
    (numbers.foldl stepOf h).source = numbers.foldl step h.source ∧ (numbers.foldl stepOf h).network = h.network := by
  induction numbers generalizing h with
  | nil => exact ⟨rfl, rfl⟩
  | cons number rest ih =>
      simp only [List.foldl_cons, ih, source, network, and_self]

theorem retain_source (h : TableHistory) (fields : List String) :
    (h.retain fields).source = h.source.retain fields ∧ (h.retain fields).network = h.network := by
  rw [retain, TableSource.retain]
  generalize h.source.dropped fields = names
  induction names generalizing h with
  | nil => exact ⟨rfl, rfl⟩
  | cons name rest ih => exact ih (h.discard name)

theorem release_all_source (h : TableHistory) :
    h.releaseAll.source = h.source.releaseAll ∧ h.releaseAll.network = h.network :=
  fold_source release _ (fun _ _ => rfl) (fun _ _ => rfl) _ h

theorem finish_all_source (h : TableHistory) :
    h.finishAll.source = h.source.finishAll ∧ h.finishAll.network = h.network :=
  fold_source finish _ (fun _ _ => rfl) (fun _ _ => rfl) _ h

theorem start_all_source (heeding : Bool) (h : TableHistory) :
    ((h.startAll heeding).source, (h.startAll heeding).network) = h.source.startAll heeding h.network := by
  rw [startAll, TableSource.startAll]
  generalize h.source.freshLoads = numbers
  induction numbers generalizing h with
  | nil => rfl
  | cons number rest ih => exact ih (h.start heeding number)

theorem settle_source (heeding : Bool) (h : TableHistory) :
    ((h.settle heeding).source, (h.settle heeding).network) = h.source.settle heeding h.network := by
  rw [settle, TableSource.settle]
  rw [← start_all_source, (finish_all_source _).1, (finish_all_source _).2]

theorem wait_source (h : TableHistory) : (h.wait.source, h.wait.network) = h.source.wait h.network := by
  rw [wait, TableSource.wait]
  rw [settle_source, (release_all_source h).1, (release_all_source h).2]

theorem resolve_source (h : TableHistory) (field : String) (api : TableApi) :
    ((h.resolve field api).source, (h.resolve field api).network) = (h.source.resolve field api h.network).2 := by
  have asked : (h.releaseAll.request field api).source = (h.source.releaseAll.request field api).2 := by
    rw [← (release_all_source h).1]
    rfl
  have network : (h.releaseAll.request field api).network = h.network := (release_all_source h).2
  rw [resolve, TableSource.resolve]
  dsimp only
  rw [asked]
  split
  · rw [settle_source, asked, network]
  · rw [asked, network]

theorem step_source (h : TableHistory) (event : Event) :
    ((h.step event).source, (h.step event).network) = event.apply h.source h.network := by
  cases event with
  | request field api => rfl
  | discard field => rfl
  | retain fields => exact Prod.ext (retain_source h fields).1 (retain_source h fields).2
  | wait => exact wait_source h
  | resolve field api => exact resolve_source h field api
  | start heeding load => rfl
  | release gate => rfl
  | finish load => rfl

theorem run_source (h : TableHistory) (events : List Event) :
    ((h.run events).source, (h.run events).network)
      = events.foldl (fun now event => event.apply now.1 now.2) (h.source, h.network) := by
  induction events generalizing h with
  | nil => rfl
  | cons event rest ih =>
      rw [List.foldl_cons, ← step_source]
      exact ih (h.step event)

end TableHistory

end FormEngine
