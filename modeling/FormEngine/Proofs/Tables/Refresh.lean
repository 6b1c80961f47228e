import FormEngine.Filling.Sharing
import FormEngine.Proofs.Tables.Bookkeeping

set_option autoImplicit false

namespace FormEngine

namespace TableHistory

open TableSource TableNote

variable {patience : Value} {earlier : List Call} {h : TableHistory}

theorem discard_all_state (names : List String) (h : TableHistory) (id : String) :
    (names.foldl discard h).source.state? id = if id ∈ names then none else h.source.state? id := by
  induction names generalizing h with
  | nil => rfl
  | cons name rest ih =>
      rw [List.foldl_cons, ih, TableHistory.discard, discard_state]
      by_cases here : name = id
      · simp [here]
      · simp [here, Ne.symm here]

theorem retain_state (h : TableHistory) (ids : List String) (id : String) :
    (h.retain ids).source.state? id = if id ∈ ids then h.source.state? id else none := by
  rw [retain, discard_all_state]
  by_cases kept : id ∈ ids
  · rw [if_pos kept, if_neg (by simp [dropped, kept])]
  · rw [if_neg kept]
    split
    · rfl
    · rename_i absent
      have unnamed : id ∉ Keyed.names h.source.states := by simpa [dropped, kept] using absent
      rw [Keyed.mem_names_iff, not_exists] at unnamed
      exact Option.eq_none_iff_forall_ne_some.mpr unnamed

theorem request_other (h : TableHistory) (field : String) (api : TableApi) (id : String) (other : field ≠ id) :
    (h.request field api).source.state? id = h.source.state? id := by
  rw [TableHistory.request, TableSource.request]
  split
  · split
    · rfl
    · rw [begin_state, if_neg other]
  · rw [begin_state, if_neg other]

theorem request_fingerprint (h : TableHistory) (field : String) (api : TableApi) :
    ∃ state, (h.request field api).source.state? field = some state ∧ state.fingerprint = api.fingerprint := by
  have begun : (h.source.begin field api).2.state? field = some ⟨api.fingerprint, h.source.begun, .pending⟩ := by
    rw [begin_state, if_pos rfl]
  rw [TableHistory.request, TableSource.request]
  split
  · rename_i state found
    split
    · rename_i same
      exact ⟨state, found, same⟩
    · exact ⟨_, begun, rfl⟩
  · exact ⟨_, begun, rfl⟩

theorem request_known (field : String) (api : TableApi) {state : TableState}
    (found : h.source.state? field = some state) (same : state.fingerprint = api.fingerprint) :
    (h.request field api).source = h.source := by
  rw [TableHistory.request, TableSource.request, found]
  exact congrArg Prod.snd (if_pos same)

theorem request_replaced (field : String) (api : TableApi) {state : TableState}
    (found : h.source.state? field = some state) (other : state.fingerprint ≠ api.fingerprint) :
    (h.request field api).notes = h.notes ++ [.asked field api, .begun h.source.begun field api] := by
  simp [TableHistory.request, found, other]

variable (tables : List Field)

theorem requests_other (h : TableHistory) (id : String) (absent : id ∉ tables.map (·.id)) :
    (tables.foldl (fun h f => h.request f.id f.tableApi) h).source.state? id = h.source.state? id := by
  induction tables generalizing h with
  | nil => rfl
  | cons f rest ih =>
      rw [List.map_cons, List.mem_cons, not_or] at absent
      rw [List.foldl_cons, ih _ absent.2, h.request_other _ _ _ (Ne.symm absent.1)]

theorem requests_fingerprint (h : TableHistory) (id : String) (present : id ∈ tables.map (·.id)) :
    ∃ f ∈ tables, f.id = id ∧ ∃ state,
      (tables.foldl (fun h f => h.request f.id f.tableApi) h).source.state? id = some state ∧
        state.fingerprint = f.tableApi.fingerprint := by
  induction tables generalizing h with
  | nil => cases present
  | cons f rest ih =>
      rw [List.foldl_cons]
      by_cases later : id ∈ rest.map (·.id)
      · obtain ⟨last, member, named⟩ := ih (h.request f.id f.tableApi) later
        exact ⟨last, List.mem_cons_of_mem f member, named⟩
      · have named : f.id = id := by simpa [later, eq_comm] using present
        rw [requests_other rest _ id later, ← named]
        exact ⟨f, List.mem_cons_self, rfl, h.request_fingerprint f.id f.tableApi⟩

def Stands (h : TableHistory) (id : String) (load : Nat) (fingerprint : String) : Prop :=
  ∃ status, h.source.state? id = some ⟨fingerprint, load, status⟩

theorem stands_begun (consistent : Consistent patience earlier h) {id fingerprint : String} {load : Nat}
    (stands : h.Stands id load fingerprint) : ∃ api, .begun load id api ∈ h.notes := by
  obtain ⟨status, found⟩ := stands
  obtain ⟨api, _, fits⟩ := consistent.states id _ found
  exact ⟨api, standing_begun fits.standing⟩

theorem requests_stand (id fingerprint : String) (load : Nat)
    (same : ∀ f ∈ tables, f.id = id → f.tableApi.fingerprint = fingerprint) (h : TableHistory)
    (stands : h.Stands id load fingerprint) :
    (tables.foldl (fun h f => h.request f.id f.tableApi) h).Stands id load fingerprint := by
  induction tables generalizing h with
  | nil => exact stands
  | cons f rest ih =>
      rw [List.foldl_cons]
      refine ih (fun g later => same g (List.mem_cons_of_mem f later)) _ ?_
      by_cases this : f.id = id
      · obtain ⟨status, found⟩ := stands
        rw [← this] at found ⊢
        rw [Stands, request_known f.id f.tableApi found (same f List.mem_cons_self this).symm]
        exact ⟨status, found⟩
      · rw [Stands, h.request_other _ _ _ this]
        exact stands

def Grown (base : List TableNote) (h : TableHistory) : Prop := ∃ added, h.notes = base ++ added

theorem Grown.more {base : List TableNote} (grown : Grown base h) (added : List TableNote) (next : TableHistory)
    (notes : next.notes = h.notes ++ added) : Grown base next := by
  obtain ⟨before, same⟩ := grown
  exact ⟨before ++ added, by rw [notes, same, List.append_assoc]⟩

theorem grown_preserved (base : List TableNote) : Preserved (Grown base) where
  request := fun _ _ _ grown => grown.more _ _ rfl
  discard := fun _ _ grown => grown.more _ _ rfl
  start := fun _ _ _ grown => grown.more _ _ rfl
  release := fun _ _ grown => grown.more [] _ (List.append_nil _).symm
  finish := fun _ _ grown => grown.more _ _ rfl

theorem superseded_grown {base : List TableNote} {load : Nat} (superseded : Superseded base load)
    (grown : Grown base h) : Superseded h.notes load := by
  obtain ⟨added, notes⟩ := grown
  rw [notes]
  exact superseded_append superseded added

theorem superseded_of_begun {notes added : List TableNote} {load : Nat} {field : String} {api : TableApi}
    (begun : .begun load field api ∈ notes) (note : TableNote) (member : note ∈ added)
    (supersedes : note.Supersedes field) : Superseded (notes ++ added) load := by
  obtain ⟨before, after, rfl⟩ := List.append_of_mem begun
  exact ⟨before, field, api, after ++ added, by simp, note, List.mem_append.mpr (.inr member), supersedes⟩

theorem requests_grown (h : TableHistory) :
    Grown h.notes (tables.foldl (fun h f => h.request f.id f.tableApi) h) :=
  Preserved.fold (fun h (f : Field) => h.request f.id f.tableApi)
    (fun h f => (grown_preserved _).request h f.id f.tableApi) tables h ⟨[], (List.append_nil _).symm⟩

theorem requests_supersede (id fingerprint : String) (load : Nat) (h : TableHistory)
    (stands : h.Stands id load fingerprint) (begun : ∃ api, .begun load id api ∈ h.notes)
    (other : ∃ f ∈ tables, f.id = id ∧ f.tableApi.fingerprint ≠ fingerprint) :
    Superseded (tables.foldl (fun h f => h.request f.id f.tableApi) h).notes load := by
  induction tables generalizing h with
  | nil =>
      obtain ⟨f, member, _⟩ := other
      cases member
  | cons f rest ih =>
      rw [List.foldl_cons]
      obtain ⟨api, began⟩ := begun
      have still : ∃ api, .begun load id api ∈ (h.request f.id f.tableApi).notes :=
        ⟨api, List.mem_append.mpr (.inl began)⟩
      have later (same : f.id = id → f.tableApi.fingerprint = fingerprint) :
          ∃ g ∈ rest, g.id = id ∧ g.tableApi.fingerprint ≠ fingerprint := by
        obtain ⟨g, member, named, apart⟩ := other
        rcases List.mem_cons.mp member with rfl | member
        · exact absurd (same named) apart
        · exact ⟨g, member, named, apart⟩
      by_cases this : f.id = id
      · by_cases same : f.tableApi.fingerprint = fingerprint
        · have kept := requests_stand [f] id fingerprint load (by simp [same]) h stands
          exact ih _ kept still (later fun _ => same)
        · obtain ⟨status, found⟩ := stands
          rw [← this] at found
          have notes := request_replaced f.id f.tableApi found (Ne.symm same)
          refine superseded_grown ?_ (requests_grown rest _)
          rw [notes]
          refine superseded_of_begun began (.begun h.source.begun f.id f.tableApi) (by simp) this
      · have kept := requests_stand [f] id fingerprint load (by simp [this]) h stands
        exact ih _ kept still (later fun named => absurd named this)

theorem retain_forgets (consistent : Consistent patience earlier h) (ids : List String) {id fingerprint : String}
    {load : Nat} (stands : h.Stands id load fingerprint) (dropped : id ∉ ids) :
    Superseded (h.retain ids).notes load := by
  obtain ⟨api, begun⟩ := stands_begun consistent stands
  obtain ⟨status, found⟩ := stands
  have notes (names : List String) (h : TableHistory) :
      (names.foldl discard h).notes = h.notes ++ names.map .forgotten := by
    induction names generalizing h with
    | nil => exact (List.append_nil _).symm
    | cons name rest ih => rw [List.foldl_cons, ih, List.map_cons, TableHistory.discard, List.append_assoc]; rfl
  rw [retain, notes]
  refine superseded_of_begun begun (.forgotten id) (List.mem_map_of_mem ?_) rfl
  have known : id ∈ Keyed.names h.source.states := (Keyed.mem_names_iff _ _).mpr ⟨_, found⟩
  simp [TableSource.dropped, dropped, known]

-- Loads with an old number are the loads that were there, and none of them is taken up again.
structure Descends (base h : TableHistory) : Prop where
  begun : base.source.begun ≤ h.source.begun
  loads : ∀ l ∈ h.source.loads, l.number < base.source.begun → ∃ old ∈ base.source.loads,
    old.number = l.number ∧ old.field = l.field ∧ (l.cancelled = false → old.cancelled = false)

theorem Descends.fewer {base : TableHistory} (descends : Descends base h) (next : TableHistory)
    (begun : next.source.begun = h.source.begun)
    (loads : ∀ l ∈ next.source.loads, ∃ old ∈ h.source.loads,
      old.number = l.number ∧ old.field = l.field ∧ (l.cancelled = false → old.cancelled = false)) :
    Descends base next := by
  refine ⟨begun ▸ descends.begun, fun l member early => ?_⟩
  obtain ⟨now, here, number, field, running⟩ := loads l member
  obtain ⟨old, there, number', field', running'⟩ := descends.loads now here (number ▸ early)
  exact ⟨old, there, number'.trans number, field'.trans field, fun kept => running' (running kept)⟩

theorem cancel_descends (s : TableSource) (field : String) (l : Load) (member : l ∈ (s.cancel field).loads) :
    ∃ old ∈ s.loads, old.number = l.number ∧ old.field = l.field ∧ (l.cancelled = false → old.cancelled = false) := by
  rcases s.mem_cancel field l member with ⟨old, _⟩ | ⟨live, old, rfl⟩
  · exact ⟨l, old, rfl, rfl, id⟩
  · exact ⟨live, old, rfl, rfl, fun running => nomatch running⟩

theorem descends_begin {base : TableHistory} (descends : Descends base h) (field : String) (api : TableApi)
    (next : TableHistory) (source : next.source = (h.source.begin field api).2) : Descends base next := by
  have begun : next.source.begun = h.source.begun + 1 := by rw [source, begin_begun]
  have old := descends.begun
  refine ⟨by omega, fun l member early => ?_⟩
  rw [source, begin_loads] at member
  rcases List.mem_append.mp member with here | new
  · obtain ⟨now, here, number, field, running⟩ := cancel_descends h.source field l here
    obtain ⟨old, there, number', field', running'⟩ := descends.loads now here (number ▸ early)
    exact ⟨old, there, number'.trans number, field'.trans field, fun kept => running' (running kept)⟩
  · rw [List.mem_singleton.mp new] at early
    simp only at early
    omega

theorem descends_preserved (patience : Value) (earlier : List Call) (base : TableHistory) :
    Preserved fun h => Consistent patience earlier h ∧ Descends base h where
  request := by
    rintro h field api ⟨consistent, descends⟩
    refine ⟨consistent.request field api, ?_⟩
    have begun (same : (h.source.request field api).2 = (h.source.begin field api).2) :
        Descends base (h.request field api) := descends_begin descends field api _ same
    cases found : h.source.state? field with
    | none => exact begun (by rw [TableSource.request, found])
    | some state =>
        by_cases same : state.fingerprint = api.fingerprint
        · have source := request_known field api found same
          exact descends.fewer _ (by rw [source]) fun l member => ⟨l, by rwa [source] at member, rfl, rfl, id⟩
        · exact begun (by simp [TableSource.request, found, same])
  discard := by
    rintro h field ⟨consistent, descends⟩
    exact ⟨consistent.discard field, descends.fewer _ (h.source.cancel_begun field) (cancel_descends h.source field)⟩
  start := by
    rintro h heeding number ⟨consistent, descends⟩
    refine ⟨consistent.start heeding number, ?_⟩
    have step := consistent.start_cases heeding number
    generalize h.start heeding number = next at step ⊢
    cases step with
    | idle => exact descends
    | dropped gone => exact descends.fewer _ rfl fun l member => ⟨l, (List.mem_filter.mp member).1, rfl, rfl, id⟩
    | fetched started =>
        refine descends.fewer _ rfl fun l member => ?_
        obtain ⟨old, here, rfl⟩ := List.mem_map.mp member
        refine ⟨old, here, ?_⟩
        split <;> exact ⟨rfl, rfl, id⟩
  release := by
    rintro h gate ⟨consistent, descends⟩
    refine ⟨consistent.release gate, descends.fewer _ rfl fun l member => ?_⟩
    obtain ⟨old, here, rfl⟩ := List.mem_map.mp member
    obtain ⟨number, field, _, _, cancelled⟩ := old.open_gate_same gate
    exact ⟨old, here, number.symm, field.symm, fun running => cancelled ▸ running⟩
  finish := by
    rintro h number ⟨consistent, descends⟩
    refine ⟨consistent.finish number, ?_⟩
    have left (gone l : Load) (member : l ∈ ((h.source.leave gone).endLoad gone.number).loads) : l ∈ h.source.loads :=
      leave_loads h.source gone ▸ (List.mem_filter.mp member).1
    have begun (gone : Load) : (h.source.leave gone).begun = h.source.begun := by
      rw [leave]
      split <;> rfl
    have step := consistent.finish_cases number
    generalize h.finish number = next at step ⊢
    cases step with
    | waiting => exact ⟨descends.begun, descends.loads⟩
    | cancelled gone => exact descends.fewer _ (begun gone) fun l member => ⟨l, left gone l member, rfl, rfl, id⟩
    | stored gone => exact descends.fewer _ (begun gone) fun l member => ⟨l, left gone l member, rfl, rfl, id⟩

theorem running_counted (consistent : Consistent patience earlier h) {l : Load} (here : l ∈ h.source.loads)
    (running : l.cancelled = false) : l.number ∈ h.source.awaited := by
  have counts := ((consistent.loads l here).counts running).task
  refine List.mem_map.mpr ⟨(l.field, l.number), List.mem_filter.mpr ⟨Keyed.mem_of_value? counts, ?_⟩, rfl⟩
  exact List.find?_isSome.mpr ⟨l, here, beq_self_eq_true l.number⟩

theorem waited_settled {asked : TableHistory} (consistent : Consistent patience earlier asked)
    (later : Consistent patience earlier h ∧ Booked h.source) (descends : Descends asked h)
    (ended : h.Ended asked.source.awaited) {id fingerprint : String} {load : Nat}
    (stood : asked.Stands id load fingerprint) {state : TableState} (found : h.source.state? id = some state)
    (same : state.load = load) : state.status ≠ .pending := by
  intro pending
  obtain ⟨l, member⟩ := List.exists_mem_of_ne_nil _ (pending_runs later.2 found pending)
  obtain ⟨here, _, running⟩ := mem_running.mp member
  have number : l.number = load := by
    have awaited := (running_awaited later.1 member).2
    rw [found] at awaited
    rw [← same, Option.some.inj awaited]
  obtain ⟨api, begun⟩ := stands_begun consistent stood
  have early := consistent.recorded.number_lt begun
  obtain ⟨old, there, same, _, ran⟩ := descends.loads l here (number ▸ early)
  have gone := ended old.number (running_counted consistent there (ran running))
  exact h.source.load_absent gone here same.symm

theorem load_step_onward {before : TableHistory} (onward : Onward patience earlier before h) (step : LoadStep) :
    Onward patience earlier before (h.step step.event) := by
  cases step with
  | start heeding load => exact onward.start heeding load
  | release gate => exact onward.release gate
  | finish load => exact onward.finish load

theorem load_step_stands (consistent : Consistent patience earlier h) (step : LoadStep) {id fingerprint : String}
    {load : Nat} (stands : h.Stands id load fingerprint) : (h.step step.event).Stands id load fingerprint := by
  cases step with
  | release gate => exact stands
  | start heeding number =>
      have started := consistent.start_cases heeding number
      show (h.start heeding number).Stands id load fingerprint
      generalize h.start heeding number = next at started ⊢
      cases started <;> exact stands
  | finish number =>
      have finished := consistent.finish_cases number
      show (h.finish number).Stands id load fingerprint
      generalize h.finish number = next at finished ⊢
      cases finished with
      | waiting => exact stands
      | cancelled l =>
          rw [Stands, state?, endLoad, leave_states]
          exact stands
      | stored l here running outcome =>
          rw [Stands, settle_state_at]
          split
          · rename_i this
            have awaited := ((consistent.loads l here).counts running).state
            obtain ⟨status, found⟩ := stands
            rw [this, found] at awaited
            cases Option.some.inj awaited
            exact ⟨_, rfl⟩
          · rw [state?, endLoad, leave_states]
            exact stands

theorem advance_onward (consistent : Consistent patience earlier h) (steps : List LoadStep) :
    Onward patience earlier h (h.advance steps) := by
  rw [advance, run, List.foldl_map]
  exact Preserved.fold (P := Onward patience earlier h) (fun now (step : LoadStep) => now.step step.event)
    (fun _ step onward => load_step_onward onward step) steps h ⟨consistent, fun _ => rfl⟩

theorem wait_advances (h : TableHistory) : ∃ steps, h.wait = h.advance steps := by
  have joined (h : TableHistory) (one two : List LoadStep) : (h.advance one).advance two = h.advance (one ++ two) := by
    rw [advance, advance, advance, run, run, run, List.map_append, List.foldl_append]
  have released : h.releaseAll = h.advance (h.source.closedGates.map .release) := by
    rw [advance, run, List.map_map, List.foldl_map]
    rfl
  have started (h : TableHistory) : h.startAll false = h.advance (h.source.freshLoads.map (.start false)) := by
    rw [advance, run, List.map_map, List.foldl_map]
    rfl
  have finished (h : TableHistory) : h.finishAll = h.advance (h.source.loads.map fun l => .finish l.number) := by
    rw [finishAll, advance, run, List.map_map, List.foldl_map, List.foldl_map]
    rfl
  rw [wait, settle, finished, started, released, joined, joined]
  exact ⟨_, rfl⟩

end TableHistory

namespace Session

open TableHistory TableNote

variable {patience : Value} {earlier : List Call} (s : Session) (h : TableHistory)

theorem refresh_absent (id : String) (hidden : id ∉ s.tableIds) : (s.refresh h).source.state? id = none := by
  rw [refresh, requests_other _ _ id hidden, retain_state]
  exact if_neg hidden

theorem refresh_present (id : String) (shown : id ∈ s.tableIds) :
    ∃ f ∈ s.visibleTables, f.id = id ∧ ∃ state, (s.refresh h).source.state? id = some state ∧
      state.fingerprint = f.tableApi.fingerprint :=
  requests_fingerprint s.visibleTables _ id shown

theorem refresh_preserved {P : TableHistory → Prop} (preserved : Preserved P) (holds : P h) : P (s.refresh h) :=
  Preserved.fold (fun h (f : Field) => h.request f.id f.tableApi) (fun h f => preserved.request h f.id f.tableApi)
    s.visibleTables _ (preserved.step h (.retain s.tableIds) holds)

structure Keeps (s : Session) (id fingerprint : String) : Prop where
  shown : id ∈ s.tableIds
  same : ∀ f ∈ s.visibleTables, f.id = id → f.tableApi.fingerprint = fingerprint

variable {s h}

theorem refresh_stands {id fingerprint : String} {load : Nat} (keeps : s.Keeps id fingerprint)
    (stands : h.Stands id load fingerprint) : (s.refresh h).Stands id load fingerprint := by
  refine requests_stand s.visibleTables id fingerprint load keeps.same _ ?_
  rw [Stands, retain_state, if_pos keeps.shown]
  exact stands

theorem refresh_supersedes (consistent : Consistent patience earlier h) {id fingerprint : String} {load : Nat}
    (stands : h.Stands id load fingerprint) (spoils : ¬ s.Keeps id fingerprint) :
    Superseded (s.refresh h).notes load := by
  by_cases shown : id ∈ s.tableIds
  · have retained : (h.retain s.tableIds).Stands id load fingerprint := by
      rw [Stands, retain_state, if_pos shown]
      exact stands
    have consistent := (consistent_preserved patience earlier).step h (.retain s.tableIds) consistent
    refine requests_supersede s.visibleTables id fingerprint load _ retained (stands_begun consistent retained) ?_
    by_contra none
    refine spoils ⟨shown, fun f member named => ?_⟩
    by_contra apart
    exact none ⟨f, member, named, apart⟩
  · exact superseded_grown (retain_forgets consistent s.tableIds stands shown) (requests_grown s.visibleTables _)

end Session

end FormEngine
