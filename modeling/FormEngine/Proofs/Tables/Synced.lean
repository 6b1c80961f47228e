import FormEngine.Proofs.Filling.Hidden
import FormEngine.Proofs.Tables.Shared

set_option autoImplicit false

namespace FormEngine

open TableNote TableSource

theorem Session.refresh_source (s : Session) (h : TableHistory) :
    (s.refresh h).source = s.refreshTables h.source ∧ (s.refresh h).network = h.network := by
  rw [refresh, refreshTables]
  have retained := h.retain_source s.tableIds
  rw [tableIds] at retained ⊢
  rw [← retained.1, ← retained.2]
  generalize h.retain _ = h
  induction s.visibleTables generalizing h with
  | nil => exact ⟨rfl, rfl⟩
  | cons f rest ih => exact ih (h.request f.id f.tableApi)

namespace NotedForm

theorem step_live (n : NotedForm) (op : LiveForm.Op) : (n.step op).live = n.live.step op := by
  have refreshed := n.session.refresh_source n.tables
  cases op with
  | refreshTables => simp only [step, live, LiveForm.step, LiveForm.withRows, refreshed]
  | syncTables =>
      have waited := (n.session.refresh n.tables).wait_source
      rw [refreshed.1, refreshed.2] at waited
      simp only [step, live, LiveForm.step, LiveForm.withRows, Session.syncTables, ← waited]
  | rows event => simp only [step, live, LiveForm.step, LiveForm.withRows, ← n.tables.step_source event]
  | setValue | setValues | replaceForm | listen | validate | submit => rfl

theorem run_live (n : NotedForm) (ops : List LiveForm.Op) : (n.run ops).live = n.live.run ops := by
  induction ops generalizing n with
  | nil => rfl
  | cons op rest ih =>
      have later := ih (n.step op)
      rw [step_live] at later
      exact later

end NotedForm

namespace TableHistory

variable {patience : Value} {earlier : List Call} {h : TableHistory}

-- Every load was begun for something that was asked for, and every fetch belongs to a load.
structure Traced (asked : String → TableApi → Prop) (h : TableHistory) : Prop where
  begun : ∀ load field api, .begun load field api ∈ h.notes → asked field api
  fetched : ∀ load api exchange, .fetched load api exchange ∈ h.notes → ∃ field, .begun load field api ∈ h.notes

namespace Traced

variable {asked : String → TableApi → Prop}

theorem more (traced : Traced asked h) (next : TableHistory) (added : List TableNote)
    (notes : next.notes = h.notes ++ added) (begun : ∀ load field api, .begun load field api ∈ added → asked field api)
    (fetched : ∀ load api exchange, .fetched load api exchange ∈ added → ∃ field, .begun load field api ∈ h.notes) :
    Traced asked next := by
  refine ⟨fun load field api member => ?_, fun load api exchange member => ?_⟩
  · rw [notes, List.mem_append] at member
    rcases member with old | new
    · exact traced.begun load field api old
    · exact begun load field api new
  · have earlier : ∃ field, .begun load field api ∈ h.notes := by
      rw [notes, List.mem_append] at member
      rcases member with old | new
      · exact traced.fetched load api exchange old
      · exact fetched load api exchange new
    obtain ⟨field, member⟩ := earlier
    exact ⟨field, notes ▸ List.mem_append.mpr (.inl member)⟩

theorem request (traced : Traced asked h) (field : String) (api : TableApi) (wanted : asked field api) :
    Traced asked (h.request field api) := by
  refine traced.more _ _ rfl (fun load name config member => ?_) fun load config exchange member => ?_
  · split at member <;> simp at member
    rw [member.2.1, member.2.2]
    exact wanted
  · split at member <;> simp at member

theorem discard (traced : Traced asked h) (field : String) : Traced asked (h.discard field) :=
  traced.more _ [.forgotten field] rfl (by simp) (by simp)

theorem refresh (traced : Traced asked h) (s : Session) (shown : ∀ f ∈ s.visibleTables, asked f.id f.tableApi) :
    Traced asked (s.refresh h) := by
  have retained : Traced asked (h.retain s.tableIds) :=
    Preserved.fold (P := Traced asked) TableHistory.discard (fun _ field traced => traced.discard field) _ h traced
  rw [Session.refresh]
  generalize h.retain s.tableIds = h at retained ⊢
  generalize s.visibleTables = tables at shown ⊢
  induction tables generalizing h with
  | nil => exact retained
  | cons f rest ih =>
      exact ih (h.request f.id f.tableApi) (retained.request f.id f.tableApi (shown f List.mem_cons_self))
        fun g later => shown g (List.mem_cons_of_mem f later)

theorem load_step (traced : Traced asked h) (consistent : Consistent patience earlier h) (step : LoadStep) :
    Traced asked (h.step step.event) := by
  cases step with
  | release gate => exact ⟨traced.begun, traced.fetched⟩
  | start heeding number =>
      have started := consistent.start_cases heeding number
      show Traced asked (h.start heeding number)
      generalize h.start heeding number = next at started ⊢
      cases started with
      | idle => exact traced
      | dropped => exact ⟨traced.begun, traced.fetched⟩
      | fetched l here =>
          refine traced.more _ _ rfl (by simp) fun load api exchange member => ?_
          simp only [List.mem_singleton, TableNote.fetched.injEq] at member
          rw [member.1, member.2.1]
          exact ⟨l.field, (consistent.loads l here).begun⟩
  | finish number =>
      have finished := consistent.finish_cases number
      show Traced asked (h.finish number)
      generalize h.finish number = next at finished ⊢
      cases finished <;> exact traced.more _ [_] rfl (by simp) (by simp)

theorem advance (traced : Traced asked h) (consistent : Consistent patience earlier h) (steps : List LoadStep) :
    Traced asked (h.advance steps) := by
  have both := Preserved.fold (P := fun h => Traced asked h ∧ Consistent patience earlier h)
    (fun now (step : LoadStep) => now.step step.event)
    (fun now step ⟨traced, consistent⟩ =>
      ⟨traced.load_step consistent step, (consistent_preserved patience earlier).step now step.event consistent⟩)
    steps h ⟨traced, consistent⟩
  rw [TableHistory.advance, TableHistory.run, List.foldl_map]
  exact both.1

end Traced

end TableHistory

namespace NotedForm

open TableHistory

variable {patience : Value} {earlier : List Call}

def AskedFor (n : NotedForm) (ops : List LiveForm.Op) (field : String) (api : TableApi) : Prop :=
  ∃ before op after, ops = before ++ op :: after ∧ op.Refreshes ∧
    ∃ f ∈ (n.run before).session.visibleTables, f.id = field ∧ f.tableApi = api

theorem step_booked (n : NotedForm) (op : LiveForm.Op)
    (booked : Consistent patience earlier n.tables ∧ Booked n.tables.source) :
    Consistent patience earlier (n.step op).tables ∧ Booked (n.step op).tables.source := by
  have preserved := booked_preserved patience earlier
  have refreshed := n.session.refresh_preserved n.tables preserved booked
  cases op with
  | refreshTables => exact refreshed
  | syncTables => exact preserved.step _ .wait refreshed
  | rows event => exact preserved.step _ event booked
  | setValue | setValues | replaceForm | listen | validate | submit => exact booked

theorem run_booked (n : NotedForm) (ops : List LiveForm.Op)
    (booked : Consistent patience earlier n.tables ∧ Booked n.tables.source) :
    Consistent patience earlier (n.run ops).tables ∧ Booked (n.run ops).tables.source := by
  induction ops generalizing n with
  | nil => exact booked
  | cons op rest ih => exact ih (n.step op) (n.step_booked op booked)

theorem step_traced (n : NotedForm) (op : LiveForm.Op) (own : op.Own) {asked : String → TableApi → Prop}
    (consistent : Consistent patience earlier n.tables)
    (shown : op.Refreshes → ∀ f ∈ n.session.visibleTables, asked f.id f.tableApi) (traced : Traced asked n.tables) :
    Traced asked (n.step op).tables := by
  cases op with
  | refreshTables => exact traced.refresh n.session (shown trivial)
  | syncTables =>
      have refreshed := traced.refresh n.session (shown trivial)
      have consistent := n.session.refresh_preserved n.tables (consistent_preserved patience earlier) consistent
      obtain ⟨steps, waited⟩ := wait_advances (n.session.refresh n.tables)
      show Traced asked (n.session.refresh n.tables).wait
      rw [waited]
      exact refreshed.advance consistent steps
  | rows event =>
      obtain ⟨step, rfl⟩ := own
      exact traced.load_step consistent step
  | setValue | setValues | replaceForm | listen | validate | submit => exact traced

theorem run_traced (ops : List LiveForm.Op) (own : ∀ op ∈ ops, op.Own) (n : NotedForm)
    {asked : String → TableApi → Prop} (booked : Consistent patience earlier n.tables ∧ Booked n.tables.source)
    (shown : ∀ field api, n.AskedFor ops field api → asked field api) (traced : Traced asked n.tables) :
    Traced asked (n.run ops).tables := by
  induction ops generalizing n with
  | nil => exact traced
  | cons op rest ih =>
      refine ih (fun op later => own op (List.mem_cons_of_mem _ later)) (n.step op) (n.step_booked op booked) ?_ ?_
      · rintro field api ⟨before, last, after, rfl, asks⟩
        exact shown field api ⟨op :: before, last, after, rfl, asks⟩
      · refine n.step_traced op (own op List.mem_cons_self) booked.1 (fun asks f member => ?_) traced
        exact shown f.id f.tableApi ⟨[], op, rest, rfl, asks, f, member, rfl, rfl⟩

-- The source knows the tables that are shown, each settled by the one fetch of a load for its address, and that is what
-- the form is told.
structure InStep (patience : Value) (s : Session) (h : TableHistory) : Prop where
  known : ∀ id, h.source.state? id ≠ none ↔ id ∈ s.tableIds
  settled : ∀ f ∈ s.visibleTables, ∃ state api outcome, h.source.state? f.id = some state ∧
    state.fingerprint = f.tableApi.fingerprint ∧ f.tableApi.Agrees api ∧
    standing h.notes f.id = some (state.load, api) ∧ Answered patience h.notes state.load api outcome ∧
    state.status = statusOf outcome ∧ state.status ≠ .pending
  told : s.tableStates h.source = s.visibleTables.map fun f => (f.id, h.source.state? f.id)

theorem table_ids_nodup (s : Session) (distinct : (Node.idsOf s.form.nodes).Nodup) : s.tableIds.Nodup := by
  have fields := (shown_fields_sublist (shows s.visibility) s.form.nodes).map Node.id
  rw [List.map_map] at fields
  have shown : (s.visibleFields.map (·.id)).Nodup := distinct.sublist fields
  exact shown.sublist (List.filter_sublist.map _)

theorem table_states_told (s : Session) (distinct : s.tableIds.Nodup) (source : TableSource) :
    s.tableStates source = s.visibleTables.map fun f => (f.id, source.state? f.id) := by
  have fresh := Keyed.putAll_of_fresh [] (s.visibleTables.map fun f => (f.id, source.state? f.id)) (by
    rw [List.nil_append, Keyed.names, List.map_map]
    exact distinct)
  rw [Keyed.putAll, List.foldl_map, List.nil_append] at fresh
  exact fresh

theorem advanced_in_step (s : Session) (distinct : (Node.idsOf s.form.nodes).Nodup) (h : TableHistory)
    (booked : Consistent patience earlier h ∧ Booked h.source) (steps : List LoadStep)
    (ended : ((s.refresh h).advance steps).Ended (s.refresh h).source.awaited) :
    InStep patience s ((s.refresh h).advance steps) := by
  have ids := table_ids_nodup s distinct
  have preserved := booked_preserved patience earlier
  have asked := s.refresh_preserved h preserved booked
  have events (P : TableHistory → Prop) (preserved : Preserved P) (holds : P (s.refresh h)) :
      P ((s.refresh h).advance steps) := preserved.run _ (steps.map LoadStep.event) holds
  have later := events _ preserved asked
  have descends := (events _ (descends_preserved patience earlier (s.refresh h))
    ⟨asked.1, Nat.le_refl _, fun l here _ => ⟨l, here, rfl, rfl, fun running => running⟩⟩).2
  have holds := advance_holds asked.1 steps (refresh_holds s h)
  refine ⟨fun id => ?_, fun f member => ?_, table_states_told s ids _⟩
  · rw [Ne, holds id, not_not]
  · obtain ⟨g, shown, named, first, found, same⟩ := s.refresh_present h f.id (List.mem_map_of_mem member)
    obtain rfl : g = f := List.inj_on_of_nodup_map ids shown member named
    have stood : (s.refresh h).Stands g.id first.load first.fingerprint := ⟨first.status, found⟩
    have stands := Preserved.fold
      (P := fun h => Consistent patience earlier h ∧ h.Stands g.id first.load first.fingerprint)
      (fun now (step : LoadStep) => now.step step.event)
      (fun now step ⟨consistent, stands⟩ =>
        ⟨(consistent_preserved patience earlier).step now step.event consistent,
          load_step_stands consistent step stands⟩)
      steps _ ⟨asked.1, stood⟩
    rw [← List.foldl_map] at stands
    obtain ⟨status, still⟩ := stands.2
    have settled := waited_settled asked.1 later descends ended stood still rfl
    obtain ⟨api, _, fits⟩ := later.1.states g.id _ still
    obtain ⟨outcome, answered, status⟩ := fits.settled settled
    exact ⟨_, api, outcome, still, same, TableApi.agrees_of_fingerprint _ _ (same.symm.trans fits.fingerprint),
      fits.standing, answered, status, settled⟩

theorem sync_in_step (n : NotedForm) (distinct : (Node.idsOf n.session.form.nodes).Nodup)
    (booked : Consistent patience earlier n.tables ∧ Booked n.tables.source) :
    InStep patience n.session (n.step .syncTables).tables := by
  have asked := n.session.refresh_preserved n.tables (consistent_preserved patience earlier) booked.1
  obtain ⟨_, none⟩ := wait_ends asked
  obtain ⟨steps, waited⟩ := wait_advances (n.session.refresh n.tables)
  show InStep patience n.session (n.session.refresh n.tables).wait
  rw [waited] at none ⊢
  refine advanced_in_step n.session distinct n.tables booked steps fun load _ => ?_
  rw [load?, none]
  rfl

theorem sync_settles_shown (form : Form) (values : Keyed Value) (listeners : Nat) (patience : Value)
    (network : Network) (ops : List LiveForm.Op) (own : ∀ op ∈ ops, op.Own) :
    let opened := NotedForm.opened form values listeners patience network
    let n := opened.run ops
    n.live = (LiveForm.mk (Session.start form values listeners) (TableSource.new patience) network).run ops ∧
    ((Node.idsOf n.session.form.nodes).Nodup →
      InStep patience n.session (n.step .syncTables).tables ∧
      ∀ steps, ((n.session.refresh n.tables).advance steps).Ended (n.session.refresh n.tables).source.awaited →
        InStep patience n.session ((n.session.refresh n.tables).advance steps)) ∧
    (∀ load api exchange, .fetched load api exchange ∈ n.tables.notes →
      ∃ field, .begun load field api ∈ n.tables.notes ∧ opened.AskedFor ops field api) ∧
    n.tables.network.calls = network.calls ++ calls n.tables.notes := by
  intro opened n
  have booked : Consistent patience network.calls n.tables ∧ Booked n.tables.source :=
    opened.run_booked ops (booked_new patience network)
  have traced : Traced (opened.AskedFor ops) n.tables :=
    run_traced ops own opened (booked_new patience network) (fun _ _ asked => asked)
      ⟨fun _ _ _ member => (nomatch member), fun _ _ _ member => nomatch member⟩
  refine ⟨opened.run_live ops, fun distinct => ⟨sync_in_step n distinct booked, fun steps ended =>
    advanced_in_step n.session distinct n.tables booked steps ended⟩, fun load api exchange fetched => ?_,
    booked.1.recorded.called⟩
  obtain ⟨field, begun⟩ := traced.fetched load api exchange fetched
  exact ⟨field, begun, traced.begun load field api begun⟩

def movedTable : List LiveForm.Op :=
  [.refreshTables, .rows (.start true 0), .setValue "age" (.int 5), .refreshTables, .setValue "age" (.int 30),
   .replaceForm (adultRows "https://b")]

theorem moved_table_in_step :
    let opened := NotedForm.opened (adultRows "https://a") [("age", .int 20)] 0 defaultPatience oneRow
    let n := opened.run movedTable
    n.session.tableIds = ["t"] ∧ InStep defaultPatience n.session (n.step .syncTables).tables ∧
    InStep defaultPatience n.session ((n.session.refresh n.tables).advance [.start true 1, .finish 1]) ∧
    ∃ field, opened.AskedFor movedTable field ⟨"https://a", .get, [], none⟩ := by
  intro opened n
  have own : ∀ op ∈ movedTable, op.Own := by
    simp only [movedTable, List.forall_mem_cons, LiveForm.Op.Own, List.not_mem_nil, false_implies, implies_true,
      true_and, and_true]
    exact ⟨.start true 0, rfl⟩
  obtain ⟨_, settles, made, _⟩ :=
    sync_settles_shown (adultRows "https://a") [("age", .int 20)] 0 defaultPatience oneRow movedTable own
  have distinct : (Node.idsOf n.session.form.nodes).Nodup := by decide +kernel
  obtain ⟨synced, others⟩ := settles distinct
  have ended : ((n.session.refresh n.tables).advance [.start true 1, .finish 1]).Ended
      (n.session.refresh n.tables).source.awaited := by
    intro load member
    have awaited : (n.session.refresh n.tables).source.awaited = [1] := by decide +kernel
    rw [awaited] at member
    cases List.mem_singleton.mp member
    decide +kernel
  refine ⟨by decide +kernel, synced, others _ ended, ?_⟩
  have fetched : ∃ note ∈ n.tables.notes, ∃ load exchange,
      note = .fetched load ⟨"https://a", .get, [], none⟩ exchange := by
    have fetches : (TableNote.fetches n.tables.notes 0).map Prod.fst = [⟨"https://a", .get, [], none⟩] := by
      decide +kernel
    obtain ⟨⟨api, exchange⟩, there, same⟩ := List.mem_map.mp (fetches ▸ List.mem_cons_self)
    obtain ⟨note, member, found⟩ := List.mem_filterMap.mp there
    cases note with
    | fetched load made exchange =>
        rw [TableNote.fetchedBy?, Option.ite_none_right_eq_some] at found
        cases found.2
        exact ⟨_, member, load, exchange, same ▸ rfl⟩
    | asked | begun | forgotten | turned => cases found
  obtain ⟨note, member, load, exchange, rfl⟩ := fetched
  obtain ⟨field, _, asked⟩ := made load _ exchange member
  exact ⟨field, asked⟩

end NotedForm

end FormEngine
