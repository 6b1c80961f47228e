import FormEngine.Proofs.Tables.Fingerprint
import FormEngine.Proofs.Tables.Steps

set_option autoImplicit false

namespace FormEngine

open TableNote

namespace Consistent

variable {patience : Value} {earlier : List Call} {h : TableHistory}

theorem settled_apart (consistent : Consistent patience earlier h) {l : Load} (here : l ∈ h.source.loads)
    (running : l.cancelled = false) {field : String} {state : TableState} {api latest : TableApi}
    (found : h.source.state? field = some state) (fits : StateFits patience h.notes field state api latest)
    (settled : state.status ≠ .pending) : l.number ≠ state.load := by
  intro same
  have load := consistent.loads l here
  have begun := standing_begun fits.standing
  rw [← same] at begun
  obtain ⟨this, _⟩ := begun_unique consistent.recorded.distinct load.begun begun
  have pending := (load.counts running).state
  rw [this, found] at pending
  exact settled (by rw [Option.some.inj pending])

@[simp] theorem called_number (l : Load) (outcome : Except FetchError (List Row)) (gate : Option Nat) :
    (l.called outcome gate).number = l.number := rfl

theorem called_numbers (s : TableSource) (number : Nat) (outcome : Except FetchError (List Row)) (gate : Option Nat) :
    (s.changeLoad number (·.called outcome gate)).loads.map Load.number = s.loads.map Load.number := by
  simp only [TableSource.changeLoad, List.map_map]
  apply List.map_congr_left
  intro l _
  dsimp only [Function.comp]
  split <;> rfl

theorem fetch (consistent : Consistent patience earlier h) (l : Load) (here : l ∈ h.source.loads)
    (fresh : l.phase = .fresh) (running : l.cancelled = false) (gate : Option Nat) (gates : Nat) :
    Consistent patience earlier
      { source :=
          { h.source.changeLoad l.number (·.called (l.api.fetch h.source.patience h.network).1.outcome gate) with
            gates := gates }
        network := (l.api.fetch h.source.patience h.network).2
        notes := h.notes ++ [.fetched l.number l.api (l.api.exchange h.source.patience h.network)] } where
  constant := consistent.constant
  recorded := by
    rw [fetch_calls]
    exact consistent.recorded.fetch l.number (consistent.recorded.number_lt (consistent.loads l here).begun) l.api _
  distinct := by
    rw [called_numbers]
    exact consistent.distinct
  loads := by
    intro changed member
    obtain ⟨live, there, rfl⟩ := List.mem_map.mp member
    have fits := consistent.loads live there
    by_cases this : live.number = l.number
    · obtain rfl := consistent.same_load there here this
      have none := fetched_fresh fits.fetched fresh
      rw [if_pos rfl]
      refine ⟨List.mem_append.mpr (.inl fits.begun), fits.fingerprint, ?_, fun running => ?_⟩
      · refine ⟨live.api.exchange h.source.patience h.network, ?_, ?_, fetch_outcome _ _ _⟩
        · rw [called_number, fetches_append, none]
          simp [fetches, fetchedBy?]
          rfl
        · rw [exchange_call, consistent.constant]
          rfl
      · have counts := fits.counts running
        exact ⟨counts.task, counts.state, (standing_append _ _ _).trans counts.standing⟩
    · rw [if_neg this]
      have quiet : fetches [.fetched l.number l.api (l.api.exchange h.source.patience h.network)] live.number = [] := by
        simp [fetches, fetchedBy?, Ne.symm this]
      have noted := load_fits_append fits _ quiet (standing_append _ _ _)
      exact noted.carried fun counts => ⟨counts.task, counts.state, counts.standing⟩
  states := by
    intro field state found
    have found : h.source.state? field = some state := found
    obtain ⟨api, latest, fits⟩ := consistent.states field state found
    refine ⟨api, latest, (standing_append _ _ _).trans fits.standing, fits.fingerprint,
      (wanted_append _ _ _).trans fits.wanted, fits.unchanged, fun settled => ?_⟩
    obtain ⟨outcome, answered, status⟩ := fits.settled settled
    have apart := consistent.settled_apart here running found fits settled
    exact ⟨outcome, answered_append answered _ (by simp [fetches, fetchedBy?, apart]), status⟩

theorem start (consistent : Consistent patience earlier h) (heeding : Bool) (load : Nat) :
    Consistent patience earlier (h.start heeding load) := by
  have step := consistent.start_cases heeding load
  generalize h.start heeding load = next at step ⊢
  cases step with
  | idle => exact consistent
  | dropped l => exact consistent.end_load l.number
  | fetched l here fresh running gate gates => exact consistent.fetch l here fresh running gate gates

theorem release (consistent : Consistent patience earlier h) (gate : Nat) :
    Consistent patience earlier (h.release gate) := by
  refine { consistent with distinct := ?_, loads := fun opened member => ?_ }
  · have numbers : h.source.loads.map (Load.number ∘ Load.openGate gate) = h.source.loads.map Load.number :=
      List.map_congr_left fun l _ => (l.open_gate_same gate).1
    rw [TableHistory.release, TableSource.release, List.map_map, numbers]
    exact consistent.distinct
  · obtain ⟨l, here, rfl⟩ := List.mem_map.mp member
    obtain ⟨number, field, api, fingerprint, cancelled⟩ := l.open_gate_same gate
    have fits := consistent.loads l here
    refine ⟨?_, ?_, Load.open_gate_fetched gate fits.fetched, fun running => ?_⟩
    · rw [number, field, api]
      exact fits.begun
    · rw [fingerprint, api]
      exact fits.fingerprint
    · rw [cancelled] at running
      have counts := fits.counts running
      refine ⟨?_, ?_, ?_⟩
      · rw [field, number]
        exact counts.task
      · rw [field, fingerprint, number]
        exact counts.state
      · rw [field, number, api]
        exact counts.standing

theorem leave_end_load (s : TableSource) (l : Load) (number : Nat) :
    (s.leave l).endLoad number = (s.endLoad number).leave l := by
  have tasks : (s.endLoad number).tasks = s.tasks := rfl
  simp only [TableSource.leave]
  rw [tasks]
  split <;> rfl

theorem ended (consistent : Consistent patience earlier h) (l : Load) :
    Consistent patience earlier { h with source := (h.source.leave l).endLoad l.number } := by
  rw [leave_end_load]
  refine (consistent.end_load l.number).leave l fun other member => ?_
  simpa using (List.mem_filter.mp member).2

theorem finish (consistent : Consistent patience earlier h) (load : Nat) :
    Consistent patience earlier (h.finish load) := by
  have step := consistent.finish_cases load
  generalize h.finish load = next at step ⊢
  cases step with
  | waiting => exact consistent.turned load .waiting (by decide)
  | cancelled l => exact (consistent.ended l).turned l.number .cancelled (by decide)
  | stored l here running outcome phase =>
      have fits := consistent.loads l here
      have counts := fits.counts running
      obtain ⟨api, latest, before⟩ := consistent.states l.field _ counts.state
      obtain rfl : l.api = api := by
        have same := counts.standing.symm.trans before.standing
        exact (Prod.mk.inj (Option.some.inj same)).2
      have answered := fetched_called fits.fetched phase
      have left : Keyed.value? (h.source.leave l).tasks l.field = none := by
        rw [TableSource.leave_task _ _ _ counts.task, if_pos rfl]
      have stored := (consistent.ended l).settle_state l outcome l.api latest left
        ⟨before.standing, before.fingerprint, before.wanted, before.unchanged, fun _ => ⟨outcome, answered, rfl⟩⟩
      exact stored.turned l.number .stored (by decide)

end Consistent

namespace TableHistory

structure Preserved (P : TableHistory → Prop) : Prop where
  request : ∀ h field api, P h → P (h.request field api)
  discard : ∀ h field, P h → P (h.discard field)
  start : ∀ h heeding load, P h → P (h.start heeding load)
  release : ∀ h gate, P h → P (h.release gate)
  finish : ∀ h load, P h → P (h.finish load)

namespace Preserved

variable {P : TableHistory → Prop}

theorem fold {α : Type} (step : TableHistory → α → TableHistory) (each : ∀ h x, P h → P (step h x)) (xs : List α)
    (h : TableHistory) (holds : P h) : P (xs.foldl step h) := by
  induction xs generalizing h with
  | nil => exact holds
  | cons x rest ih => exact ih (step h x) (each h x holds)

theorem settle (preserved : Preserved P) (heeding : Bool) (h : TableHistory) (holds : P h) : P (h.settle heeding) := by
  have started := fold (TableHistory.start heeding) (fun h load => preserved.start h heeding load) h.source.freshLoads h holds
  exact fold TableHistory.finish preserved.finish _ (h.startAll heeding) started

theorem step (preserved : Preserved P) (h : TableHistory) (event : Event) (holds : P h) : P (h.step event) := by
  have released := fold TableHistory.release preserved.release h.source.closedGates h holds
  cases event with
  | request field api => exact preserved.request h field api holds
  | discard field => exact preserved.discard h field holds
  | retain fields => exact fold TableHistory.discard preserved.discard _ h holds
  | wait => exact preserved.settle false h.releaseAll released
  | resolve field api =>
      have asked := preserved.request h.releaseAll field api released
      show P (if Keyed.has _ field then _ else _)
      split
      · exact preserved.settle false _ asked
      · exact asked
  | start heeding load => exact preserved.start h heeding load holds
  | release gate => exact preserved.release h gate holds
  | finish load => exact preserved.finish h load holds

theorem run (preserved : Preserved P) (h : TableHistory) (events : List Event) (holds : P h) : P (h.run events) :=
  fold TableHistory.step preserved.step events h holds

end Preserved

theorem consistent_preserved (patience : Value) (earlier : List Call) : Preserved (Consistent patience earlier) where
  request := fun _ field api consistent => consistent.request field api
  discard := fun _ field consistent => consistent.discard field
  start := fun _ heeding load consistent => consistent.start heeding load
  release := fun _ gate consistent => consistent.release gate
  finish := fun _ load consistent => consistent.finish load

variable {patience : Value} {earlier : List Call} {h : TableHistory}

theorem superseded_apart (consistent : Consistent patience earlier h) {load : Nat}
    (superseded : Superseded h.notes load) (field : String) (api : TableApi) :
    standing h.notes field ≠ some (load, api) := by
  intro counts
  obtain ⟨name, config, begun, apart⟩ := superseded_begun superseded
  obtain ⟨rfl, _⟩ := begun_unique consistent.recorded.distinct begun (standing_begun counts)
  exact apart consistent.recorded.distinct api counts

theorem superseded_stateless (consistent : Consistent patience earlier h) {load : Nat}
    (superseded : Superseded h.notes load) (field : String) (state : TableState)
    (found : h.source.state? field = some state) : state.load ≠ load := by
  rintro rfl
  obtain ⟨api, latest, fits⟩ := consistent.states field state found
  exact superseded_apart consistent superseded field api fits.standing

def Unstored (load : Nat) (before : List TableNote) (h : TableHistory) : Prop :=
  ∃ added, h.notes = before ++ added ∧ .turned load .stored ∉ added

theorem Unstored.more {load : Nat} {before : List TableNote} (unstored : Unstored load before h) (next : TableHistory)
    (added : List TableNote) (notes : next.notes = h.notes ++ added) (quiet : .turned load .stored ∉ added) :
    Unstored load before next := by
  obtain ⟨since, split, none⟩ := unstored
  refine ⟨since ++ added, by rw [notes, split, List.append_assoc], fun member => ?_⟩
  rcases List.mem_append.mp member with old | new
  · exact none old
  · exact quiet new

theorem fetching_quiet (h : TableHistory) (number load : Nat) (ending : TableSource.Ending) :
    .turned load ending ∉ h.fetching number := by
  rw [fetching]
  split
  · exact List.not_mem_nil
  · split
    · intro member
      cases List.mem_singleton.mp member
    · exact List.not_mem_nil

theorem unstored_preserved (patience : Value) (earlier : List Call) (load : Nat) (before : List TableNote)
    (superseded : Superseded before load) :
    Preserved fun h => Consistent patience earlier h ∧ Unstored load before h where
  request := by
    rintro h field api ⟨consistent, unstored⟩
    refine ⟨consistent.request field api, unstored.more _ _ rfl fun member => ?_⟩
    split at member <;> simp at member
  discard := by
    rintro h field ⟨consistent, unstored⟩
    exact ⟨consistent.discard field, unstored.more _ _ rfl (by simp)⟩
  start := by
    rintro h heeding number ⟨consistent, unstored⟩
    exact ⟨consistent.start heeding number, unstored.more _ _ rfl (fetching_quiet h number load .stored)⟩
  release := by
    rintro h gate ⟨consistent, unstored⟩
    exact ⟨consistent.release gate, unstored.more _ [] (List.append_nil _).symm List.not_mem_nil⟩
  finish := by
    rintro h number ⟨consistent, unstored⟩
    refine ⟨consistent.finish number, ?_⟩
    have step := consistent.finish_cases number
    generalize h.finish number = next at step ⊢
    cases step with
    | waiting => exact unstored.more _ [.turned number .waiting] rfl (by simp)
    | cancelled l => exact unstored.more _ [.turned l.number .cancelled] rfl (by simp)
    | stored l here running =>
        refine unstored.more _ [.turned l.number .stored] rfl fun member => ?_
        obtain ⟨since, split, _⟩ := unstored
        have load : load = l.number := by simpa using member
        have counts := (consistent.loads l here).counts running
        refine superseded_apart consistent (split ▸ superseded_append superseded since) l.field l.api ?_
        rw [load]
        exact counts.standing

theorem no_stale_rows (patience : Value) (network : Network) (events : List Event) :
    let h := (TableHistory.new patience network).run events
    (∀ field state, h.source.state? field = some state → state.status ≠ .pending →
      ∃ (api latest : TableApi) (exchange : Exchange),
        standing h.notes field = some (state.load, api) ∧ fetches h.notes state.load = [(api, exchange)] ∧
        exchange.map (·.1) = api.call? patience ∧ state.status = TableSource.statusOf exchange.outcome ∧
        wanted h.notes field = some latest ∧ latest.Agrees api) ∧
    (∀ load, Superseded h.notes load → ∀ more,
      (∃ added, (h.run more).notes = h.notes ++ added ∧ .turned load .stored ∉ added) ∧
      ∀ field state, (h.run more).source.state? field = some state → state.load ≠ load) ∧
    (∀ load, .turned load .stale ∉ h.notes) ∧
    h.network.calls = network.calls ++ calls h.notes := by
  intro h
  have consistent : Consistent patience network.calls h :=
    (consistent_preserved patience network.calls).run _ events (.initial patience network)
  refine ⟨fun field state found settled => ?_, fun load superseded more => ?_, consistent.recorded.fresh, consistent.recorded.called⟩
  · obtain ⟨api, latest, fits⟩ := consistent.states field state found
    obtain ⟨outcome, ⟨exchange, only, call, rfl⟩, status⟩ := fits.settled settled
    exact ⟨api, latest, exchange, fits.standing, only, call, status, fits.wanted,
      TableApi.agrees_of_fingerprint latest api fits.unchanged⟩
  · have later := (unstored_preserved patience network.calls load h.notes superseded).run h more
      ⟨consistent, [], (List.append_nil _).symm, List.not_mem_nil⟩
    refine ⟨later.2, fun field state found => superseded_stateless later.1 ?_ field state found⟩
    obtain ⟨since, split, _⟩ := later.2
    rw [split]
    exact superseded_append superseded since

def firstAddress : TableApi := ⟨"https://a", .get, [], none⟩

def otherAddress : TableApi := ⟨"https://b", .get, [], none⟩

def thereAndBack : TableHistory :=
  (TableHistory.new defaultPatience
    ⟨[("https://a", [⟨.response 500 "old", false⟩, ⟨.response 503 "new", false⟩]),
      ("https://b", [⟨.response 501 "other", false⟩])], []⟩).run
    [.request "f" firstAddress, .start true 0, .request "f" otherAddress, .start true 1, .request "f" firstAddress,
     .start true 2, .finish 2, .finish 1, .finish 0]

theorem there_and_back_fresh :
    (∃ exchange : Exchange, fetches thereAndBack.notes 2 = [(firstAddress, exchange)] ∧
      TableStatus.failed (.status 503 "new") = TableSource.statusOf exchange.outcome) ∧
    ∀ more field state, (thereAndBack.run more).source.state? field = some state → state.load ≠ 0 := by
  have found : thereAndBack.source.state? "f" = some ⟨firstAddress.fingerprint, 2, .failed (.status 503 "new")⟩ := by
    decide +kernel
  have superseded : Superseded thereAndBack.notes 0 := by
    refine ⟨[.asked "f" firstAddress], "f", firstAddress, thereAndBack.notes.drop 2, by decide +kernel,
      .begun 1 "f" otherAddress, by decide +kernel, rfl⟩
  obtain ⟨settled, gone, _⟩ := no_stale_rows defaultPatience _ _
  obtain ⟨api, _, exchange, stands, only, _, status, _⟩ := settled "f" _ found (by decide)
  have standing : standing thereAndBack.notes "f" = some (2, firstAddress) := by decide +kernel
  obtain rfl := (Prod.mk.inj (Option.some.inj (standing.symm.trans stands))).2
  exact ⟨⟨exchange, only, status⟩, fun more => (gone 0 superseded more).2⟩

end TableHistory

end FormEngine
