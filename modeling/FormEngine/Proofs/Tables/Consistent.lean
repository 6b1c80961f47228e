import FormEngine.Proofs.Tables.Notes

set_option autoImplicit false

namespace FormEngine

open TableNote

-- The outcome is that of the only fetch of a load, which made the call of its table.
def Answered (patience : Value) (notes : List TableNote) (load : Nat) (api : TableApi)
    (outcome : Except FetchError (List Row)) : Prop :=
  ∃ exchange : Exchange, fetches notes load = [(api, exchange)] ∧ exchange.map (·.1) = api.call? patience ∧
    outcome = exchange.outcome

def LoadFetched (patience : Value) (notes : List TableNote) (l : Load) : Prop :=
  match l.phase with
  | .fresh => fetches notes l.number = []
  | .called outcome _ => Answered patience notes l.number l.api outcome

-- The load that its field waits for.
structure Counts (s : TableSource) (notes : List TableNote) (l : Load) : Prop where
  task : Keyed.value? s.tasks l.field = some l.number
  state : s.state? l.field = some ⟨l.fingerprint, l.number, .pending⟩
  standing : standing notes l.field = some (l.number, l.api)

structure LoadFits (patience : Value) (s : TableSource) (notes : List TableNote) (l : Load) : Prop where
  begun : .begun l.number l.field l.api ∈ notes
  fingerprint : l.fingerprint = l.api.fingerprint
  fetched : LoadFetched patience notes l
  counts : l.cancelled = false → Counts s notes l

structure StateFits (patience : Value) (notes : List TableNote) (field : String) (state : TableState)
    (api latest : TableApi) : Prop where
  standing : standing notes field = some (state.load, api)
  fingerprint : state.fingerprint = api.fingerprint
  wanted : wanted notes field = some latest
  unchanged : latest.fingerprint = api.fingerprint
  settled : state.status ≠ .pending →
    ∃ outcome, Answered patience notes state.load api outcome ∧ state.status = TableSource.statusOf outcome

structure Consistent (patience : Value) (earlier : List Call) (h : TableHistory) : Prop where
  constant : h.source.patience = patience
  recorded : Recorded earlier h.network.calls h.source.begun h.notes
  distinct : (h.source.loads.map Load.number).Nodup
  loads : ∀ l ∈ h.source.loads, LoadFits patience h.source h.notes l
  states : ∀ field state, h.source.state? field = some state →
    ∃ api latest, StateFits patience h.notes field state api latest

namespace TableSource

variable (s : TableSource) (field : String)

@[simp] theorem cancel_states : (s.cancel field).states = s.states := by
  rw [cancel]
  split <;> rfl

@[simp] theorem cancel_begun : (s.cancel field).begun = s.begun := by
  rw [cancel]
  split <;> rfl

@[simp] theorem cancel_patience : (s.cancel field).patience = s.patience := by
  rw [cancel]
  split <;> rfl

theorem cancel_tasks (other : String) :
    Keyed.value? (s.cancel field).tasks other = if field = other then none else Keyed.value? s.tasks other := by
  rw [cancel]
  split
  · rename_i none
    split
    · rename_i same
      rw [← same, none]
    · rfl
  · exact Keyed.value?_without s.tasks field other

@[simp] theorem cancel_numbers : (s.cancel field).loads.map Load.number = s.loads.map Load.number := by
  rw [cancel]
  split
  · rfl
  · simp only [changeLoad, List.map_map]
    apply List.map_congr_left
    intro l _
    dsimp only [Function.comp]
    split <;> rfl

theorem mem_cancel (l : Load) (member : l ∈ (s.cancel field).loads) :
    (l ∈ s.loads ∧ Keyed.value? s.tasks field ≠ some l.number) ∨ ∃ live ∈ s.loads, l = live.cancel := by
  rw [cancel] at member
  split at member
  · rename_i none
    exact .inl ⟨member, by simp [none]⟩
  · rename_i number counts
    obtain ⟨live, old, changed⟩ := List.mem_map.mp member
    split at changed
    · exact .inr ⟨live, old, changed.symm⟩
    · rename_i other
      subst changed
      refine .inl ⟨old, fun same => other ?_⟩
      rw [counts] at same
      exact (Option.some.inj same).symm

variable (other : String) (api : TableApi)

theorem discard_state : (s.discard field).state? other = if field = other then none else s.state? other := by
  rw [state?, discard, cancel_states]
  exact Keyed.value?_without s.states field other

theorem discard_task :
    Keyed.value? (s.discard field).tasks other = if field = other then none else Keyed.value? s.tasks other :=
  s.cancel_tasks field other

theorem begin_state :
    (s.begin field api).2.state? other
      = if field = other then some ⟨api.fingerprint, s.begun, .pending⟩ else s.state? other := by
  rw [state?, begin, cancel_states, cancel_begun]
  exact Keyed.value?_put s.states field _ other

theorem begin_task :
    Keyed.value? (s.begin field api).2.tasks other
      = if field = other then some s.begun else Keyed.value? s.tasks other := by
  rw [begin, cancel_begun, Keyed.value?_put, cancel_tasks]
  split <;> rfl

theorem begin_loads :
    (s.begin field api).2.loads
      = (s.cancel field).loads ++ [⟨s.begun, field, api.fingerprint, api, .fresh, false⟩] := by
  rw [begin, cancel_begun]

theorem begin_begun : (s.begin field api).2.begun = s.begun + 1 := by
  rw [begin, cancel_begun]

@[simp] theorem leave_states (l : Load) : (s.leave l).states = s.states := by
  rw [leave]
  split <;> rfl

@[simp] theorem leave_loads (l : Load) : (s.leave l).loads = s.loads := by
  rw [leave]
  split <;> rfl

theorem leave_task (l : Load) (counts : Keyed.value? s.tasks l.field = some l.number) :
    Keyed.value? (s.leave l).tasks other = if l.field = other then none else Keyed.value? s.tasks other := by
  rw [leave, if_pos counts]
  exact Keyed.value?_without s.tasks l.field other

theorem settle_state_at (l : Load) (outcome : Except FetchError (List Row)) :
    (s.settleState l outcome).state? other
      = if l.field = other then some ⟨l.fingerprint, l.number, statusOf outcome⟩ else s.state? other :=
  Keyed.value?_put s.states l.field _ other

theorem load_mem (number : Nat) (l : Load) (found : s.load? number = some l) : l ∈ s.loads ∧ l.number = number := by
  refine ⟨List.mem_of_find?_eq_some found, ?_⟩
  simpa using List.find?_some found

end TableSource

theorem fetched_fresh {patience : Value} {notes : List TableNote} {l : Load} (fetched : LoadFetched patience notes l)
    (phase : l.phase = .fresh) : fetches notes l.number = [] := by
  rw [LoadFetched, phase] at fetched
  exact fetched

theorem fetched_called {patience : Value} {notes : List TableNote} {l : Load} {outcome : Except FetchError (List Row)}
    {gate : Option Nat} (fetched : LoadFetched patience notes l) (phase : l.phase = .called outcome gate) :
    Answered patience notes l.number l.api outcome := by
  rw [LoadFetched, phase] at fetched
  exact fetched

theorem answered_append {patience : Value} {notes : List TableNote} {load : Nat} {api : TableApi}
    {outcome : Except FetchError (List Row)} (answered : Answered patience notes load api outcome)
    (more : List TableNote) (quiet : fetches more load = []) : Answered patience (notes ++ more) load api outcome := by
  obtain ⟨exchange, only, call, same⟩ := answered
  exact ⟨exchange, by rw [fetches_append, only, quiet, List.append_nil], call, same⟩

theorem fetched_append {patience : Value} {notes : List TableNote} {l : Load} (fetched : LoadFetched patience notes l)
    (more : List TableNote) (quiet : fetches more l.number = []) : LoadFetched patience (notes ++ more) l := by
  rw [LoadFetched] at fetched ⊢
  split at fetched
  · rw [fetches_append, fetched, quiet, List.append_nil]
  · exact answered_append fetched more quiet

theorem state_fits_append {patience : Value} {notes : List TableNote} {field : String} {state : TableState}
    {api latest : TableApi} (fits : StateFits patience notes field state api latest) (note : TableNote)
    (quiet : ∀ number, fetches [note] number = []) (stands : standing (notes ++ [note]) field = standing notes field)
    (wants : wanted (notes ++ [note]) field = wanted notes field) :
    StateFits patience (notes ++ [note]) field state api latest := by
  refine ⟨stands.trans fits.standing, fits.fingerprint, wants.trans fits.wanted, fits.unchanged, fun settled => ?_⟩
  obtain ⟨outcome, answered, same⟩ := fits.settled settled
  exact ⟨outcome, answered_append answered [note] (quiet _), same⟩

theorem LoadFits.carried {patience : Value} {s next : TableSource} {notes : List TableNote} {l : Load}
    (fits : LoadFits patience s notes l) (counts : Counts s notes l → Counts next notes l) :
    LoadFits patience next notes l :=
  ⟨fits.begun, fits.fingerprint, fits.fetched, fun running => counts (fits.counts running)⟩

theorem load_fits_append {patience : Value} {s : TableSource} {notes : List TableNote} {l : Load}
    (fits : LoadFits patience s notes l) (note : TableNote) (quiet : fetches [note] l.number = [])
    (stands : standing (notes ++ [note]) l.field = standing notes l.field) : LoadFits patience s (notes ++ [note]) l := by
  refine ⟨List.mem_append.mpr (.inl fits.begun), fits.fingerprint, fetched_append fits.fetched _ quiet, fun running => ?_⟩
  have counts := fits.counts running
  exact ⟨counts.task, counts.state, stands.trans counts.standing⟩

namespace Load

theorem open_gate_same (gate : Nat) (l : Load) :
    (l.openGate gate).number = l.number ∧ (l.openGate gate).field = l.field ∧ (l.openGate gate).api = l.api ∧
      (l.openGate gate).fingerprint = l.fingerprint ∧ (l.openGate gate).cancelled = l.cancelled := by
  rw [openGate]
  split
  · split <;> simp [called]
  · simp

theorem open_gate_fetched {patience : Value} {notes : List TableNote} {l : Load} (gate : Nat)
    (fetched : LoadFetched patience notes l) : LoadFetched patience notes (l.openGate gate) := by
  rw [openGate]
  split
  · rename_i outcome g phase
    split
    · have answered := fetched_called fetched phase
      exact answered
    · exact fetched
  · exact fetched

end Load

namespace Consistent

variable {patience : Value} {earlier : List Call} {h : TableHistory}

theorem initial (patience : Value) (network : Network) : Consistent patience network.calls (.new patience network) where
  constant := rfl
  recorded := ⟨rfl, fun _ _ => rfl, (List.append_nil _).symm, fun _ => List.not_mem_nil⟩
  distinct := List.nodup_nil
  loads := fun _ member => absurd member List.not_mem_nil
  states := fun _ _ found => nomatch found

theorem cancelled (consistent : Consistent patience earlier h) (field : String) (l : Load)
    (member : l ∈ (h.source.cancel field).loads) :
    .begun l.number l.field l.api ∈ h.notes ∧ l.fingerprint = l.api.fingerprint ∧ LoadFetched patience h.notes l ∧
      (l.cancelled = false → l.field ≠ field ∧ Counts h.source h.notes l) := by
  rcases h.source.mem_cancel field l member with ⟨old, other⟩ | ⟨live, old, rfl⟩
  · have fits := consistent.loads l old
    refine ⟨fits.begun, fits.fingerprint, fits.fetched, fun running => ?_⟩
    have counts := fits.counts running
    exact ⟨fun same => other (same ▸ counts.task), counts⟩
  · have fits := consistent.loads live old
    exact ⟨fits.begun, fits.fingerprint, fits.fetched, fun running => nomatch running⟩

theorem discard (consistent : Consistent patience earlier h) (field : String) :
    Consistent patience earlier (h.discard field) where
  constant := (h.source.cancel_patience field).trans consistent.constant
  recorded := by
    rw [TableHistory.discard, TableSource.discard, TableSource.cancel_begun]
    exact consistent.recorded.quiet (quiet_forgotten field)
  distinct := by
    rw [TableHistory.discard, TableSource.discard, TableSource.cancel_numbers]
    exact consistent.distinct
  loads := by
    intro l member
    obtain ⟨begun, fingerprint, fetched, counts⟩ := consistent.cancelled field l member
    refine ⟨List.mem_append.mpr (.inl begun), fingerprint, fetched_append fetched _ rfl, fun running => ?_⟩
    obtain ⟨other, before⟩ := counts running
    have apart : ¬ field = l.field := Ne.symm other
    refine ⟨?_, ?_, ?_⟩
    · rw [TableHistory.discard, TableSource.discard_task, if_neg apart]
      exact before.task
    · rw [TableHistory.discard, TableSource.discard_state, if_neg apart]
      exact before.state
    · rw [TableHistory.discard, standing_append, stand, if_neg apart]
      exact before.standing
  states := by
    intro name state found
    rw [TableHistory.discard, TableSource.discard_state] at found
    split at found
    · cases found
    · rename_i apart
      obtain ⟨api, latest, fits⟩ := consistent.states name state found
      exact ⟨api, latest, state_fits_append fits _ (fun _ => rfl) (by simp [stand, apart]) (by simp [want, apart])⟩

theorem ask (consistent : Consistent patience earlier h) (field : String) (api : TableApi) (state : TableState)
    (found : h.source.state? field = some state) (same : state.fingerprint = api.fingerprint) :
    Consistent patience earlier { h with notes := h.notes ++ [.asked field api] } where
  constant := consistent.constant
  recorded := consistent.recorded.quiet (quiet_asked field api)
  distinct := consistent.distinct
  loads := fun l member => load_fits_append (consistent.loads l member) _ rfl (standing_append _ _ _)
  states := by
    intro name other here
    obtain ⟨config, latest, fits⟩ := consistent.states name other here
    by_cases this : field = name
    · subst this
      cases found.symm.trans here
      refine ⟨config, api, (standing_append _ _ _).trans fits.standing, fits.fingerprint, by simp [want],
        same.symm.trans fits.fingerprint, fun settled => ?_⟩
      obtain ⟨outcome, answered, status⟩ := fits.settled settled
      exact ⟨outcome, answered_append answered _ rfl, status⟩
    · exact ⟨config, latest, state_fits_append fits _ (fun _ => rfl) (standing_append _ _ _) (by simp [want, this])⟩

theorem begin (consistent : Consistent patience earlier h) (field : String) (api : TableApi) :
    Consistent patience earlier
      { h with
        source := (h.source.begin field api).2
        notes := (h.notes ++ [.asked field api]) ++ [.begun h.source.begun field api] } where
  constant := (h.source.cancel_patience field).trans consistent.constant
  recorded := by
    rw [TableSource.begin_begun]
    exact (consistent.recorded.quiet (quiet_asked field api)).begin field api
  distinct := by
    rw [TableSource.begin_loads, List.map_append, TableSource.cancel_numbers]
    refine List.nodup_append.mpr ⟨consistent.distinct, List.pairwise_singleton _ _, ?_⟩
    intro number member new last same
    obtain ⟨l, here, rfl⟩ := List.mem_map.mp member
    have lt := consistent.recorded.number_lt (consistent.loads l here).begun
    have number : new = h.source.begun := List.mem_singleton.mp last
    omega
  loads := by
    intro l member
    rw [TableSource.begin_loads] at member
    rcases List.mem_append.mp member with old | new
    · obtain ⟨begun, fingerprint, fetched, counts⟩ := consistent.cancelled field l old
      refine ⟨by simp [begun], fingerprint, fetched_append (fetched_append fetched _ rfl) _ rfl, fun running => ?_⟩
      obtain ⟨other, before⟩ := counts running
      have apart : ¬ field = l.field := Ne.symm other
      refine ⟨?_, ?_, ?_⟩
      · rw [TableSource.begin_task, if_neg apart]
        exact before.task
      · rw [TableSource.begin_state, if_neg apart]
        exact before.state
      · rw [standing_append, standing_append, stand, if_neg apart]
        exact before.standing
    · obtain rfl := List.mem_singleton.mp new
      have none : fetches ((h.notes ++ [.asked field api]) ++ [.begun h.source.begun field api]) h.source.begun = [] := by
        rw [fetches_append, fetches_append, consistent.recorded.unfetched _ (Nat.le_refl _)]
        rfl
      refine ⟨by simp, rfl, none, fun _ => ⟨?_, ?_, (standing_append _ _ _).trans (if_pos rfl)⟩⟩
      · rw [TableSource.begin_task, if_pos rfl]
      · rw [TableSource.begin_state, if_pos rfl]
  states := by
    intro name state found
    rw [TableSource.begin_state] at found
    split at found
    · rename_i this
      obtain rfl := Option.some.inj found
      subst this
      have asked : wanted ((h.notes ++ [.asked field api]) ++ [.begun h.source.begun field api]) field = some api := by
        rw [wanted_append, wanted_append]
        exact if_pos rfl
      exact ⟨api, api, (standing_append _ _ _).trans (if_pos rfl), rfl, asked, rfl, fun settled => absurd rfl settled⟩
    · rename_i other
      obtain ⟨config, latest, fits⟩ := consistent.states name state found
      have asked := state_fits_append fits (.asked field api) (fun _ => rfl) (standing_append _ _ _)
        (by simp [want, other])
      refine ⟨config, latest, state_fits_append asked _ (fun _ => rfl) ?_ (wanted_append _ _ _)⟩
      rw [standing_append _ (.begun h.source.begun field api), stand, if_neg other]

theorem request (consistent : Consistent patience earlier h) (field : String) (api : TableApi) :
    Consistent patience earlier (h.request field api) := by
  rw [TableHistory.request, TableSource.request]
  cases found : h.source.state? field with
  | none =>
      have begun := consistent.begin field api
      rw [List.append_assoc] at begun
      exact begun
  | some state =>
      by_cases same : state.fingerprint = api.fingerprint
      · simp only [Option.any_some, same, beq_self_eq_true, if_true]
        exact consistent.ask field api state found same
      · simp only [Option.any_some, same, beq_iff_eq, if_false]
        have begun := consistent.begin field api
        rw [List.append_assoc] at begun
        exact begun

theorem end_load (consistent : Consistent patience earlier h) (number : Nat) :
    Consistent patience earlier { h with source := h.source.endLoad number } where
  constant := consistent.constant
  recorded := consistent.recorded
  distinct := consistent.distinct.sublist (List.filter_sublist.map Load.number)
  loads := by
    intro l member
    have fits := consistent.loads l (List.mem_filter.mp member).1
    exact fits.carried fun counts => ⟨counts.task, counts.state, counts.standing⟩
  states := consistent.states

theorem leave (consistent : Consistent patience earlier h) (gone : Load)
    (apart : ∀ l ∈ h.source.loads, l.number ≠ gone.number) :
    Consistent patience earlier { h with source := h.source.leave gone } := by
  rw [TableSource.leave]
  split
  · rename_i counted
    refine { consistent with loads := fun l member => (consistent.loads l member).carried fun counts => ?_ }
    refine ⟨?_, counts.state, counts.standing⟩
    have other : ¬ gone.field = l.field := by
      intro same
      rw [same, counts.task] at counted
      exact apart l member (Option.some.inj counted)
    rw [Keyed.value?_without, if_neg other]
    exact counts.task
  · exact consistent

theorem settle_state (consistent : Consistent patience earlier h) (gone : Load)
    (outcome : Except FetchError (List Row)) (api latest : TableApi)
    (left : Keyed.value? h.source.tasks gone.field = none)
    (fits : StateFits patience h.notes gone.field ⟨gone.fingerprint, gone.number, TableSource.statusOf outcome⟩ api latest) :
    Consistent patience earlier { h with source := h.source.settleState gone outcome } := by
  refine { consistent with loads := fun l member => ?_, states := fun name state found => ?_ }
  · refine (consistent.loads l member).carried fun counts => ⟨counts.task, ?_, counts.standing⟩
    have other : gone.field ≠ l.field := by
      intro same
      rw [same, counts.task] at left
      cases left
    rw [TableSource.settle_state_at, if_neg other]
    exact counts.state
  · rw [TableSource.settle_state_at] at found
    split at found
    · rename_i this
      cases found
      exact ⟨api, latest, this ▸ fits⟩
    · exact consistent.states name state found

theorem turned (consistent : Consistent patience earlier h) (number : Nat) (ending : TableSource.Ending)
    (wanted : ending ≠ .stale) :
    Consistent patience earlier { h with notes := h.notes ++ [.turned number ending] } where
  constant := consistent.constant
  recorded := consistent.recorded.quiet (quiet_turned number ending wanted)
  distinct := consistent.distinct
  loads := fun l member => load_fits_append (consistent.loads l member) _ rfl (standing_append _ _ _)
  states := by
    intro name state found
    obtain ⟨api, latest, fits⟩ := consistent.states name state found
    exact ⟨api, latest, state_fits_append fits _ (fun _ => rfl) (standing_append _ _ _) (wanted_append _ _ _)⟩

end Consistent

end FormEngine
