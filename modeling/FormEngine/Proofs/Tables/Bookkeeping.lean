import FormEngine.Proofs.Tables.Waiting
import Mathlib.Data.List.Perm.Basic

set_option autoImplicit false

namespace FormEngine

namespace TableSource

def running (s : TableSource) (field : String) : List Load := s.loads.filter fun l => l.field == field && !l.cancelled

def pendingStates (s : TableSource) : Keyed TableState := s.states.filter fun entry => entry.2.isPending

def Runs (s : TableSource) (field : String) (number : Nat) : Prop :=
  ∃ l ∈ s.loads, l.number = number ∧ l.field = field ∧ l.cancelled = false

-- Every task is a load under way, and every pending state has a task.
structure Booked (s : TableSource) : Prop where
  tasks : (Keyed.names s.tasks).Nodup
  states : (Keyed.names s.states).Nodup
  counted : ∀ field number, Keyed.value? s.tasks field = some number → s.Runs field number
  awaited : ∀ field state, s.state? field = some state → state.status = .pending →
    ∃ number, Keyed.value? s.tasks field = some number

variable {s : TableSource}

theorem mem_running {field : String} {l : Load} :
    l ∈ s.running field ↔ l ∈ s.loads ∧ l.field = field ∧ l.cancelled = false := by
  simp [running]

theorem cancel_keeps (field : String) {l : Load} (here : l ∈ s.loads)
    (other : Keyed.value? s.tasks field ≠ some l.number) : l ∈ (s.cancel field).loads := by
  rw [cancel]
  cases found : Keyed.value? s.tasks field with
  | none => exact here
  | some number =>
      have apart : l.number ≠ number := fun same => other (found.trans (congrArg some same.symm))
      exact List.mem_map.mpr ⟨l, here, if_neg apart⟩

theorem Runs.apart (distinct : (s.loads.map Load.number).Nodup) {field : String} {number : Nat}
    (runs : s.Runs field number) {l : Load} (here : l ∈ s.loads) (other : l.field = field → l.cancelled = true) :
    number ≠ l.number := by
  obtain ⟨its, there, rfl, name, running⟩ := runs
  intro same
  obtain rfl := List.inj_on_of_nodup_map distinct there here same
  rw [other name] at running
  cases running

theorem Runs.end_load {field : String} {number other : Nat} (runs : s.Runs field number) (apart : number ≠ other) :
    (s.endLoad other).Runs field number := by
  obtain ⟨l, here, rfl, rest⟩ := runs
  exact ⟨l, List.mem_filter.mpr ⟨here, bne_iff_ne.mpr apart⟩, rfl, rest⟩

theorem status_settled (outcome : Except FetchError (List Row)) : statusOf outcome ≠ .pending := by
  cases outcome <;> exact TableStatus.noConfusion

namespace Booked

theorem cancel (booked : Booked s) (distinct : (s.loads.map Load.number).Nodup) (field : String) :
    (Keyed.names (s.cancel field).tasks).Nodup ∧
      ∀ other number, Keyed.value? (s.cancel field).tasks other = some number →
        (s.cancel field).Runs other number := by
  refine ⟨?_, fun other number found => ?_⟩
  · rw [TableSource.cancel]
    split
    · exact booked.tasks
    · exact Keyed.nodup_without booked.tasks field
  · rw [cancel_tasks] at found
    split at found
    · cases found
    · rename_i apart
      obtain ⟨l, here, rfl, rfl, running⟩ := booked.counted other number found
      refine ⟨l, cancel_keeps field here fun same => ?_, rfl, rfl, running⟩
      exact (booked.counted field l.number same).apart distinct here (fun name => absurd name.symm apart) rfl

theorem discard (booked : Booked s) (distinct : (s.loads.map Load.number).Nodup) (field : String) :
    Booked (s.discard field) where
  tasks := (booked.cancel distinct field).1
  states := by
    rw [TableSource.discard, cancel_states]
    exact Keyed.nodup_without booked.states field
  counted := (booked.cancel distinct field).2
  awaited := by
    intro name state found pending
    rw [discard_state] at found
    split at found
    · cases found
    · rename_i apart
      rw [discard_task, if_neg apart]
      exact booked.awaited name state found pending

theorem begin (booked : Booked s) (distinct : (s.loads.map Load.number).Nodup) (field : String) (api : TableApi) :
    Booked (s.begin field api).2 where
  tasks := Keyed.nodup_put (booked.cancel distinct field).1 field (s.cancel field).begun
  states := by
    rw [TableSource.begin, cancel_states]
    exact Keyed.nodup_put booked.states field _
  counted := by
    intro name number found
    rw [begin_task] at found
    rw [Runs, begin_loads]
    split at found
    · rename_i same
      cases found
      exact ⟨_, List.mem_append.mpr (.inr List.mem_cons_self), rfl, same, rfl⟩
    · rename_i apart
      have left : Keyed.value? (s.cancel field).tasks name = some number := by rw [cancel_tasks, if_neg apart, found]
      obtain ⟨l, here, kept⟩ := (booked.cancel distinct field).2 name number left
      exact ⟨l, List.mem_append.mpr (.inl here), kept⟩
  awaited := by
    intro name state found pending
    rw [begin_state] at found
    rw [begin_task]
    split at found
    · rename_i same
      exact ⟨_, if_pos same⟩
    · rename_i apart
      rw [if_neg apart]
      exact booked.awaited name state found pending

theorem request (booked : Booked s) (distinct : (s.loads.map Load.number).Nodup) (field : String) (api : TableApi) :
    Booked (s.request field api).2 := by
  rw [TableSource.request]
  split
  · split
    · exact booked
    · exact booked.begin distinct field api
  · exact booked.begin distinct field api

theorem carried (booked : Booked s) (next : TableSource) (tasks : next.tasks = s.tasks) (states : next.states = s.states)
    (kept : ∀ field number, s.Runs field number → next.Runs field number) : Booked next where
  tasks := tasks ▸ booked.tasks
  states := states ▸ booked.states
  counted := fun field number found => kept field number (booked.counted field number (tasks ▸ found))
  awaited := fun field state found pending => by
    rw [tasks]
    refine booked.awaited field state ?_ pending
    rw [state?, ← states]
    exact found

theorem changed (booked : Booked s) (number gates : Nat) (outcome : Except FetchError (List Row)) (gate : Option Nat) :
    Booked { s.changeLoad number (·.called outcome gate) with gates := gates } := by
  refine booked.carried _ rfl rfl fun field other ⟨l, here, same⟩ => ?_
  refine ⟨_, List.mem_map_of_mem here, ?_⟩
  dsimp only
  split <;> exact same

theorem released (booked : Booked s) (gate : Nat) : Booked (s.release gate).2 := by
  refine booked.carried _ rfl rfl fun field number ⟨l, here, same, name, running⟩ => ?_
  obtain ⟨numbers, fields, _, _, cancelled⟩ := l.open_gate_same gate
  exact ⟨l.openGate gate, List.mem_map_of_mem here, numbers.trans same, fields.trans name, cancelled.trans running⟩

theorem ended (booked : Booked s) (distinct : (s.loads.map Load.number).Nodup) {l : Load} (here : l ∈ s.loads)
    (cancelled : l.cancelled = true) : Booked (s.endLoad l.number) ∧ s.leave l = s := by
  have apart {field : String} {number : Nat} (runs : s.Runs field number) : number ≠ l.number :=
    runs.apart distinct here fun _ => cancelled
  refine ⟨booked.carried _ rfl rfl fun field number runs => runs.end_load (apart runs), ?_⟩
  rw [leave]
  exact if_neg fun counts => apart (booked.counted _ _ counts) rfl

theorem stored (booked : Booked s) (distinct : (s.loads.map Load.number).Nodup) {l : Load} (here : l ∈ s.loads)
    (counts : Keyed.value? s.tasks l.field = some l.number) (outcome : Except FetchError (List Row)) :
    Booked (((s.leave l).endLoad l.number).settleState l outcome) where
  tasks := by
    rw [leave, if_pos counts]
    exact Keyed.nodup_without booked.tasks l.field
  states := by
    rw [settleState, endLoad, leave_states]
    exact Keyed.nodup_put booked.states l.field _
  counted := by
    intro field number found
    rw [settleState, endLoad, leave_task _ _ _ counts] at found
    split at found
    · cases found
    · rename_i other
      have runs := booked.counted field number found
      obtain ⟨its, there, kept⟩ := runs.end_load (runs.apart distinct here fun name => absurd name other)
      exact ⟨its, by rw [settleState, endLoad, leave_loads]; exact there, kept⟩
  awaited := by
    intro field state found pending
    rw [settle_state_at] at found
    rw [settleState, endLoad, leave_task _ _ _ counts]
    split at found
    · cases found
      exact absurd pending (status_settled outcome)
    · rename_i other
      rw [if_neg other]
      rw [state?, endLoad, leave_states] at found
      exact booked.awaited field state found pending

end Booked

end TableSource

namespace TableHistory

open TableSource

variable {patience : Value} {earlier : List Call} {h : TableHistory}

theorem booked_preserved (patience : Value) (earlier : List Call) :
    Preserved fun h => Consistent patience earlier h ∧ Booked h.source where
  request := by
    rintro h field api ⟨consistent, booked⟩
    exact ⟨consistent.request field api, booked.request consistent.distinct field api⟩
  discard := by
    rintro h field ⟨consistent, booked⟩
    exact ⟨consistent.discard field, booked.discard consistent.distinct field⟩
  start := by
    rintro h heeding number ⟨consistent, booked⟩
    refine ⟨consistent.start heeding number, ?_⟩
    have step := consistent.start_cases heeding number
    generalize h.start heeding number = next at step ⊢
    cases step with
    | idle => exact booked
    | dropped l here cancelled => exact (booked.ended consistent.distinct here cancelled).1
    | fetched l here fresh running gate gates => exact booked.changed l.number gates _ gate
  release := by
    rintro h gate ⟨consistent, booked⟩
    exact ⟨consistent.release gate, booked.released gate⟩
  finish := by
    rintro h number ⟨consistent, booked⟩
    refine ⟨consistent.finish number, ?_⟩
    have step := consistent.finish_cases number
    generalize h.finish number = next at step ⊢
    cases step with
    | waiting => exact booked
    | cancelled l here cancelled =>
        obtain ⟨ended, left⟩ := booked.ended consistent.distinct here cancelled
        rw [left]
        exact ended
    | stored l here running outcome =>
        exact booked.stored consistent.distinct here ((consistent.loads l here).counts running).task outcome

theorem running_awaited (consistent : Consistent patience earlier h) {field : String} {l : Load}
    (member : l ∈ h.source.running field) :
    Keyed.value? h.source.tasks field = some l.number ∧
      h.source.state? field = some ⟨l.fingerprint, l.number, .pending⟩ := by
  obtain ⟨here, rfl, running⟩ := mem_running.mp member
  have counts := (consistent.loads l here).counts running
  exact ⟨counts.task, counts.state⟩

theorem pending_runs (booked : Booked h.source) {field : String} {state : TableState}
    (found : h.source.state? field = some state) (pending : state.status = .pending) : h.source.running field ≠ [] := by
  obtain ⟨number, counts⟩ := booked.awaited field state found pending
  obtain ⟨l, here, _, name, running⟩ := booked.counted field number counts
  exact List.ne_nil_of_mem (mem_running.mpr ⟨here, name, running⟩)

theorem running_once (consistent : Consistent patience earlier h) (field : String) :
    (h.source.running field).length ≤ 1 := by
  have distinct : (h.source.running field).Nodup := consistent.distinct.of_map.sublist List.filter_sublist
  have alone {l other : Load} (one : l ∈ h.source.running field) (two : other ∈ h.source.running field) : l = other := by
    have same := (running_awaited consistent one).1.symm.trans (running_awaited consistent two).1
    exact consistent.same_load (mem_running.mp one).1 (mem_running.mp two).1 (Option.some.inj same)
  cases all : h.source.running field with
  | nil => exact Nat.zero_le 1
  | cons l rest =>
      cases rest with
      | nil => exact Nat.le_refl 1
      | cons other rest =>
          rw [all] at distinct alone
          have twice : l = other := alone List.mem_cons_self (List.mem_cons_of_mem l List.mem_cons_self)
          exact absurd (twice ▸ List.mem_cons_self) (List.nodup_cons.mp distinct).1

theorem mem_pending_states (booked : Booked h.source) (field : String) :
    field ∈ Keyed.names h.source.pendingStates ↔
      ∃ state, h.source.state? field = some state ∧ state.status = .pending := by
  constructor
  · intro member
    obtain ⟨⟨name, state⟩, entry, rfl⟩ := List.mem_map.mp member
    obtain ⟨here, pending⟩ := List.mem_filter.mp entry
    exact ⟨state, Keyed.value?_of_mem booked.states here, beq_iff_eq.mp pending⟩
  · rintro ⟨state, found, pending⟩
    refine List.mem_map.mpr ⟨(field, state), List.mem_filter.mpr ⟨Keyed.mem_of_value? found, ?_⟩, rfl⟩
    exact beq_iff_eq.mpr pending

-- The tasks are those of the pending states, one for each.
theorem tasks_pending (consistent : Consistent patience earlier h) (booked : Booked h.source) :
    (Keyed.names h.source.tasks).Perm (Keyed.names h.source.pendingStates) := by
  have distinct : (Keyed.names h.source.pendingStates).Nodup :=
    booked.states.sublist (List.filter_sublist.map Prod.fst)
  refine (List.perm_ext_iff_of_nodup booked.tasks distinct).mpr fun field => ?_
  rw [mem_pending_states booked, Keyed.mem_names_iff]
  constructor
  · rintro ⟨number, counts⟩
    obtain ⟨l, here, _, name, running⟩ := booked.counted field number counts
    exact ⟨_, (running_awaited consistent (mem_running.mpr ⟨here, name, running⟩)).2, rfl⟩
  · rintro ⟨state, found, pending⟩
    exact booked.awaited field state found pending

theorem in_flight_pending (consistent : Consistent patience earlier h) (booked : Booked h.source) :
    h.source.inFlight = h.source.pendingStates.length := by
  have unfinished : ∀ task ∈ h.source.tasks, (h.source.load? task.2).isSome = true := by
    rintro ⟨field, number⟩ member
    obtain ⟨l, here, same, _⟩ := booked.counted field number (Keyed.value?_of_mem booked.tasks member)
    exact List.find?_isSome.mpr ⟨l, here, beq_iff_eq.mpr same⟩
  have counted := (tasks_pending consistent booked).length_eq
  rw [Keyed.names, Keyed.names, List.length_map, List.length_map] at counted
  rw [inFlight, List.filter_eq_self.mpr unfinished, counted]

theorem loads_accounted (patience : Value) (network : Network) (events : List Event) :
    let h := (TableHistory.new patience network).run events
    (∀ field, h.source.running field ≠ [] ↔
      ∃ state, h.source.state? field = some state ∧ state.status = .pending) ∧
    (∀ field state, h.source.state? field = some state → ∀ l ∈ h.source.running field,
      l.fingerprint = state.fingerprint) ∧
    (∀ field, (h.source.running field).length ≤ 1) ∧
    h.source.inFlight = h.source.pendingStates.length ∧
    (∀ field, ((h.step .wait).source.state? field).map (·.fingerprint)
      = (h.source.state? field).map (·.fingerprint)) ∧
    ∀ field state, (h.step .wait).source.state? field = some state → state.status ≠ .pending := by
  intro h
  have initially : Booked (TableHistory.new patience network).source :=
    ⟨List.nodup_nil, List.nodup_nil, fun _ _ found => (nomatch found), fun _ _ found => nomatch found⟩
  have preserved := booked_preserved patience network.calls
  have now := preserved.run _ events ⟨.initial patience network, initially⟩
  have waited := preserved.step h .wait now
  obtain ⟨consistent, booked⟩ : Consistent patience network.calls h ∧ Booked h.source := now
  obtain ⟨onward, none⟩ := wait_ends consistent
  refine ⟨fun field => ⟨fun some => ?_, fun ⟨state, found, pending⟩ => pending_runs booked found pending⟩, ?_,
    running_once consistent, in_flight_pending consistent booked, onward.fingerprints, ?_⟩
  · obtain ⟨l, member⟩ := List.exists_mem_of_ne_nil _ some
    exact ⟨_, (running_awaited consistent member).2, rfl⟩
  · intro field state found l member
    have awaited := (running_awaited consistent member).2
    rw [found] at awaited
    exact congrArg TableState.fingerprint (Option.some.inj awaited).symm
  · intro field state found pending
    refine pending_runs waited.2 found pending ?_
    rw [TableHistory.step, TableSource.running, none, List.filter_nil]

end TableHistory

end FormEngine
