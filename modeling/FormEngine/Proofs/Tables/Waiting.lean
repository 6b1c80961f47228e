import FormEngine.Proofs.Tables.Freshness

set_option autoImplicit false

namespace FormEngine

theorem Load.open_gate_closed (gate other : Nat) (l : Load) (closed : (l.openGate gate).gate? = some other) :
    l.gate? = some other ∧ other ≠ gate := by
  rcases l with ⟨number, field, fingerprint, api, phase, cancelled⟩
  cases phase with
  | fresh => cases closed
  | called outcome own =>
      cases own with
      | none => cases closed
      | some own =>
          simp only [openGate] at closed
          split at closed
          · cases closed
          · rename_i apart
            cases closed
            exact ⟨rfl, apart⟩

namespace TableHistory

open TableSource

variable {patience : Value} {earlier : List Call} {h : TableHistory}

theorem fold_down {P : TableHistory → List Nat → Prop} (step : TableHistory → Nat → TableHistory)
    (each : ∀ h number rest, P h (number :: rest) → P (step h number) rest) (numbers : List Nat) (h : TableHistory)
    (holds : P h numbers) : P (numbers.foldl step h) [] := by
  induction numbers generalizing h with
  | nil => exact holds
  | cons number rest ih => exact ih (step h number) (each h number rest holds)

-- The history has gone on from an earlier one, and the fields that have a state have it for the same fingerprint.
structure Onward (patience : Value) (earlier : List Call) (before h : TableHistory) : Prop where
  consistent : Consistent patience earlier h
  fingerprints : ∀ field,
    (h.source.state? field).map (·.fingerprint) = (before.source.state? field).map (·.fingerprint)

namespace Onward

variable {before : TableHistory}

theorem release (onward : Onward patience earlier before h) (gate : Nat) :
    Onward patience earlier before (h.release gate) :=
  ⟨onward.consistent.release gate, onward.fingerprints⟩

theorem start (onward : Onward patience earlier before h) (heeding : Bool) (load : Nat) :
    Onward patience earlier before (h.start heeding load) := by
  refine ⟨onward.consistent.start heeding load, ?_⟩
  have step := onward.consistent.start_cases heeding load
  generalize h.start heeding load = next at step ⊢
  cases step <;> exact onward.fingerprints

theorem finish (onward : Onward patience earlier before h) (load : Nat) :
    Onward patience earlier before (h.finish load) := by
  refine ⟨onward.consistent.finish load, fun field => ?_⟩
  have step := onward.consistent.finish_cases load
  generalize h.finish load = next at step ⊢
  rw [← onward.fingerprints field]
  cases step with
  | waiting => rfl
  | cancelled l => rw [state?, state?, endLoad, leave_states]
  | stored l here running outcome =>
      have counts := (onward.consistent.loads l here).counts running
      rw [settle_state_at]
      split
      · rename_i same
        rw [← same, counts.state]
        rfl
      · rw [state?, state?, endLoad, leave_states]

theorem release_all (onward : Onward patience earlier before h) :
    Onward patience earlier before h.releaseAll ∧ ∀ l ∈ h.releaseAll.source.loads, l.gate? = none := by
  have released := fold_down
    (P := fun h gates =>
      Onward patience earlier before h ∧ ∀ l ∈ h.source.loads, ∀ gate, l.gate? = some gate → gate ∈ gates)
    TableHistory.release (fun h gate rest ⟨onward, closed⟩ => ?_) h.source.closedGates h
    ⟨onward, fun l here gate closed => List.mem_filterMap.mpr ⟨l, here, closed⟩⟩
  · refine ⟨released.1, fun l here => Option.eq_none_iff_forall_ne_some.mpr fun gate closed => ?_⟩
    exact absurd (released.2 l here gate closed) List.not_mem_nil
  · refine ⟨onward.release gate, fun opened member other still => ?_⟩
    obtain ⟨l, here, rfl⟩ := List.mem_map.mp member
    obtain ⟨was, apart⟩ := l.open_gate_closed gate other still
    exact (List.mem_cons.mp (closed l here other was)).resolve_left apart

theorem start_all (onward : Onward patience earlier before h) (released : ∀ l ∈ h.source.loads, l.gate? = none) :
    Onward patience earlier before (h.startAll false) ∧
      ∀ l ∈ (h.startAll false).source.loads, l.gate? = none ∧ l.phase ≠ .fresh := by
  have started := fold_down
    (P := fun h numbers =>
      Onward patience earlier before h ∧
        ∀ l ∈ h.source.loads, l.gate? = none ∧ (l.phase = .fresh → l.number ∈ numbers))
    (TableHistory.start false) (fun h number rest ⟨onward, waiting⟩ => ?_) h.source.freshLoads h
    ⟨onward, fun l here => ⟨released l here, fun fresh => ?_⟩⟩
  · refine ⟨started.1, fun l here => ⟨(started.2 l here).1, fun fresh => ?_⟩⟩
    exact absurd ((started.2 l here).2 fresh) List.not_mem_nil
  · refine ⟨onward.start false number, ?_⟩
    have step := onward.consistent.start_cases false number
    generalize h.start false number = next at step ⊢
    cases step with
    | idle _ begun =>
        refine fun l here => ⟨(waiting l here).1, fun fresh => ?_⟩
        refine (List.mem_cons.mp ((waiting l here).2 fresh)).resolve_left fun same => begun l here same fresh
    | dropped gone =>
        intro l member
        obtain ⟨here, apart⟩ := List.mem_filter.mp member
        refine ⟨(waiting l here).1, fun fresh => ?_⟩
        exact (List.mem_cons.mp ((waiting l here).2 fresh)).resolve_left (bne_iff_ne.mp apart)
    | fetched started _ _ _ gate gates heeded =>
        intro l member
        obtain ⟨live, here, rfl⟩ := List.mem_map.mp member
        split
        · exact ⟨heeded rfl, Phase.noConfusion⟩
        · rename_i apart
          exact ⟨(waiting live here).1, fun fresh => (List.mem_cons.mp ((waiting live here).2 fresh)).resolve_left apart⟩
  · refine List.mem_map.mpr ⟨l, List.mem_filter.mpr ⟨here, ?_⟩, rfl⟩
    rw [Load.isFresh, fresh]

theorem finish_all (onward : Onward patience earlier before h)
    (ready : ∀ l ∈ h.source.loads, l.gate? = none ∧ l.phase ≠ .fresh) :
    Onward patience earlier before h.finishAll ∧ h.finishAll.source.loads = [] := by
  have finished := fold_down
    (P := fun h numbers =>
      Onward patience earlier before h ∧
        ∀ l ∈ h.source.loads, (l.gate? = none ∧ l.phase ≠ .fresh) ∧ l.number ∈ numbers)
    TableHistory.finish (fun h number rest ⟨onward, left⟩ => ?_) (h.source.loads.map Load.number) h
    ⟨onward, fun l here => ⟨ready l here, List.mem_map_of_mem here⟩⟩
  · refine ⟨finished.1, List.eq_nil_iff_forall_not_mem.mpr fun l here => ?_⟩
    exact absurd (finished.2 l here).2 List.not_mem_nil
  · refine ⟨onward.finish number, ?_⟩
    have later (l : Load) (here : l ∈ h.source.loads) (apart : l.number ≠ number) :
        (l.gate? = none ∧ l.phase ≠ .fresh) ∧ l.number ∈ rest :=
      ⟨(left l here).1, (List.mem_cons.mp (left l here).2).resolve_left apart⟩
    have step := onward.consistent.finish_cases number
    generalize h.finish number = next at step ⊢
    cases step with
    | waiting _ held =>
        refine fun l here => later l here fun same => ?_
        rcases held l here same with fresh | ⟨_, closed⟩
        · exact (left l here).1.2 fresh
        · exact closed (left l here).1.1
    | cancelled gone =>
        intro l member
        obtain ⟨here, apart⟩ := List.mem_filter.mp member
        exact later l (leave_loads h.source gone ▸ here) (bne_iff_ne.mp apart)
    | stored gone =>
        intro l member
        obtain ⟨here, apart⟩ := List.mem_filter.mp member
        exact later l (leave_loads h.source gone ▸ here) (bne_iff_ne.mp apart)

end Onward

theorem wait_ends (consistent : Consistent patience earlier h) :
    Onward patience earlier h h.wait ∧ h.wait.source.loads = [] := by
  have onward : Onward patience earlier h h := ⟨consistent, fun _ => rfl⟩
  obtain ⟨onward, released⟩ := onward.release_all
  obtain ⟨onward, ready⟩ := onward.start_all released
  exact onward.finish_all ready

end TableHistory

end FormEngine
