import FormEngine.Proofs.Tables.Consistent
import Mathlib.Data.List.Nodup

set_option autoImplicit false

namespace FormEngine

namespace TableHistory

-- Starting a load that has started or has ended does nothing; only a start that heeds gates puts one before the load.
inductive Started (h : TableHistory) (heeding : Bool) : Nat → TableHistory → Prop where
  | idle (number : Nat) (begun : ∀ l ∈ h.source.loads, l.number = number → l.phase ≠ .fresh) : Started h heeding number h
  | dropped (l : Load) (here : l ∈ h.source.loads) (cancelled : l.cancelled = true) :
      Started h heeding l.number { h with source := h.source.endLoad l.number }
  | fetched (l : Load) (here : l ∈ h.source.loads) (fresh : l.phase = .fresh) (running : l.cancelled = false)
      (gate : Option Nat) (gates : Nat) (heeded : heeding = false → gate = none) :
      Started h heeding l.number
        { source :=
            { h.source.changeLoad l.number (·.called (l.api.fetch h.source.patience h.network).1.outcome gate) with
              gates := gates }
          network := (l.api.fetch h.source.patience h.network).2
          notes := h.notes ++ [.fetched l.number l.api (l.api.exchange h.source.patience h.network)] }

-- A load that is not called off waits for its start and for its gate, and then its result is stored.
inductive Finished (h : TableHistory) : Nat → TableHistory → Prop where
  | waiting (number : Nat)
      (held : ∀ l ∈ h.source.loads, l.number = number → l.phase = .fresh ∨ l.cancelled = false ∧ l.gate? ≠ none) :
      Finished h number { h with notes := h.notes ++ [.turned number .waiting] }
  | cancelled (l : Load) (here : l ∈ h.source.loads) (cancelled : l.cancelled = true) :
      Finished h l.number
        { h with
          source := (h.source.leave l).endLoad l.number
          notes := h.notes ++ [.turned l.number .cancelled] }
  | stored (l : Load) (here : l ∈ h.source.loads) (running : l.cancelled = false)
      (outcome : Except FetchError (List Row)) (phase : l.phase = .called outcome none) :
      Finished h l.number
        { h with
          source := ((h.source.leave l).endLoad l.number).settleState l outcome
          notes := h.notes ++ [.turned l.number .stored] }

end TableHistory

namespace TableSource

theorem load_absent (s : TableSource) {number : Nat} (none : s.load? number = none) {l : Load} (here : l ∈ s.loads) :
    l.number ≠ number := by
  simpa using List.find?_eq_none.mp none l here

end TableSource

namespace Consistent

variable {patience : Value} {earlier : List Call} {h : TableHistory}

theorem same_load (consistent : Consistent patience earlier h) {l other : Load} (here : l ∈ h.source.loads)
    (there : other ∈ h.source.loads) (same : l.number = other.number) : l = other :=
  List.inj_on_of_nodup_map consistent.distinct here there same

theorem result_wanted (consistent : Consistent patience earlier h) {l : Load} (here : l ∈ h.source.loads)
    (running : l.cancelled = false) : ((h.source.leave l).endLoad l.number).isStale l = false := by
  have state : ((h.source.leave l).endLoad l.number).state? l.field = some ⟨l.fingerprint, l.number, .pending⟩ := by
    rw [← ((consistent.loads l here).counts running).state]
    exact congrArg (Keyed.value? · l.field) (h.source.leave_states l)
  rw [TableSource.isStale]
  rw [state]
  exact bne_self_eq_false l.fingerprint

theorem start_cases (consistent : Consistent patience earlier h) (heeding : Bool) (load : Nat) :
    h.Started heeding load (h.start heeding load) := by
  rw [TableHistory.start, TableHistory.fetching, TableSource.start]
  cases found : h.source.load? load with
  | none =>
      simpa only [List.append_nil] using
        .idle load fun l here same => absurd same (h.source.load_absent found here)
  | some l =>
      obtain ⟨here, rfl⟩ := h.source.load_mem load l found
      cases phase : l.phase with
      | called outcome gate =>
          have begun : ∀ other ∈ h.source.loads, other.number = l.number → other.phase ≠ .fresh := by
            intro other there same
            rw [consistent.same_load there here same, phase]
            exact Phase.noConfusion
          simpa only [phase, List.append_nil] using .idle l.number begun
      | fresh =>
          cases running : l.cancelled with
          | true => simpa only [phase, running, if_true, List.append_nil] using .dropped l here running
          | false =>
              simp only [phase, running, Bool.false_eq_true, if_false]
              split
              · rename_i held
                refine .fetched l here phase running _ _ fun unheeding => ?_
                simp [unheeding] at held
              · exact .fetched l here phase running none h.source.gates fun _ => rfl

theorem finish_cases (consistent : Consistent patience earlier h) (load : Nat) : h.Finished load (h.finish load) := by
  rw [TableHistory.finish, TableSource.finish]
  cases found : h.source.load? load with
  | none => exact .waiting load fun l here same => absurd same (h.source.load_absent found here)
  | some l =>
      obtain ⟨here, rfl⟩ := h.source.load_mem load l found
      have alone (held : l.phase = .fresh ∨ l.cancelled = false ∧ l.gate? ≠ none) :
          h.Finished l.number { h with notes := h.notes ++ [.turned l.number .waiting] } :=
        .waiting l.number fun other there same => consistent.same_load there here same ▸ held
      cases phase : l.phase with
      | fresh => simpa only [phase] using alone (.inl phase)
      | called outcome gate =>
          cases running : l.cancelled with
          | true => simpa only [phase, running, if_true] using .cancelled l here running
          | false =>
              cases gate with
              | some gate =>
                  simpa [phase, running] using alone (.inr ⟨running, by simp [Load.gate?, phase]⟩)
              | none =>
                  simpa [phase, running, consistent.result_wanted here running] using .stored l here running outcome phase

end Consistent

end FormEngine
