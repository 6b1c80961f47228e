import FormEngine.Proofs.Tables.Refresh

set_option autoImplicit false

namespace FormEngine

namespace TableApi

instance : DecidableRel Agrees := fun a b =>
  decidable_of_iff (a.url = b.url ∧ a.method = b.method ∧ a.headers.Perm b.headers ∧ a.body = b.body)
    ⟨fun ⟨url, method, headers, body⟩ => ⟨url, method, headers, body⟩,
      fun agrees => ⟨agrees.url, agrees.method, agrees.headers, agrees.body⟩⟩

end TableApi

namespace TableNote

def begunFor? (field : String) : TableNote → Option Nat
  | .begun load name _ => if name = field then some load else none
  | _ => none

def begunFor (notes : List TableNote) (field : String) : List Nat := notes.filterMap (begunFor? field)

def callBy? (loads : List Nat) : TableNote → Option Call
  | .fetched load _ exchange => if load ∈ loads then exchange.map (·.1) else none
  | _ => none

def callsFor (notes : List TableNote) (field : String) : List Call := notes.filterMap (callBy? (begunFor notes field))

@[simp] theorem begun_for_append (notes more : List TableNote) (field : String) :
    begunFor (notes ++ more) field = begunFor notes field ++ begunFor more field := by
  simp [begunFor]

theorem begun_for_some {notes : List TableNote} {load : Nat} (begun : load ∈ numbers notes) :
    ∃ field, load ∈ begunFor notes field := by
  obtain ⟨note, member, number⟩ := List.mem_filterMap.mp begun
  cases note with
  | begun other field api =>
      cases number
      exact ⟨field, List.mem_filterMap.mpr ⟨_, member, if_pos rfl⟩⟩
  | _ => cases number

theorem calls_by_cons_le (load : Nat) (loads : List Nat) (notes : List TableNote) :
    (notes.filterMap (callBy? (load :: loads))).length ≤
      (fetches notes load).length + (notes.filterMap (callBy? loads)).length := by
  induction notes with
  | nil => exact Nat.zero_le _
  | cons note rest ih =>
      have one : ([note].filterMap (callBy? (load :: loads))).length ≤
          (fetches [note] load).length + ([note].filterMap (callBy? loads)).length := by
        cases note with
        | fetched number api exchange =>
            by_cases same : number = load
            · cases exchange <;> simp [callBy?, fetches, fetchedBy?, same]
            · simp [callBy?, fetches, fetchedBy?, same, List.filterMap_cons]
        | _ => exact Nat.zero_le _
      rw [show note :: rest = [note] ++ rest from rfl, fetches_append]
      simp only [List.filterMap_append, List.length_append]
      omega

theorem calls_by_le (notes : List TableNote) (once : ∀ load, (fetches notes load).length ≤ 1) (loads : List Nat) :
    (notes.filterMap (callBy? loads)).length ≤ loads.length := by
  induction loads with
  | nil =>
      have none : notes.filterMap (callBy? []) = [] := by
        refine List.filterMap_eq_nil_iff.mpr fun note _ => ?_
        cases note <;> rfl
      rw [none]
      exact Nat.le_refl _
  | cons load loads ih =>
      calc (notes.filterMap (callBy? (load :: loads))).length
        _ ≤ (fetches notes load).length + (notes.filterMap (callBy? loads)).length := calls_by_cons_le load loads notes
        _ ≤ 1 + loads.length := Nat.add_le_add (once load) ih
        _ = (load :: loads).length := Nat.add_comm _ _

end TableNote

namespace TableHistory

open TableNote

def config? (h : TableHistory) (field : String) : Option TableApi :=
  (h.source.state? field).bind fun _ => (standing h.notes field).map (·.2)

def Event.asks? : Event → Option (String × TableApi)
  | .request field api | .resolve field api => some (field, api)
  | _ => none

def Event.Sound (event : Event) : Prop :=
  ∀ field api, event.asks? = some (field, api) → (Keyed.names api.headers).Nodup

def opens (h : TableHistory) (field : String) (event : Event) : Bool :=
  match event.asks? with
  | some (name, api) => name == field && !(h.config? field).any fun own => decide (api.Agrees own)
  | none => false

def openings (h : TableHistory) (field : String) : List Event → Nat
  | [] => 0
  | event :: events => (h.opens field event).toNat + openings (h.step event) field events

variable {patience : Value} {earlier : List Call} {h : TableHistory}

theorem config_state (consistent : Consistent patience earlier h) {field : String} {state : TableState}
    (found : h.source.state? field = some state) :
    ∃ own, h.config? field = some own ∧ state.fingerprint = own.fingerprint := by
  obtain ⟨own, _, fits⟩ := consistent.states field state found
  exact ⟨own, by rw [config?, found, Option.bind_some, fits.standing, Option.map_some], fits.fingerprint⟩

theorem known_eq (consistent : Consistent patience earlier h) (field : String) {api : TableApi}
    (distinct : (Keyed.names api.headers).Nodup) :
    (h.source.state? field).any (·.fingerprint == api.fingerprint) =
      (h.config? field).any fun own => decide (api.Agrees own) := by
  cases found : h.source.state? field with
  | none => rw [config?, found]; rfl
  | some state =>
      obtain ⟨own, config, same⟩ := config_state consistent found
      rw [config, Option.any_some, Option.any_some, same, Bool.eq_iff_iff, beq_iff_eq, decide_eq_true_eq]
      exact ⟨fun equal => TableApi.agrees_of_fingerprint api own equal.symm,
        fun agrees => (TableApi.fingerprint_of_agrees distinct agrees).symm⟩

theorem request_agreed (consistent : Consistent patience earlier h) (field : String) {api own : TableApi}
    (distinct : (Keyed.names api.headers).Nodup) (config : h.config? field = some own) (agrees : api.Agrees own) :
    h.request field api = { h with notes := h.notes ++ [.asked field api] } := by
  have known : (h.source.state? field).any (·.fingerprint == api.fingerprint) = true := by
    rw [known_eq consistent field distinct, config]
    exact decide_eq_true agrees
  obtain ⟨state, found, -⟩ := Option.bind_eq_some_iff.mp config
  have same : state.fingerprint = api.fingerprint := by simpa [found] using known
  have source : (h.source.request field api).2 = h.source := request_known field api found same
  rw [request, if_pos known, source]

theorem fetching_begun (h : TableHistory) (load : Nat) (field : String) : begunFor (h.fetching load) field = [] := by
  rw [fetching]
  split
  · rfl
  · split <;> rfl

theorem finish_begun (h : TableHistory) (load : Nat) (field : String) :
    begunFor (h.finish load).notes field = begunFor h.notes field := by
  rw [finish, begun_for_append]
  exact List.append_nil _

theorem start_begun (heeding : Bool) (h : TableHistory) (load : Nat) (field : String) :
    begunFor (h.start heeding load).notes field = begunFor h.notes field := by
  rw [start, begun_for_append, fetching_begun, List.append_nil]

theorem discard_begun (h : TableHistory) (name field : String) :
    begunFor (h.discard name).notes field = begunFor h.notes field := by
  rw [discard, begun_for_append]
  exact List.append_nil _

def NoneBegun (before : TableHistory) (field : String) (h : TableHistory) : Prop :=
  begunFor h.notes field = begunFor before.notes field

theorem settle_begun (heeding : Bool) (h : TableHistory) (field : String) :
    begunFor (h.settle heeding).notes field = begunFor h.notes field := by
  have started : NoneBegun h field (h.startAll heeding) :=
    Preserved.fold (start heeding) (fun now load kept => (start_begun heeding now load field).trans kept) _ h rfl
  exact Preserved.fold (P := NoneBegun h field) finish
    (fun now load kept => (finish_begun now load field).trans kept) _ _ started

theorem retain_begun (h : TableHistory) (names : List String) (field : String) :
    begunFor (h.retain names).notes field = begunFor h.notes field :=
  Preserved.fold (P := NoneBegun h field) discard (fun now name kept => (discard_begun now name field).trans kept) _ h rfl

theorem release_all_begun (h : TableHistory) (field : String) :
    begunFor h.releaseAll.notes field = begunFor h.notes field ∧ h.releaseAll.config? field = h.config? field :=
  Preserved.fold (P := fun now => NoneBegun h field now ∧ now.config? field = h.config? field) release
    (fun _ _ kept => kept) _ h ⟨rfl, rfl⟩

theorem request_begun (consistent : Consistent patience earlier h) (field name : String) {api : TableApi}
    (distinct : (Keyed.names api.headers).Nodup) :
    (begunFor (h.request name api).notes field).length =
      (begunFor h.notes field).length + (h.opens field (.request name api)).toNat := by
  rw [request, known_eq consistent name distinct, begun_for_append, List.length_append, opens, Event.asks?]
  dsimp only
  congr 1
  by_cases same : name = field
  · subst same
    cases (h.config? name).any fun own => decide (api.Agrees own) <;> simp [begunFor, begunFor?, List.filterMap_cons]
  · rw [beq_eq_false_iff_ne.mpr same]
    cases (h.config? name).any fun own => decide (api.Agrees own) <;>
      simp [begunFor, begunFor?, List.filterMap_cons, same]

theorem step_begun (consistent : Consistent patience earlier h) (field : String) (event : Event) (sound : event.Sound) :
    (begunFor (h.step event).notes field).length =
      (begunFor h.notes field).length + (h.opens field event).toNat := by
  cases event with
  | request name api => exact request_begun consistent field name (sound name api rfl)
  | discard name => exact congrArg List.length (discard_begun h name field)
  | retain names => exact congrArg List.length (retain_begun h names field)
  | wait => exact congrArg List.length ((settle_begun false _ field).trans (release_all_begun h field).1)
  | resolve name api =>
      obtain ⟨begun, config⟩ := release_all_begun h field
      have released : Consistent patience earlier h.releaseAll :=
        Preserved.fold release (consistent_preserved patience earlier).release _ h consistent
      have asked := request_begun released field name (sound name api rfl)
      have alike : h.releaseAll.opens field (.request name api) = h.opens field (.resolve name api) := by
        simp only [opens, Event.asks?, config]
      rw [begun, alike] at asked
      change (begunFor (if Keyed.has _ name then _ else _ : TableHistory).notes field).length = _
      split
      · rw [settle_begun]
        exact asked
      · exact asked
  | start heeding load => exact congrArg List.length (start_begun heeding h load field)
  | release gate => rfl
  | finish load => exact congrArg List.length (finish_begun h load field)

theorem run_begun (consistent : Consistent patience earlier h) (field : String) (events : List Event)
    (sound : ∀ event ∈ events, event.Sound) :
    (begunFor (h.run events).notes field).length = (begunFor h.notes field).length + h.openings field events := by
  induction events generalizing h with
  | nil => rfl
  | cons event rest ih =>
      obtain ⟨first, others⟩ := List.forall_mem_cons.mp sound
      have next : Consistent patience earlier (h.step event) :=
        (consistent_preserved patience earlier).step h event consistent
      have later := ih next others
      have now := step_begun consistent field event first
      rw [openings]
      change (begunFor ((h.step event).run rest).notes field).length = _
      omega

theorem request_fetches (h : TableHistory) (field : String) (api : TableApi) (load : Nat) :
    fetches (h.request field api).notes load = fetches h.notes load := by
  rw [request, fetches_append]
  split <;> exact List.append_nil _

theorem discard_fetches (h : TableHistory) (field : String) (load : Nat) :
    fetches (h.discard field).notes load = fetches h.notes load := by
  rw [discard, fetches_append]
  exact List.append_nil _

theorem finish_fetches (h : TableHistory) (number load : Nat) :
    fetches (h.finish number).notes load = fetches h.notes load := by
  rw [finish, fetches_append]
  exact List.append_nil _

theorem start_fetches (consistent : Consistent patience earlier h) (heeding : Bool) (number load : Nat) :
    fetches (h.start heeding number).notes load = fetches h.notes load ∨
      (∃ l ∈ h.source.loads, l.number = load ∧ l.cancelled = false) ∧
        (fetches (h.start heeding number).notes load).length = 1 := by
  have step := consistent.start_cases heeding number
  generalize h.start heeding number = next at step ⊢
  cases step with
  | idle => exact .inl rfl
  | dropped => exact .inl rfl
  | fetched l here fresh running =>
      dsimp only
      rw [fetches_append]
      by_cases same : l.number = load
      · subst same
        refine .inr ⟨⟨l, here, rfl, running⟩, ?_⟩
        rw [fetched_fresh (consistent.loads l here).fetched fresh]
        simp [fetches, fetchedBy?]
      · refine .inl ?_
        simp [fetches, fetchedBy?, same]

theorem once_preserved (patience : Value) (earlier : List Call) :
    Preserved fun h => Consistent patience earlier h ∧ ∀ load, (fetches h.notes load).length ≤ 1 where
  request := fun h field api ⟨consistent, once⟩ =>
    ⟨consistent.request field api, fun load => request_fetches h field api load ▸ once load⟩
  discard := fun h field ⟨consistent, once⟩ =>
    ⟨consistent.discard field, fun load => discard_fetches h field load ▸ once load⟩
  start := by
    rintro h heeding number ⟨consistent, once⟩
    refine ⟨consistent.start heeding number, fun load => ?_⟩
    rcases start_fetches consistent heeding number load with same | ⟨-, one⟩
    · exact same ▸ once load
    · exact one.le
  release := fun h gate ⟨consistent, once⟩ => ⟨consistent.release gate, once⟩
  finish := fun h number ⟨consistent, once⟩ =>
    ⟨consistent.finish number, fun load => finish_fetches h number load ▸ once load⟩

theorem cancelled_preserved (patience : Value) (earlier : List Call) (base : TableHistory) (load : Nat)
    (begun : load < base.source.begun) (cancelled : ∀ l ∈ base.source.loads, l.number = load → l.cancelled = true) :
    Preserved fun h => (Consistent patience earlier h ∧ Descends base h) ∧
      fetches h.notes load = fetches base.notes load where
  request := fun h field api ⟨kept, same⟩ =>
    ⟨(descends_preserved patience earlier base).request h field api kept, (request_fetches h field api load).trans same⟩
  discard := fun h field ⟨kept, same⟩ =>
    ⟨(descends_preserved patience earlier base).discard h field kept, (discard_fetches h field load).trans same⟩
  start := by
    rintro h heeding number ⟨⟨consistent, descends⟩, same⟩
    refine ⟨(descends_preserved patience earlier base).start h heeding number ⟨consistent, descends⟩, ?_⟩
    rcases start_fetches consistent heeding number load with still | ⟨⟨l, here, named, running⟩, -⟩
    · exact still.trans same
    · obtain ⟨old, there, number, -, kept⟩ := descends.loads l here (named ▸ begun)
      have off := cancelled old there (number.trans named)
      rw [kept running] at off
      cases off
  release := fun h gate ⟨kept, same⟩ => ⟨(descends_preserved patience earlier base).release h gate kept, same⟩
  finish := fun h number ⟨kept, same⟩ =>
    ⟨(descends_preserved patience earlier base).finish h number kept, (finish_fetches h number load).trans same⟩

theorem calls_charged (patience : Value) (network : Network) (events : List Event)
    (sound : ∀ event ∈ events, event.Sound) :
    let first := TableHistory.new patience network
    let h := first.run events
    (h.network.calls = network.calls ++ calls h.notes ∧
      ∀ load, fetches h.notes load ≠ [] → ∃ field, load ∈ begunFor h.notes field) ∧
    (∀ field, (callsFor h.notes field).length ≤ first.openings field events) ∧
    (∀ field state, h.source.state? field = some state →
      ∃ own, h.config? field = some own ∧ state.fingerprint = own.fingerprint) ∧
    (∀ field api own, (Keyed.names api.headers).Nodup → h.config? field = some own → api.Agrees own →
      h.request field api = { h with notes := h.notes ++ [.asked field api] }) ∧
    (∀ l ∈ h.source.loads, l.cancelled = true → l.phase = .fresh →
      ∀ more, fetches (h.run more).notes l.number = []) := by
  intro first h
  have initial : Consistent patience network.calls first := .initial patience network
  obtain ⟨consistent, once⟩ := (once_preserved patience network.calls).run first events ⟨initial, fun _ => Nat.zero_le _⟩
  refine ⟨⟨consistent.recorded.called, fun load fetched => ?_⟩, fun field => ?_,
    fun field state found => config_state consistent found, ?_, ?_⟩
  · have begun : load < h.source.begun := by
      by_contra new
      exact fetched (consistent.recorded.unfetched load (Nat.le_of_not_lt new))
    refine begun_for_some ?_
    rw [consistent.recorded.counted]
    exact List.mem_range.mpr begun
  · calc (callsFor h.notes field).length
      _ ≤ (begunFor h.notes field).length := calls_by_le h.notes once _
      _ = first.openings field events := by
        rw [run_begun initial field events sound]
        exact Nat.zero_add _
  · exact fun field api own distinct config agrees => request_agreed consistent field distinct config agrees
  · intro l here cancelled fresh more
    have begun : l.number < h.source.begun := consistent.recorded.number_lt (consistent.loads l here).begun
    have off : ∀ other ∈ h.source.loads, other.number = l.number → other.cancelled = true := by
      intro other there same
      rw [consistent.same_load there here same]
      exact cancelled
    have same := ((cancelled_preserved patience network.calls h l.number begun off).run h more
      ⟨⟨consistent, Nat.le_refl _, fun l here _ => ⟨l, here, rfl, rfl, id⟩⟩, rfl⟩).2
    rw [same]
    exact fetched_fresh (consistent.loads l here).fetched fresh

def givenUp : List Event :=
  [.request "f" firstAddress, .start true 0, .request "f" firstAddress, .request "f" otherAddress, .discard "f",
   .resolve "f" firstAddress]

theorem given_up_charged :
    let first := TableHistory.new defaultPatience ⟨[], []⟩
    let h := first.run givenUp
    (callsFor h.notes "f").length ≤ 3 ∧ first.openings "f" givenUp = 3 ∧
      ∀ more, fetches ((first.run (givenUp.take 5)).run more).notes 1 = [] := by
  intro first h
  have sound : ∀ event ∈ givenUp, event.Sound := by
    intro event member field api asks
    simp only [givenUp, List.mem_cons, List.not_mem_nil, or_false] at member
    rcases member with rfl | rfl | rfl | rfl | rfl | rfl <;> cases asks <;> decide
  obtain ⟨-, charged, -⟩ := calls_charged defaultPatience ⟨[], []⟩ givenUp sound
  obtain ⟨-, -, -, -, silent⟩ := calls_charged defaultPatience ⟨[], []⟩ (givenUp.take 5) fun event member =>
    sound event (List.mem_of_mem_take member)
  have three : first.openings "f" givenUp = 3 := by decide +kernel
  have waiting : ∃ l ∈ (first.run (givenUp.take 5)).source.loads,
      l.number = 1 ∧ l.cancelled = true ∧ l.isFresh = true := by decide +kernel
  obtain ⟨l, here, number, cancelled, fresh⟩ := waiting
  have phase : l.phase = .fresh := by
    rw [Load.isFresh] at fresh
    split at fresh
    · assumption
    · cases fresh
  exact ⟨three ▸ charged "f", three, number ▸ silent l here cancelled phase⟩

end TableHistory

end FormEngine
