import FormEngine.Builder.Store
import FormEngine.Proofs.Tables.Refresh

set_option autoImplicit false

namespace FormEngine

namespace TableHistory

open TableSource TableNote

variable {patience : Value} {earlier : List Call} {h : TableHistory}

theorem pass_preserved {P : TableHistory → Prop} (preserved : Preserved P) (now : Meanwhile) (holds : P h) :
    P (h.pass now) := by
  cases now with
  | refreshed other => exact other.refresh_preserved h preserved holds
  | load step => exact preserved.step h step.event holds

theorem pass_all_preserved {P : TableHistory → Prop} (preserved : Preserved P) (meanwhile : List Meanwhile)
    (holds : P h) : P (h.passAll meanwhile) :=
  Preserved.fold pass (fun _ now holds => pass_preserved preserved now holds) meanwhile h holds

theorem pass_stands (consistent : Consistent patience earlier h) (now : Meanwhile) {id fingerprint : String}
    {load : Nat} (keeps : ∀ other, now = .refreshed other → other.Keeps id fingerprint) (stands : h.Stands id load fingerprint) :
    (h.pass now).Stands id load fingerprint := by
  cases now with
  | refreshed other => exact Session.refresh_stands (keeps other rfl) stands
  | load step => exact load_step_stands consistent step stands

theorem pass_all_stands (meanwhile : List Meanwhile) (h : TableHistory) (consistent : Consistent patience earlier h)
    {id fingerprint : String} {load : Nat} (keeps : ∀ other, .refreshed other ∈ meanwhile → other.Keeps id fingerprint)
    (stands : h.Stands id load fingerprint) : (h.passAll meanwhile).Stands id load fingerprint := by
  induction meanwhile generalizing h with
  | nil => exact stands
  | cons now rest ih =>
      refine ih _ (pass_preserved (consistent_preserved patience earlier) now consistent)
        (fun other later => keeps other (List.mem_cons_of_mem now later)) (pass_stands consistent now ?_ stands)
      rintro other rfl
      exact keeps other List.mem_cons_self

theorem pass_all_supersedes (meanwhile : List Meanwhile) (h : TableHistory) (consistent : Consistent patience earlier h)
    {id fingerprint : String} {load : Nat} {other : Session} (member : .refreshed other ∈ meanwhile)
    (spoils : ¬ other.Keeps id fingerprint) (stands : h.Stands id load fingerprint) :
    Superseded (h.passAll meanwhile).notes load := by
  induction meanwhile generalizing h with
  | nil => cases member
  | cons now rest ih =>
      have next := pass_preserved (consistent_preserved patience earlier) now consistent
      have spoiled (superseded : Superseded (h.pass now).notes load) :
          Superseded ((h.pass now).passAll rest).notes load :=
        superseded_grown superseded
          (pass_all_preserved (grown_preserved _) rest ⟨[], (List.append_nil _).symm⟩)
      rcases List.mem_cons.mp member with same | later
      · subst same
        exact spoiled (Session.refresh_supersedes consistent stands spoils)
      · by_cases keeps : ∀ first, now = .refreshed first → first.Keeps id fingerprint
        · exact ih _ next later (pass_stands consistent now keeps stands)
        · push Not at keeps
          obtain ⟨first, rfl, spoils⟩ := keeps
          exact spoiled (Session.refresh_supersedes consistent stands spoils)

def Holds (s : Session) (h : TableHistory) : Prop := ∀ id, h.source.state? id = none ↔ id ∉ s.tableIds

theorem refresh_holds (s : Session) (h : TableHistory) : Holds s (s.refresh h) := by
  refine fun id => ⟨fun none shown => ?_, s.refresh_absent h id⟩
  obtain ⟨f, _, _, state, found, _⟩ := s.refresh_present h id shown
  rw [none] at found
  cases found

theorem advance_holds (consistent : Consistent patience earlier h) (steps : List LoadStep) {s : Session}
    (holds : Holds s h) : Holds s (h.advance steps) := by
  intro id
  rw [← holds id, ← Option.map_eq_none_iff, (advance_onward consistent steps).fingerprints id, Option.map_eq_none_iff]

theorem pass_all_holds (meanwhile : List Meanwhile) (s : Session) (h : TableHistory)
    (consistent : Consistent patience earlier h) (holds : Holds s h) :
    Holds (Meanwhile.latest s meanwhile) (h.passAll meanwhile) := by
  induction meanwhile generalizing s h with
  | nil => exact holds
  | cons now rest ih =>
      have next := pass_preserved (consistent_preserved patience earlier) now consistent
      cases now with
      | refreshed other => exact ih other _ next (refresh_holds other h)
      | load step => exact ih s _ next (advance_holds consistent [step] holds)

theorem booked_new (patience : Value) (network : Network) :
    Consistent patience network.calls (.new patience network) ∧ Booked (TableHistory.new patience network).source :=
  ⟨.initial patience network, List.nodup_nil, List.nodup_nil, fun _ _ found => (nomatch found),
    fun _ _ found => nomatch found⟩

-- A form that asks may begin to wait at once or later; both before and after, others may ask.
theorem shared_wait_settles_iff (patience : Value) (network : Network) (events : List Event) (s : Session)
    (between meanwhile : List Meanwhile) :
    let asked := s.refresh ((TableHistory.new patience network).run events)
    let waiting := asked.passAll between
    let later := waiting.passAll meanwhile
    later.Ended waiting.source.awaited → ∀ id ∈ s.tableIds,
      ((∃ state, later.source.state? id = some state ∧ state.status ≠ .pending) ↔
        id ∈ (Meanwhile.latest s (between ++ meanwhile)).tableIds ∧ later.source.running id = []) ∧
      ∃ f ∈ s.visibleTables, f.id = id ∧ ∃ first, asked.source.state? id = some first ∧
        first.fingerprint = f.tableApi.fingerprint ∧
        ((∃ status, later.source.state? id = some ⟨first.fingerprint, first.load, status⟩ ∧ status ≠ .pending) ↔
          ∀ other, .refreshed other ∈ between ++ meanwhile → other.Keeps id first.fingerprint) := by
  intro asked waiting later ended id shown
  have booked := booked_preserved patience network.calls
  have started := booked.run _ events (booked_new patience network)
  have now : Consistent patience network.calls asked ∧ Booked asked.source := s.refresh_preserved _ booked started
  have waited : Consistent patience network.calls waiting ∧ Booked waiting.source :=
    pass_all_preserved booked between now
  have next : Consistent patience network.calls later ∧ Booked later.source := pass_all_preserved booked meanwhile waited
  have descended : Descends waiting later := (pass_all_preserved (descends_preserved patience network.calls waiting)
    meanwhile ⟨waited.1, Nat.le_refl _, fun l here _ => ⟨l, here, rfl, rfl, fun running => running⟩⟩).2
  have joined : asked.passAll (between ++ meanwhile) = later := List.foldl_append
  have holds : Holds (Meanwhile.latest s (between ++ meanwhile)) later :=
    joined ▸ pass_all_holds (between ++ meanwhile) s asked now.1 (refresh_holds s _)
  refine ⟨⟨?_, ?_⟩, ?_⟩
  · rintro ⟨state, found, settled⟩
    refine ⟨?_, List.eq_nil_iff_forall_not_mem.mpr fun l member => ?_⟩
    · by_contra hidden
      rw [(holds id).mpr hidden] at found
      cases found
    · rw [(running_awaited next.1 member).2] at found
      exact settled (by rw [← Option.some.inj found])
  · rintro ⟨last, none⟩
    obtain ⟨state, found⟩ := Option.ne_none_iff_exists'.mp (mt (holds id).mp (not_not_intro last))
    exact ⟨state, found, fun pending => pending_runs next.2 found pending none⟩
  · obtain ⟨f, member, named, first, found, same⟩ := s.refresh_present _ id shown
    have stood : asked.Stands id first.load first.fingerprint := ⟨first.status, found⟩
    refine ⟨f, member, named, first, found, same, ?_, fun keeps => ?_⟩
    · rintro ⟨status, still, _⟩ other refreshed
      by_contra spoils
      have superseded := pass_all_supersedes (between ++ meanwhile) asked now.1 refreshed spoils stood
      rw [joined] at superseded
      exact superseded_stateless next.1 superseded id _ still rfl
    · have stands := pass_all_stands between asked now.1
        (fun other early => keeps other (List.mem_append.mpr (.inl early))) stood
      obtain ⟨status, still⟩ := pass_all_stands meanwhile waiting waited.1
        (fun other late => keeps other (List.mem_append.mpr (.inr late))) stands
      exact ⟨status, still, waited_settled waited.1 next descended ended stands still rfl⟩

def adultRows (url : String) : Form :=
  let adult : Group := { Group.create "adult" with condition := some ⟨"age", .greaterOrEqual, .int 18⟩ }
  ⟨"Rows", [.group adult [.field { Field.create "t" .table with table := some ⟨url, .get, [], none⟩ }]]⟩

def grownUp (url : String) : Session := Session.start (adultRows url) [("age", .int 20)] 0

def underAge : Session := Session.start (adultRows "https://a") [("age", .int 5)] 0

def oneRow : Network := ⟨[("https://a", [⟨.response 200 "[\x7b\"n\": 1\x7d]", false⟩])], []⟩

def firstAsked : TableHistory := (grownUp "https://a").refresh (TableHistory.new defaultPatience oneRow)

theorem spoiled_while_waiting :
    firstAsked.source.awaited = [0] ∧ (grownUp "https://a").tableIds = ["t"] ∧
    (let later := firstAsked.passAll [.load (.start true 0), .refreshed underAge, .load (.finish 0)]
     later.Ended [0] ∧ later.source.state? "t" = none) ∧
    let later := firstAsked.passAll [.load (.start true 0), .refreshed (grownUp "https://b"), .load (.finish 0)]
    later.Ended [0] ∧ (later.source.state? "t").map (·.status) = some .pending := by
  refine ⟨by decide +kernel, by decide +kernel, ⟨?_, by decide +kernel⟩, ?_, by decide +kernel⟩
  · intro load member
    cases List.mem_singleton.mp member
    decide +kernel
  · intro load member
    cases List.mem_singleton.mp member
    decide +kernel

theorem unspoiled_while_waiting :
    let later := firstAsked.passAll [.refreshed (grownUp "https://a"), .load (.start true 0), .load (.finish 0)]
    later.Ended firstAsked.source.awaited ∧
      ∃ state, later.source.state? "t" = some state ∧ state.load = 0 ∧ state.status ≠ .pending := by
  intro later
  have ended : later.Ended firstAsked.source.awaited := by
    intro load member
    have awaited : firstAsked.source.awaited = [0] := by decide +kernel
    rw [awaited] at member
    cases List.mem_singleton.mp member
    decide +kernel
  refine ⟨ended, ?_⟩
  have shown : "t" ∈ (grownUp "https://a").tableIds := by decide +kernel
  have asked : (grownUp "https://a").refresh ((TableHistory.new defaultPatience oneRow).run []) = firstAsked := by
    rw [run, List.foldl_nil, firstAsked]
  have waiting : firstAsked.passAll [] = firstAsked := List.foldl_nil
  have wait := shared_wait_settles_iff defaultPatience oneRow [] (grownUp "https://a") []
    [.refreshed (grownUp "https://a"), .load (.start true 0), .load (.finish 0)]
  simp only [asked, waiting] at wait
  obtain ⟨_, f, member, _, first, found, same, kept⟩ := wait ended "t" shown
  have only : ∀ g ∈ (grownUp "https://a").visibleTables, g.tableApi = ⟨"https://a", .get, [], none⟩ := by
    decide +kernel
  have keeps : (grownUp "https://a").Keeps "t" first.fingerprint := by
    refine ⟨by decide +kernel, fun g shown _ => ?_⟩
    rw [same, only g shown, only f member]
  obtain ⟨status, settled, done⟩ := kept.mpr fun other refreshed => by
    obtain rfl : other = grownUp "https://a" := by simpa using refreshed
    exact keeps
  have number : (firstAsked.source.state? "t").map (·.load) = some 0 := by decide +kernel
  have begun : firstAsked.source.state? "t" = some first := found
  rw [begun] at number
  exact ⟨_, settled, Option.some.inj number, done⟩

end TableHistory

end FormEngine
