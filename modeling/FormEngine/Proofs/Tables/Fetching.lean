import FormEngine.Proofs.Tables.Notes

set_option autoImplicit false

namespace FormEngine

def Lists (body : String) (rows : List Row) : Prop :=
  Json.readDocument bodyLimits (Json.source body) = .ok (.list (rows.map .object))

def Success (status : Int) : Prop := 200 ≤ status ∧ status < 300

def LetThrough (status : Int) : Prop := status < 400

def Answer.Brings (passes : Int → Prop) (answer : Answer) (rows : List Row) : Prop :=
  ∃ status body, answer = .response status body ∧ passes status ∧ Lists body rows

def FetchError.IsBreakdown : FetchError → Prop
  | .breakdown _ _ => True
  | _ => False

structure Call.For (call : Call) (a : TableApi) (patience : Value) : Prop where
  method : call.method = a.method
  url : call.url = a.url
  headers : call.headers = a.headers
  data : ∀ body, call.data = some body ↔ a.method = .post ∧ a.body = some body ∧ body ≠ ""
  patience : call.patience = patience

theorem all_rows_iff (items : List Value) (rows : List Row) :
    items.mapM Value.row? = some rows ↔ items = rows.map .object := by
  have one (item : Value) (row : Row) : item.row? = some row ↔ item = .object row := by
    cases item <;> simp [Value.row?]
  induction items generalizing rows with
  | nil => cases rows <;> simp
  | cons item items ih =>
      simp only [List.mapM_cons, Option.bind_eq_bind, Option.bind_eq_some_iff, Option.pure_def, Option.some.injEq, one, ih]
      constructor
      · rintro ⟨row, rfl, others, rfl, rfl⟩
        rfl
      · intro same
        cases rows with
        | nil => cases same
        | cons row others =>
            obtain ⟨rfl, rfl⟩ := List.cons.inj same
            exact ⟨row, rfl, others, rfl, rfl⟩

theorem read_rows_iff (body : String) (rows : List Row) : readRows body = .ok rows ↔ Lists body rows := by
  rw [readRows, Lists]
  cases Json.readDocument bodyLimits (Json.source body) with
  | error why => simp
  | ok v =>
      cases v with
      | list items =>
          rw [Except.ok.injEq, Value.list.injEq, ← all_rows_iff]
          dsimp only
          cases items.mapM Value.row? <;> simp
      | _ => simp

theorem read_rows_refused (body : String) (e : FetchError) (refused : readRows body = .error e) :
    ¬ e.IsBreakdown := by
  rw [readRows] at refused
  split at refused
  · cases refused
    exact id
  · split at refused
    · cases refused
    · cases refused
      exact id
  · cases refused
    exact id

theorem answer_rows_iff (answer : Answer) (rows : List Row) :
    answer.rows = .ok rows ↔ answer.Brings LetThrough rows := by
  cases answer with
  | response status body =>
      rw [Answer.rows]
      split
      · rename_i refused
        refine ⟨nofun, ?_⟩
        rintro ⟨_, _, ⟨⟩, passed, _⟩
        exact absurd passed (Int.not_lt.mpr refused)
      · rename_i passed
        rw [read_rows_iff]
        refine ⟨fun lists => ⟨status, body, rfl, Int.not_le.mp passed, lists⟩, ?_⟩
        rintro ⟨_, _, ⟨⟩, _, lists⟩
        exact lists
  | unreachable message => exact ⟨nofun, nofun⟩
  | breakdown kind message => exact ⟨nofun, nofun⟩

theorem answer_breakdown_iff (answer : Answer) (kind message : String) :
    answer.rows = .error (.breakdown kind message) ↔ answer = .breakdown kind message := by
  cases answer with
  | response status body =>
      refine ⟨fun refused => ?_, nofun⟩
      rw [Answer.rows] at refused
      split at refused
      · cases refused
      · exact absurd trivial (read_rows_refused body _ refused)
  | unreachable message => exact ⟨nofun, nofun⟩
  | breakdown k m => simp [Answer.rows]

theorem answer_refused (answer : Answer) (useless : ∀ rows, ¬ answer.Brings LetThrough rows)
    (working : ∀ kind message, answer ≠ .breakdown kind message) :
    ∃ e, answer.rows = .error e ∧ ¬ e.IsBreakdown := by
  cases came : answer.rows with
  | ok rows => exact absurd ((answer_rows_iff answer rows).mp came) (useless rows)
  | error e =>
      refine ⟨e, rfl, ?_⟩
      cases e with
      | breakdown kind message => exact absurd ((answer_breakdown_iff answer kind message).mp came) (working kind message)
      | _ => exact id

theorem brings_alike_iff (answer : Answer) :
    (∀ rows, answer.Brings LetThrough rows ↔ answer.Brings Success rows) ↔
      ∀ status rows, LetThrough status → ¬ Success status → ¬ answer.Brings (· = status) rows := by
  constructor
  · rintro alike _ rows passed failed ⟨status, body, rfl, rfl, lists⟩
    obtain ⟨_, _, ⟨⟩, succeeded, -⟩ := (alike rows).mp ⟨status, body, rfl, passed, lists⟩
    exact failed succeeded
  · refine fun absent rows => ⟨?_, ?_⟩
    · rintro ⟨status, body, rfl, passed, lists⟩
      by_cases succeeded : Success status
      · exact ⟨status, body, rfl, succeeded, lists⟩
      · exact absurd ⟨status, body, rfl, rfl, lists⟩ (absent status rows passed succeeded)
    · rintro ⟨status, body, rfl, succeeded, lists⟩
      have passed : LetThrough status := by
        have below := succeeded.2
        rw [LetThrough]
        omega
      exact ⟨status, body, rfl, passed, lists⟩

theorem TableApi.call_for (a : TableApi) (patience : Value) (filled : Text.isBlankText a.url = false) :
    ∃ call, a.call? patience = some call ∧ call.For a patience := by
  rw [call?, if_neg (Bool.eq_false_iff.mp filled)]
  refine ⟨_, rfl, rfl, rfl, rfl, fun body => ?_, rfl⟩
  dsimp only
  split
  · simp [Option.filter_eq_some_iff, *]
  · simp [*]

theorem fetch_brings_iff (a : TableApi) (patience : Value) (n : Network) :
    (Text.isBlankText a.url = true → a.fetch patience n = (⟨.error .noUrl, false⟩, n)) ∧
    (Text.isBlankText a.url = false → ∃ call : Call, call.For a patience ∧
      let answer := (n.send call).1.answer
      let (fetched, later) := a.fetch patience n
      later.calls = n.calls ++ [call] ∧
      (∀ rows, fetched.outcome = .ok rows ↔ answer.Brings LetThrough rows) ∧
      (∀ kind message, fetched.outcome = .error (.breakdown kind message) ↔ answer = .breakdown kind message) ∧
      ((∀ rows, ¬ answer.Brings LetThrough rows) → (∀ kind message, answer ≠ .breakdown kind message) →
        ∃ e, fetched.outcome = .error e ∧ ¬ e.IsBreakdown) ∧
      ((∀ rows, fetched.outcome = .ok rows ↔ answer.Brings Success rows) ↔
        ∀ status rows, LetThrough status → ¬ Success status → ¬ answer.Brings (· = status) rows)) := by
  constructor
  · intro blank
    rw [TableApi.fetch, TableApi.call?, if_pos blank]
  · intro filled
    obtain ⟨call, made, sent⟩ := a.call_for patience filled
    refine ⟨call, sent, ?_⟩
    rw [TableApi.fetch, made]
    dsimp only
    refine ⟨send_calls n call, answer_rows_iff _, answer_breakdown_iff _, answer_refused _, ?_⟩
    simp only [answer_rows_iff]
    exact brings_alike_iff _

theorem posted_table_fetched :
    let api : TableApi := ⟨"https://api.example.com/data", .post, [], some "all"⟩
    let n : Network := ⟨[("https://api.example.com/data", [⟨.response 200 "[\x7b\"a\": 1\x7d]", false⟩])], []⟩
    Text.isBlankText api.url = false ∧
      (∃ call, call.For api defaultPatience ∧ (api.fetch defaultPatience n).2.calls = [call]) ∧
      (api.fetch defaultPatience n).1.outcome = .ok [[("a", .int 1)]] := by
  intro api n
  have filled : Text.isBlankText api.url = false := by decide +kernel
  obtain ⟨call, sent, calls, -⟩ := (fetch_brings_iff api defaultPatience n).2 filled
  exact ⟨filled, ⟨call, sent, calls⟩, by decide +kernel⟩

theorem other_status_fetched :
    let api : TableApi := ⟨"https://api.example.com/data", .get, [], none⟩
    let body := "[\x7b\"a\": 1\x7d]"
    let n : Network := ⟨[("https://api.example.com/data", [⟨.response 300 body, false⟩])], []⟩
    ∃ call : Call, call.For api defaultPatience ∧ (n.send call).1.answer = .response 300 body ∧
      (api.fetch defaultPatience n).1.outcome = .ok [[("a", .int 1)]] ∧
      ∀ rows, ¬ (n.send call).1.answer.Brings Success rows := by
  intro api body n
  have answered : (n.send ⟨.get, api.url, [], none, defaultPatience⟩).1.answer = .response 300 body := by decide +kernel
  refine ⟨⟨.get, api.url, [], none, defaultPatience⟩, ⟨rfl, rfl, rfl, by simp [api], rfl⟩, answered, by decide +kernel, ?_⟩
  rw [answered]
  rintro rows ⟨_, _, ⟨⟩, ⟨_, below⟩, -⟩
  exact absurd below (by decide)

end FormEngine
