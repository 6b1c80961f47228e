import FormEngine.Proofs.Service.Statuses
import Mathlib.Data.List.Infix

set_option autoImplicit false

namespace FormEngine

-- A request with a whole body to one of the routes, other than to those that fetch tables.
structure Request.Inspected (r : Request) : Prop where
  routed : ∃ action, r.action = .ok action ∧ action ≠ .preview ∧ action ≠ .previewTable
  whole : r.body.Whole

namespace Service

def Meets (s : Service) (r : Request) : Prop := ∀ action, r.action = .ok action → s.Answerable r.body action

theorem handle_expected_iff (s : Service) (r : Request) (inspected : r.Inspected) :
    (s.handle r).1.Expected ↔ s.Meets r := by
  obtain ⟨action, routed, other⟩ := inspected.routed
  have answer : s.handle r = perform action r.body s := by simp only [handle, routed]
  rw [answer, perform_expected_iff action r.body s other]
  constructor
  · intro answerable found same
    cases routed.symm.trans same
    exact answerable
  · exact fun meets => meets action routed

theorem answers_expected_iff (s : Service) (requests : List Request) (inspected : ∀ r ∈ requests, r.Inspected) :
    (∀ answer ∈ s.answers requests, answer.Expected) ↔
      ∀ first r rest, requests = first ++ r :: rest → (s.serve first).Meets r := by
  induction requests generalizing s with
  | nil =>
      refine iff_of_true (fun _ member => nomatch member) fun first r rest split => ?_
      exact absurd split.symm (List.append_ne_nil_of_right_ne_nil first (List.cons_ne_nil r rest))
  | cons r rest ih =>
      rw [List.forall_mem_cons] at inspected
      rw [answers, List.forall_mem_cons, handle_expected_iff s r inspected.1, ih _ inspected.2]
      constructor
      · rintro ⟨now, later⟩ first other after split
        cases first with
        | nil =>
            cases split
            exact now
        | cons head before =>
            cases split
            exact later before other after rfl
      · intro all
        exact ⟨all [] r rest rfl, fun first other after split => all (r :: first) other after (by rw [split]; rfl)⟩

theorem show_status_iff (s : Service) : (s.handle showing).1.status = 200 ↔ Node.Writable s.store.nodes := by
  have answer : s.handle showing = showSchema s := handle_fixed s _ _ _ .showSchema (by simp [fixedRoutes])
  constructor
  · intro status
    rw [← show_expected_iff, ← answer, Response.Expected, status]
    decide
  · intro writable
    rw [s.show_answer writable.finite writable.shallow]
    rfl

def BringsFinite (s : Service) (r : Request) : Prop := ∀ op, s.op? r = some op → Node.BoundsFinite (s.store.brought op)

theorem handle_bounds_iff (s : Service) (r : Request) (sound : Store.Sound s.store)
    (finite : Node.BoundsFinite s.store.nodes) : Node.BoundsFinite (s.handle r).2.store.nodes ↔ s.BringsFinite r := by
  rw [handle_store, BringsFinite]
  cases s.op? r with
  | none => exact iff_of_true finite fun op none => nomatch none
  | some op =>
      rw [Store.stepped, Store.step_bounds_iff s.store finite op sound]
      exact ⟨fun brought other same => Option.some.inj same ▸ brought, fun all => all op rfl⟩

-- Bounds come into the tree with imports and patches alone; how deep it is, a move may change as well.
def KeepsWritable (s : Service) (r : Request) : Prop := s.BringsFinite r ∧ Node.Shallow (s.handle r).2.store.nodes

theorem handle_writable_iff (s : Service) (r : Request) (sound : Store.Sound s.store)
    (finite : Node.BoundsFinite s.store.nodes) : Node.Writable (s.handle r).2.store.nodes ↔ s.KeepsWritable r := by
  rw [Node.writable_iff, handle_bounds_iff s r sound finite]
  rfl

variable (script : List Char) (network : Network) (samples : Bool) (requests : List Request)

theorem served_writable_iff :
    (∀ first rest, requests = first ++ rest →
      Node.Writable ((Service.new script network samples).serve first).store.nodes) ↔
    ∀ first r rest, requests = first ++ r :: rest →
      ((Service.new script network samples).serve first).KeepsWritable r := by
  have sound := served_sound script network samples
  have next (first : List Request) (r : Request) : (Service.new script network samples).serve (first ++ [r])
      = (((Service.new script network samples).serve first).handle r).2 := serve_append _ first [r]
  constructor
  · intro writable first r rest split
    have before := writable first (r :: rest) split
    have after := writable (first ++ [r]) rest (by rw [split, List.append_assoc, List.singleton_append])
    rw [next] at after
    exact (handle_writable_iff _ r (sound first) before.finite).mp after
  · intro keeps first
    induction first using List.reverseRecOn with
    | nil => exact fun _ _ => Node.writable_nil
    | append_singleton before r ih =>
        intro rest split
        rw [List.append_assoc, List.singleton_append] at split
        rw [next]
        have finite := (ih (r :: rest) split).finite
        exact (handle_writable_iff _ r (sound before) finite).mpr (keeps before r rest split)

def start : Service := Service.new [] ⟨[], []⟩ false

def sliderFrom (min : Binary64) : Value :=
  .object [("fields", .list [.object [("id", .text "r"), ("type", .text "range"), ("range", .object [("min", .float min)])]])]

def statuses (requests : List Request) : List Nat := (start.answers requests).map Response.status

-- Two escapes that make up one character.
def pairedTitle : List UInt8 := "\x7b\"formTitle\": \"\\ud83d\\ude00\"\x7d".toList.map fun c => c.toNat.toUInt8

theorem paired_title_whole : Body.Whole (.bytes pairedTitle) := by
  intro text decoded
  have same : (Json.decode pairedTitle).map (Json.readDocument (Body.limits true))
      = (Json.decode pairedTitle).map (Json.readDocument (Body.limits false)) := by decide +kernel
  rw [decoded] at same
  exact Option.some.inj same

def sliderRequests : List Request :=
  [replacing (.value (sliderFrom (.ofDecimal false 15 (-1)))), showing, ⟨"PUT", "/schema/title", .bytes pairedTitle⟩,
   ⟨"PATCH", "/fields/r", .value (.object [("range", .object [("min", .text "x")])])⟩,
   posted "/submit" (valuesBody [("r", .int 7)]),
   ⟨"POST", "/fields", .value (.object [("type", .text "text"), ("parentId", .text "q")])⟩]

theorem inspected_of (r : Request) (action : Action) (known : r.action.toOption = some action)
    (other : action ≠ .preview ∧ action ≠ .previewTable) (whole : r.body.Whole) : r.Inspected :=
  ⟨⟨action, to_option_some_iff.mp known, other⟩, whole⟩

end Service

end FormEngine
