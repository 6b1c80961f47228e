import FormEngine.Proofs.Filling.UpToDate

set_option autoImplicit false

namespace FormEngine

namespace Field

theorem required_message_written (f : Field) : f.requiredMessage ≠ "" := by
  rw [requiredMessage]
  split
  · rename_i message given
    simpa using (Option.filter_eq_some_iff.mp given).2
  · simp

theorem number_complaint_fixed (f : Field) (v : Value) (message : String) :
    f.numberComplaint v ≠ some (.missing message) := by
  unfold numberComplaint
  split
  · exact nofun
  · split <;> exact nofun

theorem tag_complaint_fixed (f : Field) (v : Value) (message : String) : f.tagComplaint v ≠ some (.missing message) := by
  unfold tagComplaint
  intro said
  obtain ⟨rules, _, said⟩ := Option.bind_eq_some_iff.mp said
  obtain ⟨limit, _, said⟩ := Option.bind_eq_some_iff.mp said
  split at said <;> cases said

theorem kind_complaint_fixed (f : Field) (v : Value) (message : String) :
    f.kindComplaint v ≠ some (.missing message) := by
  unfold kindComplaint
  dsimp only
  split
  · split <;> exact nofun
  · exact f.number_complaint_fixed v message
  · exact f.number_complaint_fixed v message
  · exact f.number_complaint_fixed v message
  · split <;> exact nofun
  · split <;> exact nofun
  · split <;> exact nofun
  · split
    · split <;> exact nofun
    · exact nofun
  · exact f.tag_complaint_fixed v message
  · exact nofun

theorem length_complaint_kinds (rules : Rules) (text : String) (wrong : Complaint)
    (said : lengthComplaint rules text = some wrong) : ∃ limit, wrong = .tooShort limit ∨ wrong = .tooLong limit := by
  rw [lengthComplaint] at said
  split at said
  · exact ⟨_, .inl (Option.some.inj said).symm⟩
  · exact ⟨_, .inr (Option.some.inj said).symm⟩
  · cases said

theorem rule_complaint_kinds (f : Field) (v : Value) (wrong : Complaint) (said : f.ruleComplaint v = .ok (some wrong)) :
    wrong = .pattern ∨ ∃ limit, wrong = .tooShort limit ∨ wrong = .tooLong limit := by
  have verdict (rules : Rules) (accepted : Bool)
      (said : (Except.ok (if accepted then lengthComplaint rules v.asText else some .pattern) : Except Breakdown _)
        = .ok (some wrong)) : wrong = .pattern ∨ ∃ limit, wrong = .tooShort limit ∨ wrong = .tooLong limit := by
    cases accepted with
    | false => exact .inl (Option.some.inj (Except.ok.inj said)).symm
    | true => exact .inr (length_complaint_kinds rules v.asText wrong (Except.ok.inj said))
  unfold ruleComplaint at said
  split at said
  · cases said
  · rename_i rules _
    dsimp only at said
    split at said
    · rename_i pattern _
      cases asked : patternAccepts pattern v.asText with
      | error why =>
          rw [asked] at said
          cases said
      | ok accepted =>
          rw [asked] at said
          exact verdict rules accepted said
    · exact verdict rules true said

theorem first_letter (start rest : String) :
    (start ++ rest).toList.head? = start.toList.head?.or rest.toList.head? := by
  rw [String.toList_append, List.head?_append]

theorem rule_message_first (f : Field) (v : Value) (wrong : Complaint)
    (said : f.ruleComplaint v = .ok (some wrong)) :
    wrong.message.toList.head? = some 'V' ∨ wrong.message.toList.head? = some 'M' := by
  rcases f.rule_complaint_kinds v wrong said with rfl | ⟨limit, rfl | rfl⟩
  · exact .inl rfl
  · refine .inr ?_
    change ("Must be at least " ++ toString limit ++ " characters").toList.head? = _
    rw [String.append_assoc, first_letter]
    rfl
  · refine .inr ?_
    change ("Must be at most " ++ toString limit ++ " characters").toList.head? = _
    rw [String.append_assoc, first_letter]
    rfl

theorem rule_complaint_fixed (f : Field) (v : Value) (message : String) :
    f.ruleComplaint v ≠ .ok (some (.missing message)) := by
  intro said
  obtain same | ⟨limit, same | same⟩ := f.rule_complaint_kinds v _ said <;> cases same

theorem message_written (wrong : Complaint) (fixed : ∀ message, wrong ≠ .missing message) : wrong.message ≠ "" := by
  unfold Complaint.message
  split
  · exact absurd rfl (fixed _)
  all_goals simp

theorem complaint_says (f : Field) (v : Value) (wrong : Complaint) (said : f.complaint v = .ok (some wrong)) :
    f.kind.displayOnly = false ∧ wrong.message ≠ "" := by
  rw [complaint] at said
  split at said
  · cases said
  · rename_i filled
    refine ⟨by simpa using filled, ?_⟩
    split at said
    · split at said
      · cases said
        exact f.required_message_written
      · cases said
    · split at said
      · cases said
      · split at said
        · rename_i found
          cases said
          exact message_written wrong fun message same => f.kind_complaint_fixed v message (same ▸ found)
        · exact message_written wrong fun message same => f.rule_complaint_fixed v message (same ▸ said)

end Field

theorem message_from (fields : List Field) (index : Keyed Value) (errors out : Keyed String)
    (done : fields.foldlM (complain index) errors = .ok out) (id message : String)
    (found : Keyed.value? out id = some message) :
    Keyed.value? errors id = some message ∨
      ∃ f ∈ fields, f.id = id ∧ f.kind.displayOnly = false ∧ message ≠ "" := by
  induction fields generalizing errors with
  | nil =>
      cases done
      exact .inl found
  | cons f rest ih =>
      rw [List.foldlM_cons, complain] at done
      cases said : f.complaint (heldValue index f) with
      | error why =>
          rw [said] at done
          cases done
      | ok result =>
          rw [said] at done
          have later (before : Keyed String) (ran : rest.foldlM (complain index) before = .ok out) :
              Keyed.value? before id = some message ∨
                ∃ g ∈ f :: rest, g.id = id ∧ g.kind.displayOnly = false ∧ message ≠ "" := by
            rcases ih before ran with sooner | ⟨g, member, about⟩
            · exact .inl sooner
            · exact .inr ⟨g, List.mem_cons_of_mem f member, about⟩
          cases result with
          | none => exact later errors done
          | some wrong =>
              rcases later _ done with before | fields
              · rw [Keyed.value?_put] at before
                split at before
                · rename_i same
                  cases before
                  obtain ⟨filled, written⟩ := f.complaint_says _ wrong said
                  exact .inr ⟨f, List.mem_cons_self, same, filled, written⟩
                · exact .inl before
              · exact .inr fields

namespace Session

theorem message_about (s : Session) (current : s.UpToDate) (id message : String)
    (found : Keyed.value? s.errors id = some message) : ∃ f ∈ s.visibleFields, f.id = id ∧ f.kind.displayOnly = false := by
  have errors := current.errors
  split at errors
  · rcases message_from _ _ _ _ errors id message found with before | ⟨f, member, same, filled, _⟩
    · cases before
    · rw [visibleFields, current.visibility]
      exact ⟨f, member, same, filled⟩
  · rw [← Except.ok.inj errors] at found
    cases found

def Written (s : Session) : Prop := ∀ id message, Keyed.value? s.errors id = some message → message ≠ ""

theorem recompute_written (s : Session) (written : s.Written) : s.recompute.1.Written := by
  unfold recompute
  dsimp only
  split
  · split
    · rename_i errors done
      intro id message found
      rcases message_from _ _ _ _ done id message found with before | ⟨_, _, _, _, said⟩
      · cases before
      · exact said
    · exact written
  · exact written

end Session

namespace LiveForm

theorem step_written (l : LiveForm) (op : Op) (written : l.session.Written) : (l.step op).session.Written := by
  cases op with
  | setValue key value => exact Session.recompute_written _ written
  | setValues values => exact Session.recompute_written _ written
  | replaceForm form => exact Session.recompute_written _ written
  | validate => exact Session.recompute_written _ written
  | submit =>
      show Session.Written l.session.submit.1
      rw [l.session.submit_session]
      exact Session.recompute_written _ written
  | listen | refreshTables | syncTables | rows event => exact written

theorem run_written (l : LiveForm) (ops : List Op) (written : l.session.Written) : (l.run ops).session.Written := by
  induction ops generalizing l with
  | nil => exact written
  | cons op rest ih => exact ih (l.step op) (l.step_written op written)

end LiveForm

theorem FormHistory.messages_written (h : FormHistory) : h.session.Written :=
  h.opened.run_written h.ops (Session.recompute_written _ fun _ _ found => nomatch found)

end FormEngine
