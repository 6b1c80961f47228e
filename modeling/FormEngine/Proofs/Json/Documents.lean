import FormEngine.Proofs.Json.Numbers

set_option autoImplicit false

namespace FormEngine

theorem Value.inside_induction {motive : Value → Prop} (null : motive .null) (bool : ∀ b, motive (.bool b))
    (int : ∀ n, motive (.int n)) (float : ∀ x, motive (.float x)) (text : ∀ s, motive (.text s))
    (list : ∀ items, (∀ item ∈ items, motive item) → motive (.list items))
    (object : ∀ entries, (∀ entry ∈ entries, motive entry.2) → motive (.object entries)) : ∀ v, motive v
  | .null => null
  | .bool b => bool b
  | .int n => int n
  | .float x => float x
  | .text s => text s
  | .list items => list items (along items)
  | .object entries => object entries (alongEntries entries)
where
  along : ∀ items, ∀ item ∈ items, motive item
    | [], _, member => nomatch member
    | first :: rest, item, member => by
        rcases List.mem_cons.mp member with same | later
        · exact same ▸ Value.inside_induction null bool int float text list object first
        · exact along rest item later
  alongEntries : ∀ entries, ∀ entry ∈ entries, motive entry.2
    | [], _, member => nomatch member
    | first :: rest, entry, member => by
        rcases List.mem_cons.mp member with same | later
        · exact same ▸ Value.inside_induction null bool int float text list object first.2
        · exact alongEntries rest entry later

theorem to_option_map {ε α β : Type} (x : Except ε α) (f : α → β) : (x.map f).toOption = x.toOption.map f := by
  cases x <;> rfl

theorem ok_or_error {ε α : Type} {x : Except ε α} {accepted : Bool} {a : α}
    (result : x.toOption = if accepted then some a else none) :
    (accepted = true ∧ x = .ok a) ∨ (accepted = false ∧ ∃ why, x = .error why) := by
  cases accepted with
  | true => exact .inl ⟨rfl, to_option_some_iff.mp result⟩
  | false =>
      cases x with
      | error why => exact .inr ⟨rfl, why, rfl⟩
      | ok _ => cases result

namespace Json

variable {limits : Limits} {rest : Source}

theorem skip_white_of_other {g : Glyph} (other : isWhite g = false) : skipWhite (g :: rest) = g :: rest := by
  rw [skipWhite, List.dropWhile_cons, other]
  rfl

theorem skip_line_break (level : Nat) : skipWhite (glyphs (lineBreak level) ++ rest) = skipWhite rest := by
  have blanks (n : Nat) : skipWhite (glyphs (List.replicate n ' ') ++ rest) = skipWhite rest := by
    induction n with
    | zero => rfl
    | succ n ih => exact ih
  exact blanks (2 * level)

theorem starts_number_apart {c : Char} (starts : startsNumber (.char c) = true) :
    isWhite (.char c) = false ∧ c ≠ ']' ∧ c ≠ '"' ∧ c ≠ '[' ∧ c ≠ '\x7b' ∧ wordOf? (.char c) = none := by
  have apart (other : Char) (none : startsNumber (.char other) = false) : c ≠ other := by
    rintro rfl
    rw [none] at starts
    cases starts
  refine ⟨?_, apart _ rfl, apart _ rfl, apart _ rfl, apart _ rfl, ?_⟩
  · simp [isWhite, apart ' ' rfl, apart '\t' rfl, apart '\n' rfl, apart '\r' rfl]
  · simp [wordOf?, apart 't' rfl, apart 'f' rfl, apart 'n' rfl, apart 'N' rfl, apart 'I' rfl]

theorem whole_starts {whole : List Char} (first : Whole whole) (negative : Bool) (more : List Char) :
    ∃ c cs, (if negative then ['-'] else []) ++ (whole ++ more) = c :: cs ∧ startsNumber (.char c) = true := by
  obtain ⟨c, cs, rfl⟩ := List.exists_cons_of_ne_nil first.filled
  have digit : Text.isAsciiDigit c = true := first.digits c List.mem_cons_self
  cases negative with
  | true => exact ⟨'-', _, rfl, rfl⟩
  | false =>
      refine ⟨c, cs ++ more, rfl, ?_⟩
      by_cases minus : c = '-'
      · rw [minus]; rfl
      · rw [startsNumber]
        · exact digit
        · simp [minus]

theorem int_text_starts (n : Int) : ∃ c cs, (toString n).toList = c :: cs ∧ startsNumber (.char c) = true := by
  have starts := whole_starts (whole_to_digits n.natAbs) (decide (n < 0)) []
  simp only [decide_eq_true_eq, List.append_nil] at starts
  rw [int_text]
  exact starts

theorem number_text_starts (x : Binary64) (finite : x.isFinite = true) :
    ∃ c cs, numberText x = c :: cs ∧ startsNumber (.char c) = true := by
  obtain ⟨negative, cs, written, text⟩ := number_text_written x finite
  rw [text]
  cases written with
  | point whole fraction first => exact whole_starts first negative _
  | power whole fraction down exponent first =>
      rw [List.append_assoc]
      exact whole_starts first negative _

theorem indented_opens (level : Nat) (v : Value) :
    ∃ c cs, indented level v = c :: cs ∧ isWhite (.char c) = false ∧ c ≠ ']' := by
  have number {text : List Char} (starts : ∃ c cs, text = c :: cs ∧ startsNumber (.char c) = true) :
      ∃ c cs, text = c :: cs ∧ isWhite (.char c) = false ∧ c ≠ ']' := by
    obtain ⟨c, cs, text, starts⟩ := starts
    obtain ⟨white, bracket, _⟩ := starts_number_apart starts
    exact ⟨c, cs, text, white, bracket⟩
  cases v with
  | null => exact ⟨_, _, rfl, rfl, by decide⟩
  | bool b => cases b <;> exact ⟨_, _, rfl, rfl, by decide⟩
  | int n =>
      rw [indented]
      exact number (int_text_starts n)
  | float x =>
      rw [indented]
      by_cases finite : x.isFinite = true
      · exact number (number_text_starts x finite)
      · cases x with
        | finite => exact absurd rfl finite
        | nan | infinite => exact ⟨_, _, rfl, rfl, by decide⟩
  | text s => exact ⟨'"', _, rfl, rfl, by decide⟩
  | list items =>
      cases items with
      | nil => exact ⟨'[', _, rfl, rfl, by decide⟩
      | cons item rest => exact ⟨'[', _, by rw [indented]; rfl, rfl, by decide⟩
  | object entries =>
      cases entries with
      | nil => exact ⟨'\x7b', _, rfl, rfl, by decide⟩
      | cons entry rest => exact ⟨'\x7b', _, by rw [indented]; rfl, rfl, by decide⟩

theorem read_value_number {c : Char} {cs : List Char} (starts : startsNumber (.char c) = true) (fuel depth : Nat)
    (inside : Enclosure) :
    readValue limits (fuel + 1) depth inside (glyphs (c :: cs) ++ rest)
      = readNumber inside (glyphs (c :: cs) ++ rest) := by
  obtain ⟨_, _, quote, bracket, brace, word⟩ := starts_number_apart starts
  rw [glyphs_cons, List.cons_append, readValue]
  · simp [word, starts]
  · simp [quote]
  · simp [bracket]
  · simp [brace]

def ReadsBack (limits : Limits) (v : Value) : Prop :=
  ∀ level fuel depth inside rest, Ends rest → (indented level v).length ≤ fuel →
    (readValue limits fuel depth inside (glyphs (indented level v) ++ rest)).toOption =
      if v.fits depth then some (v.reread, rest) else none

def itemsAfter (level outer : Nat) (items : List Value) (rest : Source) : Source :=
  glyphs (indentedItems level items ++ (lineBreak outer ++ [']'])) ++ rest

theorem ends_items (level outer : Nat) (items : List Value) (rest : Source) :
    Ends (itemsAfter level outer items rest) := by
  cases items with
  | nil => exact .line _
  | cons next more => exact .comma _

theorem skip_items_nil (level outer : Nat) : skipWhite (itemsAfter level outer [] rest) = .char ']' :: rest := by
  rw [itemsAfter, indentedItems, List.nil_append, glyphs_append, List.append_assoc, skip_line_break]
  exact skip_white_of_other rfl

theorem items_after_cons (level outer : Nat) (item : Value) (items : List Value) :
    itemsAfter level outer (item :: items) rest =
      .char ',' ::
        (glyphs (lineBreak level) ++ (glyphs (indented level item) ++ itemsAfter level outer items rest)) := by
  simp [itemsAfter, indentedItems]

-- No blank and no closing bracket stands where a value begins.
theorem value_begins (level : Nat) (v : Value) (after : Source) : ∃ c more,
    glyphs (indented level v) ++ after = .char c :: more ∧ isWhite (.char c) = false ∧ c ≠ ']' := by
  obtain ⟨c, cs, text, white, bracket⟩ := indented_opens level v
  exact ⟨c, glyphs cs ++ after, by rw [text]; rfl, white, bracket⟩

theorem items_read (level outer : Nat) (item : Value) (items : List Value)
    (each : ∀ v ∈ item :: items, ReadsBack limits v) (fuel depth : Nat) (rest : Source)
    (enough : (indented level item).length + (indentedItems level items).length < fuel) :
    (readItems limits fuel depth (glyphs (indented level item) ++ itemsAfter level outer items rest)).toOption =
      if 0 < depth && Value.fitItems (depth - 1) (item :: items) then
        some (Value.rereadItems (item :: items), rest) else none := by
  obtain ⟨fuel, rfl⟩ := Nat.exists_eq_add_one.mpr (Nat.zero_lt_of_lt enough)
  rw [readItems]
  cases depth with
  | zero => rfl
  | succ depth =>
      have first := each item List.mem_cons_self level fuel depth .list _ (ends_items level outer items rest)
        (by omega)
      rw [if_neg (Nat.succ_ne_zero depth), Nat.add_sub_cancel]
      rcases ok_or_error first with ⟨fits, read⟩ | ⟨fits, why, read⟩
      · cases items with
        | nil =>
            simp only [read, skip_items_nil]
            simp [Except.toOption, Value.fitItems, Value.rereadItems, fits]
        | cons next more =>
            simp only [indentedItems, List.length_cons, List.length_append] at enough
            have later := items_read level outer next more
              (fun v member => each v (List.mem_cons_of_mem item member)) fuel (depth + 1) rest (by omega)
            obtain ⟨c, tail, text, white, bracket⟩ := value_begins level next (itemsAfter level outer more rest)
            rw [text] at later
            rw [read, items_after_cons, text]
            simp only [skip_white_of_other (show isWhite (.char ',') = false from rfl), skip_line_break,
              skip_white_of_other white]
            simp only [Value.fitItems, fits, Bool.true_and] at later ⊢
            simp [bracket, to_option_map, later]
            cases Value.fits depth next && Value.fitItems depth more <;> simp [Value.rereadItems]
      · rw [read]
        simp [Except.toOption, Value.fitItems, fits]

def membersAfter (level outer : Nat) (entries : List (String × Value)) (rest : Source) : Source :=
  glyphs (indentedEntries level entries ++ (lineBreak outer ++ ['\x7d'])) ++ rest

def memberText (level outer : Nat) (key : String) (value : Value) (entries : List (String × Value)) (rest : Source) :
    Source :=
  glyphs (key.toList.flatMap escapeChar) ++ .char '"' :: .char ':' :: .char ' ' ::
    (glyphs (indented level value) ++ membersAfter level outer entries rest)

theorem ends_members (level outer : Nat) (entries : List (String × Value)) (rest : Source) :
    Ends (membersAfter level outer entries rest) := by
  cases entries with
  | nil => exact .line _
  | cons next more => exact .comma _

theorem skip_members_nil (level outer : Nat) : skipWhite (membersAfter level outer [] rest) = .char '\x7d' :: rest := by
  rw [membersAfter, indentedEntries, List.nil_append, glyphs_append, List.append_assoc, skip_line_break]
  exact skip_white_of_other rfl

theorem members_after_cons (level outer : Nat) (key : String) (value : Value) (entries : List (String × Value)) :
    membersAfter level outer ((key, value) :: entries) rest =
      .char ',' :: (glyphs (lineBreak level) ++ .char '"' :: memberText level outer key value entries rest) := by
  simp [membersAfter, memberText, indentedEntries, quote]

theorem members_read (level outer : Nat) (key : String) (value : Value) (entries : List (String × Value))
    (each : ∀ e ∈ (key, value) :: entries, ReadsBack limits e.2) (fuel depth : Nat) (rest : Source)
    (enough : (indented level value).length + (indentedEntries level entries).length < fuel) :
    (readMembers limits fuel depth (memberText level outer key value entries rest)).toOption =
      if 0 < depth && Value.fitEntries (depth - 1) ((key, value) :: entries) then
        some (Value.rereadEntries ((key, value) :: entries), rest) else none := by
  obtain ⟨fuel, rfl⟩ := Nat.exists_eq_add_one.mpr (Nat.zero_lt_of_lt enough)
  obtain ⟨c, tail, text, white, -⟩ := value_begins level value (membersAfter level outer entries rest)
  have start : skipWhite (.char ' ' :: .char c :: tail) = .char c :: tail := skip_white_of_other white
  rw [readMembers, memberText, read_text_quoted, text]
  simp only [skip_white_of_other (show isWhite (.char ':') = false from rfl), start]
  cases depth with
  | zero => rfl
  | succ depth =>
      have reads : ReadsBack limits value := each (key, value) List.mem_cons_self
      have first := reads level fuel depth .object _ (ends_members level outer entries rest) (by omega)
      rw [text] at first
      rw [if_neg (by simp), Nat.add_sub_cancel]
      rcases ok_or_error first with ⟨fits, read⟩ | ⟨fits, why, read⟩
      · rw [read]
        cases entries with
        | nil =>
            simp only [skip_members_nil]
            simp [Except.toOption, Value.fitEntries, Value.rereadEntries, fits]
        | cons next more =>
            obtain ⟨nextKey, nextValue⟩ := next
            simp only [indentedEntries, List.length_cons, List.length_append] at enough
            have later := members_read level outer nextKey nextValue more
              (fun e member => each e (List.mem_cons_of_mem _ member)) fuel (depth + 1) rest (by omega)
            simp only [members_after_cons, skip_white_of_other (show isWhite (.char ',') = false from rfl),
              skip_line_break, skip_white_of_other (show isWhite (.char '"') = false from rfl)]
            simp only [Value.fitEntries, fits, Bool.true_and, Nat.add_sub_cancel] at later ⊢
            simp only [to_option_map, later]
            cases Value.fits depth nextValue && Value.fitEntries depth more <;> simp [Value.rereadEntries]
      · rw [read]
        simp [Except.toOption, Value.fitEntries, fits]

theorem word_reads_back (v : Value) (word : v = .null ∨ ∃ b, v = .bool b) : ReadsBack limits v := by
  intro level fuel depth inside rest _ enough
  rcases word with rfl | ⟨_ | _, rfl⟩ <;>
  · obtain ⟨fuel, rfl⟩ := Nat.exists_eq_add_one.mpr (Nat.zero_lt_of_lt enough)
    rfl

theorem int_reads_back (n : Int) : ReadsBack limits (.int n) := by
  intro level fuel depth inside rest ends enough
  obtain ⟨c, cs, text, starts⟩ := int_text_starts n
  have read := int_text_read inside n ends
  rw [indented, text] at enough ⊢
  rw [text] at read
  obtain ⟨fuel, rfl⟩ := Nat.exists_eq_add_one.mpr (Nat.zero_lt_of_lt enough)
  rw [read_value_number starts, read]
  simp [Value.fits, Value.reread]

theorem float_reads_back (x : Binary64) : ReadsBack limits (.float x) := by
  intro level fuel depth inside rest ends enough
  by_cases finite : x.isFinite = true
  · obtain ⟨c, cs, text, starts⟩ := number_text_starts x finite
    have read := number_text_read inside x finite ends
    rw [indented, text] at enough ⊢
    rw [text] at read
    obtain ⟨fuel, rfl⟩ := Nat.exists_eq_add_one.mpr (Nat.zero_lt_of_lt enough)
    rw [read_value_number starts, read]
    simp [Value.fits, Value.reread, finite, Except.toOption]
  · have blank : numberText x = "null".toList := by
      cases x with
      | finite => exact absurd rfl finite
      | nan | infinite => rfl
    have same : (Value.float x).reread = .null := by simp [Value.reread, finite]
    have null : ReadsBack limits .null := word_reads_back .null (.inl rfl)
    rw [indented, blank] at enough ⊢
    rw [same]
    exact null level fuel depth inside rest ends enough

theorem text_reads_back (s : String) : ReadsBack limits (.text s) := by
  intro level fuel depth inside rest ends enough
  obtain ⟨fuel, rfl⟩ := Nat.exists_eq_add_one.mpr (Nat.zero_lt_of_lt enough)
  have read : readText limits _ = .ok (s, rest) := read_text_quoted s
  rw [indented, quote, List.cons_append, glyphs_cons, List.cons_append, glyphs_append, List.append_assoc, readValue]
  have mark : glyphs ['"'] ++ rest = .char '"' :: rest := rfl
  rw [mark, read]
  rfl

theorem list_reads_back (items : List Value) (each : ∀ item ∈ items, ReadsBack limits item) :
    ReadsBack limits (.list items) := by
  intro level fuel depth inside rest ends enough
  cases items with
  | nil =>
      obtain ⟨fuel, rfl⟩ := Nat.exists_eq_add_one.mpr (Nat.zero_lt_of_lt enough)
      rfl
  | cons item more =>
      simp only [indented, List.length_append, List.length_cons] at enough
      obtain ⟨fuel, rfl⟩ := Nat.exists_eq_add_one.mpr (show 0 < fuel by omega)
      obtain ⟨c, tail, text, white, bracket⟩ := value_begins (level + 1) item (itemsAfter (level + 1) level more rest)
      have shape : glyphs (indented level (.list (item :: more))) ++ rest =
          .char '[' :: (glyphs (lineBreak (level + 1)) ++ .char c :: tail) := by
        rw [← text, indented]
        simp [itemsAfter]
      have inner := items_read (level + 1) level item more each fuel depth rest (by omega)
      rw [text] at inner
      rw [shape, readValue]
      simp only [skip_line_break, skip_white_of_other white]
      simp [bracket, to_option_map, inner, Value.fits, Value.reread]

theorem object_reads_back (entries : List (String × Value)) (each : ∀ e ∈ entries, ReadsBack limits e.2) :
    ReadsBack limits (.object entries) := by
  intro level fuel depth inside rest ends enough
  cases entries with
  | nil =>
      obtain ⟨fuel, rfl⟩ := Nat.exists_eq_add_one.mpr (Nat.zero_lt_of_lt enough)
      rfl
  | cons entry more =>
      obtain ⟨key, value⟩ := entry
      simp only [indented, List.length_append, List.length_cons] at enough
      obtain ⟨fuel, rfl⟩ := Nat.exists_eq_add_one.mpr (show 0 < fuel by omega)
      have shape : glyphs (indented level (.object ((key, value) :: more))) ++ rest =
          .char '\x7b' :: (glyphs (lineBreak (level + 1)) ++
            .char '"' :: memberText (level + 1) level key value more rest) := by
        rw [indented]
        simp [membersAfter, memberText, quote]
      have inner := members_read (level + 1) level key value more each fuel depth rest (by omega)
      rw [shape, readValue]
      simp only [skip_line_break, skip_white_of_other (show isWhite (.char '"') = false from rfl)]
      simp [to_option_map, inner, Value.fits, Value.reread]

theorem value_reads_back (v : Value) : ReadsBack limits v := by
  induction v using Value.inside_induction with
  | null => exact word_reads_back _ (.inl rfl)
  | bool b => exact word_reads_back _ (.inr ⟨b, rfl⟩)
  | int n => exact int_reads_back n
  | float x => exact float_reads_back x
  | text s => exact text_reads_back s
  | list items each => exact list_reads_back items each
  | object entries each => exact object_reads_back entries each

theorem document_reads_back (limits : Limits) (v : Value) :
    (readDocument limits (source (document v))).toOption = if v.fits limits.depth then some v.reread else none := by
  have reads : ReadsBack limits v := value_reads_back v
  have whole := reads 0 (2 * (indented 0 v).length + 2) limits.depth .document [] .nil
    (by omega)
  obtain ⟨c, tail, text, white, -⟩ := value_begins 0 v []
  have start : skipWhite (glyphs (indented 0 v)) = glyphs (indented 0 v) ++ [] := by
    rw [← List.append_nil (glyphs (indented 0 v)), text, List.append_nil]
    exact skip_white_of_other white
  rw [readDocument, document, source_text, start, length_glyphs]
  rcases ok_or_error whole with ⟨fits, read⟩ | ⟨fits, why, read⟩
  · rw [read, fits]
    rfl
  · rw [read, fits]
    rfl

end Json

end FormEngine
