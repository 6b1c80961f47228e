import FormEngine.Json.Reread
import Mathlib.Tactic.SplitIfs

set_option autoImplicit false

namespace FormEngine

theorem to_option_some_iff {ε α : Type} {x : Except ε α} {a : α} : x.toOption = some a ↔ x = .ok a := by
  cases x <;> simp [Except.toOption]

namespace Json

variable {limits : Limits} {begun : Nat} {rest : Source}

@[simp] theorem glyphs_nil : glyphs [] = [] := rfl

@[simp] theorem glyphs_cons (c : Char) (cs : List Char) : glyphs (c :: cs) = .char c :: glyphs cs := rfl

@[simp] theorem glyphs_append (a b : List Char) : glyphs (a ++ b) = glyphs a ++ glyphs b := List.map_append

@[simp] theorem length_glyphs (cs : List Char) : (glyphs cs).length = cs.length := List.length_map _

theorem source_text (cs : List Char) : source (String.ofList cs) = glyphs cs := by
  rw [source, String.toList_ofList, glyphs]

theorem control_codes : ∀ code < 0x20,
    codeEscape code = '\\' :: 'u' :: (codeEscape code).drop 2 ∧ (codeEscape code).length = 6 ∧
    (hexCode 0 0 (glyphs ((codeEscape code).drop 2))).toOption = some code := by
  decide

theorem read_code (c : Char) (control : c.toNat < 0x20) :
    readGlyphs limits begun none (glyphs (codeEscape c.toNat) ++ rest)
      = emit none (.char c) (readGlyphs limits begun none rest) := by
  obtain ⟨shape, length, code⟩ := control_codes c.toNat control
  generalize digits : (codeEscape c.toNat).drop 2 = ds at shape code
  rw [shape] at length ⊢
  match ds, length with
  | [x, y, z, w], _ =>
      have high : isHighHalf c.toNat = false := by simp [isHighHalf]; omega
      have low : isLowHalf c.toNat = false := by simp [isLowHalf]; omega
      rw [to_option_some_iff] at code
      simp only [glyphs_cons, glyphs_nil, List.cons_append, List.nil_append] at code ⊢
      rw [readGlyphs.eq_def]
      simp only [code, high, low, Bool.false_eq_true, if_false, Char.ofNat_toNat]

theorem read_plain (c : Char) (mark : c ≠ '"') (backslash : c ≠ '\\') (visible : ¬ c.toNat < 0x20) :
    readGlyphs limits begun none (.char c :: rest) = emit none (.char c) (readGlyphs limits begun none rest) := by
  rw [readGlyphs] <;> simp [mark, backslash, visible]

theorem read_escaped (c : Char) :
    readGlyphs limits begun none (glyphs (escapeChar c) ++ rest)
      = emit none (.char c) (readGlyphs limits begun none rest) := by
  unfold escapeChar
  split_ifs with mark backslash line back tab feed space control
  · rw [mark]; rfl
  · rw [backslash]; rfl
  · rw [line]; rfl
  · rw [back]; rfl
  · rw [tab]; rfl
  · rw [feed]; rfl
  · rw [space]; rfl
  · exact read_code c control
  · exact read_plain c mark backslash control

theorem read_all_escaped (cs : List Char) :
    readGlyphs limits begun none (glyphs (cs.flatMap escapeChar) ++ .char '"' :: rest) = .ok (glyphs cs, rest) := by
  induction cs with
  | nil => rfl
  | cons c cs ih =>
      rw [List.flatMap_cons, glyphs_append, List.append_assoc, read_escaped, ih]
      rfl

theorem pair_halves_glyphs (cs : List Char) : pairHalves (glyphs cs) = glyphs cs := by
  induction cs with
  | nil => rfl
  | cons c cs ih =>
      show pairWith (.char c) (pairHalves (glyphs cs)) = _
      rw [ih]
      rfl

theorem chars_of_glyphs (cs : List Char) (bytes : Nat) : charsOf bytes (glyphs cs) = .ok cs := by
  induction cs generalizing bytes with
  | nil => rfl
  | cons c cs ih =>
      rw [glyphs_cons, charsOf, ih]
      rfl

theorem read_text_quoted (s : String) :
    readText limits (glyphs (s.toList.flatMap escapeChar) ++ .char '"' :: rest) = .ok (s, rest) := by
  rw [readText, read_all_escaped]
  simp only [pair_halves_glyphs, chars_of_glyphs, String.ofList_toList]

end Json

end FormEngine
