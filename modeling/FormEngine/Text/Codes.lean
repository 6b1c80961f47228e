set_option autoImplicit false

namespace FormEngine

abbrev Code := Fin 0x110000

theorem char_bound (c : Char) : c.toNat < 0xd800 ∨ (0xdfff < c.toNat ∧ c.toNat < 0x110000) := by
  have valid := c.valid
  simp only [UInt32.isValidChar, Nat.isValidChar] at valid
  exact valid

def codeOf (c : Char) : Code := ⟨c.toNat, by have bound := char_bound c; omega⟩

-- A text as a list of codes may hold halves of surrogate pairs anywhere, which a String cannot.
abbrev Codes := List Code

def Codes.upTo (a b : Codes) : Bool := !List.lex b a fun x y => decide (x < y)

def codesOf (s : String) : Codes := s.toList.map codeOf

end FormEngine
