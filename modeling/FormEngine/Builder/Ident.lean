set_option autoImplicit false

namespace FormEngine

def idLetters : List Char := "abcdefghijklmnopqrstuvwxyz0123456789".toList

def idLength : Nat := 7

-- Draws still to come: those of the script, then a counter written in the letters of ids, a word after another.
structure Draws where
  script : List Char
  drawn : Nat
deriving DecidableEq

namespace Draws

def counterLetter (word position : Nat) : Char :=
  idLetters.getD (word / Nat.pow idLetters.length (idLength - 1 - position) % idLetters.length) 'a'

def letter (d : Draws) (draw : Nat) : Char :=
  match d.script[draw]? with
  | some c => c
  | none =>
      let late := draw - d.script.length
      counterLetter (late / idLength) (late % idLength)

def suffix (d : Draws) : List Char := (List.range idLength).map fun k => d.letter (d.drawn + k)

def advance (d : Draws) : Draws := { d with drawn := d.drawn + idLength }

def candidate (d : Draws) (word : String) : String := word ++ "_" ++ String.ofList d.suffix

-- The first candidate that is not taken, and the draws after it; the fuel counts the candidates looked at.
def firstFree (taken : List String) (word : String) : Nat → Draws → Option (String × Draws)
  | 0, _ => none
  | fuel + 1, d =>
      if taken.contains (d.candidate word) then firstFree taken word fuel d.advance
      else some (d.candidate word, d.advance)

-- How many candidates are worth looking at: all that the script still touches, and one more of the counter than are
-- taken.
def patience (d : Draws) (taken : List String) : Nat := (d.script.length - d.drawn) / idLength + taken.length + 2

def fresh (d : Draws) (taken : List String) (word : String) : Option (String × Draws) :=
  firstFree taken word (d.patience taken) d

end Draws

end FormEngine
