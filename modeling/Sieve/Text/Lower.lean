import Sieve.Text.CaseTable
import Sieve.Text.LowerTable

/-!
Lower case. Characters map by a table, one to one but for the dotted capital I, whose lower case is
an i and a combining dot. In a text a capital sigma that ends a word becomes the final sigma.
-/

namespace Sieve.Text

/-- The lower case of a character that has a single one. -/
def lowerSimple (c : Char) : Char :=
  match lowerRuns.find? (·.covers c.toNat) with
  | some run => Char.ofNat (c.toNat + run.offset).toNat
  | none => c

/-- The full lower case of one character, without regard to its neighbours. -/
def lowerChar (c : Char) : List Char :=
  if c = 'İ' then ['i', '\u0307'] else [lowerSimple c]

/-- The nearest character that is not case-ignorable is a cased letter. -/
def meetsCased (cs : List Char) : Bool :=
  match cs.dropWhile caseIgnorable with
  | c :: _ => casedLetter c
  | [] => false

/-- Lower-cases what follows `before`, which is held back to front: a capital sigma is final if a
cased letter precedes it and none follows. -/
def lowerAfter (before : List Char) : List Char → List Char
  | [] => []
  | c :: after =>
    (if c = 'Σ' then [if meetsCased before && !meetsCased after then 'ς' else 'σ']
      else lowerChar c) ++ lowerAfter (c :: before) after

/-- The lower case of a whole text. -/
def lower (cs : List Char) : List Char := lowerAfter [] cs

end Sieve.Text
