/-!
The values of TOML files, as far as settings tell them apart, the classes of characters, and what may
stand between the parts of a file.
-/

namespace Sieve.Toml

inductive Value where
  | flag (b : Bool)
  | integer (n : Int)
  | double (x : Float)
  /-- A text, a moment, a list or a table. No setting takes any of them. -/
  | other
deriving DecidableEq

def isSpace (c : Char) : Bool := c == ' ' || c == '\t'

/-- May stand in comments and texts: anything but the controls other than the tab. -/
def isShown (c : Char) : Bool := c == '\t' || (0x20 ≤ c.toNat && c.toNat != 0x7F)

def isBare (c : Char) : Bool := c.isAlphanum || c == '_' || c == '-'

def skipSpace (cs : List Char) : List Char := cs.dropWhile isSpace

/-- What follows blanks, line ends and comments, when a comment is open or not at the start. -/
def skipGaps : (inComment : Bool) → List Char → Option (List Char)
  | _, [] => some []
  | true, c :: rest =>
    if c = '\n' then skipGaps false rest else if isShown c then skipGaps true rest else none
  | false, c :: rest =>
    if c = '#' then skipGaps true rest
    else if isSpace c || c = '\n' then skipGaps false rest
    else some (c :: rest)

/-- Nothing is left on the line but a comment. -/
def atLineEnd (cs : List Char) : Bool :=
  match skipSpace cs with
  | [] | '\n' :: _ | '#' :: _ => true
  | _ => false

end Sieve.Toml
