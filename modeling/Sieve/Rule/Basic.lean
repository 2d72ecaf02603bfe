import Sieve.Element.Basic
import Sieve.Number.Decimal
import Sieve.Rule.Comparison
import Sieve.Text.Basic
import Sieve.Text.Lower
import Sieve.Text.Order

/-!
Rules on the parameters of an element. A rule has three answers: yes, no, and none at all when the
element lacks the parameter or stores a value that cannot be compared with the argument. Inversion
turns a definite answer round and leaves the third, so an element without the parameter satisfies
neither a rule nor its inverse.
-/

namespace Sieve

/-- What a rule compares with. The tolerance of a whole number counts only against a stored double. -/
inductive Argument where
  | text (s : String) (caseSensitive : Bool)
  | double (x : Float) (tolerance : Float)
  | integer (n : Int64) (tolerance : Float)
  | id (e : ElementId)
deriving DecidableEq

namespace Comparison

/-- By order alone; no answer for a comparison of texts. -/
def ofOrdering : Comparison → Ordering → Option Bool
  | equals, o => some (o == .eq)
  | greater, o => some (o == .gt)
  | greaterEqual, o => some (o != .lt)
  | less, o => some (o == .lt)
  | lessEqual, o => some (o != .gt)
  | contains, _ | begins, _ | ends, _ => none

/-- Within a tolerance: values no further apart than it are equal, and one is greater than another
only by more than it. A NaN on either side answers no. -/
def ofDoubles (c : Comparison) (stored wanted tolerance : Float) : Option Bool :=
  if c.textOnly then none
  else if stored.isNaN || wanted.isNaN then some false
  else
    let difference := stored - wanted
    match c with
    | equals => some (difference.abs ≤ tolerance)
    | greater => some (difference > tolerance)
    | greaterEqual => some (difference ≥ -tolerance)
    | less => some (-difference > tolerance)
    | lessEqual => some (difference ≤ tolerance)
    | contains | begins | ends => none

/-- Parts are looked for, and all other comparisons are by the order of texts. -/
def ofTexts (c : Comparison) (stored wanted : List Char) : Option Bool :=
  match c with
  | contains => some (Text.occurs wanted stored)
  | begins => some (wanted.isPrefixOf stored)
  | ends => some (wanted.isSuffixOf stored)
  | _ => c.ofOrdering (Text.order stored wanted)

/-- The characters of a text as they are compared. -/
def comparedText (caseSensitive : Bool) (s : String) : List Char :=
  if caseSensitive then s.toList else Text.lower s.toList

/-- Whole numbers and ids compare exactly, a whole number with a double as doubles, and texts with
texts only. -/
def answer (c : Comparison) : (stored : Value) → Argument → Option Bool
  | .text s, .text w caseSensitive =>
    c.ofTexts (comparedText caseSensitive s) (comparedText caseSensitive w)
  | .double x, .double y tolerance => c.ofDoubles x y tolerance
  | .integer n, .integer m _ => c.ofOrdering (compare n m)
  | .double x, .integer m tolerance => c.ofDoubles x (Number.ofInt m.toInt) tolerance
  | .integer n, .double y tolerance => c.ofDoubles (Number.ofInt n.toInt) y tolerance
  | .id a, .id b => c.ofOrdering (compare a.number b.number)
  | _, _ => none

end Comparison

inductive Rule where
  | compare (parameter : ParameterId) (comparison : Comparison) (argument : Argument)
  | inverse (rule : Rule)
deriving DecidableEq

namespace Rule

def evaluate (e : Element) : Rule → Option Bool
  | compare parameter comparison argument =>
    (e.parameter? parameter).bind fun stored => comparison.answer stored argument
  | inverse rule => (rule.evaluate e).map (!·)

theorem evaluate_stored {e : Element} {parameter : ParameterId} {stored : Value}
    (held : e.parameter? parameter = some stored) (c : Comparison) (a : Argument) :
    (compare parameter c a).evaluate e = c.answer stored a := by
  rw [evaluate, held, Option.bind_some]

/-- The rule inside so many inversions. -/
def inverted (rule : Rule) : Nat → Rule
  | 0 => rule
  | n + 1 => .inverse (rule.inverted n)

end Rule

/-- The rules on one parameter. -/
structure ParameterPredicate where
  parameter : ParameterId
  rules : List Rule
  reverse : Bool
deriving DecidableEq

/-- All rules answer yes; in reverse, not all do, so elements without the parameter pass. -/
def ParameterPredicate.passes (p : ParameterPredicate) (e : Element) : Bool :=
  (p.rules.all fun rule => rule.evaluate e == some true) != p.reverse

end Sieve
