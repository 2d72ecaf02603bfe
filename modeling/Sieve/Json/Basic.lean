import Sieve.Entries
import Sieve.Number.Decimal
import Sieve.Number.Shortest
import Sieve.Text.Quoted

/-!
JSON values. Whole numbers written without point and exponent stay apart from all other numbers, and
an object's fields are in the order of their names.
-/

namespace Sieve

inductive Json where
  | null
  | bool (b : Bool)
  /-- A number written as a whole one, within the signed or the unsigned 64-bit range. -/
  | integer (n : Int)
  /-- Any other number, rounded to the nearest binary64 number. -/
  | double (x : Float)
  | string (s : String)
  | array (items : List Json)
  | object (fields : Entries Json)

namespace Json

/-- A whole number within the signed 64-bit range. -/
def signed? (n : Int) : Option Int64 :=
  if Int64.minValue.toInt ≤ n ∧ n ≤ Int64.maxValue.toInt then some (Int64.ofInt n) else none

def integer? : Json → Option Int64
  | integer n => signed? n
  | _ => none

def bool? : Json → Option Bool
  | bool b => some b
  | _ => none

def string? : Json → Option String
  | string s => some s
  | _ => none

/-- Any number, a whole one rounded to the nearest binary64 number. -/
def number? : Json → Option Float
  | integer n => some (Number.ofInt n)
  | double x => some x
  | _ => none

/-- A value as error messages name it: scalars are shown, lists and objects are not. -/
def describe : Json → String
  | null => "null"
  | bool b => "boolean `" ++ (if b then "true" else "false") ++ "`"
  | integer n => "integer `" ++ toString n ++ "`"
  | double x => "floating point `" ++ Number.text x ++ "`"
  | string s => "string " ++ Text.quoted s
  | array _ => "sequence"
  | object _ => "map"

end Json

end Sieve
