import Sieve.Config.Toml.Basic
import Sieve.Number.Decimal
import Sieve.Text.Basic

/-!
Numbers in TOML files: whole ones in base 10 with an optional sign or in base 16, 8 or 2 without, and
doubles. Single underscores may stand between digits, and no needless zero in front.
-/

namespace Sieve.Toml

/-- Digits, without the single underscores that may stand between two of them. -/
def digits? (isDigit : Char → Bool) : List Char → Option (List Char)
  | [] => none
  | [c] => if isDigit c then some [c] else none
  | c :: '_' :: rest => if isDigit c then (digits? isDigit rest).map (c :: ·) else none
  | c :: rest => if isDigit c then (digits? isDigit rest).map (c :: ·) else none

/-- Decimal digits that begin with a zero only if there are no others. -/
def decimal? (cs : List Char) : Option (List Char) := do
  let digits ← digits? Char.isDigit cs
  guard (digits.head? ≠ some '0' ∨ digits.length = 1)
  return digits

/-- A whole number in base 16, 8 or 2. -/
def based? : List Char → Option Nat
  | '0' :: 'x' :: cs => ofBase 16 cs
  | '0' :: 'o' :: cs => ofBase 8 cs
  | '0' :: 'b' :: cs => ofBase 2 cs
  | _ => none
where
  ofBase (base : Nat) (cs : List Char) : Option Nat := do
    let digits ← digits? (fun c => (Text.Hex.value? c).any (· < base)) cs
    let values ← digits.mapM Text.Hex.value?
    return values.foldl (fun n digit => base * n + digit) 0

/-- Whole numbers fit the signed or the unsigned 128-bit range. -/
def integer (n : Int) : Option Value :=
  if -0x80000000000000000000000000000000 ≤ n ∧ n < 0x100000000000000000000000000000000 then
    some (.integer n)
  else none

/-- A numeral without sign that has a point or an exponent and does not overflow. -/
def double? (cs : List Char) : Option Float := do
  let whole ← decimal? (cs.takeWhile fun c => c.isDigit || c == '_')
  let rest := cs.dropWhile fun c => c.isDigit || c == '_'
  let (places, rest) ← match rest with
    | '.' :: after => do
      let places ← digits? Char.isDigit (after.takeWhile fun c => c.isDigit || c == '_')
      pure (places, after.dropWhile fun c => c.isDigit || c == '_')
    | _ => pure ([], rest)
  let exponent ← match rest with
    | [] => pure []
    | e :: after => do
      guard (e = 'e' ∨ e = 'E')
      let (negative, digits) := Number.Decimal.sign after
      let digits ← digits? Char.isDigit digits
      pure (if negative then 'e' :: '-' :: digits else 'e' :: digits)
  let numeral := if places.isEmpty then whole else whole ++ '.' :: places
  let x := (← Number.Decimal.parse? (numeral ++ exponent)).toFloat
  guard x.isFinite
  return x

/-- A number that takes up the whole text. -/
def number? (cs : List Char) : Option Value :=
  let (negative, rest) := Number.Decimal.sign cs
  if rest = ['i', 'n', 'f'] then some (.double (Number.signed negative Number.infinity))
  else if rest = ['n', 'a', 'n'] then some (.double Number.nan)
  else
    match based? cs, decimal? rest with
    | some n, _ => integer n
    | none, some digits =>
      let n : Int := Number.Decimal.ofDigits digits
      integer (if negative then -n else n)
    | none, none => (double? rest).map fun x => .double (Number.signed negative x)

end Sieve.Toml
