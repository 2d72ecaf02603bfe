/-!
Whole numbers as binary64 numbers, and decimals: whole numbers times powers of ten, how they are
written in positional and in scientific notation, and how a numeral is read. A numeral is digits with
a point anywhere but alone, and an exponent if need be.
-/

namespace Sieve.Number

/-- The nearest binary64 number, and of two that are equally near the one with the even last place. -/
def ofInt (n : Int) : Float := .ofModel (.ofInt n)

/-- Within the signed or the unsigned 64-bit range. -/
def isWord (n : Int) : Bool := Int64.minValue.toInt ≤ n ∧ n < UInt64.size

/-- A whole number times a power of ten. -/
structure Decimal where
  digits : Nat
  exponent : Int
deriving DecidableEq

namespace Decimal

/-- The nearest binary64 number. -/
def toFloat (d : Decimal) : Float :=
  if d.exponent < 0 then .ofScientific d.digits true (-d.exponent).toNat
  else .ofScientific d.digits false d.exponent.toNat

/-- Positional notation with at least one digit on each side of the point. -/
def positional (d : Decimal) : String :=
  let digits := Nat.toDigits 10 d.digits
  if 0 ≤ d.exponent then
    String.ofList (digits ++ List.replicate d.exponent.toNat '0' ++ ['.', '0'])
  else
    let places := (-d.exponent).toNat
    let padded := List.replicate (places + 1 - digits.length) '0' ++ digits
    String.ofList (padded.take (padded.length - places) ++ '.' :: padded.drop (padded.length - places))

/-- One digit before the point, which stands only if others follow, and after an `e` the exponent with
its sign. -/
def scientific (d : Decimal) : String :=
  let digits := Nat.toDigits 10 d.digits
  let places := digits.drop 1
  let significand := digits.take 1 ++ if places.isEmpty then [] else '.' :: places
  let power := d.exponent + places.length
  String.ofList significand ++ (if power < 0 then "e-" else "e+") ++ toString power.natAbs

/-- Positional notation if at most sixteen digits stand before the point, or at most four zeros between
the point and the first digit after it; else scientific. -/
def text (d : Decimal) : String :=
  let top := d.exponent + (Nat.toDigits 10 d.digits).length
  if -5 < top ∧ top ≤ 16 then d.positional else d.scientific

/-- The number that decimal digits stand for. -/
def ofDigits (digits : List Char) : Nat :=
  digits.foldl (fun n digit => 10 * n + (digit.toNat - '0'.toNat)) 0

/-- An optional sign, and whether it is a minus. -/
def sign : List Char → Bool × List Char
  | '-' :: rest => (true, rest)
  | '+' :: rest => (false, rest)
  | cs => (false, cs)

/-- The exponent that ends a numeral: none at all, or an `e` and at least one digit. -/
def exponent? : List Char → Option Int
  | [] => some 0
  | e :: rest =>
    let (negative, digits) := sign rest
    if (e = 'e' ∨ e = 'E') ∧ digits ≠ [] ∧ digits.all Char.isDigit then
      some (if negative then -(ofDigits digits : Int) else ofDigits digits)
    else none

/-- A numeral without sign. -/
def parse? (cs : List Char) : Option Decimal :=
  let whole := cs.takeWhile Char.isDigit
  let rest := cs.dropWhile Char.isDigit
  let (places, rest) : List Char × List Char := match rest with
    | '.' :: after => (after.takeWhile Char.isDigit, after.dropWhile Char.isDigit)
    | _ => ([], rest)
  if whole = [] ∧ places = [] then none
  else (exponent? rest).map fun e => ⟨ofDigits (whole ++ places), e - places.length⟩

end Decimal

def infinity : Float := 1 / 0

def nan : Float := 0 / 0

/-- The number with a minus before it, or as it is. -/
def signed (negative : Bool) (x : Float) : Float := if negative then -x else x

/-- A number with an optional sign: a numeral, `inf`, `infinity` or `nan`, in any case. -/
def parse? (cs : List Char) : Option Float :=
  let (negative, rest) := Decimal.sign cs
  let word := String.ofList (rest.map Char.toLower)
  if word = "inf" ∨ word = "infinity" then some (signed negative infinity)
  else if word = "nan" then some nan
  else (Decimal.parse? rest).map fun d => signed negative d.toFloat

end Sieve.Number
