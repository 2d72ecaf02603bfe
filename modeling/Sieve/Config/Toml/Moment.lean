import Sieve.Number.Decimal

/-!
Moments in TOML files: a date, a time of day, or both, and then with an offset from universal time if
need be. Only whether a text is one is of interest.
-/

namespace Sieve.Toml

/-- Two digits that stand for a number up to a limit. -/
def pair? (limit : Nat) : List Char → Option (Nat × List Char)
  | a :: b :: rest =>
    let n := Number.Decimal.ofDigits [a, b]
    if a.isDigit ∧ b.isDigit ∧ n ≤ limit then some (n, rest) else none
  | _ => none

def leapYear (year : Nat) : Bool := year % 4 = 0 ∧ (year % 100 ≠ 0 ∨ year % 400 = 0)

def daysIn (year month : Nat) : Nat :=
  if month = 2 then if leapYear year then 29 else 28
  else if month ∈ [4, 6, 9, 11] then 30
  else 31

/-- What follows a date: four digits, two and two, with hyphens between. -/
def afterDate? (cs : List Char) : Option (List Char) := do
  let year := cs.take 4
  guard (year.length = 4 ∧ year.all Char.isDigit)
  let '-' :: rest := cs.drop 4 | none
  let (month, rest) ← pair? 12 rest
  let '-' :: rest := rest | none
  let (day, rest) ← pair? (daysIn (Number.Decimal.ofDigits year) month) rest
  guard (month ≠ 0 ∧ day ≠ 0)
  return rest

/-- What follows a time of day: hours and minutes, perhaps seconds, perhaps with decimal places. -/
def afterTime? (cs : List Char) : Option (List Char) := do
  let (_, rest) ← pair? 23 cs
  let ':' :: rest := rest | none
  let (_, rest) ← pair? 59 rest
  let ':' :: rest := rest | return rest
  let (_, rest) ← pair? 60 rest
  let '.' :: rest := rest | return rest
  guard (rest.head?.any Char.isDigit)
  return rest.dropWhile Char.isDigit

/-- No offset, none but a `Z`, or a sign, hours and minutes. -/
def isOffset : List Char → Bool
  | [] | ['Z'] | ['z'] => true
  | ['+', a, b, ':', c, d] | ['-', a, b, ':', c, d] =>
    (pair? 23 [a, b]).isSome && (pair? 59 [c, d]).isSome
  | _ => false

def isDate (cs : List Char) : Bool := afterDate? cs = some []

def isMoment (cs : List Char) : Bool :=
  match afterDate? cs with
  | none => afterTime? cs = some []
  | some [] => true
  | some (mark :: time) =>
    (mark = 'T' ∨ mark = 't' ∨ mark = ' ') && (afterTime? time).any isOffset

end Sieve.Toml
