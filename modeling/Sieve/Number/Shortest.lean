import Sieve.Number.Decimal

/-!
The shortest decimal of a binary64 number: of the decimal grids 10^k the coarsest with a point among
the reals that round to the number, and on it the point nearest to the number, the even one of two
that are equally near. All arithmetic is on natural numbers.
-/

namespace Sieve.Number

/-- A magnitude as significand · 2^exponent. `low` says that the next number below is only half as
far as the next one above. -/
structure Magnitude where
  significand : Nat
  exponent : Int
  low : Bool

/-- The magnitude of a finite number. -/
def Magnitude.ofFloat (x : Float) : Magnitude :=
  let biased := (x.toBits >>> 52 &&& 0x7FF).toNat
  let fraction := (x.toBits &&& 0xFFFFFFFFFFFFF).toNat
  if biased = 0 then ⟨fraction, -1074, false⟩
  else ⟨fraction + 0x10000000000000, biased - 1075, fraction = 0 && biased > 1⟩

namespace Magnitude

/-- A number of quarter units of the last place, over the common measure with the grid 10^k. -/
def quarters (m : Magnitude) (k : Int) (n : Nat) : Nat :=
  n * Nat.pow 2 (m.exponent - 2).toNat * Nat.pow 10 (-k).toNat

/-- The `n`-th point of the grid 10^k over the same measure. -/
def point (m : Magnitude) (k : Int) (n : Nat) : Nat :=
  n * Nat.pow 10 k.toNat * Nat.pow 2 (2 - m.exponent).toNat

/-- The grid point rounds to the number: the ends do so if the significand is even. -/
def roundsHere (m : Magnitude) (k : Int) (n : Nat) : Bool :=
  let lower := m.quarters k (4 * m.significand - if m.low then 1 else 2)
  let upper := m.quarters k (4 * m.significand + 2)
  let p := m.point k n
  if m.significand % 2 = 0 then lower ≤ p && p ≤ upper else lower < p && p < upper

/-- The best of the two grid points next to the number, if one of them rounds to it. -/
def onGrid? (m : Magnitude) (k : Int) : Option Decimal :=
  let value := m.quarters k (4 * m.significand)
  let below := value / m.point k 1
  match m.roundsHere k below && below != 0, m.roundsHere k (below + 1) with
  | true, true =>
    match compare (2 * value) (m.point k below + m.point k (below + 1)) with
    | .lt => some ⟨below, k⟩
    | .eq => if below % 2 = 0 then some ⟨below, k⟩ else some ⟨below + 1, k⟩
    | .gt => some ⟨below + 1, k⟩
  | true, false => some ⟨below, k⟩
  | false, true => some ⟨below + 1, k⟩
  | false, false => none

end Magnitude

/-- The grids that can hold a shortest decimal, the coarsest first. -/
def grids : List Int := (List.range 634).map fun (i : Nat) => 309 - (i : Int)

/-- The shortest decimal of the magnitude of a finite number other than zero. -/
def shortest (x : Float) : Decimal :=
  ((grids.findSome? (Magnitude.ofFloat x).onGrid?)).getD ⟨0, 0⟩

/-- A finite number with the fewest digits that read back as it. -/
def text (x : Float) : String :=
  let sign := if x.toBits >>> 63 = 0 then "" else "-"
  if x == 0 then sign ++ "0.0" else sign ++ (shortest x).text

end Sieve.Number
