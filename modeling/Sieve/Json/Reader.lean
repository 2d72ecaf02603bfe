import Sieve.Json.Basic
import Sieve.Text.Basic

/-!
Reading JSON text. The reader tells whole numbers from all others by how they are written, and puts
the fields of objects in the order of their names.
-/

namespace Sieve.Json

def isGap (c : Char) : Bool := c == ' ' || c == '\t' || c == '\n' || c == '\r'

def skipGaps (cs : List Char) : List Char := cs.dropWhile isGap

/-- The code that a short escape stands for. -/
def escapeCode? : Char → Option Nat
  | '"' => some 0x22
  | '\\' => some 0x5C
  | '/' => some 0x2F
  | 'b' => some 0x08
  | 'f' => some 0x0C
  | 'n' => some 0x0A
  | 'r' => some 0x0D
  | 't' => some 0x09
  | _ => none

/-- The codes of a text after its opening quote, and what follows the closing one. A character beyond
the 16-bit range that is escaped yields two codes. -/
def codes? : List Char → Option (List Nat × List Char)
  | [] => none
  | '"' :: rest => some ([], rest)
  | '\\' :: 'u' :: a :: b :: c :: d :: rest => do
    let code ← Text.Hex.ofDigits? [a, b, c, d]
    let (more, rest) ← codes? rest
    return (code :: more, rest)
  | '\\' :: c :: rest => do
    let code ← escapeCode? c
    let (more, rest) ← codes? rest
    return (code :: more, rest)
  | c :: rest => do
    let (more, rest) ← codes? rest
    return (c.toNat :: more, rest)

/-- Joins each high surrogate with the low one after it. -/
def joinPairs : List Nat → List Char
  | [] => []
  | [code] => [Char.ofNat code]
  | high :: low :: rest =>
    if 0xD800 ≤ high ∧ high < 0xDC00 ∧ 0xDC00 ≤ low ∧ low < 0xE000 then
      Char.ofNat (0x10000 + (high - 0xD800) * 0x400 + (low - 0xDC00)) :: joinPairs rest
    else Char.ofNat high :: joinPairs (low :: rest)

def text? (cs : List Char) : Option (String × List Char) :=
  (codes? cs).map fun (codes, rest) => (String.ofList (joinPairs codes), rest)

def isNumeral (c : Char) : Bool :=
  c.isDigit || c == '-' || c == '+' || c == '.' || c == 'e' || c == 'E'

/-- A whole number if it is written as one, fits 64 bits and is no negative zero. -/
def numeral? (cs : List Char) : Option Json := do
  let (negative, digits) := Number.Decimal.sign cs
  let d ← Number.Decimal.parse? digits
  let n : Int := if negative then -d.digits else d.digits
  if digits.all Char.isDigit ∧ !(negative && d.digits == 0) ∧ Number.isWord n then
    return .integer n
  else return .double (Number.signed negative d.toFloat)

mutual

/-- A value at the start of the text, and what follows it. The first argument bounds the steps. -/
def value? : Nat → List Char → Option (Json × List Char)
  | 0, _ => none
  | steps + 1, cs =>
    match skipGaps cs with
    | 'n' :: 'u' :: 'l' :: 'l' :: rest => some (null, rest)
    | 't' :: 'r' :: 'u' :: 'e' :: rest => some (bool true, rest)
    | 'f' :: 'a' :: 'l' :: 's' :: 'e' :: rest => some (bool false, rest)
    | '"' :: rest => (text? rest).map fun (s, rest) => (string s, rest)
    | '[' :: rest =>
      match skipGaps rest with
      | ']' :: rest => some (array [], rest)
      | _ => (items? steps rest).map fun (items, rest) => (array items, rest)
    | '\x7b' :: rest =>
      match skipGaps rest with
      | '\x7d' :: rest => some (object .empty, rest)
      | _ => (fields? steps rest).map fun (fields, rest) => (object (.ofList fields), rest)
    | cs => (numeral? (cs.takeWhile isNumeral)).map fun n => (n, cs.dropWhile isNumeral)

def items? : Nat → List Char → Option (List Json × List Char)
  | 0, _ => none
  | steps + 1, cs => do
    let (item, rest) ← value? steps cs
    match skipGaps rest with
    | ',' :: rest => do
      let (more, rest) ← items? steps rest
      return (item :: more, rest)
    | ']' :: rest => return ([item], rest)
    | _ => none

def fields? : Nat → List Char → Option (List (String × Json) × List Char)
  | 0, _ => none
  | steps + 1, cs => do
    let '"' :: rest := skipGaps cs | none
    let (name, rest) ← text? rest
    let ':' :: rest := skipGaps rest | none
    let (field, rest) ← value? steps rest
    match skipGaps rest with
    | ',' :: rest => do
      let (more, rest) ← fields? steps rest
      return ((name, field) :: more, rest)
    | '\x7d' :: rest => return ([(name, field)], rest)
    | _ => none

end

/-- A whole text as one value. Every step takes a character at least. -/
def parse? (s : String) : Option Json := do
  let (json, rest) ← value? (2 * s.length + 1) s.toList
  if skipGaps rest = [] then return json else none

end Sieve.Json
