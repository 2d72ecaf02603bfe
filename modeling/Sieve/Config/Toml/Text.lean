import Sieve.Config.Toml.Basic
import Sieve.Text.Basic

/-!
Texts in TOML files. Short texts end on the line they begin on, long ones stand between three quotes
and may run over lines. Escapes count between double quotes only. A short text can be a key, so what
it says is kept; of a long one only the end matters.
-/

namespace Sieve.Toml

/-- The character with this code in hexadecimal. -/
def scalar? (digits : List Char) : Option Char := do
  let code ← Text.Hex.ofDigits? digits
  if code.isValidChar then some (Char.ofNat code) else none

/-- The character that a short escape stands for. -/
def escaped? : Char → Option Char
  | 'b' => some '\x08'
  | 't' => some '\t'
  | 'n' => some '\n'
  | 'f' => some '\x0c'
  | 'r' => some '\r'
  | 'e' => some '\x1b'
  | '"' => some '"'
  | '\\' => some '\\'
  | _ => none

/-- A short text after its opening double quote, and what follows the closing one. -/
def basicText? : List Char → Option (List Char × List Char)
  | [] => none
  | '"' :: rest => some ([], rest)
  | '\\' :: 'x' :: a :: b :: rest => do
    let first ← scalar? [a, b]
    let (more, rest) ← basicText? rest
    return (first :: more, rest)
  | '\\' :: 'u' :: a :: b :: c :: d :: rest => do
    let first ← scalar? [a, b, c, d]
    let (more, rest) ← basicText? rest
    return (first :: more, rest)
  | '\\' :: 'U' :: a :: b :: c :: d :: e :: f :: g :: h :: rest => do
    let first ← scalar? [a, b, c, d, e, f, g, h]
    let (more, rest) ← basicText? rest
    return (first :: more, rest)
  | '\\' :: c :: rest => do
    let first ← escaped? c
    let (more, rest) ← basicText? rest
    return (first :: more, rest)
  | c :: rest => do
    guard (isShown c)
    let (more, rest) ← basicText? rest
    return (c :: more, rest)

/-- A short text after its opening single quote, and what follows the closing one. -/
def literalText? : List Char → Option (List Char × List Char)
  | [] => none
  | '\'' :: rest => some ([], rest)
  | c :: rest => do
    guard (isShown c)
    let (more, rest) ← literalText? rest
    return (c :: more, rest)

/-- A backslash may stand before these characters in a long text: those of an escape, or blanks up to
the end of the line, which are left out with it. -/
def escapes : List Char → Bool
  | 'x' :: a :: b :: _ => (scalar? [a, b]).isSome
  | 'u' :: a :: b :: c :: d :: _ => (scalar? [a, b, c, d]).isSome
  | 'U' :: a :: b :: c :: d :: e :: f :: g :: h :: _ => (scalar? [a, b, c, d, e, f, g, h]).isSome
  | c :: rest => (escaped? c).isSome || (skipSpace (c :: rest)).head? = some '\n'
  | [] => false

/-- What follows the end of a long text, of which up to two quotes before the last three are part. -/
def afterClosing (quote : Char) (cs : List Char) : List Char :=
  cs.drop (min 2 (cs.takeWhile (· = quote)).length)

/-- What follows a long text with escapes, after its opening quotes. -/
def longText? : List Char → Option (List Char)
  | [] => none
  | '"' :: '"' :: '"' :: rest => some (afterClosing '"' rest)
  | '\\' :: c :: rest => if escapes (c :: rest) then longText? rest else none
  | c :: rest => if isShown c || c = '\n' then longText? rest else none

/-- What follows a long text without escapes, after its opening quotes. -/
def longLiteral? : List Char → Option (List Char)
  | [] => none
  | '\'' :: '\'' :: '\'' :: rest => some (afterClosing '\'' rest)
  | c :: rest => if isShown c || c = '\n' then longLiteral? rest else none

end Sieve.Toml
