import Sieve.Json.Basic
import Sieve.Text.Basic

/-! Writing JSON text, without blanks and with the fewest escapes. -/

namespace Sieve.Json

def escape (c : Char) : List Char :=
  if c = '"' ∨ c = '\\' then ['\\', c]
  else if c.toNat < 0x20 then ['\\', 'u'] ++ Text.Hex.digits 4 c.toNat
  else [c]

def quote (s : String) : String := String.ofList ('"' :: s.toList.flatMap escape ++ ['"'])

/-- A number that is not finite has no JSON form, and null stands for it. -/
def numberText (x : Float) : String := if x.isFinite then Number.text x else "null"

mutual

def render : Json → String
  | null => "null"
  | bool b => if b then "true" else "false"
  | integer n => toString n
  | double x => numberText x
  | string s => quote s
  | array items => "[" ++ ",".intercalate (renderItems items) ++ "]"
  | object ⟨fields⟩ => "\x7b" ++ ",".intercalate (renderFields fields) ++ "\x7d"

def renderItems : List Json → List String
  | [] => []
  | item :: more => item.render :: renderItems more

def renderFields : List (String × Json) → List String
  | [] => []
  | (name, field) :: more => (quote name ++ ":" ++ field.render) :: renderFields more

end

end Sieve.Json
