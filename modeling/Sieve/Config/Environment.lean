import Sieve.Config.Basic
import Sieve.Number.Decimal
import Sieve.Text.Basic

/-!
Settings from environment variables. A variable that is empty counts as unset; any other is trimmed
and has to be a value of its setting.
-/

namespace Sieve

/-- The texts of the variables, as far as they are set. -/
structure Environment where
  caseSensitive : Option String := none
  precision : Option String := none
  scopePrecedence : Option String := none

namespace Environment

/-- One of the words for yes or no, in any ASCII case. -/
def flag? (cs : List Char) : Option Bool :=
  let word := String.ofList (cs.map Char.toLower)
  if word ∈ ["1", "true", "yes"] then some true
  else if word ∈ ["0", "false", "no"] then some false
  else none

def read {α : Type} (setting : Setting) (parse? : List Char → Option α) :
    Option String → Except ConfigError (Option α)
  | none => .ok none
  | some text =>
    if text.isEmpty then .ok none
    else
      match parse? (Text.trim text.toList) with
      | some value => .ok (some value)
      | none => .error (.environment setting)

def settings (e : Environment) : Except ConfigError Settings := do
  return {
    caseSensitive := ← read .caseSensitive flag? e.caseSensitive
    precision := ← read .precision Number.parse? e.precision
    scopePrecedence := ← read .scopePrecedence flag? e.scopePrecedence }

end Environment

end Sieve
