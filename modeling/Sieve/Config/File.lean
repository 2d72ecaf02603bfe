import Sieve.Config.Environment
import Sieve.Config.Toml
import Sieve.Number.Decimal

/-!
Settings from a file, and configurations from all sources together. The environment wins over the
file; a bad value in either is an error even if the other sets that part.
-/

namespace Sieve

structure ConfigFile where
  name : String
  /-- The text, if there is such a file. -/
  text : Option String

namespace ConfigFile

/-- The part of the name after the last dot, unless that is its first character. -/
def extension? (name : String) : Option String :=
  let last := name.toList.reverse.takeWhile (· != '.')
  if last.length + 1 < name.length then some (String.ofList last.reverse) else none

/-- Takes an entry in. Keys other than the settings' are left alone. -/
def addEntry (s : Settings) : Toml.Path × Toml.Value → Except ConfigError Settings
  | (["case_sensitive"], .flag b) => .ok { s with caseSensitive := some b }
  | ("case_sensitive" :: _, _) => .error (.wrongType .caseSensitive)
  | (["precision"], .double x) => .ok { s with precision := some x }
  | (["precision"], .integer n) =>
    if Number.isWord n then .ok { s with precision := some (Number.ofInt n) }
    else .error (.wrongType .precision)
  | ("precision" :: _, _) => .error (.wrongType .precision)
  | (["scope_precedence"], .flag b) => .ok { s with scopePrecedence := some b }
  | ("scope_precedence" :: _, _) => .error (.wrongType .scopePrecedence)
  | _ => .ok s

/-- A file that does not exist sets nothing. -/
def settings (f : ConfigFile) : Except ConfigError Settings := do
  if extension? f.name ≠ some "toml" then throw (.fileName f.name)
  let some entries := Toml.entries? (f.text.getD "") | throw .malformed
  if let some path := Toml.clash? (entries.map Prod.fst) then throw (.repeatedKey path)
  entries.foldlM addEntry {}

end ConfigFile

/-- The configuration from the environment, then the file if one is given, then the defaults. -/
def Config.load (environment : Environment) (file : Option ConfigFile) :
    Except ConfigError Config := do
  let first ← environment.settings
  let second ← match file with
    | some f => f.settings
    | none => pure {}
  return (first.or second).toConfig

end Sieve
