/-!
The defaults of a query: how rules compare, and whether several scope keys may stand together.
Settings are a configuration of which any part may be left open. A source that comes first wins part
by part, and defaults fill what no source sets.
-/

namespace Sieve

structure Config where
  /-- Texts are compared with regard to case. -/
  caseSensitive : Bool := true
  /-- How far apart two equal doubles may be. -/
  precision : Float := 0.0013020833333333
  /-- Of several scope keys the first in order of precedence counts, instead of none. -/
  scopePrecedence : Bool := false
deriving DecidableEq

inductive Setting where
  | caseSensitive
  | precision
  | scopePrecedence
deriving DecidableEq

/-- Why a configuration cannot be loaded. -/
inductive ConfigError where
  /-- The environment holds text that is no value of the setting. -/
  | environment (setting : Setting)
  /-- The file's name does not end in `.toml`. -/
  | fileName (name : String)
  /-- The file is not of the form that files have. -/
  | malformed
  /-- The file gives a key twice, or gives it both a value and parts. -/
  | repeatedKey (path : List String)
  /-- The file gives the setting a value of the wrong type. -/
  | wrongType (setting : Setting)
deriving DecidableEq

structure Settings where
  caseSensitive : Option Bool := none
  precision : Option Float := none
  scopePrecedence : Option Bool := none
deriving DecidableEq

namespace Settings

/-- Each part from the first, or else from the second. -/
def or (first second : Settings) : Settings where
  caseSensitive := first.caseSensitive.or second.caseSensitive
  precision := first.precision.or second.precision
  scopePrecedence := first.scopePrecedence.or second.scopePrecedence

def toConfig (s : Settings) : Config where
  caseSensitive := s.caseSensitive.getD ({} : Config).caseSensitive
  precision := s.precision.getD ({} : Config).precision
  scopePrecedence := s.scopePrecedence.getD ({} : Config).scopePrecedence

end Settings

end Sieve
