import Sieve.Config.Basic
import Sieve.Filter.Set
import Sieve.Reference.Target

/-!
The scope that a filter set selects. A set names one scope key at most, unless the configuration lets
the first in order of precedence count; what is given under the others is then not even looked at.
-/

namespace Sieve

/-- The scope that a value selects under a scope key. -/
def ScopeKey.select (d : Document) (key : ScopeKey) (value : FilterValue) : Run Scope :=
  match key with
  | .view =>
    match value.elementRef? with
    | some r => .view <$> r.resolve d
    | none => throw (.invalidValue key.name (.shape key.shape))
  | .elements | .elementIds =>
    match value.elementRefs? with
    | some refs => .elements <$> ElementRef.resolveAll d refs
    | none => throw (.invalidValue key.name (.shape key.shape))

/-- The one scope that counts of those given. -/
def Config.chooseScope (c : Config) :
    List (ScopeKey × FilterValue) → Except QueryError (Option (ScopeKey × FilterValue))
  | [] => .ok none
  | [only] => .ok (some only)
  | first :: more =>
    if c.scopePrecedence then .ok (some first)
    else .error (.ambiguousScope ((first :: more).map fun given => given.1.name))

/-- The scope that the set selects, if it names one. -/
def FilterSet.resolveScope (d : Document) (c : Config) (f : FilterSet) : Run (Option Scope) := do
  match ← Run.ofExcept (c.chooseScope f.scopes) with
  | some (key, value) => some <$> key.select d value
  | none => return none

end Sieve
