import Sieve.Document.Selection
import Sieve.Filter.Plan

/-!
Carrying out plans. Every plan, nested ones too, opens its own scope and applies its steps in order;
a nested plan is carried out when its step is reached.
-/

namespace Sieve

mutual

def Plan.run (d : Document) : Plan → Run Selection
  | .over scope steps => do
    let opened ← Run.call (.query scope) (Selection.ofScope d scope)
    runSteps d steps opened

def runSteps (d : Document) : List (FilterKind × Step) → Selection → Run Selection
  | [], s => return s
  | (_, step) :: rest, s => do
    let narrowed ← step.run d s
    runSteps d rest narrowed

def Step.run (d : Document) : Step → Selection → Run Selection
  | .keep c, s => Run.call (.apply c) (.ok (s.apply c))
  | .test t, s => s.keepPassing t
  | .exclude ids, s =>
    if ids.isEmpty then return s else Run.call (.exclude ids) (.ok (s.exclude ids))
  | .intersect nested, s => do
    let other ← nested.run d
    Run.call (.intersect other.ids) (s.intersect other)
  | .union nested, s => do
    let other ← nested.run d
    Run.call (.union other.ids) (s.union other)

end

namespace FilterSet

/-- The selection of a set over an explicit scope. The set may not name a scope of its own. -/
def collect (d : Document) (c : Config) (scope : Scope) (f : FilterSet) : Run Selection := do
  Run.ofExcept f.validate
  let plan ← f.plan d c scope
  plan.run d

/-- The selection of a set over the scope that it names, or else over the whole document. -/
def query (d : Document) (c : Config) (f : FilterSet) : Run (Scope × Selection) := do
  let scope := (← f.resolveScope d c).getD .document
  return (scope, ← f.withoutScopes.collect d c scope)

end FilterSet

end Sieve
