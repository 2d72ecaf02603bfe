import Sieve.Filter.Collect

/-!
What a query matched. Counts, numbers and the scope are at hand; elements are pulled when they are
asked for, one for the first, all up to an index for the one at it. An empty result is no error.
-/

namespace Sieve

structure Matches where
  scope : Scope
  selection : Selection

namespace Matches

/-- Queries an explicit scope. The set may not name a scope of its own. -/
def inScope (d : Document) (c : Config) (scope : Scope) (f : FilterSet) : Run Matches := do
  return ⟨scope, ← f.collect d c scope⟩

/-- Queries the scope that the set names, or else the whole document. -/
def ofFilters (d : Document) (c : Config) (f : FilterSet) : Run Matches := do
  let (scope, selection) ← f.query d c
  return ⟨scope, selection⟩

def count (m : Matches) : Nat := m.selection.count

def isEmpty (m : Matches) : Bool := m.count == 0

def ids (m : Matches) : List ElementId := m.selection.ids

/-- Starts a traversal of its own. -/
def elements (m : Matches) : Logged Traversal := m.selection.elements

def toList (m : Matches) : Logged (List Element) := do
  (← m.elements).toList

def first? (m : Matches) : Logged (Option Element) := m.selection.first?

def get? (m : Matches) (index : Nat) : Logged (Option Element) := do
  (← m.elements).nth? index

/-- Past the end, an error that tells how many there are. -/
def get (m : Matches) (index : Nat) : Run Element := do
  match ← (m.get? index : Logged _) with
  | some e => return e
  | none => throw (.indexOutOfRange index m.count)

/-- What both match, under the first one's scope. -/
def intersect (m other : Matches) : Except QueryError Matches := do
  return { m with selection := ← m.selection.intersect other.selection }

/-- What either matches, under the first one's scope. -/
def union (m other : Matches) : Except QueryError Matches := do
  return { m with selection := ← m.selection.union other.selection }

end Matches

end Sieve
