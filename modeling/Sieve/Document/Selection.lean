import Sieve.Document.Journal

/-!
Selections: the numbers of chosen elements of one document, ascending. Narrowing and combining work
on the numbers alone; elements are pulled one by one, by traversals that each start afresh.
-/

namespace Sieve

structure Selection where
  document : Document
  ids : List ElementId

namespace Selection

/-- The selection of all elements of a scope. -/
def ofScope (d : Document) (scope : Scope) : Except QueryError Selection :=
  match d.scopeIds scope with
  | .ok ids => .ok ⟨d, ids⟩
  | .error cause => .error (.document cause)

def count (s : Selection) : Nat := s.ids.length

/-- Keeps the elements that meet the criterion. -/
def apply (s : Selection) (c : Criterion) : Selection :=
  { s with ids := s.ids.filter fun id => (s.document.element? id).any c.holds }

def exclude (s : Selection) (ids : List ElementId) : Selection :=
  { s with ids := s.ids.filter fun id => !ids.contains id }

/-- Two selections combine only in one document. -/
def sameDocument (s other : Selection) : Except QueryError Unit :=
  if s.document.serial = other.document.serial then .ok ()
  else .error (.document .differentDocuments)

def intersect (s other : Selection) : Except QueryError Selection := do
  s.sameDocument other
  return { s with ids := s.ids.filter other.ids.contains }

def union (s other : Selection) : Except QueryError Selection := do
  s.sameDocument other
  return { s with ids := Ascending.insertAll (fun id => id) other.ids s.ids }

end Selection

/-- What is left to pull of a selection. -/
structure Traversal where
  document : Document
  remaining : List ElementId

namespace Traversal

def start (s : Selection) : Traversal := ⟨s.document, s.ids⟩

/-- Pulls the next of the given elements that the document holds. -/
def pull (d : Document) : List ElementId → Logged (Option Element × Traversal)
  | [] => pure (none, ⟨d, []⟩)
  | id :: rest => do
    Logged.log (.pull id)
    match d.element? id with
    | some e => pure (some e, ⟨d, rest⟩)
    | none => pull d rest

def next (t : Traversal) : Logged (Option Element × Traversal) := pull t.document t.remaining

/-- The first so many elements; no others are pulled. -/
def take (t : Traversal) : Nat → Logged (List Element)
  | 0 => pure []
  | n + 1 => do
    match ← t.next with
    | (some e, t) => do
      let more ← t.take n
      pure (e :: more)
    | (none, _) => pure []

/-- The element at an index, pulled after all before it. -/
def nth? (t : Traversal) : Nat → Logged (Option Element)
  | 0 => do return (← t.next).1
  | n + 1 => do
    match ← t.next with
    | (some _, t) => t.nth? n
    | (none, _) => pure none

def toList (t : Traversal) : Logged (List Element) := t.take t.remaining.length

end Traversal

namespace Selection

/-- Starts a traversal. -/
def elements (s : Selection) : Logged Traversal := do
  Logged.log (.call .elements)
  return .start s

def first? (s : Selection) : Logged (Option Element) := do
  let t ← s.elements
  return (← t.next).1

/-- Tests every element as it is pulled, and lists those that fail. -/
def failures (d : Document) (t : ElementTest) : List ElementId → Logged (List ElementId)
  | [] => pure []
  | id :: rest => do
    Logged.log (.pull id)
    match d.element? id with
    | some e => do
      Logged.log (.test t e)
      let more ← failures d t rest
      pure (if t e then more else e.id :: more)
    | none => failures d t rest

/-- Pulls and tests all elements, then excludes at once those that fail, if there are any. -/
def keepPassing (s : Selection) (t : ElementTest) : Run Selection := do
  let traversal ← s.elements
  let failing ← (failures traversal.document t traversal.remaining : Logged _)
  if failing.isEmpty then return s
  else Run.call (.exclude failing) (.ok (s.exclude failing))

end Selection

end Sieve
