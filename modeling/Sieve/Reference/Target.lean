import Sieve.Document.Journal
import Sieve.Reference.Basic

/-!
The element of a document that a reference names. A number is taken as it stands, whether the
document holds it or not, unless it is the one for "no element"; a unique id has to be found.
-/

namespace Sieve.ElementRef

/-- The number that the reference gives or that the document finds for it. -/
def lookUp (d : Document) : ElementRef → Except ReferenceError ElementId
  | id e => .ok e
  | number n => .ok ⟨n⟩
  | uniqueId u =>
    match d.resolve? u with
    | some e => .ok e
    | none => .error (.unknownUniqueId u)

def target (d : Document) (r : ElementRef) : Except ReferenceError ElementId := do
  let e ← r.lookUp d
  if e.isValid then return e else throw (.invalidElementId e)

/-- Fails on the first reference that names no element. -/
def targets (d : Document) (refs : List ElementRef) : Except ReferenceError (List ElementId) :=
  refs.mapM (target d)

/-- What is asked of the document to find the target. -/
def calls : ElementRef → List Event
  | uniqueId u => [.call (.resolveUniqueId u)]
  | _ => []

/-- The target, with its look-up in the journal. -/
def resolve (d : Document) (r : ElementRef) : Run ElementId :=
  ExceptT.mk ⟨(r.target d).mapError .reference, r.calls⟩

def resolveAll (d : Document) (refs : List ElementRef) : Run (List ElementId) :=
  refs.mapM (resolve d)

end Sieve.ElementRef
