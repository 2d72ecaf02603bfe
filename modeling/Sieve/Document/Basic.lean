import Sieve.Element.Basic
import Sieve.Error

/-!
Documents: the elements by ascending number, one for each number. A scope names the elements from
which a query starts.
-/

namespace Sieve

structure Document where
  /-- Tells documents apart that are open together, even if they hold the same elements. -/
  serial : Nat
  elements : List Element
  ascending : Ascending Element.id elements

/-- The elements from which a query starts. -/
inductive Scope where
  | document
  /-- The instances that a view owns or shows. -/
  | view (id : ElementId)
  /-- Listed elements; order and repetition do not matter. -/
  | elements (ids : List ElementId)
deriving DecidableEq

namespace Document

def empty (serial : Nat) : Document := ⟨serial, [], Ascending.nil⟩

def element? (d : Document) (id : ElementId) : Option Element := d.elements.find? (·.id = id)

/-- Stores an element under its number, instead of the one that was there. -/
def insert (d : Document) (e : Element) : Document :=
  ⟨d.serial, Ascending.insert Element.id e d.elements, Ascending.insert_ascending d.ascending⟩

/-- Stores an element and tells which one it displaced. -/
def put (d : Document) (e : Element) : Document × Option Element :=
  (d.insert e, d.element? e.id)

/-- The document after so many insertions, in order. -/
def ofList (serial : Nat) (elements : List Element) : Document :=
  elements.foldl insert (empty serial)

def size (d : Document) : Nat := d.elements.length

/-- Of the elements with this unique id the one with the smallest number. -/
def resolve? (d : Document) (u : UniqueId) : Option ElementId :=
  (d.elements.find? (·.uniqueId = u)).map Element.id

def ids (d : Document) : List ElementId := d.elements.map Element.id

theorem element?_insert (d : Document) (e : Element) (id : ElementId) :
    (d.insert e).element? id = if e.id = id then some e else d.element? id :=
  Ascending.find?_insert e d.elements id

theorem id_of_element? {d : Document} {id : ElementId} {e : Element}
    (h : d.element? id = some e) : e.id = id := by
  simpa using List.find?_some h

/-- The elements of a scope. A view has to be an element of a view class, and every listed element
has to exist. -/
def scopeIds (d : Document) : Scope → Except DocumentError (List ElementId)
  | .document => .ok d.ids
  | .view id =>
    if (d.element? id).any (·.elementClass.isView) then
      .ok ((d.elements.filter (·.inView id)).map Element.id)
    else .error (.notAView id)
  | .elements ids =>
    match ids.find? fun id => (d.element? id).isNone with
    | some id => .error (.missingElement id)
    | none => .ok (Ascending.ofList (fun id => id) ids)

end Document

end Sieve
