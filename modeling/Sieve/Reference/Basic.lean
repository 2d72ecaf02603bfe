import Sieve.Element.Basic
import Sieve.Error
import Sieve.Text.Basic
import Sieve.Text.Lower

/-!
References to classes, categories and elements, as callers give them, and what they stand for. There
is no fallback: a reference that names nothing is an error. Names of classes and categories are
matched with outer white space and leading qualifiers taken off, then all white space and underscores
left out and every character lower-cased.
-/

namespace Sieve

namespace Name

/-- Takes a leading qualifier off, in whatever ASCII case it is written. -/
def dropQualifier (name : List Char) (qualifier : String) : List Char :=
  if (name.take qualifier.length).map Char.toLower = qualifier.toList.map Char.toLower then
    name.drop qualifier.length
  else name

/-- What is left of a name for matching. -/
def normal (name : List Char) : List Char :=
  (name.filter fun c => !Text.isBlank c && c != '_').flatMap Text.lowerChar

/-- Each qualifier is taken off once, in the order given, if it stands in front by then. -/
def matchKey (qualifiers : List String) (name : String) : List Char :=
  normal (qualifiers.foldl dropQualifier (Text.trim name.toList))

end Name

inductive ClassRef where
  | token (c : ElementClass)
  | name (s : String)
deriving DecidableEq

namespace ClassRef

def qualifiers : List String := ["Autodesk.Revit.DB.", "DB."]

def of (e : Element) : ClassRef := .token e.elementClass

def resolve : ClassRef → Except ReferenceError ElementClass
  | token c => .ok c
  | name s =>
    match ElementClass.all.find? fun c =>
      Name.normal c.name.toList = Name.matchKey qualifiers s with
    | some c => .ok c
    | none => .error (.unknownClass s)

end ClassRef

inductive CategoryRef where
  /-- A category itself, in the catalog or not. -/
  | token (c : Category)
  | number (n : Int64)
  | name (s : String)
  /-- The category of an element, which may have none. -/
  | ofElement (id : ElementId) (category : Option Category)
deriving DecidableEq

namespace CategoryRef

def qualifiers : List String := ["BuiltInCategory.", "OST_"]

def of (e : Element) : CategoryRef := .ofElement e.id e.category

def resolve : CategoryRef → Except ReferenceError Category
  | token c => .ok c
  | number n =>
    match Category.ofNumber? n with
    | some c => .ok c
    | none => .error (.unknownCategory (toString n.toInt))
  | name s =>
    match Category.catalog.find? fun entry =>
      Name.normal entry.2.toList = Name.matchKey qualifiers s with
    | some entry => .ok entry.1
    | none => .error (.unknownCategory s)
  | ofElement _ (some c) => .ok c
  | ofElement id none => .error (.noCategory id)

end CategoryRef

inductive ElementRef where
  | id (e : ElementId)
  | number (n : Int64)
  | uniqueId (u : UniqueId)
deriving DecidableEq

def ElementRef.of (e : Element) : ElementRef := .id e.id

end Sieve
