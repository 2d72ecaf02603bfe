import Sieve.Document.Journal
import Sieve.Entries
import Sieve.Filter.Kind
import Sieve.Reference.Basic

/-!
Filter sets: values under the names of filters, all of which an element has to satisfy. Neither keys
nor values are checked as they are put in; a set that does not fit fails as a whole when it is
planned.
-/

namespace Sieve

inductive FilterValue where
  | flag (b : Bool)
  /-- The number of a category or of an element, as the filter has it. -/
  | number (n : Int64)
  /-- The name of a class or of a category, as the filter has it. -/
  | text (s : String)
  | elementClass (c : ClassRef)
  | category (c : CategoryRef)
  | element (r : ElementRef)
  | elements (refs : List ElementRef)
  | parameter (p : ParameterPredicate)
  | test (t : ElementTest)
  | filterSet (set : Entries FilterValue)

abbrev FilterSet := Entries FilterValue

namespace FilterValue

/-- The word for what a value holds. -/
def shape : FilterValue → String
  | flag _ => "bool"
  | number _ => "integer"
  | text _ => "text"
  | elementClass _ => "class"
  | category _ => "category"
  | element _ => "element"
  | elements _ => "element list"
  | parameter _ => "parameter predicate"
  | test _ => "predicate"
  | filterSet _ => "query"

/-- One element: a reference, or its number. -/
def elementRef? : FilterValue → Option ElementRef
  | element r => some r
  | number n => some (.number n)
  | _ => none

/-- Several elements: a list of references, or one element. -/
def elementRefs? : FilterValue → Option (List ElementRef)
  | elements refs => some refs
  | value => value.elementRef?.map fun r => [r]

def classRef? : FilterValue → Option ClassRef
  | elementClass c => some c
  | text s => some (.name s)
  | _ => none

end FilterValue

namespace FilterSet

def set (f : FilterSet) (k : FilterKind) (value : FilterValue) : FilterSet :=
  f.insert k.name value

def setScope (f : FilterSet) (k : ScopeKey) (value : FilterValue) : FilterSet :=
  f.insert k.name value

def ofClass (f : FilterSet) (c : ClassRef) : FilterSet := f.set .ofClass (.elementClass c)

def ofCategory (f : FilterSet) (c : CategoryRef) : FilterSet := f.set .ofCategory (.category c)

def isType (f : FilterSet) (b : Bool) : FilterSet := f.set .isType (.flag b)

def isNotType (f : FilterSet) (b : Bool) : FilterSet := f.set .isNotType (.flag b)

def level (f : FilterSet) (r : ElementRef) : FilterSet := f.set .level (.element r)

def parameter (f : FilterSet) (p : ParameterPredicate) : FilterSet :=
  f.set .parameterFilter (.parameter p)

def whereTest (f : FilterSet) (t : ElementTest) : FilterSet := f.set .whereTest (.test t)

def exclude (f : FilterSet) (ids : List ElementId) : FilterSet :=
  f.set .exclude (.elements (ids.map .id))

def andCollector (f nested : FilterSet) : FilterSet := f.set .andCollector (.filterSet nested)

def orCollector (f nested : FilterSet) : FilterSet := f.set .orCollector (.filterSet nested)

def view (f : FilterSet) (r : ElementRef) : FilterSet := f.setScope .view (.element r)

def elementIds (f : FilterSet) (ids : List ElementId) : FilterSet :=
  f.setScope .elementIds (.elements (ids.map .id))

/-- The scopes that the set names, in order of precedence. -/
def scopes (f : FilterSet) : List (ScopeKey × FilterValue) :=
  ScopeKey.all.filterMap fun k => (f.get? k.name).map fun value => (k, value)

def withoutScopes (f : FilterSet) : FilterSet :=
  ScopeKey.all.foldl (fun rest k => rest.erase k.name) f

end FilterSet

end Sieve
