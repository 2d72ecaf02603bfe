import Sieve.Ascending
import Sieve.Element.Category
import Sieve.Element.Class
import Sieve.Element.UniqueId

/-!
One element of a document, with the views it is visible in and its parameters. Both lists ascend, by
view and by parameter id. The values that parameters store and that conditions ask for are texts,
binary64 numbers, signed 64-bit whole numbers and element ids. Yes and no are the whole numbers 1
and 0.
-/

namespace Sieve

inductive Value where
  | text (s : String)
  | double (x : Float)
  | integer (n : Int64)
  | id (e : ElementId)
deriving DecidableEq

namespace Value

def ofBool (b : Bool) : Value := .integer (if b then 1 else 0)

def isText : Value → Bool
  | text _ => true
  | _ => false

end Value

/-- A parameter as an element stores it. -/
structure Parameter where
  id : ParameterId
  name : String
  value : Value
deriving DecidableEq

structure Element where
  id : ElementId
  uniqueId : UniqueId
  name : String
  elementClass : ElementClass
  category : Option Category
  /-- Element types (wall types, family symbols) as against instances. -/
  isType : Bool
  /-- The element's type; of a family instance, its family symbol. -/
  typeId : Option ElementId
  /-- The family that a family symbol belongs to. -/
  familyId : Option ElementId
  /-- The view that owns a view-specific element. -/
  ownerView : Option ElementId
  level : Option ElementId
  curveDriven : Bool
  visibleIn : List ElementId
  parameters : List Parameter
deriving DecidableEq

namespace Element

/-- An element of a class, named after its class and number, with nothing else set. -/
def new (id : ElementId) (elementClass : ElementClass) : Element where
  id := id
  uniqueId := .ofElementId id
  name := elementClass.name ++ " " ++ id.text
  elementClass := elementClass
  category := none
  isType := elementClass.isTypeClass
  typeId := none
  familyId := none
  ownerView := none
  level := none
  curveDriven := false
  visibleIn := []
  parameters := []

def showIn (e : Element) (view : ElementId) : Element :=
  { e with visibleIn := Ascending.insert (fun v => v) view e.visibleIn }

/-- Stores a parameter, instead of the one with its id. -/
def setParameter (e : Element) (p : Parameter) : Element :=
  { e with parameters := Ascending.insert Parameter.id p e.parameters }

def parameter? (e : Element) (id : ParameterId) : Option Value :=
  (e.parameters.find? (·.id = id)).map Parameter.value

/-- The first parameter, by id, with this display name. -/
def lookupParameter (e : Element) (name : String) : Option ParameterId :=
  (e.parameters.find? (·.name = name)).map Parameter.id

/-- An instance that the view owns or shows. -/
def inView (e : Element) (view : ElementId) : Bool :=
  !e.isType && (e.ownerView == some view || e.visibleIn.contains view)

end Element

end Sieve
