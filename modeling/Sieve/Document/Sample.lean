import Sieve.Document.Basic

/-! A small document of two storeys: levels, plan views, walls, doors and annotations. -/

namespace Sieve.Document.Sample

def height : ParameterId := ⟨-1001300⟩
def mark : ParameterId := ⟨-1001203⟩

def lowerLevel : ElementId := ⟨1⟩
def upperLevel : ElementId := ⟨2⟩
def lowerPlan : ElementId := ⟨10⟩
def upperPlan : ElementId := ⟨11⟩
def wallType : ElementId := ⟨20⟩
def doorFamily : ElementId := ⟨30⟩
def wideDoor : ElementId := ⟨31⟩
def narrowDoor : ElementId := ⟨32⟩

def ofCategory (id : ElementId) (elementClass : ElementClass) (category : Category) : Element :=
  { Element.new id elementClass with category := some category }

def plan (id level : ElementId) : Element :=
  { ofCategory id .viewPlan .views with level := some level }

def wall (id level view : ElementId) (tall : Float) (label : String) : Element :=
  ({ ofCategory id .wall .walls with typeId := some wallType, level := some level }.showIn view
    |>.setParameter ⟨height, "Height", .double tall⟩
    |>.setParameter ⟨mark, "Mark", .text label⟩)

def doorSymbol (id : ElementId) : Element :=
  { ofCategory id .familySymbol .doors with familyId := some doorFamily }

def door (id symbol level view : ElementId) : Element :=
  { ofCategory id .familyInstance .doors with typeId := some symbol, level := some level }.showIn view

def note (id view : ElementId) : Element :=
  { ofCategory id .textNote .textNotes with ownerView := some view }

def detailLine (id view : ElementId) : Element :=
  { ofCategory id .detailCurve .lines with ownerView := some view, curveDriven := true }

def modelLine (id level view : ElementId) : Element :=
  { ofCategory id .modelCurve .lines with level := some level, curveDriven := true }.showIn view

def elements : List Element := [
  ofCategory lowerLevel .level .levels,
  ofCategory upperLevel .level .levels,
  plan lowerPlan lowerLevel,
  plan upperPlan upperLevel,
  ofCategory wallType .wallType .walls,
  wall ⟨21⟩ lowerLevel lowerPlan 10 "W-A",
  wall ⟨22⟩ lowerLevel lowerPlan 12 "W-B",
  wall ⟨23⟩ upperLevel upperPlan 15 "X-C",
  Element.new doorFamily .family,
  doorSymbol wideDoor,
  doorSymbol narrowDoor,
  door ⟨33⟩ wideDoor lowerLevel lowerPlan,
  door ⟨34⟩ wideDoor upperLevel upperPlan,
  door ⟨35⟩ narrowDoor lowerLevel lowerPlan,
  note ⟨40⟩ lowerPlan,
  note ⟨41⟩ upperPlan,
  detailLine ⟨50⟩ lowerPlan,
  modelLine ⟨51⟩ lowerLevel lowerPlan]

end Sieve.Document.Sample

namespace Sieve.Document

def sample (serial : Nat) : Document := .ofList serial Sample.elements

end Sieve.Document
