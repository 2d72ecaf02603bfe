/-!
Categories are numbers. The catalog names the built-in ones; a document may also hold numbers that
the catalog does not know, and these are written as numbers.
-/

namespace Sieve

structure Category where
  number : Int64
deriving DecidableEq

namespace Category

def walls : Category := ⟨-2000011⟩
def windows : Category := ⟨-2000014⟩
def doors : Category := ⟨-2000023⟩
def floors : Category := ⟨-2000032⟩
def roofs : Category := ⟨-2000035⟩
def ceilings : Category := ⟨-2000038⟩
def lines : Category := ⟨-2000051⟩
def furniture : Category := ⟨-2000080⟩
def columns : Category := ⟨-2000100⟩
def stairs : Category := ⟨-2000120⟩
def railings : Category := ⟨-2000126⟩
def genericModel : Category := ⟨-2000151⟩
def rooms : Category := ⟨-2000160⟩
def curtainWallPanels : Category := ⟨-2000170⟩
def grids : Category := ⟨-2000220⟩
def levels : Category := ⟨-2000240⟩
def dimensions : Category := ⟨-2000260⟩
def views : Category := ⟨-2000279⟩
def textNotes : Category := ⟨-2000300⟩
def casework : Category := ⟨-2001000⟩
def electricalEquipment : Category := ⟨-2001040⟩
def lightingFixtures : Category := ⟨-2001120⟩
def mechanicalEquipment : Category := ⟨-2001140⟩
def plumbingFixtures : Category := ⟨-2001160⟩
def structuralFraming : Category := ⟨-2001320⟩
def structuralColumns : Category := ⟨-2001330⟩
def sheets : Category := ⟨-2003100⟩
def areas : Category := ⟨-2003200⟩

/-- The built-in categories with their names, in the order of the catalog. -/
def catalog : List (Category × String) := [
  (walls, "Walls"),
  (windows, "Windows"),
  (doors, "Doors"),
  (floors, "Floors"),
  (roofs, "Roofs"),
  (ceilings, "Ceilings"),
  (lines, "Lines"),
  (furniture, "Furniture"),
  (columns, "Columns"),
  (stairs, "Stairs"),
  (railings, "Railings"),
  (genericModel, "GenericModel"),
  (rooms, "Rooms"),
  (curtainWallPanels, "CurtainWallPanels"),
  (grids, "Grids"),
  (levels, "Levels"),
  (dimensions, "Dimensions"),
  (views, "Views"),
  (textNotes, "TextNotes"),
  (casework, "Casework"),
  (electricalEquipment, "ElectricalEquipment"),
  (lightingFixtures, "LightingFixtures"),
  (mechanicalEquipment, "MechanicalEquipment"),
  (plumbingFixtures, "PlumbingFixtures"),
  (structuralFraming, "StructuralFraming"),
  (structuralColumns, "StructuralColumns"),
  (sheets, "Sheets"),
  (areas, "Areas")]

def name? (c : Category) : Option String := catalog.lookup c

/-- The built-in category with this number. -/
def ofNumber? (number : Int64) : Option Category :=
  if ((⟨number⟩ : Category).name?).isSome then some ⟨number⟩ else none

/-- `OST_` and the name, or the number of a category outside the catalog. -/
def text (c : Category) : String :=
  match c.name? with
  | some name => "OST_" ++ name
  | none => toString c.number.toInt

end Category

end Sieve
