/-!
The closed set of element classes. Class membership is exact: a plan view is no member of the class
of general views.
-/

namespace Sieve

inductive ElementClass where
  | wall
  | wallType
  | floor
  | floorType
  | ceiling
  | roofBase
  | familyInstance
  | familySymbol
  | family
  | level
  | grid
  | view
  | viewPlan
  | viewSection
  | view3D
  | viewSheet
  | room
  | area
  | textNote
  | dimension
  | modelCurve
  | detailCurve
  | group
  | importInstance
  | material
deriving DecidableEq

namespace ElementClass

/-- Every class, in the order of the catalog. -/
def all : List ElementClass :=
  [wall, wallType, floor, floorType, ceiling, roofBase, familyInstance, familySymbol, family, level,
    grid, view, viewPlan, viewSection, view3D, viewSheet, room, area, textNote, dimension,
    modelCurve, detailCurve, group, importInstance, material]

def name : ElementClass → String
  | wall => "Wall"
  | wallType => "WallType"
  | floor => "Floor"
  | floorType => "FloorType"
  | ceiling => "Ceiling"
  | roofBase => "RoofBase"
  | familyInstance => "FamilyInstance"
  | familySymbol => "FamilySymbol"
  | family => "Family"
  | level => "Level"
  | grid => "Grid"
  | view => "View"
  | viewPlan => "ViewPlan"
  | viewSection => "ViewSection"
  | view3D => "View3D"
  | viewSheet => "ViewSheet"
  | room => "Room"
  | area => "Area"
  | textNote => "TextNote"
  | dimension => "Dimension"
  | modelCurve => "ModelCurve"
  | detailCurve => "DetailCurve"
  | group => "Group"
  | importInstance => "ImportInstance"
  | material => "Material"

/-- The class with exactly this name. -/
def ofName? (name : String) : Option ElementClass := all.find? (·.name = name)

/-- Elements of these classes can be the scope of a query. -/
def isView : ElementClass → Bool
  | view | viewPlan | viewSection | view3D | viewSheet => true
  | _ => false

/-- New elements of these classes are element types; all others are instances. -/
def isTypeClass : ElementClass → Bool
  | wallType | floorType | familySymbol => true
  | _ => false

end ElementClass

end Sieve
