import Sieve.Rule.Basic

/-! The criteria by which a document itself narrows a selection. -/

namespace Sieve

inductive Criterion where
  | ofClass (c : ElementClass)
  | ofCategory (c : Category)
  /-- Element types, or instances. -/
  | elementType (types : Bool)
  /-- The symbols of a family. -/
  | familySymbols (family : ElementId)
  | ownedByView (view : ElementId)
  /-- Elements that no view owns, or those that one does. -/
  | viewIndependent (independent : Bool)
  | curveDriven (driven : Bool)
  /-- The instances of a family symbol. -/
  | familyInstances (symbol : ElementId)
  /-- Elements on a level, or all others. -/
  | level (id : ElementId) (inverted : Bool)
  | parameter (p : ParameterPredicate)
deriving DecidableEq

def Criterion.holds : Criterion → Element → Bool
  | ofClass c, e => e.elementClass == c
  | ofCategory c, e => e.category == some c
  | elementType types, e => e.isType == types
  | familySymbols family, e => e.elementClass == .familySymbol && e.familyId == some family
  | ownedByView view, e => e.ownerView == some view
  | viewIndependent independent, e => e.ownerView.isNone == independent
  | curveDriven driven, e => e.curveDriven == driven
  | familyInstances symbol, e => e.elementClass == .familyInstance && e.typeId == some symbol
  | level id inverted, e => (e.level == some id) != inverted
  | parameter p, e => p.passes e

end Sieve
