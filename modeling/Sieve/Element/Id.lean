/-!
The numbers by which a document names its elements and parameters. Both are signed 64-bit numbers
and are written in decimal.
-/

namespace Sieve

/-- The number of an element inside one document. -/
structure ElementId where
  number : Int64
deriving DecidableEq

namespace ElementId

/-- The number that stands for "no element". -/
def absent : ElementId := ⟨-1⟩

def isValid (id : ElementId) : Bool := id ≠ absent

def text (id : ElementId) : String := toString id.number.toInt

instance : LT ElementId := ⟨fun a b => a.number < b.number⟩

instance : DecidableLT ElementId := fun a b => inferInstanceAs (Decidable (a.number < b.number))

instance : Trans (α := ElementId) (· < ·) (· < ·) (· < ·) := ⟨fun h k => Int64.lt_trans h k⟩

instance : Std.Trichotomous (α := ElementId) (· < ·) where
  trichotomous _ _ h k :=
    congrArg ElementId.mk (Int64.le_antisymm (Int64.not_lt.mp k) (Int64.not_lt.mp h))

instance : Std.Irrefl (α := ElementId) (· < ·) := ⟨fun id => Int64.lt_irrefl (a := id.number)⟩

end ElementId

/-- The number of a parameter definition. Built-in parameters have negative numbers. -/
structure ParameterId where
  number : Int64
deriving DecidableEq

namespace ParameterId

def text (id : ParameterId) : String := toString id.number.toInt

instance : LT ParameterId := ⟨fun a b => a.number < b.number⟩

instance : DecidableLT ParameterId := fun a b =>
  inferInstanceAs (Decidable (a.number < b.number))

instance : Trans (α := ParameterId) (· < ·) (· < ·) (· < ·) := ⟨fun h k => Int64.lt_trans h k⟩

instance : Std.Trichotomous (α := ParameterId) (· < ·) where
  trichotomous _ _ h k :=
    congrArg ParameterId.mk (Int64.le_antisymm (Int64.not_lt.mp k) (Int64.not_lt.mp h))

end ParameterId

end Sieve
