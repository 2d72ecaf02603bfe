/-! The shapes of value that filters take, with the words in which a misfit asks for them. -/

namespace Sieve

inductive Shape where
  | flag
  | elementClass
  | category
  | element
  | elements
  | parameter
  | test
  | filterSet
deriving DecidableEq

/-- The word for the shape in the catalog of filters. -/
def Shape.name : Shape → String
  | flag => "Bool"
  | elementClass => "Class"
  | category => "Category"
  | element => "Element"
  | elements => "Elements"
  | parameter => "Parameter"
  | test => "Predicate"
  | filterSet => "Query"

def Shape.describe : Shape → String
  | flag => "a boolean"
  | elementClass => "an element class or class name"
  | category => "a category, category name, category id or element"
  | element => "an element reference"
  | elements => "a list of element references"
  | parameter => "a parameter predicate"
  | test => "an element predicate"
  | filterSet => "a nested filter set"

end Sieve
