import Sieve.Filter.Shape

/-!
The filters that a set may name. Each has a tier by what it costs, and filters are applied tier by
tier, the cheapest first.
-/

namespace Sieve

inductive Tier where
  /-- Membership that an index answers. -/
  | superQuick
  /-- Flags of an element. -/
  | quick
  /-- Data that has to be looked at, such as levels and parameters. -/
  | slow
  /-- Callers' tests, which pull every element. -/
  | superSlow
  /-- Combinations with nested sets. -/
  | logical
deriving DecidableEq

namespace Tier

def all : List Tier := [superQuick, quick, slow, superSlow, logical]

def rank : Tier → Nat
  | superQuick => 0
  | quick => 1
  | slow => 2
  | superSlow => 3
  | logical => 4

def name : Tier → String
  | superQuick => "SuperQuick"
  | quick => "Quick"
  | slow => "Slow"
  | superSlow => "SuperSlow"
  | logical => "Logical"

end Tier

inductive FilterKind where
  | ofClass
  | ofCategory
  | isType
  | isNotType
  | family
  | ownerView
  | isViewIndependent
  | isCurveDriven
  | symbol
  | level
  | notLevel
  | parameterFilter
  | whereTest
  | exclude
  | andCollector
  | orCollector
deriving DecidableEq

namespace FilterKind

/-- Every filter, in the order of the registry. -/
def all : List FilterKind :=
  [ofClass, ofCategory, isType, isNotType, family, ownerView, isViewIndependent, isCurveDriven,
    symbol, level, notLevel, parameterFilter, whereTest, exclude, andCollector, orCollector]

/-- The key of the filter in a set. -/
def name : FilterKind → String
  | ofClass => "of_class"
  | ofCategory => "of_category"
  | isType => "is_type"
  | isNotType => "is_not_type"
  | family => "family"
  | ownerView => "owner_view"
  | isViewIndependent => "is_view_independent"
  | isCurveDriven => "is_curve_driven"
  | symbol => "symbol"
  | level => "level"
  | notLevel => "not_level"
  | parameterFilter => "parameter_filter"
  | whereTest => "where"
  | exclude => "exclude"
  | andCollector => "and_collector"
  | orCollector => "or_collector"

def ofName? (name : String) : Option FilterKind := all.find? (·.name = name)

def tier : FilterKind → Tier
  | ofClass | ofCategory => .superQuick
  | isType | isNotType | family | ownerView | isViewIndependent | isCurveDriven => .quick
  | symbol | level | notLevel | parameterFilter => .slow
  | whereTest | exclude => .superSlow
  | andCollector | orCollector => .logical

def shape : FilterKind → Shape
  | ofClass => .elementClass
  | ofCategory => .category
  | isType | isNotType | isViewIndependent | isCurveDriven => .flag
  | family | ownerView | symbol | level | notLevel => .element
  | parameterFilter => .parameter
  | whereTest => .test
  | exclude => .elements
  | andCollector | orCollector => .filterSet

/-- What the filter does to a selection, as the catalog shows it. -/
def operation : FilterKind → String
  | ofClass => "Class"
  | ofCategory => "Category"
  | isType => "ElementType \x7b negated: false \x7d"
  | isNotType => "ElementType \x7b negated: true \x7d"
  | family => "FamilySymbols"
  | ownerView => "OwnerView"
  | isViewIndependent => "ViewIndependent"
  | isCurveDriven => "CurveDriven"
  | symbol => "FamilyInstances"
  | level => "Level \x7b inverted: false \x7d"
  | notLevel => "Level \x7b inverted: true \x7d"
  | parameterFilter => "Parameter"
  | whereTest => "Where"
  | exclude => "Exclude"
  | andCollector => "And"
  | orCollector => "Or"

/-- The filters of one tier, in the order of the registry. -/
def ofTier (tier : Tier) : List FilterKind := all.filter (·.tier = tier)

/-- Every filter, the cheapest tier first and in the order of the registry within a tier. -/
def byTier : List FilterKind := Tier.all.flatMap ofTier

theorem mem_all (k : FilterKind) : k ∈ all := by cases k <;> decide

theorem ofName?_name (k : FilterKind) : ofName? k.name = some k := by cases k <;> decide

theorem mem_byTier (k : FilterKind) : k ∈ byTier := by cases k <;> decide

end FilterKind

/-- The keys that select the scope of a query, in order of precedence. -/
inductive ScopeKey where
  | view
  | elements
  | elementIds
deriving DecidableEq

namespace ScopeKey

def all : List ScopeKey := [view, elements, elementIds]

def name : ScopeKey → String
  | view => "view"
  | elements => "elements"
  | elementIds => "element_ids"

def ofName? (name : String) : Option ScopeKey := all.find? (·.name = name)

/-- A view is one element; the other scopes list elements. -/
def shape : ScopeKey → Shape
  | view => .element
  | elements | elementIds => .elements

theorem mem_all (k : ScopeKey) : k ∈ all := by cases k <;> decide

theorem ofName?_name (k : ScopeKey) : ofName? k.name = some k := by cases k <;> decide

theorem ofName?_filter_name (k : FilterKind) : ofName? k.name = none := by cases k <;> decide

end ScopeKey

end Sieve
