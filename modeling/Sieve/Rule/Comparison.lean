/-!
Comparisons and the names of conditions. A condition is named by the keyword of its comparison, or by
`not_` and the keyword for the opposite.
-/

namespace Sieve

inductive Comparison where
  | equals
  | contains
  | begins
  | ends
  | greater
  | greaterEqual
  | less
  | lessEqual
deriving DecidableEq

namespace Comparison

def all : List Comparison :=
  [equals, contains, begins, ends, greater, greaterEqual, less, lessEqual]

def keyword : Comparison → String
  | equals => "equals"
  | contains => "contains"
  | begins => "begins"
  | ends => "ends"
  | greater => "greater"
  | greaterEqual => "greater_equal"
  | less => "less"
  | lessEqual => "less_equal"

def ofKeyword? (keyword : String) : Option Comparison := all.find? (·.keyword = keyword)

/-- Parts are looked for in texts only. -/
def textOnly : Comparison → Bool
  | contains | begins | ends => true
  | _ => false

theorem ofKeyword?_keyword (c : Comparison) : ofKeyword? c.keyword = some c := by
  cases c <;> decide

end Comparison

/-- The name of a condition such as `greater` or `not_begins`. -/
structure ConditionName where
  comparison : Comparison
  negated : Bool
deriving DecidableEq

namespace ConditionName

def negation : String := "not_"

def text (name : ConditionName) : String :=
  if name.negated then negation ++ name.comparison.keyword else name.comparison.keyword

/-- One `not_` at most is taken off; what is left has to be a keyword. -/
def parse? (s : String) : Option ConditionName :=
  if negation.toList.isPrefixOf s.toList then
    (Comparison.ofKeyword? (String.ofList (s.toList.drop negation.length))).map (⟨·, true⟩)
  else (Comparison.ofKeyword? s).map (⟨·, false⟩)

theorem parse?_text (name : ConditionName) : parse? name.text = some name := by
  rcases name with ⟨comparison, negated⟩
  cases comparison <;> cases negated <;> decide

end ConditionName

end Sieve
