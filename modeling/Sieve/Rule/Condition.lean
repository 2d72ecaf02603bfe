import Sieve.Config.Basic
import Sieve.Error
import Sieve.Rule.Basic

/-!
Conditions on one parameter and the predicate they make. How a condition compares is settled option
by option: its own options win over those of the filter, and these over the configured defaults.
-/

namespace Sieve

structure RuleOptions where
  caseSensitive : Option Bool := none
  precision : Option Float := none
deriving DecidableEq

/-- Each option from the first, or else from the second. -/
def RuleOptions.or (options fallback : RuleOptions) : RuleOptions where
  caseSensitive := options.caseSensitive.or fallback.caseSensitive
  precision := options.precision.or fallback.precision

/-- Both options as the configuration sets them. -/
def Config.ruleDefaults (c : Config) : RuleOptions where
  caseSensitive := some c.caseSensitive
  precision := some c.precision

structure Condition where
  name : ConditionName
  value : Value
  options : RuleOptions
deriving DecidableEq

namespace Condition

def parse (name : String) (value : Value) (options : RuleOptions) : Except RuleError Condition :=
  match ConditionName.parse? name with
  | some parsed => .ok ⟨parsed, value, options⟩
  | none => .error (.unknownCondition name)

/-- Texts carry the case flag and numbers the tolerance; ids carry neither. -/
def argument (value : Value) (options : RuleOptions) : Argument :=
  let tolerance := options.precision.getD ({} : Config).precision
  match value with
  | .text s => .text s (options.caseSensitive.getD ({} : Config).caseSensitive)
  | .double x => .double x tolerance
  | .integer n => .integer n tolerance
  | .id e => .id e

/-- The rule of a condition, inverted for a negated name. Looking for a part needs a text. -/
def rule (parameter : ParameterId) (fallback : RuleOptions) (c : Condition) :
    Except RuleError Rule :=
  if c.name.comparison.textOnly && !c.value.isText then .error (.textOnly c.name.text)
  else
    let plain := Rule.compare parameter c.name.comparison (argument c.value (c.options.or fallback))
    .ok (if c.name.negated then .inverse plain else plain)

end Condition

/-- One rule for each condition, in order. There has to be a condition. -/
def ParameterPredicate.ofConditions (parameter : ParameterId) (conditions : List Condition)
    (options : RuleOptions) (reverse : Bool) : Except QueryError ParameterPredicate :=
  if conditions.isEmpty then .error (.malformed (.noConditions parameter))
  else
    match conditions.mapM (Condition.rule parameter options) with
    | .ok rules => .ok ⟨parameter, rules, reverse⟩
    | .error cause => .error (.rule cause)

/-- A filter on one parameter before its condition names are read. -/
structure ParameterFilter where
  parameter : ParameterId
  conditions : List (String × Value × RuleOptions) := []
  options : RuleOptions := {}
  reverse : Bool := false
deriving DecidableEq

namespace ParameterFilter

/-- A filter on the parameter that an element has under this display name. -/
def named (e : Element) (name : String) : Except QueryError ParameterFilter :=
  match e.lookupParameter name with
  | some parameter => .ok { parameter }
  | none => .error (.malformed (.noParameterNamed e.id name))

/-- Reads every name before any condition is made a rule. -/
def build (f : ParameterFilter) (c : Config) : Except QueryError ParameterPredicate :=
  match f.conditions.mapM fun (name, value, options) => Condition.parse name value options with
  | .ok conditions =>
    ParameterPredicate.ofConditions f.parameter conditions (f.options.or c.ruleDefaults) f.reverse
  | .error cause => .error (.rule cause)

end ParameterFilter

end Sieve
