import Sieve.Config.Basic
import Sieve.Element.Basic
import Sieve.Json.Basic
import Sieve.Rule.Comparison

/-!
The JSON forms of ids, classes, comparisons, values and configurations. Ids are numbers, a choice
among names is the name, a value is an object with its kind as the only field, and a configuration is
an object with all its parts, or a list of them in order.
-/

namespace Sieve

namespace Json

def ofInt64 (n : Int64) : Json := .integer n.toInt

/-- JSON has no number that is not finite, and null stands for it. -/
def ofFloat (x : Float) : Json := if x.isFinite then .double x else .null

/-- A bare name, or an object with the name as its only field and nothing under it. -/
def choice? : Json → Option String
  | string name => some name
  | object ⟨[(name, null)]⟩ => some name
  | _ => none

end Json

namespace ElementId

def ofJson? (json : Json) : Option ElementId := json.integer?.map .mk

def toJson (id : ElementId) : Json := .ofInt64 id.number

end ElementId

namespace ParameterId

def ofJson? (json : Json) : Option ParameterId := json.integer?.map .mk

def toJson (id : ParameterId) : Json := .ofInt64 id.number

end ParameterId

namespace Category

def ofJson? (json : Json) : Option Category := json.integer?.map .mk

def toJson (c : Category) : Json := .ofInt64 c.number

end Category

namespace ElementClass

def ofJson? (json : Json) : Option ElementClass := json.choice?.bind ofName?

def toJson (c : ElementClass) : Json := .string c.name

end ElementClass

namespace Comparison

/-- The name of a comparison in JSON, which is not the keyword of conditions. -/
def title : Comparison → String
  | equals => "Equals"
  | contains => "Contains"
  | begins => "BeginsWith"
  | ends => "EndsWith"
  | greater => "Greater"
  | greaterEqual => "GreaterOrEqual"
  | less => "Less"
  | lessEqual => "LessOrEqual"

def ofJson? (json : Json) : Option Comparison :=
  json.choice?.bind fun title => all.find? (·.title = title)

def toJson (c : Comparison) : Json := .string c.title

end Comparison

namespace Value

def ofJson? : Json → Option Value
  | .object ⟨[("Text", json)]⟩ => json.string?.map .text
  | .object ⟨[("Double", json)]⟩ => json.number?.map .double
  | .object ⟨[("Integer", json)]⟩ => json.integer?.map .integer
  | .object ⟨[("Id", json)]⟩ => (ElementId.ofJson? json).map .id
  | _ => none

def toJson : Value → Json
  | text s => .object ⟨[("Text", .string s)]⟩
  | double x => .object ⟨[("Double", .ofFloat x)]⟩
  | integer n => .object ⟨[("Integer", .ofInt64 n)]⟩
  | id e => .object ⟨[("Id", e.toJson)]⟩

end Value

namespace Config

def ofParts? (caseSensitive precision scopePrecedence : Json) : Option Config := do
  return {
    caseSensitive := ← caseSensitive.bool?
    precision := ← precision.number?
    scopePrecedence := ← scopePrecedence.bool? }

/-- All parts have to be there; other fields are ignored. -/
def ofJson? : Json → Option Config
  | .object fields => do
    ofParts? (← fields.get? "case_sensitive") (← fields.get? "precision")
      (← fields.get? "scope_precedence")
  | .array [caseSensitive, precision, scopePrecedence] =>
    ofParts? caseSensitive precision scopePrecedence
  | _ => none

def toJson (c : Config) : Json :=
  .object ⟨[("case_sensitive", .bool c.caseSensitive), ("precision", .ofFloat c.precision),
    ("scope_precedence", .bool c.scopePrecedence)]⟩

end Config

end Sieve
