import Sieve.Element.UniqueId
import Sieve.Filter.Shape
import Sieve.Json.Basic

/-!
What can go wrong in a query, as causes, and the one wording of each.
-/

namespace Sieve

/-- A reference that names nothing. -/
inductive ReferenceError where
  /-- The name as it was given. -/
  | unknownClass (name : String)
  /-- The name, or the number in decimal, as it was given. -/
  | unknownCategory (name : String)
  | noCategory (id : ElementId)
  | invalidElementId (id : ElementId)
  | unknownUniqueId (uniqueId : UniqueId)
  | unknownElement (id : ElementId)
deriving DecidableEq

def ReferenceError.message : ReferenceError → String
  | unknownClass name => "Unknown element class: " ++ name
  | unknownCategory name => "Unknown category: " ++ name
  | noCategory id => "Element " ++ id.text ++ " has no category"
  | invalidElementId id => "Invalid element id: " ++ id.text
  | unknownUniqueId uniqueId => "No element with unique id " ++ uniqueId.text
  | unknownElement id => "Element " ++ id.text ++ " not found"

/-- A condition on a parameter that makes no rule. -/
inductive RuleError where
  | unknownCondition (name : String)
  | textOnly (name : String)
deriving DecidableEq

def RuleError.message : RuleError → String
  | unknownCondition name => "Unknown parameter condition: " ++ name
  | textOnly name => "Condition '" ++ name ++ "' only applies to text values"

/-- A filter that is ill-formed whatever the document holds. -/
inductive FilterDefect where
  | noConditions (parameter : ParameterId)
  | noParameterNamed (element : ElementId) (name : String)
  | unresolvedScope (key : String)
  | notAnObject
deriving DecidableEq

def FilterDefect.message : FilterDefect → String
  | noConditions parameter => "parameter filter on " ++ parameter.text ++ " has no conditions"
  | noParameterNamed element name =>
    "element " ++ element.text ++ " has no parameter named '" ++ name ++ "'"
  | unresolvedScope key =>
    "scope filter '" ++ key ++ "' must be resolved before composition"
  | notAnObject => "a filter set must be a JSON object"

/-- A call that the document turns down. -/
inductive DocumentError where
  | notAView (id : ElementId)
  | missingElement (id : ElementId)
  | differentDocuments
  /-- The document would not answer the call at this place of the journal. -/
  | refused (position : Nat)
deriving DecidableEq

def DocumentError.message : DocumentError → String
  | notAView id => id.text ++ " is not a view"
  | missingElement id => "element " ++ id.text ++ " not found"
  | differentDocuments => "cannot combine queries from different documents"
  | refused position => "refused call " ++ toString position

/-- The fields that a parameter filter in JSON sets apart, and the filter as a whole. -/
inductive BodyPart where
  | body
  | parameter
  | reverse
  | caseSensitive
  | precision
deriving DecidableEq

/-- The type that each part has to be of, as error messages name it. -/
def BodyPart.expected : BodyPart → String
  | body => "struct RawParameterFilter"
  | parameter => "i64"
  | reverse | caseSensitive => "a boolean"
  | precision => "f64"

/-- A parameter filter in JSON with a part that is missing or of the wrong type. -/
inductive BodyError where
  | missingParameter
  | wrongType (part : BodyPart) (found : Json)
  /-- A whole number beyond the signed 64-bit range. -/
  | outOfRange (part : BodyPart) (number : Int)

def BodyError.message : BodyError → String
  | missingParameter => "missing field `parameter`"
  | wrongType part found =>
    "invalid type: " ++ found.describe ++ ", expected " ++ part.expected
  | outOfRange part number =>
    "invalid value: integer `" ++ toString number ++ "`, expected " ++ part.expected

/-- What a filter's value should have been. -/
inductive Expected where
  | shape (shape : Shape)
  | conditionValues
deriving DecidableEq

def Expected.describe : Expected → String
  | shape s => s.describe
  | conditionValues => "text, number or boolean condition values"

inductive QueryError where
  | reference (cause : ReferenceError)
  | rule (cause : RuleError)
  | unknownFilter (key : String)
  | malformed (defect : FilterDefect)
  /-- More than one scope key, in order of precedence. -/
  | ambiguousScope (keys : List String)
  | invalidValue (key : String) (expected : Expected)
  | indexOutOfRange (index length : Nat)
  | document (cause : DocumentError)
  | body (cause : BodyError)

def QueryError.message : QueryError → String
  | reference cause => "Coercion error: " ++ cause.message
  | rule cause => "Rule error: " ++ cause.message
  | unknownFilter key => "Unknown filter: " ++ key
  | malformed cause => "Malformed filter: " ++ cause.message
  | ambiguousScope keys => "Ambiguous scope, more than one of: " ++ ", ".intercalate keys
  | invalidValue key expected =>
    "Invalid value for filter '" ++ key ++ "': expected " ++ expected.describe
  | indexOutOfRange index length =>
    "Index " ++ toString index ++ " out of range for " ++ toString length ++ " matched elements"
  | document cause => "Store error: " ++ cause.message
  | body cause => "Serialization error: " ++ cause.message

end Sieve
