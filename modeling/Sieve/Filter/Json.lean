import Sieve.Filter.Set
import Sieve.Rule.Condition

/-!
Filter sets in JSON. Element references are whole numbers or unique ids, nested sets are objects, and
condition values keep their JSON type: `10` makes a rule on whole numbers and `10.0` one on doubles.
A caller's test cannot be written in JSON.
-/

namespace Sieve

/-- The fields that a parameter filter sets apart from its conditions. -/
structure ParameterBody where
  parameter : Option Int64 := none
  reverse : Bool := false
  options : RuleOptions := {}
  conditions : List (String × Json) := []

namespace ParameterBody

def parameterOf : Json → Except BodyError Int64
  | .integer n =>
    match Json.signed? n with
    | some number => .ok number
    | none => .error (.outOfRange .parameter n)
  | found => .error (.wrongType .parameter found)

def flagOf (part : BodyPart) : Json → Except BodyError Bool
  | .bool b => .ok b
  | found => .error (.wrongType part found)

def precisionOf (found : Json) : Except BodyError Float :=
  match found.number? with
  | some x => .ok x
  | none => .error (.wrongType .precision found)

/-- An option that is null counts as not given. -/
def optional {α : Type} (read : Json → Except BodyError α) : Json → Except BodyError (Option α)
  | .null => .ok none
  | found => some <$> read found

/-- Takes one field in; a name that is not set apart is the name of a condition. -/
def addField (b : ParameterBody) (name : String) (value : Json) : Except BodyError ParameterBody :=
  match name with
  | "parameter" => do return { b with parameter := some (← parameterOf value) }
  | "reverse" => do return { b with reverse := ← flagOf .reverse value }
  | "case_sensitive" => do
    let caseSensitive ← optional (flagOf .caseSensitive) value
    return { b with options := { b.options with caseSensitive } }
  | "precision" => do
    let precision ← optional precisionOf value
    return { b with options := { b.options with precision } }
  | _ => .ok { b with conditions := b.conditions ++ [(name, value)] }

def ofFields (fields : List (String × Json)) : Except BodyError ParameterBody :=
  fields.foldlM (fun b (name, value) => b.addField name value) {}

def conditionValue? : Json → Option Value
  | .string s => some (.text s)
  | .bool b => some (.ofBool b)
  | .double x => some (.double x)
  | .integer n => (Json.signed? n).map .integer
  | _ => none

/-- The filter with one condition for each remaining field. -/
def filter (key : String) (b : ParameterBody) : Except QueryError ParameterFilter := do
  let some number := b.parameter | throw (.body .missingParameter)
  let conditions ← b.conditions.mapM fun (name, value) =>
    match conditionValue? value with
    | some v => .ok (name, v, {})
    | none => .error (.invalidValue key .conditionValues)
  return { parameter := ⟨number⟩, conditions, options := b.options, reverse := b.reverse }

end ParameterBody

/-- Reads all fields, then all condition values, and builds the predicate last. -/
def ParameterPredicate.ofJson (c : Config) (key : String) : Json → Except QueryError ParameterPredicate
  | .object fields => do
    let body ← (ParameterBody.ofFields fields.toList).mapError .body
    let filter ← body.filter key
    filter.build c
  | found => .error (.body (.wrongType .body found))

def ElementRef.ofJson? : Json → Option ElementRef
  | .integer n => (Json.signed? n).map .number
  | .string s => (UniqueId.parse? s).map .uniqueId
  | _ => none

def CategoryRef.ofJson? : Json → Option CategoryRef
  | .string s => some (.name s)
  | .integer n => (Json.signed? n).map .number
  | _ => none

/-- A list of references, or one reference by itself. -/
def ElementRef.listOfJson? : Json → Option (List ElementRef)
  | .array items => items.mapM ElementRef.ofJson?
  | single => (ElementRef.ofJson? single).map fun r => [r]

namespace FilterValue

def misfit (key : String) (shape : Shape) : Except QueryError FilterValue :=
  .error (.invalidValue key (.shape shape))

/-- A value that is no nested set. -/
def ofLeaf (c : Config) (key : String) (shape : Shape) (json : Json) :
    Except QueryError FilterValue :=
  let value : Option FilterValue :=
    match shape with
    | .flag => json.bool?.map .flag
    | .elementClass => json.string?.map fun s => .elementClass (.name s)
    | .category => (CategoryRef.ofJson? json).map .category
    | .element => (ElementRef.ofJson? json).map .element
    | .elements => (ElementRef.listOfJson? json).map .elements
    | .parameter | .test | .filterSet => none
  match shape, value with
  | .parameter, _ => .parameter <$> ParameterPredicate.ofJson c key json
  | _, some v => .ok v
  | _, none => misfit key shape

end FilterValue

namespace FilterSet

/-- The shape that a key asks for: that of its scope or of its filter. -/
def shapeOf (key : String) : Except QueryError Shape :=
  match ScopeKey.ofName? key, FilterKind.ofName? key with
  | some scope, _ => .ok scope.shape
  | none, some kind => .ok kind.shape
  | none, none => .error (.unknownFilter key)

mutual

def valueOfJson (c : Config) (key : String) (shape : Shape) : Json → Except QueryError FilterValue
  | .object ⟨fields⟩ =>
    match shape with
    | .filterSet => do return .filterSet (.ofList (← entriesOfJson c fields))
    | _ => FilterValue.ofLeaf c key shape (.object ⟨fields⟩)
  | json => FilterValue.ofLeaf c key shape json

def entriesOfJson (c : Config) : List (String × Json) → Except QueryError (List (String × FilterValue))
  | [] => .ok []
  | (key, json) :: rest => do
    let shape ← shapeOf key
    let value ← valueOfJson c key shape json
    return (key, value) :: (← entriesOfJson c rest)

end

/-- Reads a set field by field, in the order of the object. Parameter predicates are built at once,
with the configured defaults. -/
def ofJson (c : Config) : Json → Except QueryError FilterSet
  | .object fields => do return .ofList (← entriesOfJson c fields.toList)
  | _ => .error (.malformed .notAnObject)

end FilterSet

end Sieve
