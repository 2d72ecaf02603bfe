import Sieve.Filter.Scope

/-!
Plans: a filter set with every key checked and every value resolved against the document, in the
order in which it will be applied. Planning fails on any flaw of the set at any depth, and pulls no
element.
-/

namespace Sieve

mutual

/-- What one filter does to a selection. -/
inductive Step where
  | keep (c : Criterion)
  | test (t : ElementTest)
  | exclude (ids : List ElementId)
  | intersect (nested : Plan)
  | union (nested : Plan)

inductive Plan where
  | over (scope : Scope) (steps : List (FilterKind × Step))

end

namespace FilterSet

/-- At the top scope keys have no place: the scope is resolved before. In nested sets they do. -/
def checkKey (nested : Bool) (key : String) : Except QueryError Unit :=
  if (ScopeKey.ofName? key).isSome then
    if nested then .ok () else .error (.malformed (.unresolvedScope key))
  else if (FilterKind.ofName? key).isSome then .ok ()
  else .error (.unknownFilter key)

mutual

/-- Checks the keys of a nested set, if the value is one. -/
def checkValue : FilterValue → Except QueryError Unit
  | .filterSet ⟨entries⟩ => checkEntries true entries
  | _ => .ok ()

/-- Checks key after key, each before the keys nested under it. -/
def checkEntries (nested : Bool) : List (String × FilterValue) → Except QueryError Unit
  | [] => .ok ()
  | (key, value) :: rest => do
    checkKey nested key
    checkValue value
    checkEntries nested rest

end

/-- Every key names a filter, or in a nested set a filter or a scope. The first that does not is
reported, whatever filter it is nested under. -/
def validate (f : FilterSet) : Except QueryError Unit := checkEntries false f.toList

end FilterSet

namespace FilterKind

def misfit {α : Type} (k : FilterKind) : Run α := throw (.invalidValue k.name (.shape k.shape))

/-- A flag as the filter takes it: a false one asks for the opposite, not for nothing. -/
def flag (k : FilterKind) (negated : Bool) : FilterValue → Run Bool
  | .flag b => return b != negated
  | _ => k.misfit

def element (d : Document) (k : FilterKind) (value : FilterValue) : Run ElementId :=
  match value.elementRef? with
  | some r => r.resolve d
  | none => k.misfit

def resolveClass (k : FilterKind) (value : FilterValue) : Run ElementClass :=
  match value.classRef? with
  | some c => Run.ofExcept (c.resolve.mapError .reference)
  | none => k.misfit

/-- The category that an existing element has. -/
def sampleCategory (d : Document) (r : ElementRef) : Run CategoryRef := do
  let id ← r.resolve d
  match d.element? id with
  | some e => Run.call (.element id) (.ok (.of e))
  | none => Run.call (.element id) (.error (.reference (.unknownElement id)))

def resolveCategory (d : Document) (k : FilterKind) (value : FilterValue) : Run Category := do
  let ref ← match value with
    | .category c => pure c
    | .text s => pure (.name s)
    | .number n => pure (.number n)
    | .element r => sampleCategory d r
    | _ => k.misfit
  Run.ofExcept (ref.resolve.mapError .reference)

/-- The step of a filter whose value is no nested set. -/
def step (d : Document) (k : FilterKind) (value : FilterValue) : Run Step :=
  match k with
  | ofClass => return .keep (.ofClass (← k.resolveClass value))
  | ofCategory => return .keep (.ofCategory (← k.resolveCategory d value))
  | isType => return .keep (.elementType (← k.flag false value))
  | isNotType => return .keep (.elementType (← k.flag true value))
  | family => return .keep (.familySymbols (← k.element d value))
  | ownerView => return .keep (.ownedByView (← k.element d value))
  | isViewIndependent => return .keep (.viewIndependent (← k.flag false value))
  | isCurveDriven => return .keep (.curveDriven (← k.flag false value))
  | symbol => return .keep (.familyInstances (← k.element d value))
  | level => return .keep (.level (← k.element d value) false)
  | notLevel => return .keep (.level (← k.element d value) true)
  | parameterFilter =>
    match value with
    | .parameter p => return .keep (.parameter p)
    | _ => k.misfit
  | whereTest =>
    match value with
    | .test t => return .test t
    | _ => k.misfit
  | exclude =>
    match value.elementRefs? with
    | some refs => return .exclude (Ascending.ofList (fun id => id) (← ElementRef.resolveAll d refs))
    | none => k.misfit
  | andCollector | orCollector => k.misfit

end FilterKind

/-- How the value of an entry becomes a step, once its filter and the scope around it are known. -/
abbrev Planner := FilterKind → Scope → Run Step

/-- Plans the entries filter by filter in the given order. Entries that name none of the filters are
left alone. -/
def planSteps (planners : Entries Planner) (scope : Scope) :
    List FilterKind → Run (List (FilterKind × Step))
  | [] => return []
  | kind :: more => do
    match planners.get? kind.name with
    | some planner => do
      let step ← planner kind scope
      return (kind, step) :: (← planSteps planners scope more)
    | none => planSteps planners scope more

namespace FilterSet

/-- Plans a set over its own scope, or over the scope around it if it names none. -/
def planNested (d : Document) (c : Config) (f : FilterSet) (planners : Entries Planner)
    (outer : Scope) : Run Plan := do
  let scope := (← f.resolveScope d c).getD outer
  return .over scope (← planSteps planners scope FilterKind.byTier)

mutual

def planner (d : Document) (c : Config) : FilterValue → Planner
  | .filterSet ⟨entries⟩ => fun kind outer =>
    match kind with
    | .andCollector => .intersect <$> planNested d c ⟨entries⟩ ⟨planners d c entries⟩ outer
    | .orCollector => .union <$> planNested d c ⟨entries⟩ ⟨planners d c entries⟩ outer
    | _ => kind.misfit
  | value => fun kind _ => kind.step d value

def planners (d : Document) (c : Config) : List (String × FilterValue) → List (String × Planner)
  | [] => []
  | (key, value) :: rest => (key, planner d c value) :: planners d c rest

end

/-- Planners stand under the keys of the values that they plan. -/
theorem get?_planners (d : Document) (c : Config) (entries : List (String × FilterValue))
    (key : String) :
    (⟨planners d c entries⟩ : Entries Planner).get? key =
      ((⟨entries⟩ : FilterSet).get? key).map (planner d c) := by
  induction entries with
  | nil => rfl
  | cons entry rest ih =>
    rcases entry with ⟨k, value⟩
    by_cases h : k = key <;> simp_all [planners, Entries.get?]

/-- Plans a set over a scope, the cheapest filters first. -/
def plan (d : Document) (c : Config) (scope : Scope) (f : FilterSet) : Run Plan := do
  return .over scope (← planSteps ⟨planners d c f.toList⟩ scope FilterKind.byTier)

end FilterSet

end Sieve
