import Sieve.Proofs.Json.Grammar

/-!
A parameter filter in JSON stands for the filter that its object writes out: reading the object comes
to what building the filter comes to, whether that is a predicate or a failure. An object that writes
out no filter is refused before any condition is read by name.
-/

namespace Sieve

namespace ParameterBody

structure WellTyped (fields : Entries Json) : Prop where
  parameter : ∃ n : Int64, fields.get? "parameter" = some (.integer n.toInt)
  reverse : ∃ b, (fields.get? "reverse").getD (.bool false) = .bool b
  caseSensitive : ∃ o, OptionWritten (fun json b => json = .bool b) (fields.get? "case_sensitive") o
  precision : ∃ o, OptionWritten (fun json x => json.number? = some x) (fields.get? "precision") o

def Comparable (fields : Entries Json) : Prop :=
  ∀ field ∈ fields.toList, field.1 ∉ names → ∃ value, Value.Written field.2 value

variable {fields : Entries Json}

theorem wellTyped_iff :
    WellTyped fields ↔ ∃ body, Takes fields.toList {} body ∧ body.parameter ≠ none := by
  constructor
  · rintro ⟨⟨n, number⟩, ⟨b, flag⟩, ⟨caseSensitive, sensitivity⟩, ⟨precision, tolerance⟩⟩
    refine ⟨⟨some n, b, ⟨caseSensitive, precision⟩, _⟩, ⟨?_, ?_, ?_, ?_, rfl⟩, nofun⟩
    · exact sets_parameter_iff.mpr number
    · exact sets_flag_iff.mpr flag
    · exact sets_caseSensitive_iff.mpr sensitivity
    · exact sets_precision_iff.mpr tolerance
  · rintro ⟨⟨parameter, reverse, options, conditions⟩, takes, given⟩
    obtain ⟨n, rfl⟩ := Option.ne_none_iff_exists'.mp given
    obtain ⟨number, flag, sensitivity, tolerance, _⟩ := takes
    exact ⟨⟨n, sets_parameter_iff.mp number⟩, ⟨_, sets_flag_iff.mp flag⟩,
      ⟨_, sets_caseSensitive_iff.mp sensitivity⟩, ⟨_, sets_precision_iff.mp tolerance⟩⟩

theorem Takes.comparable_iff {body : ParameterBody} (takes : Takes fields.toList {} body) :
    Comparable fields ↔ ¬ ∃ field ∈ body.conditions, ∀ value, ¬ Value.Written field.2 value := by
  simp only [takes.mem_conditions_iff, Comparable, not_exists, not_and, not_forall, not_not, and_imp]

end ParameterBody

namespace ParameterPredicate

open ParameterBody

variable {c : Config} {key : String} {fields : Entries Json}

theorem ofJson_of_body {body : ParameterBody} (read : ofFields fields.toList = .ok body) :
    ofJson c key (.object fields) = (body.filter key >>= fun f => f.build c) := by
  rw [ofJson, read]
  rfl

/-- What is well typed and comparable is read as what its filter is built to. -/
theorem ofJson_of_comparable (ordered : fields.Ordered) (typed : WellTyped fields)
    (comparable : Comparable fields) :
    ∃ f, ParameterFilter.Written fields f ∧ ofJson c key (.object fields) = f.build c := by
  obtain ⟨body, takes, given⟩ := wellTyped_iff.mp typed
  rw [ofJson_of_body ((ofFields_ok_iff ordered.once).mpr takes)]
  cases filtered : body.filter key with
  | ok f => exact ⟨f, (written_iff key).mp ⟨body, takes, filtered⟩, rfl⟩
  | error e =>
    rcases (filter_error_iff key).mp filtered with ⟨missing, _⟩ | ⟨_, offends, _⟩
    · exact absurd missing given
    · exact absurd offends (takes.comparable_iff.mp comparable)

/-- What is well typed is refused for a value, whatever the names of the conditions are. -/
theorem ofJson_of_not_comparable (ordered : fields.Ordered) (typed : WellTyped fields)
    (incomparable : ¬ Comparable fields) :
    ofJson c key (.object fields) = .error (.invalidValue key .conditionValues) := by
  obtain ⟨body, takes, given⟩ := wellTyped_iff.mp typed
  have offends := not_not.mp (mt takes.comparable_iff.mpr incomparable)
  rw [ofJson_of_body ((ofFields_ok_iff ordered.once).mpr takes),
    (filter_error_iff key).mpr (.inr ⟨given, offends, rfl⟩)]
  rfl

theorem ofJson_of_not_wellTyped (ordered : fields.Ordered) (ill : ¬ WellTyped fields) :
    ∃ cause, ofJson c key (.object fields) = .error (.body cause) := by
  cases read : ofFields fields.toList with
  | error cause =>
    refine ⟨cause, ?_⟩
    rw [ofJson, read]
    rfl
  | ok body =>
    have takes := (ofFields_ok_iff ordered.once).mp read
    have missing : body.parameter = none := by
      by_contra given
      exact ill (wellTyped_iff.mpr ⟨body, takes, given⟩)
    refine ⟨.missingParameter, ?_⟩
    rw [ofJson_of_body read, (filter_error_iff key).mpr (.inl ⟨missing, rfl⟩)]
    rfl

end ParameterPredicate

namespace FilterSet

open ParameterBody

/-- What a set comes to whose parameter filter comes to this outcome. -/
def readAround (c : Config) (before after : List (String × Json))
    (outcome : Except QueryError ParameterPredicate) : Except QueryError FilterSet := do
  let earlier ← entriesOfJson c before
  let p ← outcome
  let later ← entriesOfJson c after
  return .ofList (earlier ++ ("parameter_filter", .parameter p) :: later)

theorem entryOfJson_parameterFilter (c : Config) (json : Json) :
    entryOfJson c ("parameter_filter", json) =
      (ParameterPredicate.ofJson c "parameter_filter" json).map fun p =>
        ("parameter_filter", .parameter p) := by
  have named : shapeOf "parameter_filter" = .ok .parameter := rfl
  have leaf : valueOfJson c "parameter_filter" .parameter json =
      FilterValue.ofLeaf c "parameter_filter" .parameter json := valueOfJson_leaf (by simp)
  rw [entryOfJson_eq named, leaf, ofLeaf_parameter]
  cases ParameterPredicate.ofJson c "parameter_filter" json <;> rfl

theorem ofJson_eq_readAround (c : Config) (before after : List (String × Json)) (json : Json) :
    ofJson c (.object ⟨before ++ ("parameter_filter", json) :: after⟩) =
      readAround c before after (ParameterPredicate.ofJson c "parameter_filter" json) := by
  rw [ofJson_object, entriesOfJson_eq, List.mapM_append, List.mapM_cons,
    entryOfJson_parameterFilter, readAround, entriesOfJson_eq, entriesOfJson_eq]
  cases before.mapM (entryOfJson c) with
  | error e => rfl
  | ok earlier =>
    cases ParameterPredicate.ofJson c "parameter_filter" json with
    | error e => rfl
    | ok p => cases after.mapM (entryOfJson c) <;> rfl

/-- In any set, a parameter filter in JSON stands for the filter that it writes out. It is refused
for an ill-typed part or a missing parameter first, and then for a value that nothing compares with. -/
theorem parameterFilter_reads_as_built (c : Config) {json : Json} (ordered : json.Ordered) :
    let outcome := ParameterPredicate.ofJson c "parameter_filter" json
    (∀ before after, ofJson c (.object ⟨before ++ ("parameter_filter", json) :: after⟩) =
      readAround c before after outcome) ∧
    (∀ fields, json = .object fields → WellTyped fields → Comparable fields →
      ∃ f, ParameterFilter.Written fields f ∧ outcome = f.build c) ∧
    ((¬ ∃ fields, json = .object fields ∧ WellTyped fields) →
      ∃ cause, outcome = .error (.body cause)) ∧
    ∀ fields, json = .object fields → WellTyped fields → ¬ Comparable fields →
      outcome = .error (.invalidValue "parameter_filter" .conditionValues) := by
  intro outcome
  have here : ∀ fields, json = .object fields → fields.Ordered := by
    rintro fields rfl
    cases ordered with
    | object here => exact here
  refine ⟨fun before after => ofJson_eq_readAround c before after json, ?_, fun ill => ?_, ?_⟩
  · rintro fields rfl typed comparable
    exact ParameterPredicate.ofJson_of_comparable (here fields rfl) typed comparable
  · cases json with
    | object fields =>
      exact ParameterPredicate.ofJson_of_not_wellTyped (here fields rfl) fun typed =>
        ill ⟨fields, rfl, typed⟩
    | _ => exact ⟨_, rfl⟩
  · rintro fields rfl typed incomparable
    exact ParameterPredicate.ofJson_of_not_comparable (here fields rfl) typed incomparable

/-- Heights of ten and more. -/
theorem tallJson_reads_as_built :
    let fields : Entries Json := ⟨[("case_sensitive", .null), ("not_less", .integer 10),
      ("parameter", .integer (-1001300)), ("precision", .double 0.5)]⟩
    let p : ParameterPredicate :=
      ⟨⟨-1001300⟩, [.inverse (.compare ⟨-1001300⟩ .less (.integer 10 0.5))], false⟩
    (Json.object fields).Ordered ∧ WellTyped fields ∧ Comparable fields ∧
      ∃ f, ParameterFilter.Written fields f ∧ f.build {} = .ok p := by
  intro fields p
  have ordered : (Json.object fields).Ordered := by
    refine .object ?_ ?_
    · simp only [Entries.Ordered, Ascending, fields, List.pairwise_cons]
      decide
    · simp [fields, Json.Ordered.null, Json.Ordered.integer, Json.Ordered.double]
  have typed : WellTyped fields := ⟨⟨-1001300, rfl⟩, ⟨false, rfl⟩, ⟨none, .null⟩, ⟨some 0.5, .given rfl⟩⟩
  have comparable : Comparable fields := by
    rintro field member noPart
    obtain rfl : field = ("not_less", .integer 10) := by
      simp [fields, names] at member noPart
      grind
    exact ⟨.integer 10, conditionValue?_eq_some_iff.mp rfl⟩
  obtain ⟨f, written, same⟩ :=
    (parameterFilter_reads_as_built {} ordered).2.1 fields rfl typed comparable
  exact ⟨ordered, typed, comparable, f, written, same.symm⟩

/-- A value that nothing compares with is reported before a name that no condition has. -/
example : ParameterPredicate.ofJson {} "parameter_filter"
    (.object ⟨[("bogus", .null), ("parameter", .integer 1)]⟩) =
      .error (.invalidValue "parameter_filter" .conditionValues) := rfl

end FilterSet

end Sieve
