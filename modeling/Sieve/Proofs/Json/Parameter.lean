import Sieve.Proofs.Json.Body

/-!
The parameter filter that a JSON object writes out, with the predicate that is built of it, and how
an object that writes out none is reported.
-/

namespace Sieve

inductive Value.Written : Json → Value → Prop where
  | text {s : String} : Written (.string s) (.text s)
  | flag {b : Bool} : Written (.bool b) (.ofBool b)
  | double {x : Float} : Written (.double x) (.double x)
  | integer {n : Int64} : Written (.integer n.toInt) (.integer n)

/-- An option is not set if its field is missing or null. -/
inductive OptionWritten {α : Type} (written : Json → α → Prop) : Option Json → Option α → Prop where
  | missing : OptionWritten written none none
  | null : OptionWritten written (some .null) none
  | given {json : Json} {a : α} (value : written json a) : OptionWritten written (some json) (some a)

structure ParameterFilter.Written (fields : Entries Json) (f : ParameterFilter) : Prop where
  parameter : fields.get? "parameter" = some (.integer f.parameter.number.toInt)
  reverse : (fields.get? "reverse").getD (.bool false) = .bool f.reverse
  caseSensitive : OptionWritten (fun json b => json = .bool b) (fields.get? "case_sensitive")
    f.options.caseSensitive
  precision : OptionWritten (fun json x => json.number? = some x) (fields.get? "precision")
    f.options.precision
  conditions : List.Forall₂
    (fun field condition => condition.1 = field.1 ∧ Value.Written field.2 condition.2.1 ∧
      condition.2.2 = {})
    (fields.toList.filter fun field => field.1 ∉ ParameterBody.names) f.conditions

def ParameterPredicate.Written (c : Config) (json : Json) (p : ParameterPredicate) : Prop :=
  ∃ fields f, json = .object fields ∧ ParameterFilter.Written fields f ∧ f.build c = .ok p

/-- How a value that writes out no predicate is reported: by the first field that is refused, then
for the parameter if it is missing, then for conditions without a value, and last for what the
conditions ask. -/
inductive ParameterPredicate.Refused (c : Config) (key : String) : Json → QueryError → Prop where
  | notAnObject {json : Json} (noObject : ∀ fields, json ≠ .object fields) :
      Refused c key json (.body (.wrongType .body json))
  | field {fields : Entries Json} {cause : BodyError}
      (refused : ParameterBody.FieldsRefused fields.toList cause) :
      Refused c key (.object fields) (.body cause)
  | missing {fields : Entries Json} (fine : ParameterBody.Fine fields.toList)
      (absent : fields.get? "parameter" = none) :
      Refused c key (.object fields) (.body .missingParameter)
  | condition {fields : Entries Json} {field : String × Json}
      (fine : ParameterBody.Fine fields.toList) (given : fields.get? "parameter" ≠ none)
      (member : field ∈ fields.toList) (noPart : field.1 ∉ ParameterBody.names)
      (noValue : ∀ value, ¬ Value.Written field.2 value) :
      Refused c key (.object fields) (.invalidValue key .conditionValues)
  | build {fields : Entries Json} {f : ParameterFilter} {e : QueryError}
      (written : ParameterFilter.Written fields f) (failed : f.build c = .error e) :
      Refused c key (.object fields) e

namespace ParameterBody

theorem conditionValue?_eq_some_iff {json : Json} {value : Value} :
    conditionValue? json = some value ↔ Value.Written json value := by
  constructor
  · intro read
    cases json with
    | string s =>
      obtain rfl := Option.some.inj read
      exact .text
    | bool b =>
      obtain rfl := Option.some.inj read
      exact .flag
    | double x =>
      obtain rfl := Option.some.inj read
      exact .double
    | integer n =>
      obtain ⟨m, rfl, rfl⟩ := Json.signed?_map_iff.mp read
      exact .integer
    | null | array | object => cases read
  · intro written
    cases written with
    | text | flag | double => rfl
    | integer => exact Json.signed?_map_iff.mpr ⟨_, rfl, rfl⟩

theorem parameterOf_ok_iff {json : Json} {n : Int64} :
    parameterOf json = .ok n ↔ json = .integer n.toInt := by
  cases json with
  | integer m =>
    rw [Json.integer.injEq, ← Json.signed?_eq_some_iff, parameterOf]
    cases Json.signed? m <;> simp
  | _ => simp [parameterOf]

theorem flagOf_ok_iff {part : BodyPart} {json : Json} {b : Bool} :
    flagOf part json = .ok b ↔ json = .bool b := by
  cases json <;> simp [flagOf]

theorem precisionOf_ok_iff {json : Json} {x : Float} :
    precisionOf json = .ok x ↔ json.number? = some x := by
  rw [precisionOf]
  cases json.number? <;> simp

theorem sets_parameter_iff {field : Option Json} {n : Int64} :
    Sets (fun json => some <$> parameterOf json) field none (some n) ↔
      field = some (.integer n.toInt) := by
  cases field with
  | none => simp [Sets]
  | some json =>
    rw [Option.some.injEq, ← parameterOf_ok_iff, Sets]
    cases parameterOf json <;> simp

theorem sets_parameter_none_iff {field : Option Json} :
    Sets (fun json => some <$> parameterOf json) field none none ↔ field = none := by
  cases field with
  | none => simp [Sets]
  | some json =>
    rw [Sets]
    cases parameterOf json <;> simp

theorem sets_flag_iff {part : BodyPart} {field : Option Json} {b : Bool} :
    Sets (flagOf part) field false b ↔ field.getD (.bool false) = .bool b := by
  cases field with
  | none => simp [Sets, eq_comm]
  | some json => rw [Sets, flagOf_ok_iff, Option.getD_some]

theorem sets_optional_iff {α : Type} {read : Json → Except BodyError α} {field : Option Json}
    {o : Option α} (noNull : ∀ a, read .null ≠ .ok a) :
    Sets (optional read) field none o ↔
      OptionWritten (fun json a => read json = .ok a) field o := by
  constructor
  · intro sets
    cases field with
    | none =>
      obtain rfl : o = none := sets
      exact .missing
    | some json =>
      by_cases null : json = .null
      · subst null
        obtain rfl := Except.ok.inj sets
        exact .null
      · have reads : some <$> read json = .ok o := by
          cases json <;> first | exact absurd rfl null | exact sets
        cases value : read json with
        | error e => simp [value] at reads
        | ok a =>
          rw [value] at reads
          obtain rfl := Except.ok.inj reads
          exact .given value
  · intro written
    cases written with
    | missing | null => rfl
    | @given json a value =>
      have reads : optional read json = some <$> read json := by
        cases json with
        | null => exact absurd value (noNull a)
        | _ => rfl
      rw [Sets, reads, value]
      rfl

theorem sets_caseSensitive_iff {field : Option Json} {o : Option Bool} :
    Sets (optional (flagOf .caseSensitive)) field none o ↔
      OptionWritten (fun json b => json = .bool b) field o := by
  rw [sets_optional_iff (by simp [flagOf])]
  simp only [flagOf_ok_iff]

theorem sets_precision_iff {field : Option Json} {o : Option Float} :
    Sets (optional precisionOf) field none o ↔
      OptionWritten (fun json x => json.number? = some x) field o := by
  rw [sets_optional_iff (by simp [precisionOf, Json.number?])]
  simp only [precisionOf_ok_iff]

def readCondition (key : String) (field : String × Json) :
    Except QueryError (String × Value × RuleOptions) :=
  match conditionValue? field.2 with
  | some value => .ok (field.1, value, {})
  | none => .error (.invalidValue key .conditionValues)

theorem readCondition_ok_iff (key : String) {field : String × Json}
    {condition : String × Value × RuleOptions} :
    readCondition key field = .ok condition ↔
      condition.1 = field.1 ∧ Value.Written field.2 condition.2.1 ∧ condition.2.2 = {} := by
  obtain ⟨name, value, options⟩ := condition
  simp only [← conditionValue?_eq_some_iff, readCondition]
  cases conditionValue? field.2 with
  | none => simp
  | some v =>
    simp only [Except.ok.injEq, Prod.mk.injEq, Option.some.injEq]
    grind

theorem readCondition_error_iff {key : String} {field : String × Json} {e : QueryError} :
    readCondition key field = .error e ↔
      (∀ value, ¬ Value.Written field.2 value) ∧ e = .invalidValue key .conditionValues := by
  simp only [← conditionValue?_eq_some_iff, readCondition]
  cases conditionValue? field.2 <;> simp [eq_comm]

theorem filter_eq (key : String) (b : ParameterBody) :
    b.filter key = match b.parameter with
      | none => .error (.body .missingParameter)
      | some number => (b.conditions.mapM (readCondition key)).map fun conditions =>
        { parameter := ⟨number⟩, conditions, options := b.options, reverse := b.reverse } := by
  rw [filter]
  cases b.parameter <;> rfl

/-- A body makes a filter if the parameter is given and every condition has a value. -/
theorem filter_ok_iff {key : String} {b : ParameterBody} {f : ParameterFilter} :
    b.filter key = .ok f ↔ b.parameter = some f.parameter.number ∧ b.reverse = f.reverse ∧
      b.options = f.options ∧ List.Forall₂
        (fun field condition => condition.1 = field.1 ∧ Value.Written field.2 condition.2.1 ∧
          condition.2.2 = {}) b.conditions f.conditions := by
  simp only [← readCondition_ok_iff key, ← Scan.mapM_ok_iff, filter_eq]
  obtain ⟨⟨number⟩, conditions, options, reverse⟩ := f
  cases b.parameter with
  | none => simp
  | some n =>
    cases b.conditions.mapM (readCondition key) with
    | error e => simp [Except.map]
    | ok read =>
      simp only [Except.map, Except.ok.injEq, ParameterFilter.mk.injEq, ParameterId.mk.injEq,
        Option.some.injEq]
      grind

/-- A body that makes no filter lacks the parameter, or else the value of some condition. -/
theorem filter_error_iff (key : String) {b : ParameterBody} {e : QueryError} :
    b.filter key = .error e ↔ (b.parameter = none ∧ e = .body .missingParameter) ∨
      (b.parameter ≠ none ∧ (∃ field ∈ b.conditions, ∀ value, ¬ Value.Written field.2 value) ∧
        e = .invalidValue key .conditionValues) := by
  rw [filter_eq]
  cases b.parameter with
  | none => simp [eq_comm]
  | some n =>
    simp only [Scan.map_error_iff, reduceCtorEq, false_and, false_or, ne_eq, not_false_eq_true,
      true_and]
    cases ended : b.conditions.mapM (readCondition key) with
    | error e' =>
      obtain ⟨before, field, after, split, _, refused⟩ := Scan.mapM_error_iff.mp ended
      obtain ⟨noValue, rfl⟩ := readCondition_error_iff.mp refused
      have offends : ∃ field ∈ b.conditions, ∀ value, ¬ Value.Written field.2 value :=
        ⟨field, by simp [split], noValue⟩
      simp [offends, eq_comm]
    | ok read =>
      refine ⟨nofun, ?_⟩
      rintro ⟨⟨field, member, noValue⟩, _⟩
      obtain ⟨⟨name, value, options⟩, made⟩ := Scan.mapM_succeeds_iff.mp ⟨read, ended⟩ field member
      exact absurd ((readCondition_ok_iff key).mp made).2.1 (noValue value)

theorem Takes.parameter_eq_none_iff {fields : List (String × Json)} {body : ParameterBody}
    (takes : Takes fields {} body) :
    body.parameter = none ↔ lookUp fields "parameter" = none := by
  have sets := takes.parameter
  cases given : body.parameter with
  | none =>
    rw [given] at sets
    simp [sets_parameter_none_iff.mp sets]
  | some n =>
    rw [given] at sets
    simp [sets_parameter_iff.mp sets]

theorem written_iff (key : String) {fields : Entries Json} {f : ParameterFilter} :
    (∃ body, Takes fields.toList {} body ∧ body.filter key = .ok f) ↔
      ParameterFilter.Written fields f := by
  simp only [filter_ok_iff]
  constructor
  · rintro ⟨⟨parameter, reverse, options, conditions⟩, ⟨number, flag, sensitivity, tolerance, kept⟩,
      rfl, rfl, rfl, values⟩
    subst kept
    exact ⟨sets_parameter_iff.mp number, sets_flag_iff.mp flag, sets_caseSensitive_iff.mp sensitivity,
      sets_precision_iff.mp tolerance, values⟩
  · rintro ⟨number, flag, sensitivity, tolerance, values⟩
    refine ⟨⟨some f.parameter.number, f.reverse, f.options,
      fields.toList.filter fun field => field.1 ∉ names⟩, ⟨?_, ?_, ?_, ?_, rfl⟩, rfl, rfl, rfl, values⟩
    · exact sets_parameter_iff.mpr number
    · exact sets_flag_iff.mpr flag
    · exact sets_caseSensitive_iff.mpr sensitivity
    · exact sets_precision_iff.mpr tolerance

end ParameterBody

/-- No name occurs twice. -/
theorem Entries.Ordered.once {fields : Entries Json} (ordered : fields.Ordered) :
    fields.toList.Pairwise fun a b => b.1 ≠ a.1 := by
  refine List.Pairwise.imp ?_ ordered
  intro a b below same
  rw [same] at below
  exact Std.Irrefl.irrefl _ below

namespace ParameterPredicate

open ParameterBody

/-- An object with ordered fields is read as what it writes out, or fails for what is first amiss. -/
theorem exactly_object {c : Config} {key : String} {fields : Entries Json}
    (ordered : fields.Ordered) :
    Scan.Exactly (ofJson c key (.object fields)) (Written c (.object fields))
      (Refused c key (.object fields)) := by
  have body : Scan.Exactly (ofFields fields.toList) (Takes fields.toList {})
      (FieldsRefused fields.toList) :=
    ⟨fun _ => ofFields_ok_iff ordered.once, fun _ => ofFields_error_iff⟩
  have fine : Fine fields.toList ↔ ∃ taken, Takes fields.toList {} taken := by
    simp only [← ofFields_succeeds_iff, body.ok]
  have whole := (body.mapError QueryError.body).bind fun taken =>
    (Scan.Exactly.refl (taken.filter key)).bind fun f => Scan.Exactly.refl (f.build c)
  refine whole.of_iff (fun p => ⟨?_, ?_⟩) fun e => ⟨?_, fun refused => ?_⟩
  · rintro ⟨taken, takes, f, filtered, built⟩
    exact ⟨fields, f, rfl, (written_iff key).mp ⟨taken, takes, filtered⟩, built⟩
  · rintro ⟨_, f, same, written, built⟩
    obtain rfl := Json.object.inj same
    obtain ⟨taken, takes, filtered⟩ := (written_iff key).mpr written
    exact ⟨taken, takes, f, filtered, built⟩
  · rintro (⟨cause, refused, rfl⟩ | ⟨taken, takes, failed | ⟨f, filtered, failed⟩⟩)
    · exact .field refused
    · rcases (filter_error_iff key).mp failed with ⟨absent, rfl⟩ | ⟨given, ⟨field, member, noValue⟩, rfl⟩
      · exact .missing (fine.mpr ⟨taken, takes⟩) (takes.parameter_eq_none_iff.mp absent)
      · obtain ⟨member, noPart⟩ := takes.mem_conditions_iff.mp member
        exact .condition (fine.mpr ⟨taken, takes⟩) (mt takes.parameter_eq_none_iff.mpr given)
          member noPart noValue
    · exact .build ((written_iff key).mp ⟨taken, takes, filtered⟩) failed
  · cases refused with
    | notAnObject noObject => exact absurd rfl (noObject fields)
    | field refused => exact .inl ⟨_, refused, rfl⟩
    | missing inOrder absent =>
      obtain ⟨taken, takes⟩ := fine.mp inOrder
      have failed := (filter_error_iff key).mpr
        (.inl ⟨takes.parameter_eq_none_iff.mpr absent, rfl⟩)
      exact .inr ⟨taken, takes, .inl failed⟩
    | condition inOrder given member noPart noValue =>
      obtain ⟨taken, takes⟩ := fine.mp inOrder
      have offends := takes.mem_conditions_iff.mpr ⟨member, noPart⟩
      have failed := (filter_error_iff key).mpr
        (.inr ⟨mt takes.parameter_eq_none_iff.mp given, ⟨_, offends, noValue⟩, rfl⟩)
      exact .inr ⟨taken, takes, .inl failed⟩
    | build written failed =>
      obtain ⟨taken, takes, filtered⟩ := (written_iff key).mpr written
      exact .inr ⟨taken, takes, .inr ⟨_, filtered, failed⟩⟩

theorem exactly_ofJson (c : Config) (key : String) {json : Json}
    (ordered : ∀ fields, json = .object fields → fields.Ordered) :
    Scan.Exactly (ofJson c key json) (Written c json) (Refused c key json) := by
  cases json with
  | object fields => exact exactly_object (ordered fields rfl)
  | _ =>
    refine ⟨fun p => ⟨nofun, ?_⟩, fun e => ⟨fun failed => ?_, fun refused => ?_⟩⟩
    · rintro ⟨_, _, same, _⟩
      cases same
    · obtain rfl := Except.error.inj failed
      exact .notAnObject nofun
    · cases refused
      rfl

end ParameterPredicate

end Sieve
