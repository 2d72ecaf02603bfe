import Mathlib.Tactic.MkIffOfInductiveProp
import Sieve.Filter.Json
import Sieve.Proofs.Scan

/-!
Parameter filters in JSON, field by field: four fields are set apart, and every other one is kept as
a condition. A field that does not fit is refused for what it holds, the first such field first.
-/

namespace Sieve

theorem Json.signed?_eq_some_iff {n : Int} {m : Int64} :
    Json.signed? n = some m ↔ n = m.toInt := by
  have least : Int64.minValue.toInt = -2 ^ 63 := by decide
  have greatest : Int64.maxValue.toInt = 2 ^ 63 - 1 := by decide
  rw [Json.signed?]
  constructor
  · intro read
    split at read
    · next inside =>
      obtain rfl := Option.some.inj read
      exact (Int64.toInt_ofInt_of_le (by omega) (by omega)).symm
    · cases read
  · rintro rfl
    rw [if_pos ⟨Int64.minValue_le_toInt m, Int64.toInt_le m⟩, Int64.ofInt_toInt]

theorem Json.signed?_map_iff {α : Type} {make : Int64 → α} {n : Int} {a : α} :
    (Json.signed? n).map make = some a ↔ ∃ m : Int64, n = m.toInt ∧ make m = a := by
  simp only [Option.map_eq_some_iff, Json.signed?_eq_some_iff]

def BodyPart.field? : BodyPart → Option String
  | .body => none
  | .parameter => some "parameter"
  | .reverse => some "reverse"
  | .caseSensitive => some "case_sensitive"
  | .precision => some "precision"

namespace ParameterBody

def names : List String := ["parameter", "reverse", "case_sensitive", "precision"]

def lookUp (fields : List (String × Json)) (name : String) : Option Json :=
  (⟨fields⟩ : Entries Json).get? name

/-- A part is read from its field, and left as it was if the field is missing. -/
def Sets {α : Type} (read : Json → Except BodyError α) (field : Option Json) (before after : α) :
    Prop :=
  match field with
  | some json => read json = .ok after
  | none => after = before

@[mk_iff]
structure Takes (fields : List (String × Json)) (before after : ParameterBody) : Prop where
  parameter : Sets (fun json => some <$> parameterOf json) (lookUp fields "parameter")
    before.parameter after.parameter
  reverse : Sets (flagOf .reverse) (lookUp fields "reverse") before.reverse after.reverse
  caseSensitive : Sets (optional (flagOf .caseSensitive)) (lookUp fields "case_sensitive")
    before.options.caseSensitive after.options.caseSensitive
  precision : Sets (optional precisionOf) (lookUp fields "precision")
    before.options.precision after.options.precision
  conditions : after.conditions = before.conditions ++ fields.filter fun field => field.1 ∉ names

theorem lookUp_cons (name : String) (value : Json) (rest : List (String × Json)) (key : String) :
    lookUp ((name, value) :: rest) key = if name = key then some value else lookUp rest key := by
  by_cases same : name = key <;> simp [lookUp, Entries.get?, same]

theorem lookUp_eq_none {fields : List (String × Json)} {name : String}
    (missing : ∀ field ∈ fields, field.1 ≠ name) : lookUp fields name = none := by
  simpa [lookUp, Entries.get?, List.find?_eq_none] using missing

theorem addField_condition (b : ParameterBody) {name : String} (value : Json)
    (other : name ∉ names) :
    b.addField name value = .ok { b with conditions := b.conditions ++ [(name, value)] } := by
  unfold addField
  split <;> first | rfl | exact absurd (by decide) other

/-- The part that a field sets, before and after; it is set once at most. -/
theorem sets_cons_self {α : Type} {read : Json → Except BodyError α} {name : String} {value : Json}
    {rest : List (String × Json)} {before after : α} :
    Sets read (lookUp ((name, value) :: rest) name) before after ↔ read value = .ok after := by
  rw [lookUp_cons, if_pos rfl, Sets]

theorem sets_cons_other {α : Type} {read : Json → Except BodyError α} {name key : String}
    {value : Json} {rest : List (String × Json)} {before after : α} (apart : name ≠ key) :
    Sets read (lookUp ((name, value) :: rest) key) before after ↔
      Sets read (lookUp rest key) before after := by
  rw [lookUp_cons, if_neg apart]

/-- A field that stands first is taken in before the rest, which does not name it again. -/
theorem takes_cons {name : String} {value : Json} {rest : List (String × Json)}
    {before after : ParameterBody} (once : ∀ field ∈ rest, field.1 ≠ name) :
    Takes ((name, value) :: rest) before after ↔
      ∃ between, before.addField name value = .ok between ∧ Takes rest between after := by
  have missing := lookUp_eq_none once
  by_cases special : name ∈ names
  · have kept : ((name, value) :: rest).filter (fun field => field.1 ∉ names) =
        rest.filter fun field => field.1 ∉ names := by simp [special]
    simp only [names, List.mem_cons, List.not_mem_nil, or_false] at special
    rw [takes_iff, kept]
    simp only [takes_iff]
    rcases special with rfl | rfl | rfl | rfl
    all_goals
      rw [sets_cons_self, sets_cons_other (by decide), sets_cons_other (by decide),
        sets_cons_other (by decide)]
      simp only [addField, missing]
    · cases parameterOf value <;> simp [bind, Except.bind, pure, Except.pure, Sets, eq_comm]
    · cases flagOf .reverse value <;> simp [bind, Except.bind, pure, Except.pure, Sets, eq_comm]
    · cases optional (flagOf .caseSensitive) value <;>
        simp [bind, Except.bind, pure, Except.pure, Sets, eq_comm]
    · cases optional precisionOf value <;>
        simp [bind, Except.bind, pure, Except.pure, Sets, eq_comm]
  · have apart : ∀ key ∈ names, name ≠ key := fun key member same => special (same ▸ member)
    have kept : ((name, value) :: rest).filter (fun field => field.1 ∉ names) =
        (name, value) :: rest.filter fun field => field.1 ∉ names := by simp [special]
    rw [takes_iff, kept, addField_condition before value special,
      sets_cons_other (apart _ (by decide)), sets_cons_other (apart _ (by decide)),
      sets_cons_other (apart _ (by decide)), sets_cons_other (apart _ (by decide))]
    simp [takes_iff]

theorem ofFields_ok_iff {fields : List (String × Json)} {body : ParameterBody}
    (once : fields.Pairwise fun a b => b.1 ≠ a.1) :
    ofFields fields = .ok body ↔ Takes fields {} body := by
  suffices general : ∀ before : ParameterBody,
      fields.foldlM (fun b field => b.addField field.1 field.2) before = .ok body ↔
        Takes fields before body from general {}
  induction fields with
  | nil =>
    intro before
    simp only [List.foldlM_nil, takes_iff, lookUp, Entries.get?, List.find?_nil, Option.map_none,
      Sets, List.filter_nil, List.append_nil]
    obtain ⟨parameter, reverse, ⟨caseSensitive, precision⟩, conditions⟩ := before
    obtain ⟨parameter', reverse', ⟨caseSensitive', precision'⟩, conditions'⟩ := body
    simp only [pure, Except.pure, Except.ok.injEq, mk.injEq, RuleOptions.mk.injEq]
    grind
  | cons field rest ih =>
    intro before
    obtain ⟨here, later⟩ := List.pairwise_cons.mp once
    rw [List.foldlM_cons, takes_cons here]
    simp only [← ih later]
    cases before.addField field.1 field.2 <;> simp [bind, Except.bind]

theorem Takes.mem_conditions_iff {fields : List (String × Json)} {body : ParameterBody}
    (takes : Takes fields {} body) {field : String × Json} :
    field ∈ body.conditions ↔ field ∈ fields ∧ field.1 ∉ names := by
  rw [takes.conditions]
  simp

inductive PartRefused : BodyPart → Json → BodyError → Prop where
  | noInteger {json : Json} (other : ∀ n, json ≠ .integer n) :
      PartRefused .parameter json (.wrongType .parameter json)
  | outOfRange {n : Int} (beyond : ∀ m : Int64, n ≠ m.toInt) :
      PartRefused .parameter (.integer n) (.outOfRange .parameter n)
  | reverse {json : Json} (noFlag : ∀ b, json ≠ .bool b) :
      PartRefused .reverse json (.wrongType .reverse json)
  | caseSensitive {json : Json} (given : json ≠ .null) (noFlag : ∀ b, json ≠ .bool b) :
      PartRefused .caseSensitive json (.wrongType .caseSensitive json)
  | precision {json : Json} (given : json ≠ .null) (noNumber : json.number? = none) :
      PartRefused .precision json (.wrongType .precision json)

/-- Fields that give no part are conditions, which are read later. -/
def FieldRefused (field : String × Json) (cause : BodyError) : Prop :=
  ∃ part, BodyPart.field? part = some field.1 ∧ PartRefused part field.2 cause

theorem parameterOf_error_iff {json : Json} {cause : BodyError} :
    parameterOf json = .error cause ↔ PartRefused .parameter json cause := by
  cases json with
  | integer n =>
    rw [parameterOf]
    cases signed : Json.signed? n with
    | some m =>
      refine ⟨nofun, fun refused => ?_⟩
      cases refused with
      | noInteger other => exact absurd rfl (other n)
      | outOfRange beyond => exact absurd (Json.signed?_eq_some_iff.mp signed) (beyond m)
    | none =>
      constructor
      · intro failed
        obtain rfl := Except.error.inj failed
        exact .outOfRange fun m same => by simp [Json.signed?_eq_some_iff.mpr same] at signed
      · intro refused
        cases refused with
        | noInteger other => exact absurd rfl (other n)
        | outOfRange => rfl
  | _ =>
    constructor
    · intro failed
      obtain rfl := Except.error.inj failed
      exact .noInteger nofun
    · intro refused
      cases refused
      rfl

theorem flagOf_error_iff {part : BodyPart} {json : Json} {cause : BodyError} :
    flagOf part json = .error cause ↔ (∀ b, json ≠ .bool b) ∧ .wrongType part json = cause := by
  cases json <;> simp [flagOf]

theorem precisionOf_error_iff {json : Json} {cause : BodyError} :
    precisionOf json = .error cause ↔
      json.number? = none ∧ .wrongType .precision json = cause := by
  rw [precisionOf]
  cases json.number? <;> simp

theorem optional_error_iff {α : Type} {read : Json → Except BodyError α} {json : Json}
    {cause : BodyError} :
    optional read json = .error cause ↔ json ≠ .null ∧ read json = .error cause := by
  have mapped (json : Json) : some <$> read json = .error cause ↔ read json = .error cause := by
    cases read json <;> simp
  cases json with
  | null => simp [optional]
  | _ => simp [optional, mapped]

theorem fieldRefused_iff (part : BodyPart) {name : String} {json : Json} {cause : BodyError}
    (named : part.field? = some name) :
    FieldRefused (name, json) cause ↔ PartRefused part json cause := by
  constructor
  · rintro ⟨other, namedToo, refused⟩
    have same : other = part := by
      have fields : other.field? = part.field? := namedToo.trans named.symm
      cases other <;> cases part <;> first | rfl | simp [BodyPart.field?] at fields named
    exact same ▸ refused
  · exact fun refused => ⟨part, named, refused⟩

theorem mem_names_of_field? {part : BodyPart} {name : String} (named : part.field? = some name) :
    name ∈ names := by
  cases part <;> simp only [BodyPart.field?, Option.some.injEq, reduceCtorEq] at named <;>
    subst named <;> decide

/-- A field is refused for what it holds, whatever was taken in before. -/
theorem addField_error_iff (b : ParameterBody) (field : String × Json) (cause : BodyError) :
    b.addField field.1 field.2 = .error cause ↔ FieldRefused field cause := by
  obtain ⟨name, json⟩ := field
  by_cases special : name ∈ names
  · simp only [names, List.mem_cons, List.not_mem_nil, or_false] at special
    rcases special with rfl | rfl | rfl | rfl
    · rw [fieldRefused_iff .parameter rfl, ← parameterOf_error_iff]
      exact Scan.bind_pure_error_iff
    · rw [fieldRefused_iff .reverse rfl]
      refine (Scan.bind_pure_error_iff.trans flagOf_error_iff).trans ⟨?_, fun refused => ?_⟩
      · rintro ⟨noFlag, rfl⟩
        exact .reverse noFlag
      · cases refused with
        | reverse noFlag => exact ⟨noFlag, rfl⟩
    · rw [fieldRefused_iff .caseSensitive rfl]
      refine (Scan.bind_pure_error_iff.trans optional_error_iff).trans ?_
      rw [flagOf_error_iff]
      constructor
      · rintro ⟨given, noFlag, rfl⟩
        exact .caseSensitive given noFlag
      · intro refused
        cases refused with
        | caseSensitive given noFlag => exact ⟨given, noFlag, rfl⟩
    · rw [fieldRefused_iff .precision rfl]
      refine (Scan.bind_pure_error_iff.trans optional_error_iff).trans ?_
      rw [precisionOf_error_iff]
      constructor
      · rintro ⟨given, noNumber, rfl⟩
        exact .precision given noNumber
      · intro refused
        cases refused with
        | precision given noNumber => exact ⟨given, noNumber, rfl⟩
  · rw [addField_condition b json special]
    refine ⟨nofun, ?_⟩
    rintro ⟨part, named, _⟩
    exact absurd (mem_names_of_field? named) special

def Fine (fields : List (String × Json)) : Prop :=
  ∀ field ∈ fields, ∀ cause, ¬ FieldRefused field cause

def FieldsRefused (fields : List (String × Json)) (cause : BodyError) : Prop :=
  ∃ before field after, fields = before ++ field :: after ∧ Fine before ∧ FieldRefused field cause

theorem ofFields_succeeds_iff {fields : List (String × Json)} :
    (∃ body, ofFields fields = .ok body) ↔ Fine fields :=
  Scan.foldlM_succeeds_iff addField_error_iff

theorem ofFields_error_iff {fields : List (String × Json)} {cause : BodyError} :
    ofFields fields = .error cause ↔ FieldsRefused fields cause :=
  Scan.foldlM_error_iff addField_error_iff

end ParameterBody

end Sieve
