import Sieve.Document.Sample
import Sieve.Proofs.Scan
import Sieve.Rule.Condition

/-!
How a parameter filter is built: what its predicate holds, condition by condition, and which failure
is reported where there is none. Unknown names come first, then the empty list, and last conditions
that look for a part of what is no text.
-/

namespace Sieve

def Comparison.names (c : Comparison) : List String := [c.keyword, "not_" ++ c.keyword]

/-- What is in force: what the condition sets itself, or else the call, or else the configuration. -/
inductive InForce {α : Type} (own call : Option α) (configured : α) : α → Prop where
  | own {a : α} (set : own = some a) : InForce own call configured a
  | call {a : α} (unset : own = none) (set : call = some a) : InForce own call configured a
  | configured (unset : own = none) (unset' : call = none) : InForce own call configured configured

inductive Argument.Shapes (own call : RuleOptions) (config : Config) : Value → Argument → Prop where
  | text {s : String} {flag : Bool}
      (inForce : InForce own.caseSensitive call.caseSensitive config.caseSensitive flag) :
      Shapes own call config (.text s) (.text s flag)
  | double {x tolerance : Float}
      (inForce : InForce own.precision call.precision config.precision tolerance) :
      Shapes own call config (.double x) (.double x tolerance)
  | integer {n : Int64} {tolerance : Float}
      (inForce : InForce own.precision call.precision config.precision tolerance) :
      Shapes own call config (.integer n) (.integer n tolerance)
  | id {i : ElementId} : Shapes own call config (.id i) (.id i)

namespace Condition

/-- A condition as a filter is given it: a name, a value and options of its own. -/
abbrev Draft := String × Value × RuleOptions

def draft (c : Condition) : Draft := (c.name.text, c.value, c.options)

def Known (d : Draft) : Prop := ∃ c : Comparison, d.1 ∈ c.names

def Misapplied (d : Draft) : Prop :=
  ∃ c : Comparison, d.1 ∈ c.names ∧ c.textOnly ∧ ¬ d.2.1.isText

/-- The rule that a condition comes to, in a single inversion if the name is negated. -/
inductive Makes (parameter : ParameterId) (call : RuleOptions) (config : Config) :
    Draft → Rule → Prop where
  | plain {c : Comparison} {v : Value} {own : RuleOptions} {a : Argument}
      (fits : c.textOnly → v.isText) (shapes : a.Shapes own call config v) :
      Makes parameter call config (c.keyword, v, own) (.compare parameter c a)
  | negated {c : Comparison} {v : Value} {own : RuleOptions} {a : Argument}
      (fits : c.textOnly → v.isText) (shapes : a.Shapes own call config v) :
      Makes parameter call config ("not_" ++ c.keyword, v, own) (.inverse (.compare parameter c a))

end Condition

namespace ParameterFilter

structure Built (f : ParameterFilter) (config : Config) (p : ParameterPredicate) : Prop where
  given : f.conditions ≠ []
  parameter : p.parameter = f.parameter
  rules : List.Forall₂ (Condition.Makes f.parameter f.options config) f.conditions p.rules
  reverse : p.reverse = f.reverse

inductive Refused (f : ParameterFilter) : QueryError → Prop where
  | unknown {d : Condition.Draft} (first : Scan.First (fun d => ¬ Condition.Known d) f.conditions d) :
      Refused f (.rule (.unknownCondition d.1))
  | empty (empty : f.conditions = []) : Refused f (.malformed (.noConditions f.parameter))
  | misapplied {d : Condition.Draft} (known : ∀ d ∈ f.conditions, Condition.Known d)
      (first : Scan.First Condition.Misapplied f.conditions d) : Refused f (.rule (.textOnly d.1))

end ParameterFilter

theorem inForce_iff {α : Type} {own call : Option α} {configured a : α} (default : α) :
    InForce own call configured a ↔ a = (own.or (call.or (some configured))).getD default := by
  constructor
  · rintro (set | ⟨unset, set⟩ | ⟨unset, unset'⟩)
    · simp [set]
    · simp [unset, set]
    · simp [unset, unset']
  · rintro rfl
    cases set : own with
    | some a => exact .own rfl
    | none =>
      cases set : call with
      | some a => exact .call rfl rfl
      | none => exact .configured rfl rfl

theorem Argument.shapes_iff {own call : RuleOptions} {config : Config} {v : Value} {a : Argument} :
    a.Shapes own call config v ↔ a = Condition.argument v (own.or (call.or config.ruleDefaults)) := by
  constructor
  · rintro (inForce | inForce | inForce | _)
    · rw [(inForce_iff _).mp inForce]
      rfl
    · rw [(inForce_iff _).mp inForce]
      rfl
    · rw [(inForce_iff _).mp inForce]
      rfl
    · rfl
  · rintro rfl
    cases v with
    | text s => exact .text ((inForce_iff _).mpr rfl)
    | double x => exact .double ((inForce_iff _).mpr rfl)
    | integer n => exact .integer ((inForce_iff _).mpr rfl)
    | id i => exact .id

theorem Comparison.ofKeyword?_eq_some_iff {c : Comparison} {keyword : String} :
    ofKeyword? keyword = some c ↔ keyword = c.keyword := by
  constructor
  · intro found
    simpa [eq_comm] using List.find?_some found
  · rintro rfl
    exact ofKeyword?_keyword c

namespace ConditionName

/-- A name is read only from its own text. -/
theorem parse?_eq_some_iff {name : ConditionName} {s : String} :
    parse? s = some name ↔ s = name.text := by
  constructor
  · intro read
    rw [parse?] at read
    split at read
    · next marked =>
      obtain ⟨c, found, rfl⟩ := Option.map_eq_some_iff.mp read
      rw [Comparison.ofKeyword?_eq_some_iff] at found
      obtain ⟨rest, split⟩ := List.isPrefixOf_iff_prefix.mp marked
      -- What is left of the text after the mark is the keyword.
      have dropped : s.toList.drop negation.length = rest := by
        rw [← split, ← String.length_toList, List.drop_left]
      rw [dropped] at found
      calc s = String.ofList (negation.toList ++ rest) := by rw [split, String.ofList_toList]
        _ = negation ++ c.keyword := by rw [String.ofList_append, String.ofList_toList, found]
    · obtain ⟨c, found, rfl⟩ := Option.map_eq_some_iff.mp read
      exact Comparison.ofKeyword?_eq_some_iff.mp found
  · rintro rfl
    exact parse?_text name

theorem text_inj {name name' : ConditionName} : name.text = name'.text ↔ name = name' := by
  rw [← parse?_eq_some_iff, parse?_text, Option.some.injEq]

theorem mem_names_iff {s : String} {c : Comparison} :
    s ∈ c.names ↔ ∃ negated, s = text ⟨c, negated⟩ := by
  simp [Comparison.names, Bool.exists_bool, text, negation]

end ConditionName

namespace Condition

theorem known_iff {d : Draft} : Known d ↔ ∃ name : ConditionName, d.1 = name.text := by
  simp only [Known, ConditionName.mem_names_iff]
  exact ⟨fun ⟨c, negated, same⟩ => ⟨⟨c, negated⟩, same⟩, fun ⟨⟨c, negated⟩, same⟩ => ⟨c, negated, same⟩⟩

theorem misapplied_draft_iff {c : Condition} :
    Misapplied c.draft ↔ c.name.comparison.textOnly ∧ ¬ c.value.isText := by
  obtain ⟨⟨comparison, negated⟩, value, own⟩ := c
  simp only [Misapplied, ConditionName.mem_names_iff, draft, ConditionName.text_inj]
  grind

theorem parse_ok_iff {d : Draft} {c : Condition} :
    parse d.1 d.2.1 d.2.2 = .ok c ↔ d = c.draft := by
  obtain ⟨name, value, own⟩ := d
  obtain ⟨read, value', own'⟩ := c
  rw [parse, draft, Prod.mk.injEq, Prod.mk.injEq, ← ConditionName.parse?_eq_some_iff]
  cases ConditionName.parse? name <;> simp

theorem parse_error_iff (d : Draft) (e : RuleError) :
    parse d.1 d.2.1 d.2.2 = .error e ↔ ¬ Known d ∧ e = .unknownCondition d.1 := by
  rw [parse, known_iff]
  simp only [← ConditionName.parse?_eq_some_iff]
  cases ConditionName.parse? d.1 <;> simp [eq_comm]

theorem parse_succeeds_iff {d : Draft} : (∃ c, parse d.1 d.2.1 d.2.2 = .ok c) ↔ Known d := by
  rw [known_iff]
  simp only [← ConditionName.parse?_eq_some_iff, parse]
  cases ConditionName.parse? d.1 <;> simp

variable {parameter : ParameterId} {call : RuleOptions} {config : Config}

theorem draft_inj {c c' : Condition} : c.draft = c'.draft ↔ c = c' := by
  obtain ⟨name, value, own⟩ := c
  obtain ⟨name', value', own'⟩ := c'
  simp [draft, ConditionName.text_inj]

theorem misused_iff {c : Condition} :
    c.name.comparison.textOnly && !c.value.isText ↔ Misapplied c.draft := by
  simp [misapplied_draft_iff]

theorem rule_error_iff (c : Condition) (e : RuleError) :
    c.rule parameter call = .error e ↔ Misapplied c.draft ∧ e = .textOnly c.draft.1 := by
  rw [rule, ← misused_iff, draft]
  by_cases misused : c.name.comparison.textOnly && !c.value.isText
  · simp [misused, eq_comm]
  · simp [misused]

theorem makes_of_rule {c : Condition} {r : Rule}
    (made : c.rule parameter (call.or config.ruleDefaults) = .ok r) :
    Makes parameter call config c.draft r := by
  rw [rule] at made
  split at made
  · cases made
  · next used =>
    obtain rfl := Except.ok.inj made
    have fits : c.name.comparison.textOnly → c.value.isText := by simpa using used
    obtain ⟨⟨comparison, negated⟩, value, own⟩ := c
    cases negated with
    | false => exact .plain fits (Argument.shapes_iff.mpr rfl)
    | true => exact .negated fits (Argument.shapes_iff.mpr rfl)

theorem rule_of_makes {d : Draft} {r : Rule} (makes : Makes parameter call config d r) :
    ∃ c : Condition, c.draft = d ∧ c.rule parameter (call.or config.ruleDefaults) = .ok r := by
  cases makes with
  | @plain comparison value own a fits shapes =>
    have used : ¬ (comparison.textOnly && !value.isText) := by simpa using fits
    obtain rfl := Argument.shapes_iff.mp shapes
    exact ⟨⟨⟨comparison, false⟩, value, own⟩, rfl, if_neg used⟩
  | @negated comparison value own a fits shapes =>
    have used : ¬ (comparison.textOnly && !value.isText) := by simpa using fits
    obtain rfl := Argument.shapes_iff.mp shapes
    exact ⟨⟨⟨comparison, true⟩, value, own⟩, rfl, if_neg used⟩

theorem rule_ok_iff {c : Condition} {r : Rule} :
    c.rule parameter (call.or config.ruleDefaults) = .ok r ↔
      Makes parameter call config c.draft r := by
  refine ⟨makes_of_rule, fun makes => ?_⟩
  obtain ⟨c', same, made⟩ := rule_of_makes makes
  obtain rfl := draft_inj.mp same
  exact made

theorem parsed_of_makes {ds : List Draft} {rules : List Rule}
    (each : List.Forall₂ (Makes parameter call config) ds rules) :
    ∃ parsed : List Condition, ds = parsed.map draft := by
  induction each with
  | nil => exact ⟨[], rfl⟩
  | cons makes _ ih =>
    obtain ⟨c, rfl, _⟩ := rule_of_makes makes
    obtain ⟨parsed, rfl⟩ := ih
    exact ⟨c :: parsed, rfl⟩

theorem parse_all_ok_iff {ds : List Draft} {parsed : List Condition} :
    ds.mapM (fun d => parse d.1 d.2.1 d.2.2) = .ok parsed ↔ ds = parsed.map draft := by
  simp only [Scan.mapM_ok_iff, parse_ok_iff]
  rw [← List.forall₂_map_right_iff, List.forall₂_eq_eq_eq]

theorem known_iff_parsed {ds : List Draft} :
    (∀ d ∈ ds, Known d) ↔ ∃ parsed : List Condition, ds = parsed.map draft := by
  simp only [← parse_all_ok_iff, Scan.mapM_succeeds_iff, parse_succeeds_iff]

theorem rule_all_ok_iff {parsed : List Condition} {rules : List Rule} :
    parsed.mapM (rule parameter (call.or config.ruleDefaults)) = .ok rules ↔
      List.Forall₂ (Makes parameter call config) (parsed.map draft) rules := by
  simp only [Scan.mapM_ok_iff, rule_ok_iff, List.forall₂_map_left_iff]

theorem rule_all_error_iff {parsed : List Condition} {cause : RuleError} :
    parsed.mapM (rule parameter call) = .error cause ↔
      ∃ d, Scan.First Misapplied (parsed.map draft) d ∧ cause = .textOnly d.1 := by
  rw [Scan.mapM_error_iff_first rule_error_iff]
  simp only [Scan.first_map_iff]
  grind

end Condition

namespace ParameterFilter

open Condition

variable {parameter : ParameterId} {call : RuleOptions} {config : Config} {reverse : Bool}

theorem ofConditions_eq {parsed : List Condition} (given : parsed ≠ []) :
    ParameterPredicate.ofConditions parameter parsed call reverse =
      ((parsed.mapM (rule parameter call)).mapError QueryError.rule).map (⟨parameter, ·, reverse⟩) := by
  rw [ParameterPredicate.ofConditions, if_neg (by simpa using given)]
  cases parsed.mapM (rule parameter call) <;> rfl

theorem rules_of_ofConditions {parsed : List Condition} {p : ParameterPredicate}
    (built : ParameterPredicate.ofConditions parameter parsed call reverse = .ok p) :
    parsed.mapM (rule parameter call) = .ok p.rules := by
  rw [ParameterPredicate.ofConditions] at built
  split at built
  · cases built
  · split at built
    · next rules made =>
      obtain rfl := Except.ok.inj built
      exact made
    · cases built

/-- Conditions that are read already are built to what a filter with their drafts is built to. -/
theorem exactly_ofConditions (parsed : List Condition) :
    let f : ParameterFilter := ⟨parameter, parsed.map draft, call, reverse⟩
    Scan.Exactly
      (ParameterPredicate.ofConditions parameter parsed (call.or config.ruleDefaults) reverse)
      (Built f config) (Refused f) := by
  intro f
  -- What is read has a known name, so of the three failures only the last two are left.
  have known : ∀ d ∈ parsed.map draft, Known d := known_iff_parsed.mpr ⟨parsed, rfl⟩
  by_cases empty : parsed = []
  · subst empty
    refine ⟨fun p => ⟨nofun, fun built => absurd rfl built.given⟩, fun e => ⟨?_, fun refused => ?_⟩⟩
    · intro failed
      obtain rfl := Except.error.inj failed
      exact .empty rfl
    · cases refused with
      | empty => rfl
      | unknown first | misapplied _ first => cases first
  · have given : f.conditions ≠ [] := mt List.map_eq_nil_iff.mp empty
    rw [ofConditions_eq empty]
    refine (((Scan.Exactly.refl _).mapError QueryError.rule).map _).of_iff
      (fun p => ⟨?_, fun built => ?_⟩) fun e => ⟨?_, fun refused => ?_⟩
    · rintro ⟨rules, made, rfl⟩
      exact ⟨given, rfl, rule_all_ok_iff.mp made, rfl⟩
    · obtain ⟨_, rules, _⟩ := p
      obtain ⟨_, rfl, each, rfl⟩ := built
      exact ⟨rules, rule_all_ok_iff.mpr each, rfl⟩
    · rintro ⟨cause, failed, rfl⟩
      obtain ⟨d, first, rfl⟩ := rule_all_error_iff.mp failed
      exact .misapplied known first
    · cases refused with
      | unknown first => exact absurd (known _ first.mem) first.isBad
      | empty empty => exact absurd empty given
      | misapplied _ first => exact ⟨_, rule_all_error_iff.mpr ⟨_, first, rfl⟩, rfl⟩

theorem build_eq (f : ParameterFilter) :
    f.build config = ((f.conditions.mapM fun d => parse d.1 d.2.1 d.2.2).mapError QueryError.rule >>=
      fun parsed =>
        ParameterPredicate.ofConditions f.parameter parsed (f.options.or config.ruleDefaults)
          f.reverse) := by
  rw [build]
  split
  · next parsed found =>
    have read : (f.conditions.mapM fun d => parse d.1 d.2.1 d.2.2) = .ok parsed := found
    rw [read]
    rfl
  · next cause found =>
    have failed : (f.conditions.mapM fun d => parse d.1 d.2.1 d.2.2) = .error cause := found
    rw [failed]
    rfl

/-- What no one sets is configured as by default. -/
theorem rule_defaults : rule parameter (call.or ({} : Config).ruleDefaults) = rule parameter call := by
  funext c
  have same : argument c.value (c.options.or (call.or ({} : Config).ruleDefaults)) =
      argument c.value (c.options.or call) := by
    obtain ⟨name, value, ⟨flag, tolerance⟩⟩ := c
    obtain ⟨flag', tolerance'⟩ := call
    cases flag <;> cases tolerance <;> cases flag' <;> cases tolerance' <;> rfl
  rw [rule, same, rule]

theorem ofConditions_defaults (parsed : List Condition) :
    ParameterPredicate.ofConditions parameter parsed (call.or ({} : Config).ruleDefaults) reverse =
      ParameterPredicate.ofConditions parameter parsed call reverse := by
  rw [ParameterPredicate.ofConditions, rule_defaults, ParameterPredicate.ofConditions]

/-- A filter is built to the predicate that its conditions make, or else refused for the first thing
amiss. -/
theorem exactly_build (f : ParameterFilter) (config : Config) :
    Scan.Exactly (f.build config) (Built f config) (Refused f) := by
  rw [build_eq]
  obtain ⟨parameter, conditions, call, reverse⟩ := f
  refine (((Scan.Exactly.refl _).mapError QueryError.rule).bind exactly_ofConditions).of_iff
    (fun p => ⟨?_, fun built => ?_⟩) fun e => ⟨?_, fun refused => ?_⟩
  · rintro ⟨parsed, read, built⟩
    obtain rfl := parse_all_ok_iff.mp read
    exact built
  · obtain ⟨parsed, rfl⟩ := parsed_of_makes built.rules
    exact ⟨parsed, parse_all_ok_iff.mpr rfl, built⟩
  · rintro (⟨cause, failed, rfl⟩ | ⟨parsed, read, refused⟩)
    · obtain ⟨d, first, rfl⟩ := (Scan.mapM_error_iff_first parse_error_iff).mp failed
      exact .unknown first
    · obtain rfl := parse_all_ok_iff.mp read
      exact refused
  · cases refused with
    | unknown first =>
      exact .inl ⟨_, (Scan.mapM_error_iff_first parse_error_iff).mpr ⟨_, first, rfl⟩, rfl⟩
    | empty empty =>
      obtain rfl : conditions = [] := empty
      exact .inr ⟨[], rfl, .empty rfl⟩
    | misapplied known first =>
      obtain ⟨parsed, rfl⟩ := known_iff_parsed.mp known
      exact .inr ⟨parsed, parse_all_ok_iff.mpr rfl, .misapplied known first⟩

theorem build_ok_iff {f : ParameterFilter} {p : ParameterPredicate} :
    f.build config = .ok p ↔ f.Built config p :=
  (exactly_build f config).ok p

/-- The filter is built to that predicate or refused for that cause, and conditions that are read
already are built to the same as the filter by default. -/
theorem build_exactly (f : ParameterFilter) (config : Config) :
    Scan.Exactly (f.build config) (Built f config) (Refused f) ∧
      ∀ parsed, f.conditions.mapM (fun d => parse d.1 d.2.1 d.2.2) = .ok parsed →
        ParameterPredicate.ofConditions f.parameter parsed f.options f.reverse = f.build {} := by
  refine ⟨exactly_build f config, fun parsed read => ?_⟩
  rw [build_eq, read, ← ofConditions_defaults]
  rfl

/-- The first condition has a tolerance of its own, the second takes that of the call. -/
theorem heights_built :
    let f : ParameterFilter :=
      { parameter := Document.Sample.height
        conditions := [("not_greater", .integer 10, { precision := some 0.5 }),
          ("equals", .double 12, {})]
        options := { precision := some 0.25 }
        reverse := true }
    let p : ParameterPredicate :=
      ⟨Document.Sample.height, [.inverse (.compare Document.Sample.height .greater (.integer 10 0.5)),
        .compare Document.Sample.height .equals (.double 12 0.25)], true⟩
    let parsed : List Condition := [⟨⟨.greater, true⟩, .integer 10, { precision := some 0.5 }⟩,
      ⟨⟨.equals, false⟩, .double 12, {}⟩]
    f.Built {} p ∧
      ParameterPredicate.ofConditions Document.Sample.height parsed f.options true = .ok p := by
  intro f p parsed
  have built : f.build {} = .ok p := rfl
  obtain ⟨exact, byDefault⟩ := build_exactly f {}
  refine ⟨(exact.ok p).mp built, ?_⟩
  rw [← built]
  exact byDefault parsed rfl

end ParameterFilter

end Sieve
