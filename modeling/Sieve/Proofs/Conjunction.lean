import Sieve.Proofs.Building

/-!
The conditions of a filter as a set. A filter asks of an element that every one of its conditions
holds, or in reverse that one does not, so neither the order of the conditions nor a repetition
matters, and one condition more moves the answer one way only.
-/

namespace Sieve

namespace Condition

variable {parameter : ParameterId} {call : RuleOptions} {config : Config} {d : Draft}

def Valid (d : Draft) : Prop := Known d ∧ ¬ Misapplied d

/-- The rule that the condition comes to says yes of the element. -/
def Holds (parameter : ParameterId) (call : RuleOptions) (config : Config) (d : Draft)
    (e : Element) : Prop :=
  ∃ r, Makes parameter call config d r ∧ r.evaluate e = some true

theorem Makes.unique {r r' : Rule} (makes : Makes parameter call config d r)
    (makes' : Makes parameter call config d r') : r = r' := by
  obtain ⟨c, rfl, made⟩ := rule_of_makes makes
  rw [← rule_ok_iff, made] at makes'
  exact Except.ok.inj makes'

/-- Whether there is a rule is up to the condition alone. -/
theorem makes_succeeds_iff : (∃ r, Makes parameter call config d r) ↔ Valid d := by
  constructor
  · rintro ⟨r, makes⟩
    obtain ⟨c, rfl, made⟩ := rule_of_makes makes
    refine ⟨known_iff.mpr ⟨c.name, rfl⟩, fun misapplied => ?_⟩
    rw [(rule_error_iff c _).mpr ⟨misapplied, rfl⟩] at made
    cases made
  · rintro ⟨known, fits⟩
    obtain ⟨c, read⟩ := parse_succeeds_iff.mpr known
    obtain rfl := parse_ok_iff.mp read
    cases made : c.rule parameter (call.or config.ruleDefaults) with
    | error cause => exact absurd ((rule_error_iff c cause).mp made).1 fits
    | ok r => exact ⟨r, makes_of_rule made⟩

theorem holds_iff_of_makes {r : Rule} {e : Element} (makes : Makes parameter call config d r) :
    Holds parameter call config d e ↔ r.evaluate e = some true := by
  constructor
  · rintro ⟨r', makes', yes⟩
    rw [makes.unique makes']
    exact yes
  · exact fun yes => ⟨r, makes, yes⟩

/-- The rules of some conditions all say yes just if the conditions all hold. -/
theorem all_rules_iff {ds : List Draft} {rules : List Rule} {e : Element}
    (each : List.Forall₂ (Makes parameter call config) ds rules) :
    (∀ r ∈ rules, r.evaluate e = some true) ↔ ∀ d ∈ ds, Holds parameter call config d e := by
  induction each with
  | nil => simp
  | cons makes _ ih => rw [List.forall_mem_cons, List.forall_mem_cons, ih, holds_iff_of_makes makes]

end Condition

namespace ParameterFilter

open Condition

variable {f : ParameterFilter} {config : Config} {p : ParameterPredicate} {e : Element}

theorem build_succeeds_iff :
    (∃ p, f.build config = .ok p) ↔ f.conditions ≠ [] ∧ ∀ d ∈ f.conditions, Valid d := by
  simp only [build_ok_iff, ← @makes_succeeds_iff f.parameter f.options config]
  rw [← Scan.exists_forall₂_iff]
  constructor
  · rintro ⟨p, built⟩
    exact ⟨built.given, p.rules, built.rules⟩
  · rintro ⟨given, rules, each⟩
    exact ⟨⟨f.parameter, rules, f.reverse⟩, given, rfl, each, rfl⟩

/-- An element passes if all conditions hold of it, or in reverse if not all do. -/
theorem Built.passes_iff (built : f.Built config p) (e : Element) :
    p.passes e ↔
      ((∀ d ∈ f.conditions, Holds f.parameter f.options config d e) ↔ f.reverse = false) := by
  rw [← all_rules_iff built.rules, ← built.reverse, ParameterPredicate.passes, bne_iff_ne,
    ne_eq, Bool.eq_iff_iff, List.all_eq_true]
  simp only [beq_iff_eq]
  cases p.reverse <;> simp

def withConditions (f : ParameterFilter) (ds : List Draft) : ParameterFilter :=
  { f with conditions := ds }

/-- A filter that is built is built of any list of the same conditions, in whatever order and however
often each, and the same elements pass. It is built with one condition more if that is a valid one;
then fewer elements pass, or more of them in reverse. -/
theorem conditions_form_set (built : f.build config = .ok p) :
    (∀ ds, (∀ d, d ∈ ds ↔ d ∈ f.conditions) →
      ∃ q, (f.withConditions ds).build config = .ok q ∧ ∀ e, q.passes e = p.passes e) ∧
    ∀ d, ((∃ q, (f.withConditions (f.conditions ++ [d])).build config = .ok q) ↔ Valid d) ∧
      ∀ q, (f.withConditions (f.conditions ++ [d])).build config = .ok q →
        ∀ e, if f.reverse then p.passes e → q.passes e else q.passes e → p.passes e := by
  obtain ⟨given, valid⟩ := build_succeeds_iff.mp ⟨p, built⟩
  have before := (build_ok_iff.mp built).passes_iff
  constructor
  · intro ds same
    have given' : ds ≠ [] := by
      obtain ⟨d, member⟩ := List.exists_mem_of_ne_nil _ given
      exact List.ne_nil_of_mem ((same d).mpr member)
    obtain ⟨q, built'⟩ := (@build_succeeds_iff (f.withConditions ds) config).mpr
      ⟨given', fun d member => valid d ((same d).mp member)⟩
    refine ⟨q, built', fun e => ?_⟩
    rw [Bool.eq_iff_iff, before e, (build_ok_iff.mp built').passes_iff e]
    simp only [withConditions, same]
  · intro d
    constructor
    · rw [build_succeeds_iff]
      simp only [withConditions, List.forall_mem_append, List.forall_mem_singleton]
      exact ⟨fun all => all.2.2, fun fits => ⟨by simp, valid, fits⟩⟩
    · intro q built' e
      rw [before e, (build_ok_iff.mp built').passes_iff e]
      simp only [withConditions, List.forall_mem_append, List.forall_mem_singleton]
      cases f.reverse
      · simp only [Bool.false_eq_true, if_false, iff_true]
        exact And.left
      · simp only [if_true, Bool.true_eq_false, iff_false]
        exact mt And.left

/-- Walls of a range of heights, asked for in another order and with the upper end twice, and then
without those of one height in the middle. -/
theorem heightRange_forms_set :
    let low : Draft := ("greater", .integer 10, {})
    let high : Draft := ("not_greater", .double 14, { precision := some 0.5 })
    let middle : Draft := ("not_equals", .integer 12, {})
    let f : ParameterFilter := { parameter := Document.Sample.height, conditions := [low, high] }
    let passing (p : ParameterPredicate) := (Document.Sample.elements.filter p.passes).map Element.id
    ∃ p q fewer, f.build {} = .ok p ∧ passing p = [⟨22⟩] ∧
      (f.withConditions [high, low, high]).build {} = .ok q ∧ (∀ e, q.passes e = p.passes e) ∧
      (f.withConditions ([low, high] ++ [middle])).build {} = .ok fewer ∧
      (∀ e, fewer.passes e → p.passes e) ∧ passing fewer = [] := by
  intro low high middle f passing
  obtain ⟨p, built⟩ : ∃ p, f.build {} = .ok p := ⟨_, rfl⟩
  obtain ⟨fewer, more⟩ : ∃ q, (f.withConditions ([low, high] ++ [middle])).build {} = .ok q :=
    ⟨_, rfl⟩
  obtain ⟨asSet, grows⟩ := conditions_form_set built
  obtain ⟨q, built', same⟩ := asSet [high, low, high] fun d => by
    change d ∈ [high, low, high] ↔ d ∈ [low, high]
    simp only [List.mem_cons, List.not_mem_nil, or_false]
    tauto
  refine ⟨p, q, fewer, built, ?_, built', same, more, (grows middle).2 fewer more, ?_⟩
  · obtain rfl := Except.ok.inj built
    decide +kernel
  · obtain rfl := Except.ok.inj more
    decide +kernel

end ParameterFilter

end Sieve
