import Mathlib.Data.Set.Basic
import Sieve.Document.Sample
import Sieve.Rule.Condition

/-!
A condition, its negation and the predicate in reverse. The condition and its negation share out the
elements that store a value to compare; a predicate in reverse takes all the elements that the plain
one leaves, and with them those that have nothing to compare.
-/

namespace Sieve

/-- Values compare with values of their own domain only, and whole numbers with doubles. -/
inductive Domain where
  | text
  | number
  | id
deriving DecidableEq

def Value.domain : Value → Domain
  | text _ => .text
  | double _ | integer _ => .number
  | id _ => .id

def Argument.domain : Argument → Domain
  | text _ _ => .text
  | double _ _ | integer _ _ => .number
  | id _ => .id

def Element.Stores (e : Element) (parameter : ParameterId) (domain : Domain) : Prop :=
  ∃ stored, e.parameter? parameter = some stored ∧ stored.domain = domain

@[simp] theorem Condition.domain_argument (v : Value) (o : RuleOptions) :
    (argument v o).domain = v.domain := by
  cases v <;> rfl

theorem Value.isText_iff (v : Value) : v.isText ↔ v.domain = .text := by
  cases v <;> simp [isText, domain]

namespace Comparison

variable (c : Comparison)

theorem isSome_ofOrdering (o : Ordering) : (c.ofOrdering o).isSome = !c.textOnly := by
  cases c <;> rfl

/-- A NaN is compared like any other number. -/
theorem isSome_ofDoubles (x y tolerance : Float) :
    (c.ofDoubles x y tolerance).isSome = !c.textOnly := by
  rw [ofDoubles]
  by_cases textOnly : c.textOnly
  · simp [textOnly]
  · rw [if_neg textOnly]
    by_cases nan : x.isNaN || y.isNaN
    · rw [if_pos nan, Bool.eq_false_of_not_eq_true textOnly]
      rfl
    · rw [if_neg nan]
      cases c <;> rfl

theorem isSome_ofTexts (stored wanted : List Char) : (c.ofTexts stored wanted).isSome := by
  cases c <;> rfl

/-- There is an answer within one domain, and none but texts are looked for parts. -/
theorem isSome_answer_iff (stored : Value) (a : Argument) :
    (c.answer stored a).isSome ↔ stored.domain = a.domain ∧ (c.textOnly → a.domain = .text) := by
  cases stored <;> cases a <;>
    simp [answer, Value.domain, Argument.domain, isSome_ofOrdering, isSome_ofDoubles,
      isSome_ofTexts]

end Comparison

namespace Rule

variable {e : Element} {parameter : ParameterId} {c : Comparison} {a : Argument}

theorem isSome_evaluate_iff (fits : c.textOnly → a.domain = .text) :
    ((compare parameter c a).evaluate e).isSome ↔ e.Stores parameter a.domain := by
  cases found : e.parameter? parameter with
  | none => simp [evaluate, Element.Stores, found]
  | some stored =>
    rw [evaluate_stored found, Comparison.isSome_answer_iff, and_iff_left fits]
    simp [Element.Stores, found]

/-- A rule that fits says yes or no of just those elements that store a value to compare. -/
theorem answers_iff_stores (fits : c.textOnly → a.domain = .text) :
    (compare parameter c a).evaluate e = some true ∨
      (compare parameter c a).evaluate e = some false ↔ e.Stores parameter a.domain := by
  rw [← isSome_evaluate_iff fits]
  rcases (compare parameter c a).evaluate e with _ | _ | _ <;> simp

/-- The inverse answers where the rule does, and the other way. -/
theorem evaluate_inverse (rule : Rule) (answer : Bool) :
    (inverse rule).evaluate e = some answer ↔ rule.evaluate e = some !answer := by
  cases answered : rule.evaluate e <;> simp [evaluate, answered, Bool.not_eq_eq_eq_not]

end Rule

namespace ParameterPredicate

variable {es : Set Element} {e : Element}

def passing (p : ParameterPredicate) (es : Set Element) : Set Element := {e ∈ es | p.passes e}

theorem mem_passing_single (parameter : ParameterId) (rule : Rule) :
    e ∈ passing ⟨parameter, [rule], false⟩ es ↔ e ∈ es ∧ rule.evaluate e = some true := by
  simp [passing, passes]

/-- In reverse, just the elements pass that did not. -/
theorem passing_reverse (parameter : ParameterId) (rules : List Rule) :
    passing ⟨parameter, rules, true⟩ es = es \ passing ⟨parameter, rules, false⟩ es := by
  ext e
  simp only [passing, passes, Set.mem_sdiff, Set.mem_ofPred_eq, Bool.bne_true, Bool.bne_false]
  cases rules.all fun rule => rule.evaluate e == some true <;> simp

/-- The predicates of a rule, of its inverse and of the rule in reverse, against the elements that
store a value to compare. -/
structure SharesOut (plain inverse reversed : ParameterPredicate) (parameter : ParameterId)
    (domain : Domain) (es : Set Element) : Prop where
  apart : plain.passing es ∩ inverse.passing es = ∅
  together : plain.passing es ∪ inverse.passing es = {e ∈ es | e.Stores parameter domain}
  rest : reversed.passing es = es \ plain.passing es
  difference : (reversed.passing es \ inverse.passing es) ∪
    (inverse.passing es \ reversed.passing es) = {e ∈ es | ¬ e.Stores parameter domain}

theorem sharesOut (parameter : ParameterId) {c : Comparison} {a : Argument}
    (fits : c.textOnly → a.domain = .text) (es : Set Element) :
    let rule := Rule.compare parameter c a
    SharesOut ⟨parameter, [rule], false⟩ ⟨parameter, [.inverse rule], false⟩
      ⟨parameter, [rule], true⟩ parameter a.domain es := by
  intro rule
  have apart : passing ⟨parameter, [rule], false⟩ es ∩
      passing ⟨parameter, [.inverse rule], false⟩ es = ∅ := by
    rw [Set.eq_empty_iff_forall_notMem]
    rintro e ⟨yes, no⟩
    rw [mem_passing_single] at yes
    rw [mem_passing_single, Rule.evaluate_inverse, yes.2] at no
    cases no.2
  have together : passing ⟨parameter, [rule], false⟩ es ∪
      passing ⟨parameter, [.inverse rule], false⟩ es =
        {e ∈ es | e.Stores parameter a.domain} := by
    ext e
    rw [Set.mem_union, mem_passing_single, mem_passing_single, Rule.evaluate_inverse, Bool.not_true,
      ← and_or_left, Rule.answers_iff_stores fits, Set.mem_ofPred_eq]
  refine ⟨apart, together, passing_reverse parameter [rule], ?_⟩
  rw [passing_reverse]
  ext e
  -- The inverse takes some of what the reverse takes, and no rule speaks of the others.
  have separate : ¬ (e ∈ passing ⟨parameter, [rule], false⟩ es ∧
      e ∈ passing ⟨parameter, [.inverse rule], false⟩ es) :=
    fun both => Set.eq_empty_iff_forall_notMem.mp apart e both
  have either : e ∈ passing ⟨parameter, [rule], false⟩ es ∨
      e ∈ passing ⟨parameter, [.inverse rule], false⟩ es ↔
        e ∈ es ∧ e.Stores parameter a.domain := by
    rw [← Set.mem_union, together, Set.mem_ofPred_eq]
  have among : e ∈ passing ⟨parameter, [.inverse rule], false⟩ es → e ∈ es := And.left
  simp only [Set.mem_union, Set.mem_sdiff, Set.mem_ofPred_eq]
  grind

end ParameterPredicate

namespace ParameterFilter

variable {parameter : ParameterId} {c : Comparison} {v : Value} {own options : RuleOptions}
  {config : Config}

def single (parameter : ParameterId) (name : ConditionName) (v : Value)
    (own options : RuleOptions) (reverse : Bool) : ParameterFilter where
  parameter := parameter
  conditions := [(name.text, v, own)]
  options := options
  reverse := reverse

theorem build_single (name : ConditionName) (reverse : Bool) :
    (single parameter name v own options reverse).build config =
      match Condition.rule parameter (options.or config.ruleDefaults) ⟨name, v, own⟩ with
      | .ok rule => .ok ⟨parameter, [rule], reverse⟩
      | .error cause => .error (.rule cause) := by
  simp only [build, single, List.mapM_cons, List.mapM_nil, Condition.parse,
    ConditionName.parse?_text]
  change ParameterPredicate.ofConditions parameter [⟨name, v, own⟩] _ reverse = _
  simp only [ParameterPredicate.ofConditions, List.isEmpty_cons, List.mapM_cons, List.mapM_nil]
  cases Condition.rule parameter (options.or config.ruleDefaults) ⟨name, v, own⟩ <;> rfl

/-- What a filter of one condition is built to, if its comparison fits the value. -/
theorem build_single_of_fits (fits : c.textOnly → v.domain = .text) (reverse : Bool) :
    let a := Condition.argument v (own.or (options.or config.ruleDefaults))
    (single parameter ⟨c, false⟩ v own options reverse).build config =
      .ok ⟨parameter, [.compare parameter c a], reverse⟩ ∧
    (single parameter ⟨c, true⟩ v own options reverse).build config =
      .ok ⟨parameter, [.inverse (.compare parameter c a)], reverse⟩ := by
  have allowed : ¬ (c.textOnly && !v.isText) := by
    rw [Bool.and_eq_true, Bool.not_eq_true', ← Bool.not_eq_true, v.isText_iff]
    exact fun ⟨textOnly, other⟩ => other (fits textOnly)
  constructor <;> rw [build_single, Condition.rule, if_neg allowed] <;> rfl

theorem fits_of_build_single {name : ConditionName} {reverse : Bool} {p : ParameterPredicate}
    (built : (single parameter name v own options reverse).build config = .ok p) :
    name.comparison.textOnly → v.domain = .text := by
  intro textOnly
  by_contra other
  have noText : v.isText = false := by
    rw [← Bool.not_eq_true, v.isText_iff]
    exact other
  rw [build_single, Condition.rule, if_pos (by simp [textOnly, noText])] at built
  cases built

/-- A condition and its negation share out the elements that store a value to compare; in reverse,
the condition takes those that store none as well. -/
theorem negation_shares_out {plain : ParameterPredicate}
    (built : (single parameter ⟨c, false⟩ v own options false).build config = .ok plain) :
    ∃ negated reversed,
      (single parameter ⟨c, true⟩ v own options false).build config = .ok negated ∧
      (single parameter ⟨c, false⟩ v own options true).build config = .ok reversed ∧
      ∀ es : Set Element, plain.SharesOut negated reversed parameter v.domain es := by
  have fits : c.textOnly → v.domain = .text := fits_of_build_single built
  rw [(build_single_of_fits fits false).1] at built
  obtain rfl := Except.ok.inj built
  refine ⟨_, _, (build_single_of_fits fits false).2, (build_single_of_fits fits true).1, ?_⟩
  intro es
  rw [← Condition.domain_argument] at fits ⊢
  exact ParameterPredicate.sharesOut parameter fits es

/-- No height compares with a NaN, and so the negated condition takes all that have one. -/
theorem less_than_nan_shares_out :
    let es : Set Element := {e | e ∈ Document.Sample.elements}
    let filter (negated : Bool) :=
      single Document.Sample.height ⟨.less, negated⟩ (.double Number.nan) {} {}
    ∃ plain negated reversed, (filter false false).build {} = .ok plain ∧
      (filter true false).build {} = .ok negated ∧ (filter false true).build {} = .ok reversed ∧
      plain.SharesOut negated reversed Document.Sample.height .number es ∧
      Document.Sample.elements.filter plain.passes = [] := by
  intro es filter
  let plain : ParameterPredicate := ⟨Document.Sample.height,
    [.compare Document.Sample.height .less (.double Number.nan ({} : Config).precision)], false⟩
  have built : (filter false false).build {} = .ok plain := rfl
  obtain ⟨negated, reversed, ofNegated, ofReversed, shares⟩ := negation_shares_out built
  exact ⟨plain, negated, reversed, built, ofNegated, ofReversed, shares es, rfl⟩

end ParameterFilter

end Sieve
