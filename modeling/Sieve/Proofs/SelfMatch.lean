import Sieve.Proofs.Coherence

/-!
A filter for the very value that an element stores. The element passes, with one exception: no two
doubles are within a tolerance that is below zero or NaN, not even a double and itself.
-/

namespace Sieve

namespace Comparison

def admitEqual : List Comparison := [equals, greaterEqual, lessEqual]

variable {c : Comparison}

theorem whole_of_mem_admitEqual (admits : c ∈ admitEqual) : ¬ c.textOnly := by
  cases c <;> simp_all [admitEqual, textOnly]

theorem ofOrdering_eq (admits : c ∈ admitEqual) : c.ofOrdering .eq = some true := by
  cases c <;> simp_all [admitEqual, ofOrdering]

theorem ofTexts_self (admits : c ∈ admitEqual) (text : List Char) :
    c.ofTexts text text = some true := by
  rw [ofTexts_eq_ofOrdering (whole_of_mem_admitEqual admits), Text.order_eq_eq.mpr rfl,
    ofOrdering_eq admits]

/-- A finite double less itself is zero, and so all depends on the tolerance. -/
theorem ofDoubles_self (admits : c ∈ admitEqual) {x : Float} (finite : x.isFinite)
    (tolerance : Float) : c.ofDoubles x x tolerance = some (decide (0 ≤ tolerance)) := by
  have number : ¬ (x.isNaN || x.isNaN) := by
    rw [Bool.or_self]
    exact Number.not_isNaN_of_isFinite finite
  rw [ofDoubles, if_neg (whole_of_mem_admitEqual admits), if_neg number, Number.sub_self finite]
  cases c with
  | equals => rfl
  | greaterEqual => exact congrArg some (decide_eq_decide.mpr Number.neg_nonpos_iff)
  | lessEqual => rfl
  | _ => simp [admitEqual] at admits

theorem answer_self_iff (admits : c ∈ admitEqual) {v : Value}
    (finite : ∀ x, v = .double x → x.isFinite) {options : RuleOptions} {tolerance : Float}
    (set : options.precision = some tolerance) :
    c.answer v (Condition.argument v options) = some true ↔ ∀ x, v = .double x → 0 ≤ tolerance := by
  cases v with
  | text s => simp [Condition.argument, answer, ofTexts_self admits]
  | double x => simp [Condition.argument, answer, ofDoubles_self admits (finite x rfl), set]
  | integer n => simp [Condition.argument, answer, ofOrdering_eq admits]
  | id i => simp [Condition.argument, answer, ofOrdering_eq admits]

end Comparison

namespace ParameterFilter

variable {e : Element} {parameter : ParameterId} {v : Value} {c : Comparison}

/-- The filter for a stored value is built whatever the options are, and the element passes. Only a
double does not match itself where the tolerance in force is below zero or NaN. -/
theorem stored_value_passes_iff (held : e.parameter? parameter = some v)
    (finite : ∀ x, v = .double x → x.isFinite) (admits : c ∈ Comparison.admitEqual)
    (own options : RuleOptions) (config : Config) :
    ∃ p, (single parameter ⟨c, false⟩ v own options false).build config = .ok p ∧
      (p.passes e ↔ ∀ x, v = .double x →
        0 ≤ (own.precision.or options.precision).getD config.precision) := by
  have fits : c.textOnly → v.domain = .text :=
    fun textOnly => absurd textOnly (Comparison.whole_of_mem_admitEqual admits)
  refine ⟨_, (build_single_of_fits fits false).1, ?_⟩
  have set : (own.or (options.or config.ruleDefaults)).precision =
      some ((own.precision.or options.precision).getD config.precision) := by
    simp only [RuleOptions.or, Config.ruleDefaults]
    cases own.precision <;> cases options.precision <;> rfl
  rw [← Comparison.answer_self_iff admits finite set, ← Rule.evaluate_stored held]
  simp [ParameterPredicate.passes]

/-- A double matches itself even where nothing but the same double is near enough. -/
theorem own_height_passes :
    let e := Document.Sample.wall ⟨21⟩ ⟨1⟩ ⟨10⟩ 0.1 "A-1"
    ∃ p, (single Document.Sample.height ⟨.equals, false⟩ (.double 0.1) { precision := some 0 } {}
      false).build {} = .ok p ∧ p.passes e := by
  intro e
  have held : e.parameter? Document.Sample.height = some (.double 0.1) := by decide +kernel
  have finite : ∀ x, Value.double 0.1 = .double x → x.isFinite := by
    rintro _ ⟨⟩
    decide +kernel
  obtain ⟨p, built, passes⟩ := stored_value_passes_iff held finite
    (show Comparison.equals ∈ Comparison.admitEqual by decide) { precision := some 0 } {} {}
  refine ⟨p, built, passes.mpr ?_⟩
  rintro _ ⟨⟩
  decide +kernel

/-- A height is not its own equal with a tolerance below zero, and one without end is not its own
equal at all: the difference of two such is a NaN. -/
theorem own_height_fails :
    let fails (tall : Float) (own : RuleOptions) : Prop :=
      let e := Document.Sample.wall ⟨21⟩ ⟨1⟩ ⟨10⟩ tall "A-1"
      e.parameter? Document.Sample.height = some (.double tall) ∧
        ∃ p, (single Document.Sample.height ⟨.equals, false⟩ (.double tall) own {} false).build {} =
          .ok p ∧ p.passes e = false
    fails 10 { precision := some (-1) } ∧ fails Number.infinity {} := by
  refine ⟨⟨?_, _, rfl, ?_⟩, ⟨?_, _, rfl, ?_⟩⟩ <;> decide +kernel

end ParameterFilter

end Sieve
