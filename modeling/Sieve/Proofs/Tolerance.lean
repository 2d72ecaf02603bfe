import Sieve.Proofs.Conjunction
import Sieve.Proofs.SelfMatch

/-!
How the tolerance of a call moves what its filter takes. A wider tolerance lets more doubles count as
equal, so it can only help conditions that equal values meet and only hinder conditions that they
fail; whole numbers among themselves, texts and ids do not feel it, and a NaN has one answer under
every tolerance.
-/

namespace Sieve

namespace Comparison

variable {c : Comparison} {p q : Float}

/-- Both answers are there or neither, and a yes to the first is a yes to the second. -/
abbrev Weaker : Option Bool → Option Bool → Prop := Option.Rel (· ≤ ·)

theorem Weaker.refl (a : Option Bool) : Weaker a a := by
  cases a with
  | none => exact .none
  | some b => exact .some (Bool.le_refl b)

theorem Weaker.not {a b : Option Bool} (weaker : Weaker a b) : Weaker (b.map (!·)) (a.map (!·)) := by
  cases weaker with
  | none => exact .none
  | @some b b' implies => exact .some (by cases b <;> cases b' <;> trivial)

theorem Weaker.yes {a b : Option Bool} (weaker : Weaker a b) (yes : a = some true) :
    b = some true := by
  cases weaker with
  | none => cases yes
  | @some b b' implies =>
    obtain rfl := Option.some.inj yes
    rw [implies rfl]

theorem weaker_decide {P Q : Prop} [Decidable P] [Decidable Q] (implies : P → Q) :
    Weaker (some (decide P)) (some (decide Q)) := by
  refine .some fun holds => ?_
  rw [decide_eq_true_iff] at holds ⊢
  exact implies holds

/-- Of doubles, the comparison takes with the second tolerance all that it takes with the first. -/
def Loosens (c : Comparison) (p q : Float) : Prop :=
  ∀ x y, Weaker (c.ofDoubles x y p) (c.ofDoubles x y q)

def strict : List Comparison := [greater, less]

/-- What is left of a comparison of doubles when a NaN has been seen to answer no. -/
theorem loosens_of_numbers (whole : ¬ c.textOnly)
    (numbers : ∀ x y, ¬ (x.isNaN || y.isNaN) → Weaker (c.ofDoubles x y p) (c.ofDoubles x y q)) :
    c.Loosens p q := by
  intro x y
  by_cases nan : x.isNaN || y.isNaN
  · rw [ofDoubles, ofDoubles, if_neg whole, if_neg whole, if_pos nan, if_pos nan]
    exact .refl _
  · exact numbers x y nan

theorem loosens_of_admitEqual (admits : c ∈ admitEqual) (wider : p ≤ q) : c.Loosens p q := by
  have whole := whole_of_mem_admitEqual admits
  refine loosens_of_numbers whole fun x y numbers => ?_
  rw [ofDoubles, ofDoubles, if_neg whole, if_neg whole, if_neg numbers, if_neg numbers]
  cases c with
  | equals => exact weaker_decide fun close => Number.le_trans close wider
  | greaterEqual =>
    exact weaker_decide fun reaches => Number.le_trans (Number.neg_le_neg wider) reaches
  | lessEqual => exact weaker_decide fun reaches => Number.le_trans reaches wider
  | _ => simp [admitEqual] at admits

theorem loosens_of_strict (exceeds : c ∈ strict) (wider : p ≤ q) : c.Loosens q p := by
  have whole : ¬ c.textOnly := by cases c <;> simp_all [strict, textOnly]
  refine loosens_of_numbers whole fun x y numbers => ?_
  rw [ofDoubles, ofDoubles, if_neg whole, if_neg whole, if_neg numbers, if_neg numbers]
  cases c with
  | greater => exact weaker_decide fun above => Number.lt_of_le_of_lt wider above
  | less => exact weaker_decide fun below => Number.lt_of_le_of_lt wider below
  | _ => simp [strict] at exceeds

/-- Values of other kinds are compared without a tolerance. -/
theorem Loosens.answer (loosens : c.Loosens p q) (stored v : Value) (flag : Option Bool) :
    Weaker (c.answer stored (Condition.argument v ⟨flag, some p⟩))
      (c.answer stored (Condition.argument v ⟨flag, some q⟩)) := by
  cases v with
  | text s => exact .refl _
  | id i => exact .refl _
  | double y =>
    cases stored with
    | double x => exact loosens x y
    | integer n => exact loosens (Number.ofInt n.toInt) y
    | _ => exact .none
  | integer m =>
    cases stored with
    | double x => exact loosens x (Number.ofInt m.toInt)
    | integer n => exact .refl _
    | _ => exact .none

theorem Loosens.evaluate (loosens : c.Loosens p q) (parameter : ParameterId) (v : Value)
    (flag : Option Bool) (e : Element) :
    Weaker ((Rule.compare parameter c (Condition.argument v ⟨flag, some p⟩)).evaluate e)
      ((Rule.compare parameter c (Condition.argument v ⟨flag, some q⟩)).evaluate e) := by
  cases found : e.parameter? parameter with
  | none => rw [Rule.evaluate, Rule.evaluate, found]; exact .none
  | some stored =>
    rw [Rule.evaluate_stored found, Rule.evaluate_stored found]
    exact loosens.answer stored v flag

end Comparison

namespace Condition

variable {p q : Float} {parameter : ParameterId} {flag : Option Bool} {config : Config} {d : Draft}
  {e : Element}

def widening : List String := ["equals", "greater_equal", "less_equal", "not_greater", "not_less"]

def narrowing : List String :=
  ["greater", "less", "not_equals", "not_greater_equal", "not_less_equal"]

/-- A condition of this name holds with the second tolerance if it does with the first: its comparison
loosens from the first to the second, or tightens if the name is negated. -/
structure Loosens (name : String) (p q : Float) : Prop where
  plain : ∀ c : Comparison, name = c.keyword → c.Loosens p q
  negated : ∀ c : Comparison, name = "not_" ++ c.keyword → c.Loosens q p

theorem loosens_of_widening {name : String} (widens : name ∈ widening) (wider : p ≤ q) :
    Loosens name p q := by
  constructor
  · rintro c rfl
    have admits : c.keyword ∈ widening → c ∈ Comparison.admitEqual := by cases c <;> decide
    exact Comparison.loosens_of_admitEqual (admits widens) wider
  · rintro c rfl
    have exceeds : "not_" ++ c.keyword ∈ widening → c ∈ Comparison.strict := by cases c <;> decide
    exact Comparison.loosens_of_strict (exceeds widens) wider

theorem loosens_of_narrowing {name : String} (narrows : name ∈ narrowing) (wider : p ≤ q) :
    Loosens name q p := by
  constructor
  · rintro c rfl
    have exceeds : c.keyword ∈ narrowing → c ∈ Comparison.strict := by cases c <;> decide
    exact Comparison.loosens_of_strict (exceeds narrows) wider
  · rintro c rfl
    have admits : "not_" ++ c.keyword ∈ narrowing → c ∈ Comparison.admitEqual := by
      cases c <;> decide
    exact Comparison.loosens_of_admitEqual (admits narrows) wider

theorem valid_of_named (named : d.1 ∈ widening ∨ d.1 ∈ narrowing) : Valid d := by
  have whole : ∀ s ∈ widening ++ narrowing,
      (ConditionName.parse? s).any (!·.comparison.textOnly) := by decide
  obtain ⟨name, read, noPart⟩ := (Option.any_eq_true _ _).mp (whole d.1 (List.mem_append.mpr named))
  have same : d.1 = name.text := ConditionName.parse?_eq_some_iff.mp read
  refine ⟨known_iff.mpr ⟨name, same⟩, ?_⟩
  rintro ⟨c, called, textOnly, _⟩
  obtain ⟨negated, same'⟩ := ConditionName.mem_names_iff.mp called
  obtain rfl := ConditionName.text_inj.mp (same.symm.trans same')
  rw [textOnly] at noPart
  cases noPart

/-- The options in force, where the condition leaves the tolerance to the call. -/
theorem options_in_force {own : RuleOptions} (unset : own.precision = none) (t : Float) :
    own.or (RuleOptions.or ⟨flag, some t⟩ config.ruleDefaults) =
      ⟨own.caseSensitive.or (flag.or (some config.caseSensitive)), some t⟩ := by
  obtain ⟨ownFlag, precision⟩ := own
  obtain rfl : precision = none := unset
  rfl

theorem Holds.loosen (loosens : Loosens d.1 p q) (unset : d.2.2.precision = none)
    (holds : Holds parameter ⟨flag, some p⟩ config d e) :
    Holds parameter ⟨flag, some q⟩ config d e := by
  obtain ⟨r, makes, yes⟩ := holds
  cases makes with
  | @plain c v own a fits shapes =>
    obtain rfl := Argument.shapes_iff.mp shapes
    refine ⟨_, .plain fits (Argument.shapes_iff.mpr rfl), ?_⟩
    rw [options_in_force unset] at yes ⊢
    exact ((loosens.plain c rfl).evaluate parameter v _ e).yes yes
  | @negated c v own a fits shapes =>
    obtain rfl := Argument.shapes_iff.mp shapes
    refine ⟨_, .negated fits (Argument.shapes_iff.mpr rfl), ?_⟩
    rw [options_in_force unset] at yes ⊢
    exact ((loosens.negated c rfl).evaluate parameter v _ e).not.yes yes

end Condition

namespace ParameterFilter

open Condition

variable {f : ParameterFilter} {config : Config} {p q : Float} {e : Element}

def withPrecision (f : ParameterFilter) (t : Float) : ParameterFilter :=
  { f with options := { f.options with precision := some t } }

def Admits (f : ParameterFilter) (config : Config) (e : Element) : Prop :=
  ∃ p, f.build config = .ok p ∧ p.passes e

theorem admits_iff (plain : f.reverse = false) :
    f.Admits config e ↔
      f.conditions ≠ [] ∧ ∀ d ∈ f.conditions, Holds f.parameter f.options config d e := by
  constructor
  · rintro ⟨p, built, passes⟩
    rw [(build_ok_iff.mp built).passes_iff, iff_true_right plain] at passes
    exact ⟨(build_ok_iff.mp built).given, passes⟩
  · rintro ⟨given, holds⟩
    have valid : ∀ d ∈ f.conditions, Valid d := fun d member =>
      makes_succeeds_iff.mp ((holds d member).imp fun _ => And.left)
    obtain ⟨p, built⟩ := build_succeeds_iff.mpr ⟨given, valid⟩
    refine ⟨p, built, ?_⟩
    rw [(build_ok_iff.mp built).passes_iff, iff_true_right plain]
    exact holds

theorem Admits.loosen (plain : f.reverse = false)
    (unset : ∀ d ∈ f.conditions, d.2.2.precision = none)
    (loosens : ∀ d ∈ f.conditions, Loosens d.1 p q) (admits : (f.withPrecision p).Admits config e) :
    (f.withPrecision q).Admits config e := by
  have plain' (t : Float) : (f.withPrecision t).reverse = false := plain
  rw [admits_iff (plain' _)] at admits ⊢
  obtain ⟨given, holds⟩ := admits
  exact ⟨given, fun d member => (holds d member).loosen (loosens d member) (unset d member)⟩

/-- An element that passes with one tolerance passes with a wider one, if equal values meet every
condition, and with a narrower one, if they fail every condition. -/
theorem tolerance_moves_matches (f : ParameterFilter) (config : Config) (wider : p ≤ q)
    (plain : f.reverse = false) (unset : ∀ d ∈ f.conditions, d.2.2.precision = none) :
    ((∀ d ∈ f.conditions, d.1 ∈ widening) → ∀ e,
      (f.withPrecision p).Admits config e → (f.withPrecision q).Admits config e) ∧
    ((∀ d ∈ f.conditions, d.1 ∈ narrowing) → ∀ e,
      (f.withPrecision q).Admits config e → (f.withPrecision p).Admits config e) ∧
    (f.conditions ≠ [] → (∀ d ∈ f.conditions, d.1 ∈ widening ∨ d.1 ∈ narrowing) →
      ∀ t, ∃ built, (f.withPrecision t).build config = .ok built) := by
  refine ⟨fun widens e => ?_, fun narrows e => ?_, fun given named t => ?_⟩
  · exact Admits.loosen plain unset fun d member => loosens_of_widening (widens d member) wider
  · exact Admits.loosen plain unset fun d member => loosens_of_narrowing (narrows d member) wider
  · exact build_succeeds_iff.mpr ⟨given, fun d member => valid_of_named (named d member)⟩

/-- A wall that is a quarter of a unit above the wanted height, under tolerances that grow or shrink. -/
theorem nearHeight_moves :
    let height := Document.Sample.height
    let e := Document.Sample.wall ⟨21⟩ ⟨1⟩ ⟨10⟩ 10.25 "A-1"
    let near : ParameterFilter := { parameter := height, conditions :=
      [("equals", .integer 10, {}), ("not_greater", .double 10, {})] }
    let apart : ParameterFilter := { parameter := height, conditions :=
      [("greater", .integer 10, {}), ("not_less_equal", .double 10, {})] }
    (near.withPrecision 0.25).Admits {} e ∧ (near.withPrecision 0.5).Admits {} e ∧
      (apart.withPrecision 0.125).Admits {} e ∧ (apart.withPrecision 0).Admits {} e := by
  intro height e near apart
  have unset : ∀ d ∈ near.conditions, d.2.2.precision = none := by simp [near]
  have unset' : ∀ d ∈ apart.conditions, d.2.2.precision = none := by simp [apart]
  have widens : ∀ d ∈ near.conditions, d.1 ∈ widening := by simp [near, widening]
  have narrows : ∀ d ∈ apart.conditions, d.1 ∈ narrowing := by simp [apart, narrowing]
  have close : (near.withPrecision 0.25).Admits {} e := ⟨_, rfl, by decide +kernel⟩
  have beyond : (apart.withPrecision 0.125).Admits {} e := ⟨_, rfl, by decide +kernel⟩
  have wider : (0.25 : Float) ≤ 0.5 := by decide +kernel
  have wider' : (0 : Float) ≤ 0.125 := by decide +kernel
  exact ⟨close, (tolerance_moves_matches near {} wider rfl unset).1 widens e close, beyond,
    (tolerance_moves_matches apart {} wider' rfl unset').2.1 narrows e beyond⟩

end ParameterFilter

end Sieve
