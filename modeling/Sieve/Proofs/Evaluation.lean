import Mathlib.Algebra.Group.Nat.Even
import Sieve.Proofs.Building
import Sieve.Proofs.WholeNumbers

/-!
The three answers of a rule. None is given if the parameter is missing, if the stored value and the
argument are of different domains, or if a part is looked for in what is no text; in all other cases
the answer is whether the comparison holds, turned round once for each inversion. Rules that were
built look for parts in texts only.
-/

namespace Sieve

namespace Text

def Precedes : List Char → List Char → Prop := List.Lex fun a b => a.toNat < b.toNat

theorem order_eq_lt {s t : List Char} : order s t = .lt ↔ Precedes s t := by
  induction s generalizing t with
  | nil => cases t <;> simp [order, Precedes]
  | cons a s ih =>
    cases t with
    | nil => simp [order, Precedes]
    | cons b t =>
      rw [Precedes, List.cons_lex_cons_iff, ← Precedes, ← ih, order]
      rcases Nat.lt_trichotomy a.toNat b.toNat with below | same | above
      · simp [below]
      · simp [Char.toNat_inj.mp same]
      · have apart : a ≠ b := fun same => by simp [same] at above
        simp [above, Nat.lt_asymm above, apart]

theorem order_eq_gt {s t : List Char} : order s t = .gt ↔ Precedes t s := by
  rw [← order_eq_lt, ← order_swap t s]
  cases order t s <;> simp

end Text

namespace Comparison

def MeetsTexts : Comparison → (stored wanted : List Char) → Prop
  | equals, s, w => s = w
  | contains, s, w => w <:+: s
  | begins, s, w => w <+: s
  | ends, s, w => w <:+ s
  | greater, s, w => Text.Precedes w s
  | greaterEqual, s, w => ¬ Text.Precedes s w
  | less, s, w => Text.Precedes s w
  | lessEqual, s, w => ¬ Text.Precedes w s

/-- What a comparison says of two doubles by their difference; those that look for parts say nothing
of it. -/
def MeetsDifference : Comparison → (difference tolerance : Float) → Prop
  | equals, d, t => d.abs ≤ t
  | greater, d, t => t < d
  | greaterEqual, d, t => -t ≤ d
  | less, d, t => t < -d
  | lessEqual, d, t => d ≤ t
  | contains, _, _ | begins, _, _ | ends, _, _ => False

/-- The comparison holds between a stored value and an argument of its domain. Texts are compared as
the case flag says, whole numbers and ids exactly, and doubles, a NaN aside, by their difference. -/
inductive Holds (c : Comparison) : Value → Argument → Prop where
  | texts {s w : String} {caseSensitive : Bool}
      (meets : c.MeetsTexts (comparedText caseSensitive s) (comparedText caseSensitive w)) :
      Holds c (.text s) (.text w caseSensitive)
  | doubles {stored : Value} {a : Argument} {x y tolerance : Float}
      (asDoubles : AsDoubles stored a x y tolerance) (number : ¬ x.isNaN) (number' : ¬ y.isNaN)
      (meets : c.MeetsDifference (x - y) tolerance) : Holds c stored a
  | integers {n m : Int64} {tolerance : Float} (orders : c.Orders n.toInt m.toInt) :
      Holds c (.integer n) (.integer m tolerance)
  | ids {i j : ElementId} (orders : c.Orders i.number.toInt j.number.toInt) : Holds c (.id i) (.id j)

variable {c : Comparison} {stored : Value} {a : Argument}

theorem ofTexts_iff_meets {s w : List Char} : c.ofTexts s w = some true ↔ c.MeetsTexts s w := by
  cases c with
  | equals => simp [ofTexts, ofOrdering, MeetsTexts, Text.order_eq_eq]
  | contains =>
    rw [ofTexts, Option.some.injEq, Text.occurs_iff, MeetsTexts]
    exact exists₂_congr fun _ _ => eq_comm
  | begins => simp [ofTexts, MeetsTexts]
  | ends => simp [ofTexts, MeetsTexts]
  | greater => simp [ofTexts, ofOrdering, MeetsTexts, Text.order_eq_gt]
  | greaterEqual => simp [ofTexts, ofOrdering, MeetsTexts, ← Text.order_eq_lt]
  | less => simp [ofTexts, ofOrdering, MeetsTexts, Text.order_eq_lt]
  | lessEqual => simp [ofTexts, ofOrdering, MeetsTexts, ← Text.order_eq_gt]

/-- The comparisons that look for parts are told apart before any NaN is seen. -/
theorem ofDoubles_iff_meets {x y tolerance : Float} :
    c.ofDoubles x y tolerance = some true ↔
      ¬ x.isNaN ∧ ¬ y.isNaN ∧ c.MeetsDifference (x - y) tolerance := by
  rw [ofDoubles]
  by_cases textOnly : c.textOnly
  · rw [if_pos textOnly]
    cases c <;> simp_all [Comparison.textOnly, MeetsDifference]
  · rw [if_neg textOnly]
    by_cases nan : x.isNaN || y.isNaN
    · rw [if_pos nan]
      rw [Bool.or_eq_true] at nan
      refine iff_of_false (by simp) ?_
      rintro ⟨number, number', _⟩
      exact nan.elim number number'
    · rw [if_neg nan]
      rw [Bool.or_eq_true, not_or] at nan
      rw [← and_assoc, and_iff_right nan]
      cases c <;> simp_all [Comparison.textOnly, MeetsDifference]

theorem ofOrdering_iff_orders {m n : ℤ} :
    c.ofOrdering (compare m n) = some true ↔ c.Orders m n := by
  by_cases textOnly : c.textOnly
  · cases c <;> simp_all [Comparison.textOnly, ofOrdering, Orders]
  · rw [ofOrdering_compare textOnly, Option.some.injEq, decide_eq_true_iff]

theorem answer_iff_holds : c.answer stored a = some true ↔ c.Holds stored a := by
  constructor
  · intro yes
    cases stored <;> cases a <;> rw [answer] at yes
    case text.text => exact .texts (ofTexts_iff_meets.mp yes)
    case double.double =>
      obtain ⟨number, number', meets⟩ := ofDoubles_iff_meets.mp yes
      exact .doubles .doubles number number' meets
    case double.integer =>
      obtain ⟨number, number', meets⟩ := ofDoubles_iff_meets.mp yes
      exact .doubles .wholeWanted number number' meets
    case integer.double =>
      obtain ⟨number, number', meets⟩ := ofDoubles_iff_meets.mp yes
      exact .doubles .wholeStored number number' meets
    case integer.integer =>
      rw [compare_toInt] at yes
      exact .integers (ofOrdering_iff_orders.mp yes)
    case id.id =>
      rw [compare_toInt] at yes
      exact .ids (ofOrdering_iff_orders.mp yes)
    all_goals cases yes
  · intro holds
    cases holds with
    | texts meets => exact ofTexts_iff_meets.mpr meets
    | doubles asDoubles number number' meets =>
      cases asDoubles <;> exact ofDoubles_iff_meets.mpr ⟨number, number', meets⟩
    | integers orders =>
      rw [answer, compare_toInt]
      exact ofOrdering_iff_orders.mpr orders
    | ids orders =>
      rw [answer, compare_toInt]
      exact ofOrdering_iff_orders.mpr orders

/-- No comparison holds of a NaN. -/
theorem not_holds_of_nan {x y tolerance : Float} (asDoubles : AsDoubles stored a x y tolerance)
    (nan : x.isNaN ∨ y.isNaN) : ¬ c.Holds stored a := by
  intro holds
  cases holds with
  | doubles asDoubles' number number' =>
    cases asDoubles <;> cases asDoubles' <;> exact nan.elim number number'
  | texts | integers | ids => cases asDoubles

end Comparison

namespace Rule

variable {e : Element} {parameter : ParameterId} {c : Comparison} {a : Argument} {rule : Rule}

/-- Why a comparison gives no answer on an element. -/
inductive Undetermined (e : Element) (parameter : ParameterId) (c : Comparison) (a : Argument) :
    Prop where
  | missing (lacks : e.parameter? parameter = none) : Undetermined e parameter c a
  | incomparable {stored : Value} (held : e.parameter? parameter = some stored)
      (apart : stored.domain ≠ a.domain) : Undetermined e parameter c a
  | misapplied (textOnly : c.textOnly) (noText : a.domain ≠ .text) : Undetermined e parameter c a

theorem not_undetermined_iff :
    ¬ Undetermined e parameter c a ↔ ∃ stored, e.parameter? parameter = some stored ∧
      stored.domain = a.domain ∧ (c.textOnly → a.domain = .text) := by
  constructor
  · intro determined
    cases found : e.parameter? parameter with
    | none => exact absurd (.missing found) determined
    | some stored =>
      refine ⟨stored, rfl, ?_, fun textOnly => ?_⟩
      · by_contra apart
        exact determined (.incomparable found apart)
      · by_contra noText
        exact determined (.misapplied textOnly noText)
  · rintro ⟨stored, held, comparable, fits⟩ (lacks | ⟨held', apart⟩ | ⟨textOnly, noText⟩)
    · simp [lacks] at held
    · obtain rfl := Option.some.inj (held.symm.trans held')
      exact apart comparable
    · exact noText (fits textOnly)

/-- An even number of inversions leaves the answers as they are, an odd number turns them round, and
where there is no answer none comes of it. -/
theorem evaluate_inverted (rule : Rule) (n : Nat) (e : Element) :
    (rule.inverted n).evaluate e = (rule.evaluate e).map fun b => if Even n then b else !b := by
  induction n with
  | zero => simp [inverted]
  | succ n ih =>
    rw [inverted, evaluate, ih, Option.map_map]
    by_cases even : Even n <;> simp [even, Nat.even_add_one, Function.comp_def]

theorem exists_inverted (rule : Rule) :
    ∃ parameter c a n, rule = (compare parameter c a).inverted n := by
  induction rule with
  | compare parameter c a => exact ⟨parameter, c, a, 0, rfl⟩
  | inverse rule ih =>
    obtain ⟨parameter, c, a, n, rfl⟩ := ih
    exact ⟨parameter, c, a, n + 1, rfl⟩

theorem isSome_evaluate_iff_determined :
    ((compare parameter c a).evaluate e).isSome ↔ ¬ Undetermined e parameter c a := by
  rw [not_undetermined_iff]
  cases found : e.parameter? parameter with
  | none => simp [evaluate, found]
  | some stored => simp [evaluate_stored found, Comparison.isSome_answer_iff]

theorem evaluate_inverted_eq_none_iff (n : Nat) :
    ((compare parameter c a).inverted n).evaluate e = none ↔ Undetermined e parameter c a := by
  rw [evaluate_inverted, Option.map_eq_none_iff, ← Option.not_isSome_iff_eq_none,
    isSome_evaluate_iff_determined, not_not]

theorem evaluate_of_determined (determined : ¬ Undetermined e parameter c a) :
    ∃ stored b, e.parameter? parameter = some stored ∧ (b = true ↔ c.Holds stored a) ∧
      ∀ n, ((compare parameter c a).inverted n).evaluate e = some (if Even n then b else !b) := by
  obtain ⟨b, answered⟩ := Option.isSome_iff_exists.mp (isSome_evaluate_iff_determined.mpr determined)
  obtain ⟨stored, held, -⟩ := not_undetermined_iff.mp determined
  refine ⟨stored, b, held, ?_, fun n => by rw [evaluate_inverted, answered, Option.map_some]⟩
  rw [evaluate_stored held] at answered
  rw [← Comparison.answer_iff_holds, answered, Option.some.injEq]

theorem fits_of_condition {d : Condition} {options : RuleOptions}
    (made : d.rule parameter options = .ok rule) :
    ∃ c a n, rule = (compare parameter c a).inverted n ∧ (c.textOnly → a.domain = .text) := by
  rw [Condition.rule] at made
  split at made
  · cases made
  · next used =>
    have fits : d.name.comparison.textOnly → d.value.isText := by simpa using used
    rw [Value.isText_iff, ← Condition.domain_argument d.value (d.options.or options)] at fits
    obtain rfl := Except.ok.inj made
    cases d.name.negated with
    | false => exact ⟨_, _, 0, rfl, fits⟩
    | true => exact ⟨_, _, 1, rfl, fits⟩

/-- The builder lets no rule through that looks for parts of what is no text. -/
theorem fits_of_ofConditions {conditions : List Condition} {options : RuleOptions} {reverse : Bool}
    {p : ParameterPredicate}
    (built : ParameterPredicate.ofConditions parameter conditions options reverse = .ok p)
    (member : rule ∈ p.rules) :
    ∃ c a n, rule = (compare parameter c a).inverted n ∧ (c.textOnly → a.domain = .text) := by
  obtain ⟨d, _, made⟩ := Scan.exists_of_mem_mapM (ParameterFilter.rules_of_ofConditions built) member
  exact fits_of_condition made

theorem undetermined_iff_of_fits (fits : c.textOnly → a.domain = .text) :
    Undetermined e parameter c a ↔ ¬ e.Stores parameter a.domain := by
  rw [← not_iff_not, not_not, not_undetermined_iff, Element.Stores]
  simp only [and_iff_left fits]

/-- Every rule is a comparison inside some inversions. It has no answer in three cases, whatever the
number of inversions; in all others it answers whether the comparison holds, or the opposite if the
number is odd, and a NaN among two doubles makes the comparison fail. Of the three cases only the
first two are left for rules that were built: the element stores nothing of the argument's domain. -/
theorem evaluate_three_valued (e : Element) :
    (∀ rule : Rule, ∃ parameter c a n, rule = (compare parameter c a).inverted n) ∧
    (∀ parameter c a n,
      ((compare parameter c a).inverted n).evaluate e = none ↔ Undetermined e parameter c a) ∧
    (∀ parameter c a, ¬ Undetermined e parameter c a →
      ∃ stored b, e.parameter? parameter = some stored ∧ (b = true ↔ c.Holds stored a) ∧
        (∀ n, ((compare parameter c a).inverted n).evaluate e = some (if Even n then b else !b)) ∧
        ∀ x y tolerance, AsDoubles stored a x y tolerance → x.isNaN ∨ y.isNaN → b = false) ∧
    ∀ parameter conditions options reverse p,
      ParameterPredicate.ofConditions parameter conditions options reverse = .ok p →
      ∀ rule ∈ p.rules, ∃ c a n, rule = (compare parameter c a).inverted n ∧
        (c.textOnly → a.domain = .text) ∧
        (rule.evaluate e = none ↔ ¬ e.Stores parameter a.domain) := by
  refine ⟨exists_inverted, fun _ _ _ => evaluate_inverted_eq_none_iff, ?_, ?_⟩
  · intro parameter c a determined
    obtain ⟨stored, b, held, holds, answered⟩ := evaluate_of_determined determined
    refine ⟨stored, b, held, holds, answered, fun x y tolerance asDoubles nan => ?_⟩
    rw [← Bool.not_eq_true, holds]
    exact Comparison.not_holds_of_nan asDoubles nan
  · intro parameter conditions options reverse p built rule member
    obtain ⟨c, a, n, rfl, fits⟩ := fits_of_ofConditions built member
    exact ⟨c, a, n, rfl, fits,
      (evaluate_inverted_eq_none_iff n).trans (undetermined_iff_of_fits fits)⟩

/-- A wall of twelve units is not, not, not higher than ten, and whether its height begins with a
letter has no answer. -/
theorem height_three_valued :
    let height := Document.Sample.height
    let e := Document.Sample.wall ⟨21⟩ ⟨1⟩ ⟨10⟩ 12 "A-1"
    let taller := compare height .greater (.integer 10 0.5)
    let noLetter := (compare height .begins (.text "W" true)).inverted 1
    let p : ParameterPredicate := ⟨height, [noLetter], false⟩
    ¬ Undetermined e height .greater (.integer 10 0.5) ∧
      (taller.inverted 3).evaluate e = some false ∧
      ParameterPredicate.ofConditions height [⟨⟨.begins, true⟩, .text "W", {}⟩] {} false = .ok p ∧
      noLetter.evaluate e = none ∧
      ∃ c a n, noLetter = (compare height c a).inverted n ∧ (c.textOnly → a.domain = .text) ∧
        (noLetter.evaluate e = none ↔ ¬ e.Stores height a.domain) := by
  intro height e taller noLetter p
  have held : e.parameter? height = some (.double 12) := by decide +kernel
  obtain ⟨_, noAnswer, answers, ofBuilt⟩ := evaluate_three_valued e
  have determined : ¬ Undetermined e height .greater (.integer 10 0.5) :=
    not_undetermined_iff.mpr ⟨_, held, rfl, nofun⟩
  obtain ⟨_, b, _, _, answered, _⟩ := answers height .greater (.integer 10 0.5) determined
  have higher : b = true := by
    have plain : taller.evaluate e = some b := answered 0
    exact Option.some.inj (plain.symm.trans (by decide +kernel))
  have built : ParameterPredicate.ofConditions height [⟨⟨.begins, true⟩, .text "W", {}⟩] {} false =
      .ok p := rfl
  exact ⟨determined, (answered 3).trans (by rw [higher]; decide), built,
    (noAnswer height .begins (.text "W" true) 1).mpr (.incomparable held nofun),
    ofBuilt height _ {} false p built noLetter List.mem_cons_self⟩

end Rule

end Sieve
