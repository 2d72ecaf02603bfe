import Sieve.Document.Sample
import Sieve.Rule.Basic

/-!
Texts compared without regard to case. A text is lower-cased as a whole, so a capital sigma of the
part that is looked for may take another form inside the stored text than it takes by itself, and
then a match is lost. A match stays where every capital sigma keeps its form.
-/

namespace Sieve

namespace Text

def endsWord (before after : List Char) : Bool := meetsCased before.reverse && !meetsCased after

def lowerBetween (before : List Char) : (part after : List Char) → List Char
  | [], _ => []
  | c :: rest, after =>
    (if c = 'Σ' then [if endsWord before (rest ++ after) then 'ς' else 'σ'] else lowerChar c) ++
      lowerBetween (before ++ [c]) rest after

/-- Every capital sigma of the part ends a word between these if it does in the part by itself, and
only then. -/
def SigmasKeep (before part after : List Char) : Prop :=
  ∀ first last, part = first ++ 'Σ' :: last →
    endsWord (before ++ first) (last ++ after) = endsWord first last

theorem lowerAfter_append (before part after : List Char) :
    lowerAfter before.reverse (part ++ after) =
      lowerBetween before part after ++ lowerAfter (before ++ part).reverse after := by
  induction part generalizing before with
  | nil => simp [lowerBetween]
  | cons c rest ih =>
    have later := ih (before ++ [c])
    rw [List.reverse_append, List.reverse_singleton, List.singleton_append, List.append_assoc,
      List.singleton_append] at later
    rw [List.cons_append, lowerAfter, later, lowerBetween, List.append_assoc, endsWord]

theorem lower_eq_lowerBetween (text : List Char) : lower text = lowerBetween [] text [] := by
  have whole := lowerAfter_append [] text []
  rw [List.append_nil, lowerAfter, List.append_nil] at whole
  exact whole

/-- A text is lower-cased part by part, each part between the others. -/
theorem lower_append (before part after : List Char) :
    lower (before ++ part ++ after) =
      lowerBetween [] before (part ++ after) ++ lowerBetween before part after ++
        lowerBetween (before ++ part) after [] := by
  have first := lowerAfter_append [] before (part ++ after)
  have second := lowerAfter_append before part after
  have third := lowerAfter_append (before ++ part) after []
  rw [List.append_nil, lowerAfter, List.append_nil] at third
  rw [List.nil_append, second, third] at first
  rw [List.append_assoc, List.append_assoc, lower]
  exact first

theorem length_lowerBetween (before part after other rest : List Char) :
    (lowerBetween before part after).length = (lowerBetween other part rest).length := by
  induction part generalizing before other with
  | nil => rfl
  | cons c tail ih =>
    rw [lowerBetween, lowerBetween, List.length_append, List.length_append,
      ih (before ++ [c]) (other ++ [c])]
    split <;> rfl

/-- A character of a text is its first one or stands in the rest. -/
theorem forall_places_cons {c wanted : Char} {tail : List Char}
    {holds : List Char → List Char → Prop} :
    (∀ first last, c :: tail = first ++ wanted :: last → holds first last) ↔
      (c = wanted → holds [] tail) ∧
        ∀ first last, tail = first ++ wanted :: last → holds (c :: first) last := by
  constructor
  · intro all
    constructor
    · rintro rfl
      exact all [] tail rfl
    · rintro first last rfl
      exact all (c :: first) last rfl
  · rintro ⟨here, inside⟩ first last parts
    cases first with
    | nil =>
      obtain ⟨same, rfl⟩ := List.cons.inj parts
      exact here same
    | cons head more =>
      obtain ⟨rfl, rest⟩ := List.cons.inj parts
      exact inside more last rest

/-- The neighbours of a part tell in the form of its capital sigmas and in nothing else. -/
theorem lowerBetween_eq_iff {before after other rest part : List Char} :
    lowerBetween before part after = lowerBetween other part rest ↔
      ∀ first last, part = first ++ 'Σ' :: last →
        endsWord (before ++ first) (last ++ after) = endsWord (other ++ first) (last ++ rest) := by
  induction part generalizing before other with
  | nil => simp [lowerBetween]
  | cons c tail ih =>
    have later := @ih (before ++ [c]) (other ++ [c])
    simp only [List.append_assoc, List.singleton_append] at later
    rw [forall_places_cons, ← later, List.append_nil, List.append_nil, lowerBetween, lowerBetween]
    by_cases sigma : c = 'Σ'
    · rw [if_pos sigma, if_pos sigma, List.singleton_append, List.singleton_append, List.cons.injEq]
      refine and_congr_left fun _ => ?_
      cases endsWord before (tail ++ after) <;> cases endsWord other (tail ++ rest) <;> simp [sigma]
    · simp [sigma]

theorem sigmasKeep_iff {before part after : List Char} :
    SigmasKeep before part after ↔ lowerBetween before part after = lower part := by
  rw [lower_eq_lowerBetween, lowerBetween_eq_iff]
  simp [SigmasKeep]

/-- A part that has no capital sigma keeps its lower case everywhere. -/
theorem SigmasKeep.of_notMem {part : List Char} (none : 'Σ' ∉ part) (before after : List Char) :
    SigmasKeep before part after := by
  rintro first last rfl
  exact absurd (List.mem_append_right first List.mem_cons_self) none

theorem meetsCased_append {near far : List Char} (apart : meetsCased far = false) :
    meetsCased (near ++ far) = meetsCased near := by
  rw [meetsCased, List.dropWhile_append, meetsCased]
  cases left : near.dropWhile caseIgnorable with
  | nil => simpa [meetsCased] using apart
  | cons c rest => rfl

/-- Where no letter joins on either side, the part is lower-cased as by itself. -/
theorem SigmasKeep.of_apart {before after : List Char}
    (start : meetsCased before.reverse = false) (stop : meetsCased after = false)
    (part : List Char) : SigmasKeep before part after := by
  intro first last _
  rw [endsWord, List.reverse_append, meetsCased_append start, meetsCased_append stop, endsWord]

end Text

namespace Comparison

/-- Where a part may stand for a comparison of texts to find it. -/
def Places (c : Comparison) (before after : List Char) : Prop :=
  match c with
  | equals => before = [] ∧ after = []
  | contains => True
  | begins => before = []
  | ends => after = []
  | _ => False

variable {c : Comparison} {stored wanted : List Char}

theorem ofTexts_iff (part : c = equals ∨ c.textOnly) :
    c.ofTexts stored wanted = some true ↔
      ∃ before after, c.Places before after ∧ stored = before ++ wanted ++ after := by
  cases c with
  | equals => simp [ofTexts, ofOrdering, Places, Text.order_eq_eq, and_assoc]
  | contains => simp [ofTexts, Places, Text.occurs_iff]
  | begins =>
    rw [ofTexts, Option.some.injEq, List.isPrefixOf_iff_prefix]
    constructor
    · rintro ⟨after, rfl⟩
      exact ⟨[], after, rfl, rfl⟩
    · rintro ⟨_, after, rfl, rfl⟩
      exact ⟨after, rfl⟩
  | ends =>
    rw [ofTexts, Option.some.injEq, List.isSuffixOf_iff_suffix]
    constructor
    · rintro ⟨before, rfl⟩
      exact ⟨before, [], rfl, (List.append_nil _).symm⟩
    · rintro ⟨before, _, rfl, rfl⟩
      exact ⟨before, (List.append_nil _).symm⟩
  | _ => simp [textOnly] at part

def FindsKept (c : Comparison) (stored wanted : List Char) : Prop :=
  ∃ before after, c.Places before after ∧ stored = before ++ wanted ++ after ∧
    Text.SigmasKeep before wanted after

theorem FindsKept.ofTexts_lower (part : c = equals ∨ c.textOnly)
    (kept : c.FindsKept stored wanted) :
    c.ofTexts (Text.lower stored) (Text.lower wanted) = some true := by
  obtain ⟨before, after, placed, rfl, kept⟩ := kept
  rw [ofTexts_iff part, Text.lower_append, Text.sigmasKeep_iff.mp kept]
  refine ⟨_, _, ?_, rfl⟩
  cases c with
  | equals =>
    obtain ⟨rfl, rfl⟩ := placed
    exact ⟨rfl, rfl⟩
  | contains => trivial
  | begins =>
    obtain rfl : before = [] := placed
    rfl
  | ends =>
    obtain rfl : after = [] := placed
    rfl
  | _ => exact placed

/-- At the start, at the end and as a whole, the part has only one place to be found. -/
theorem findsKept_of_ofTexts_lower (fixed : c ≠ contains) (part : c = equals ∨ c.textOnly)
    (found : c.ofTexts stored wanted = some true)
    (relaxed : c.ofTexts (Text.lower stored) (Text.lower wanted) = some true) :
    c.FindsKept stored wanted := by
  obtain ⟨before, after, placed, rfl⟩ := (ofTexts_iff part).mp found
  obtain ⟨first, last, lowered, same⟩ := (ofTexts_iff part).mp relaxed
  refine ⟨before, after, placed, rfl, Text.sigmasKeep_iff.mpr ?_⟩
  have lengths : (Text.lowerBetween before wanted after).length = (Text.lower wanted).length := by
    rw [Text.lower_eq_lowerBetween]
    exact Text.length_lowerBetween before wanted after [] []
  rw [Text.lower_append] at same
  cases c with
  | equals =>
    obtain ⟨rfl, rfl⟩ := placed
    exact (Text.lower_eq_lowerBetween wanted).symm
  | begins =>
    obtain rfl : before = [] := placed
    obtain rfl : first = [] := lowered
    simp only [Text.lowerBetween, List.nil_append] at same
    exact (List.append_inj same lengths).1
  | ends =>
    obtain rfl : after = [] := placed
    obtain rfl : last = [] := lowered
    simp only [Text.lowerBetween, List.append_nil] at same
    exact (List.append_inj' same lengths).2
  | contains => exact absurd rfl fixed
  | _ => exact placed.elim

end Comparison

namespace Rule

open Comparison

theorem evaluate_text {e : Element} {parameter : ParameterId} {stored : String}
    (held : e.parameter? parameter = some (.text stored)) (c : Comparison) (wanted : String)
    (caseSensitive : Bool) :
    (compare parameter c (.text wanted caseSensitive)).evaluate e =
      c.ofTexts (comparedText caseSensitive stored) (comparedText caseSensitive wanted) := by
  rw [evaluate_stored held, answer]

/-- A rule that passes with regard to case passes without it, if what it looks for is the whole text
or has no capital sigma, and else if it is found where every capital sigma keeps its form. At the
start and at the end of a text a match is lost in all other cases. -/
theorem relaxed_passes {e : Element} {parameter : ParameterId} {c : Comparison}
    {stored wanted : String} (held : e.parameter? parameter = some (.text stored))
    (part : c = .equals ∨ c.textOnly)
    (passes : (compare parameter c (.text wanted true)).evaluate e = some true) :
    let relaxed := (compare parameter c (.text wanted false)).evaluate e
    (c = .equals ∨ 'Σ' ∉ wanted.toList → relaxed = some true) ∧
    (c.FindsKept stored.toList wanted.toList → relaxed = some true) ∧
    (c ≠ .contains → relaxed = some true → c.FindsKept stored.toList wanted.toList) := by
  intro relaxed
  have lowered : relaxed = c.ofTexts (Text.lower stored.toList) (Text.lower wanted.toList) :=
    evaluate_text held c wanted false
  have found : c.ofTexts stored.toList wanted.toList = some true := by
    rw [evaluate_text held] at passes
    exact passes
  rw [lowered]
  refine ⟨fun plain => ?_, FindsKept.ofTexts_lower part, fun fixed passed => ?_⟩
  · obtain ⟨before, after, placed, split⟩ := (ofTexts_iff part).mp found
    refine FindsKept.ofTexts_lower part ⟨before, after, placed, split, ?_⟩
    rcases plain with rfl | none
    · obtain ⟨rfl, rfl⟩ := placed
      exact .of_apart rfl rfl _
    · exact .of_notMem none before after
  · exact findsKept_of_ofTexts_lower fixed part found passed

/-- By itself the part ends in a final sigma, but a letter follows it in the stored text. -/
theorem contains_loses_match :
    let e := Document.Sample.wall ⟨21⟩ ⟨1⟩ ⟨10⟩ 10 "ΑΣΒ"
    e.parameter? Document.Sample.mark = some (.text "ΑΣΒ") ∧
    (compare Document.Sample.mark .contains (.text "ΑΣ" true)).evaluate e = some true ∧
    (compare Document.Sample.mark .contains (.text "ΑΣ" false)).evaluate e = some false := by
  decide +kernel

/-- Here the word ends where the part does, and so the match stays. -/
theorem begins_keeps_match :
    let e := Document.Sample.wall ⟨21⟩ ⟨1⟩ ⟨10⟩ 10 "ΟΔΟΣ 7"
    (compare Document.Sample.mark .begins (.text "ΟΔΟΣ" true)).evaluate e = some true ∧
    (compare Document.Sample.mark .begins (.text "ΟΔΟΣ" false)).evaluate e = some true := by
  intro e
  have held : e.parameter? Document.Sample.mark = some (.text "ΟΔΟΣ 7") := by decide +kernel
  have passes : (compare Document.Sample.mark .begins (.text "ΟΔΟΣ" true)).evaluate e =
      some true := by decide +kernel
  have kept : Comparison.FindsKept .begins "ΟΔΟΣ 7".toList "ΟΔΟΣ".toList :=
    ⟨[], " 7".toList, rfl, by decide, .of_apart rfl (by decide +kernel) _⟩
  exact ⟨passes, (relaxed_passes held (.inr rfl) passes).2.1 kept⟩

end Rule

end Sieve
