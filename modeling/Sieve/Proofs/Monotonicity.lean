import Sieve.Proofs.Extension

/-!
Filters added somewhere in a set. A union adds to the answer and any other filter takes away from it,
however deep it stands: what is nested is only intersected with or united to what is around it, and
no filter changes the scope that a set hands on.
-/

namespace Sieve

namespace FilterSet

variable {d : Document} {f g more : FilterSet} {j k : FilterKind} {value : FilterValue}
  {scope : Scope}

/-- One filter more, in the set itself or in a set nested in it as a combination, at any depth. -/
inductive Extended (k : FilterKind) (value : FilterValue) : FilterSet → FilterSet → Prop where
  | here {f : FilterSet} (free : f.get? k.name = none) : Extended k value f (f.set k value)
  | inside {f g more : FilterSet} {j : FilterKind} (logical : j.tier = .logical)
      (nested : f.nested? j = some g) (deeper : Extended k value g more) :
      Extended k value f (f.set j (.filterSet more))

def Within (d : Document) (f g : FilterSet) : Prop :=
  ∀ scope e, f.selects d scope e → g.selects d scope e

theorem Extended.scopes (extended : Extended k value f more) : more.scopes = f.scopes := by
  cases extended <;> exact scopes_set _ _ _

theorem set_narrows (free : f.get? k.name = none) (noUnion : k ≠ .orCollector) :
    Within d (f.set k value) f := by
  intro scope e
  rw [selects_eq, nested?_set, nested?_set, if_neg noUnion, meets_set free, selects_eq d f]
  have fewer : (scope.holds e && (f.meets d FilterKind.all e && k.holds d value e)) →
      (scope.holds e && f.meets d FilterKind.all e) := by
    simp only [Bool.and_eq_true]
    exact fun ⟨within, met, _⟩ => ⟨within, met⟩
  simp only [Bool.or_eq_true, Bool.and_eq_true (scope.holds e && _)]
  refine Or.imp_left (And.imp fewer ?_)
  by_cases and : k = .andCollector
  · subst and
    simp [nested?_of_free free]
  · rw [if_neg and]
    exact id

theorem set_widens (free : f.get? FilterKind.orCollector.name = none) :
    Within d f (f.set .orCollector value) := by
  intro scope e selected
  rw [selects_eq, nested?_of_free free] at selected
  rw [selects_eq, nested?_set, nested?_set, meets_set_logical rfl]
  simp_all

/-- A combination grows with the set nested in it. -/
theorem set_nested_within (logical : j.tier = .logical) (scopes : g.scopes = more.scopes)
    (within : Within d g more) : Within d (f.set j (.filterSet g)) (f.set j (.filterSet more)) := by
  intro scope e
  have same : g.scopeOver d scope = more.scopeOver d scope := scopeOver_congr scopes scope
  have deeper := within (more.scopeOver d scope) e
  cases j with
  | andCollector =>
    simp only [selects_set_and, same, Bool.or_eq_true, Bool.and_eq_true]
    exact Or.imp_left (And.imp_right deeper)
  | orCollector =>
    simp only [selects_set_or, same, Bool.or_eq_true]
    exact Or.imp_right deeper
  | _ => cases logical

theorem selects_set_same (logical : j.tier = .logical) (nested : f.nested? j = some g) :
    (f.set j (.filterSet g)).selects d scope = f.selects d scope := by
  funext e
  cases j with
  | andCollector => rw [selects_set_and, selects_eq d f, nested, Option.all_some]
  | orCollector => rw [selects_set_or, selects_eq d f, nested, Option.any_some]
  | _ => cases logical

theorem Extended.narrows (extended : Extended k value f more) (noUnion : k ≠ .orCollector) :
    Within d more f := by
  induction extended with
  | here free => exact set_narrows free noUnion
  | inside logical nested deeper ih =>
    intro scope e selected
    rw [← selects_set_same logical nested]
    exact set_nested_within logical deeper.scopes ih scope e selected

theorem Extended.widens (extended : Extended .orCollector value f more) : Within d f more := by
  induction extended with
  | here free => exact set_widens free
  | inside logical nested deeper ih =>
    intro scope e selected
    rw [← selects_set_same logical nested] at selected
    exact set_nested_within logical deeper.scopes.symm ih scope e selected

end FilterSet

structure FilterKind.Moves (k : FilterKind) (before after : List ElementId) : Prop where
  narrows : k ≠ .orCollector → after ⊆ before
  widens : k = .orCollector → before ⊆ after

namespace Matches

open FilterSet

theorem answer_subset {d : Document} {f g : FilterSet} (within : Within d f g) (scope : Scope) :
    (f.answer d scope).ids ⊆ (g.answer d scope).ids := by
  intro id
  simp only [mem_answer]
  rintro ⟨e, found, selected⟩
  exact ⟨e, found, within scope e selected⟩

theorem moves_answer {d : Document} {f more : FilterSet} {k : FilterKind} {value : FilterValue}
    (extended : Extended k value f more) (scope : Scope) :
    k.Moves (f.answer d scope).ids (more.answer d scope).ids := by
  constructor
  · intro noUnion
    exact answer_subset (extended.narrows noUnion) scope
  · rintro rfl
    exact answer_subset extended.widens scope

/-- Of two queries that succeed, one for a set and one for the set with one filter more somewhere in
it, the second answers no more than the first, or no less if the filter is a union. -/
theorem extended_query_moves (d : Document) (c : Config) (k : FilterKind) (value : FilterValue)
    (f more : FilterSet) (extended : Extended k value f more) (m n : Matches) :
    (∀ scope, (inScope d c scope f).outcome = .ok m → (inScope d c scope more).outcome = .ok n →
      k.Moves m.ids n.ids) ∧
    ((ofFilters d c f).outcome = .ok m → (ofFilters d c more).outcome = .ok n →
      k.Moves m.ids n.ids) := by
  constructor
  · intro scope before after
    obtain ⟨_, _, rfl⟩ := inScope_answer_iff.mp before
    obtain ⟨_, _, rfl⟩ := inScope_answer_iff.mp after
    exact moves_answer extended scope
  · intro before after
    have same : more.scopeOver d .document = f.scopeOver d .document :=
      scopeOver_congr extended.scopes .document
    obtain ⟨_, rfl⟩ := ofFilters_answer_iff.mp before
    obtain ⟨_, rfl⟩ := ofFilters_answer_iff.mp after
    rw [same]
    exact moves_answer extended _

def lateWallsOrCurvedNotes : FilterSet :=
  lateWallsOrNotes.set .orCollector (.filterSet
    ((whereTest (ofCategory (view .empty (.number 11)) (.token .textNotes)) fun e => !e.isType).set
      .isCurveDriven (.flag true)))

theorem lateWallsOrCurvedNotes_moves :
    let before : Matches := ⟨.document, .sample 0, [⟨22⟩, ⟨23⟩, ⟨41⟩]⟩
    let after : Matches := ⟨.document, .sample 0, [⟨22⟩, ⟨23⟩]⟩
    Extended .isCurveDriven (.flag true) lateWallsOrNotes lateWallsOrCurvedNotes ∧
    (ofFilters (.sample 0) {} lateWallsOrNotes).outcome = .ok before ∧
    (ofFilters (.sample 0) {} lateWallsOrCurvedNotes).outcome = .ok after ∧
    FilterKind.isCurveDriven.Moves before.ids after.ids := by
  have extended : Extended .isCurveDriven (.flag true) lateWallsOrNotes lateWallsOrCurvedNotes :=
    .inside rfl rfl (.here rfl)
  exact ⟨extended, rfl, rfl,
    (extended_query_moves (.sample 0) {} _ _ _ _ extended _ _).2 rfl rfl⟩

end Matches

end Sieve
