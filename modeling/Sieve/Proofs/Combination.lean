import Sieve.Proofs.Extension

/-!
Two ways to combine queries: sets nested in one another, or finished queries put together. Nested
sets are carried out over the scope around them unless they name their own, and what "and" leaves
stands before "or" is added.
-/

namespace Sieve

namespace FilterSet

variable {d : Document} {c : Config} {f g : FilterSet} {scope outer : Scope} {e : Element}

theorem get?_eq_some_iff (ordered : f.Ordered) {key : String} {value : FilterValue} :
    f.get? key = some value ↔ (key, value) ∈ f.toList := by
  constructor
  · exact mem_of_get?
  · intro member
    have found := (Ascending.find?_eq_some_iff ordered).mpr ⟨member, rfl⟩
    simp only [Entries.get?, found, Option.map_some]

theorem Composes.self (composes : f.Composes d c scope) : f.Ready d c scope :=
  composes.ready (f, scope) (by rw [visits_eq]; exact List.mem_cons_self)

/-- The one scope that a set names holds references, and so no set whose keys would count. -/
theorem no_set_under_scope (ordered : f.Ordered) (single : f.scopes.length ≤ 1)
    (ownScope : f.Scoped d c) {key : ScopeKey} {value : FilterValue}
    (entry : (key.name, value) ∈ f.toList) (g : FilterSet) : value ≠ .filterSet g := by
  have found : f.get? key.name = some value := (get?_eq_some_iff ordered).mpr entry
  have given : (key, value) ∈ f.scopes :=
    List.mem_filterMap.mpr ⟨key, key.mem_all, by rw [found]; rfl⟩
  have first : f.scopes.head? = some (key, value) := by
    rcases all : f.scopes with _ | ⟨only, _ | ⟨second, more⟩⟩
    · simp [all] at given
    · simpa [all, eq_comm] using given
    · simp [all] at single
  have fits := ownScope.fits key value first
  rintro rfl
  cases key <;> simp [ScopeKey.shape, Shape.fits] at fits

/-- A set that names one scope at most may be nested exactly where it may be carried out. -/
theorem nests_iff (ordered : f.Ordered) (single : f.scopes.length ≤ 1) :
    f.Nests d c outer ↔ f.Composes d c (f.scopeOver d outer) := by
  constructor
  · rintro ⟨named, ready⟩
    exact ⟨.of_named named, ready⟩
  · intro composes
    have known := knownKeys_iff.mp composes.keys
    refine ⟨.around ?_ ?_, composes.ready⟩
    · intro key member
      obtain ⟨value, entry⟩ := mem_keys_iff.mp member
      by_cases isScope : (ScopeKey.ofName? key).isSome
      · exact .inr isScope
      · refine .inl (known _ entry ?_).1
        rintro scopeKey rfl
        exact isScope (by rw [ScopeKey.ofName?_name]; rfl)
    · intro key g entry
      refine (known _ entry ?_).2 g rfl
      rintro scopeKey rfl
      exact no_set_under_scope ordered single composes.self.ownScope entry g rfl

theorem scopeOver_of_scoped (ownScope : f.Scoped d c) (named : f.scopes ≠ []) (outer other : Scope) :
    f.scopeOver d outer = f.scopeOver d other := by
  obtain ⟨⟨key, value⟩, more, given⟩ := List.exists_cons_of_ne_nil named
  have first : f.scopes.head? = some (key, value) := by rw [given]; rfl
  obtain ⟨found, selected⟩ := Option.isSome_iff_exists.mp (ScopeKey.scope?_isSome_iff.mpr
    ⟨ownScope.fits key value first, ownScope.resolves key value first⟩)
  simp [scopeOver, first, selected]

theorem selects_andCollector (noAnd : f.nested? .andCollector = none)
    (noOr : f.nested? .orCollector = none) :
    (f.andCollector g).selects d scope e =
      (f.selects d scope e && g.selects d (g.scopeOver d scope) e) := by
  rw [andCollector, selects_set_and, selects_eq d f, noAnd, noOr]
  simp

theorem selects_orCollector (noOr : f.nested? .orCollector = none) :
    (f.orCollector g).selects d scope e =
      (f.selects d scope e || g.selects d (g.scopeOver d scope) e) := by
  rw [orCollector, selects_set_or, selects_eq d f, noOr]
  simp

end FilterSet

namespace Matches

open FilterSet

variable {d : Document} {c : Config} {a b f g : FilterSet} {scope outer : Scope} {m : Matches}

/-- A query of a set by itself, over its own scope or else over the given one. -/
def byItself (d : Document) (c : Config) (outer : Scope) (f : FilterSet) : Run Matches :=
  if f.scopes.isEmpty then inScope d c outer f else ofFilters d c f

/-- By itself a set fails and answers as it does when it is nested. -/
theorem byItself_answer_iff (ordered : f.Ordered) (single : f.scopes.length ≤ 1) :
    (byItself d c outer f).outcome = .ok m ↔
      f.Nests d c outer ∧ f.answer d (f.scopeOver d outer) = m := by
  rw [nests_iff ordered single, byItself]
  split
  · next unnamed =>
    have unnamed := List.isEmpty_iff.mp unnamed
    rw [inScope_answer_iff, scopeOver_of_scopes unnamed]
    simp [unnamed]
  · next named =>
    have named : f.scopes ≠ [] := by simpa using named
    rw [ofFilters_answer_iff]
    by_cases ownScope : f.Scoped d c
    · rw [scopeOver_of_scoped ownScope named .document outer]
    · have never (scope : Scope) : ¬ f.Composes d c scope := fun composes =>
        ownScope composes.self.ownScope
      simp [never]

theorem intersect_select {other : Scope} {p q : Element → Bool} :
    (⟨scope, d.select p⟩ : Matches).intersect ⟨other, d.select q⟩ =
      .ok ⟨scope, d.select fun e => p e && q e⟩ := by
  rw [intersect, Selection.intersect_select]
  rfl

theorem union_select {other : Scope} {p q : Element → Bool} :
    (⟨scope, d.select p⟩ : Matches).union ⟨other, d.select q⟩ =
      .ok ⟨scope, d.select fun e => p e || q e⟩ := by
  rw [union, Selection.union_select]
  rfl

/-- A nested "or" and the union of two finished queries, where the set itself may have an "and". -/
theorem inScope_orCollector_iff (free : f.get? FilterKind.orCollector.name = none)
    (ordered : g.Ordered) (single : g.scopes.length ≤ 1) :
    (inScope d c scope (f.orCollector g)).outcome = .ok m ↔
      ∃ x, (inScope d c scope f).outcome = .ok x ∧
        ∃ z, (byItself d c scope g).outcome = .ok z ∧ x.union z = .ok m := by
  have selected : (f.orCollector g).selects d scope = fun e =>
      f.selects d scope e || g.selects d (g.scopeOver d scope) e :=
    funext fun e => selects_orCollector (nested?_of_free free)
  simp only [inScope_answer_iff, byItself_answer_iff ordered single]
  rw [orCollector, composes_set_nested_iff free rfl, scopes_set, answer, ← orCollector, selected]
  constructor
  · rintro ⟨unnamed, ⟨composes, nests⟩, rfl⟩
    exact ⟨_, ⟨unnamed, composes, rfl⟩, _, ⟨nests, rfl⟩, union_select⟩
  · rintro ⟨_, ⟨unnamed, composes, rfl⟩, _, ⟨nests, rfl⟩, united⟩
    exact ⟨unnamed, ⟨composes, nests⟩, Except.ok.inj (union_select.symm.trans united)⟩

theorem inScope_andCollector_iff (free : f.get? FilterKind.andCollector.name = none)
    (noOr : f.get? FilterKind.orCollector.name = none)
    (ordered : g.Ordered) (single : g.scopes.length ≤ 1) :
    (inScope d c scope (f.andCollector g)).outcome = .ok m ↔
      ∃ x, (inScope d c scope f).outcome = .ok x ∧
        ∃ y, (byItself d c scope g).outcome = .ok y ∧ x.intersect y = .ok m := by
  have selected : (f.andCollector g).selects d scope = fun e =>
      f.selects d scope e && g.selects d (g.scopeOver d scope) e :=
    funext fun e => selects_andCollector (nested?_of_free free) (nested?_of_free noOr)
  simp only [inScope_answer_iff, byItself_answer_iff ordered single]
  rw [andCollector, composes_set_nested_iff free rfl, scopes_set, answer, ← andCollector, selected]
  constructor
  · rintro ⟨unnamed, ⟨composes, nests⟩, rfl⟩
    exact ⟨_, ⟨unnamed, composes, rfl⟩, _, ⟨nests, rfl⟩, intersect_select⟩
  · rintro ⟨_, ⟨unnamed, composes, rfl⟩, _, ⟨nests, rfl⟩, both⟩
    exact ⟨unnamed, ⟨composes, nests⟩, Except.ok.inj (intersect_select.symm.trans both)⟩

theorem mem_intersect {x y : Matches} (both : x.intersect y = .ok m) {id : ElementId} :
    id ∈ m.ids ↔ id ∈ x.ids ∧ id ∈ y.ids := by
  simp only [intersect, Selection.intersect, Selection.sameDocument] at both
  split at both
  · obtain rfl := Except.ok.inj both
    simp [ids]
  · cases both

theorem mem_union {x y : Matches} (either : x.union y = .ok m) {id : ElementId} :
    id ∈ m.ids ↔ id ∈ x.ids ∨ id ∈ y.ids := by
  simp only [union, Selection.union, Selection.sameDocument] at either
  split at either
  · obtain rfl := Except.ok.inj either
    simp [ids, Ascending.mem_insertAll_id, or_comm]
  · cases either

/-- Nested sets answer as finished queries put together do, and fail where these fail; of an "and"
and an "or", the "and" comes first. -/
theorem nested_answers_as_combined (d : Document) (c : Config) (scope : Scope)
    (a b g : FilterSet) (noAnd : a.get? FilterKind.andCollector.name = none)
    (noOr : a.get? FilterKind.orCollector.name = none)
    (ordered : b.Ordered) (orderedToo : g.Ordered)
    (single : b.scopes.length ≤ 1) (singleToo : g.scopes.length ≤ 1) :
    (∀ m, (inScope d c scope ((a.andCollector b).orCollector g)).outcome = .ok m ↔
      (do
        let x ← inScope d c scope a
        let y ← byItself d c scope b
        let z ← byItself d c scope g
        let both ← Run.ofExcept (x.intersect y)
        Run.ofExcept (both.union z) : Run Matches).outcome = .ok m) ∧
    (∀ m, (inScope d c scope (a.andCollector b)).outcome = .ok m ↔
      (do
        let x ← inScope d c scope a
        let y ← byItself d c scope b
        Run.ofExcept (x.intersect y) : Run Matches).outcome = .ok m) ∧
    (∀ m, (inScope d c scope (a.orCollector g)).outcome = .ok m ↔
      (do
        let x ← inScope d c scope a
        let z ← byItself d c scope g
        Run.ofExcept (x.union z) : Run Matches).outcome = .ok m) ∧
    ∀ m x y z, (inScope d c scope ((a.andCollector b).orCollector g)).outcome = .ok m →
      (inScope d c scope a).outcome = .ok x → (byItself d c scope b).outcome = .ok y →
      (byItself d c scope g).outcome = .ok z →
      ∀ id, id ∈ m.ids ↔ (id ∈ x.ids ∧ id ∈ y.ids) ∨ id ∈ z.ids := by
  have free : (a.andCollector b).get? FilterKind.orCollector.name = none := by
    rw [andCollector, get?_set]
    exact noOr
  have ands (m : Matches) : (inScope d c scope (a.andCollector b)).outcome = .ok m ↔
      ∃ x, (inScope d c scope a).outcome = .ok x ∧
        ∃ y, (byItself d c scope b).outcome = .ok y ∧ x.intersect y = .ok m :=
    inScope_andCollector_iff noAnd noOr ordered single
  refine ⟨fun m => ?_, fun m => ?_, fun m => ?_, ?_⟩
  · simp only [inScope_orCollector_iff free orderedToo singleToo, ands, Run.bind_ok_iff,
      Run.outcome_ofExcept]
    constructor
    · rintro ⟨both, ⟨x, first, y, second, met⟩, z, third, united⟩
      exact ⟨x, first, y, second, z, third, both, met, united⟩
    · rintro ⟨x, first, y, second, z, third, both, met, united⟩
      exact ⟨both, ⟨x, first, y, second, met⟩, z, third, united⟩
  · simp only [ands, Run.bind_ok_iff, Run.outcome_ofExcept]
  · simp only [inScope_orCollector_iff noOr orderedToo singleToo, Run.bind_ok_iff,
      Run.outcome_ofExcept]
  · intro m x y z answered isFirst isSecond isThird id
    obtain ⟨both, met, _, third, united⟩ :=
      (inScope_orCollector_iff free orderedToo singleToo).mp answered
    obtain ⟨_, first, _, second, met⟩ := (ands both).mp met
    obtain rfl := Except.ok.inj (first.symm.trans isFirst)
    obtain rfl := Except.ok.inj (second.symm.trans isSecond)
    obtain rfl := Except.ok.inj (third.symm.trans isThird)
    rw [mem_union united, mem_intersect met]

def wallsAndNote : FilterSet := elementIds .empty [⟨21⟩, ⟨22⟩, ⟨40⟩]

def upperNotes : FilterSet := ofCategory (view .empty (.number 11)) (.token .textNotes)

theorem wallsAndNote_orNotes_combined :
    let walls := ofClass .empty (.token .wall)
    let m : Matches := ⟨.document, .sample 0, [⟨21⟩, ⟨22⟩, ⟨41⟩]⟩
    walls.get? FilterKind.andCollector.name = none ∧
    walls.get? FilterKind.orCollector.name = none ∧
    wallsAndNote.Ordered ∧ upperNotes.Ordered ∧
    wallsAndNote.scopes.length ≤ 1 ∧ upperNotes.scopes.length ≤ 1 ∧
    (inScope (.sample 0) {} .document
      ((walls.andCollector wallsAndNote).orCollector upperNotes)).outcome = .ok m ∧
    (inScope (.sample 0) {} .document
      (walls.andCollector (wallsAndNote.orCollector upperNotes))).outcome =
      .ok ⟨.document, .sample 0, [⟨21⟩, ⟨22⟩]⟩ := by
  have ordered : wallsAndNote.Ordered := Entries.insert_ordered Entries.empty_ordered _ _
  have orderedToo : upperNotes.Ordered :=
    Entries.insert_ordered (Entries.insert_ordered Entries.empty_ordered _ _) _ _
  refine ⟨rfl, rfl, ordered, orderedToo, Nat.le_refl 1, Nat.le_refl 1, ?_, rfl⟩
  exact ((nested_answers_as_combined (.sample 0) {} .document _ _ _ rfl rfl ordered orderedToo
    (Nat.le_refl 1) (Nat.le_refl 1)).1 _).mpr rfl

end Matches

end Sieve
