import Sieve.Proofs.Combination
import Sieve.Proofs.Coverage

/-!
Several sets that share no key. Whether their filters are put into one set, or each set is nested in
the one before it, or each is queried by itself and the answers are intersected, the elements are the
same.
-/

namespace Sieve

/-- With distinct keys no entry takes the place of another. -/
theorem Ascending.insertAll_perm {α κ : Type} [LT κ] [DecidableLT κ]
    [Std.Trichotomous (α := κ) (· < ·)] {key : α → κ} {xs sorted : List α}
    (distinct : ((sorted ++ xs).map key).Nodup) :
    (insertAll key xs sorted).Perm (sorted ++ xs) := by
  induction xs generalizing sorted with
  | nil => simp [insertAll]
  | cons x rest ih =>
    have free : ∀ y ∈ sorted, key y ≠ key x := by
      intro y member same
      rw [List.map_append, List.nodup_append] at distinct
      exact distinct.2.2 _ (List.mem_map_of_mem member) _ (by simp) same
    have placed : (insert key x sorted ++ rest).Perm (sorted ++ x :: rest) :=
      ((insert_perm free).append_right rest).trans List.perm_middle.symm
    exact (ih ((placed.map key).nodup_iff.mpr distinct)).trans placed

namespace FilterSet

variable {d : Document} {c : Config} {f g : FilterSet} {sets : List FilterSet} {scope : Scope}
  {e : Element}

def merge (sets : List FilterSet) : FilterSet := Entries.ofList (sets.flatMap Entries.toList)

/-- Each set with the rest of the list nested under its "and". -/
def chain : List FilterSet → FilterSet
  | [] => .empty
  | [last] => last
  | f :: next :: rest => f.andCollector (chain (next :: rest))

/-- Every key is that of a filter which is no combination. -/
def Plain (f : FilterSet) : Prop :=
  ∀ key ∈ f.keys, ∃ k : FilterKind, k.tier ≠ .logical ∧ k.name = key

def Apart (sets : List FilterSet) : Prop := sets.Pairwise fun f g => f.keys.Disjoint g.keys

theorem mem_keys_of_get? {key : String} {value : FilterValue} (found : f.get? key = some value) :
    key ∈ f.keys := mem_keys_iff.mpr ⟨value, mem_of_get? found⟩

theorem Plain.scopes (plain : f.Plain) : f.scopes = [] := by
  refine List.filterMap_eq_nil_iff.mpr fun key _ => ?_
  cases found : f.get? key.name with
  | none => rfl
  | some value =>
    obtain ⟨k, _, same⟩ := plain _ (mem_keys_of_get? found)
    exact absurd same (k.name_ne_scope key)

theorem Plain.free (plain : f.Plain) {k : FilterKind} (logical : k.tier = .logical) :
    f.get? k.name = none := by
  cases found : f.get? k.name with
  | none => rfl
  | some value =>
    obtain ⟨j, leaf, same⟩ := plain _ (mem_keys_of_get? found)
    rw [FilterKind.name_inj] at same
    exact absurd (same ▸ logical) leaf

theorem Plain.selects (plain : f.Plain) :
    f.selects d scope e = (scope.holds e && f.meets d FilterKind.all e) := by
  rw [selects_eq, nested?_of_free (plain.free rfl), nested?_of_free (plain.free rfl)]
  simp

theorem plain_single {k : FilterKind} {value : FilterValue} (leaf : k.tier ≠ .logical) :
    (set .empty k value).Plain := fun _ member => ⟨k, leaf, (List.mem_singleton.mp member).symm⟩

theorem mem_merge (ordered : ∀ f ∈ sets, f.Ordered) (apart : Apart sets)
    {entry : String × FilterValue} : entry ∈ (merge sets).toList ↔ ∃ f ∈ sets, entry ∈ f.toList := by
  have distinct : (([] ++ sets.flatMap Entries.toList).map Prod.fst).Nodup := by
    rw [List.nil_append, List.map_flatMap]
    exact List.nodup_flatMap.mpr ⟨fun f member => keys_nodup (ordered f member), apart⟩
  have perm : (merge sets).toList.Perm (sets.flatMap Entries.toList) :=
    Ascending.insertAll_perm distinct
  rw [perm.mem_iff, List.mem_flatMap]

theorem get?_merge (ordered : ∀ f ∈ sets, f.Ordered) (apart : Apart sets) {key : String}
    {value : FilterValue} :
    (merge sets).get? key = some value ↔ ∃ f ∈ sets, f.get? key = some value := by
  have merged : (merge sets).Ordered := Entries.ofList_ordered _
  rw [get?_eq_some_iff merged, mem_merge ordered apart]
  refine exists_congr fun f => and_congr_right fun member => ?_
  rw [get?_eq_some_iff (ordered f member)]

theorem merge_plain (ordered : ∀ f ∈ sets, f.Ordered) (apart : Apart sets)
    (plain : ∀ f ∈ sets, f.Plain) : (merge sets).Plain := by
  intro key member
  obtain ⟨value, entry⟩ := mem_keys_iff.mp member
  obtain ⟨f, held, entry⟩ := (mem_merge ordered apart).mp entry
  exact plain f held key (mem_keys_iff.mpr ⟨value, entry⟩)

theorem merge_composes (nonempty : sets ≠ []) (ordered : ∀ f ∈ sets, f.Ordered)
    (apart : Apart sets) (plain : ∀ f ∈ sets, f.Plain)
    (each : ∀ f ∈ sets, f.Composes d c scope) : (merge sets).Composes d c scope := by
  have merged := merge_plain ordered apart plain
  refine ⟨knownKeys_iff.mpr fun entry member noScope => ?_, forall_visits_iff.mpr ⟨?_, ?_⟩⟩
  · obtain ⟨f, held, member⟩ := (mem_merge ordered apart).mp member
    exact knownKeys_iff.mp (each f held).keys entry member noScope
  · obtain ⟨f, held⟩ := List.exists_mem_of_ne_nil sets nonempty
    refine ⟨?_, proper_iff.mpr fun k value found => ?_, (each f held).self.opens⟩
    · exact ⟨by simp [merged.scopes], by simp [merged.scopes], by simp [merged.scopes]⟩
    · obtain ⟨g, heldToo, found⟩ := (get?_merge ordered apart).mp found
      exact proper_iff.mp (each g heldToo).self.proper k value found
  · intro k g logical nested
    rw [nested?_of_free (merged.free logical)] at nested
    cases nested

theorem selects_merge (nonempty : sets ≠ []) (ordered : ∀ f ∈ sets, f.Ordered)
    (apart : Apart sets) (plain : ∀ f ∈ sets, f.Plain) :
    (merge sets).selects d scope e = sets.all fun f => f.selects d scope e := by
  obtain ⟨first, held⟩ := List.exists_mem_of_ne_nil sets nonempty
  rw [Bool.eq_iff_iff, (merge_plain ordered apart plain).selects, List.all_eq_true,
    Bool.and_eq_true, meets_all_iff]
  simp only [get?_merge ordered apart]
  constructor
  · rintro ⟨inside, met⟩ f member
    rw [(plain f member).selects, Bool.and_eq_true, meets_all_iff]
    exact ⟨inside, fun k value found => met k value ⟨f, member, found⟩⟩
  · intro all
    constructor
    · have here := all first held
      rw [(plain first held).selects, Bool.and_eq_true] at here
      exact here.1
    · rintro k value ⟨f, member, found⟩
      have here := all f member
      rw [(plain f member).selects, Bool.and_eq_true, meets_all_iff] at here
      exact here.2 k value found

theorem chain_ordered (ordered : ∀ f ∈ sets, f.Ordered) : (chain sets).Ordered := by
  match sets with
  | [] => exact Entries.empty_ordered
  | [last] => exact ordered last List.mem_cons_self
  | f :: next :: rest => exact Entries.insert_ordered (ordered f List.mem_cons_self) _ _

theorem chain_scopes (plain : ∀ f ∈ sets, f.Plain) : (chain sets).scopes = [] := by
  match sets with
  | [] => rfl
  | [last] => exact (plain last List.mem_cons_self).scopes
  | f :: next :: rest => exact (scopes_set _ _ _).trans (plain f List.mem_cons_self).scopes

end FilterSet

namespace Matches

open FilterSet

variable {d : Document} {c : Config} {f g : FilterSet} {sets : List FilterSet} {scope : Scope}

def common (d : Document) (sets : List FilterSet) (scope : Scope) : Matches :=
  ⟨scope, d.select fun e => sets.all fun f => f.selects d scope e⟩

theorem chain_answers (nonempty : sets ≠ []) (ordered : ∀ f ∈ sets, f.Ordered)
    (plain : ∀ f ∈ sets, f.Plain) (each : ∀ f ∈ sets, f.Composes d c scope) :
    (inScope d c scope (chain sets)).outcome = .ok (common d sets scope) := by
  induction sets with
  | nil => exact absurd rfl nonempty
  | cons f rest ih =>
    have here := plain f List.mem_cons_self
    have alone : (inScope d c scope f).outcome = .ok (f.answer d scope) :=
      inScope_answer_iff.mpr ⟨here.scopes, each f List.mem_cons_self, rfl⟩
    cases rest with
    | nil => simpa [chain, common, answer] using alone
    | cons next more =>
      have orderedToo : ∀ f ∈ next :: more, f.Ordered := fun f member =>
        ordered f (List.mem_cons_of_mem _ member)
      have plainToo : ∀ f ∈ next :: more, f.Plain := fun f member =>
        plain f (List.mem_cons_of_mem _ member)
      have inner := ih (List.cons_ne_nil _ _) orderedToo plainToo fun f member =>
        each f (List.mem_cons_of_mem _ member)
      have unnamed := chain_scopes plainToo
      have nested : (byItself d c scope (chain (next :: more))).outcome =
          .ok (common d (next :: more) scope) := by
        rw [byItself, unnamed]
        exact inner
      exact (inScope_andCollector_iff (here.free rfl) (here.free rfl) (chain_ordered orderedToo)
        (by simp [unnamed])).mpr ⟨_, alone, _, nested, intersect_select⟩

/-- An element is common if each set by itself answers it. -/
theorem ids_common (d : Document) (sets : List FilterSet) (scope : Scope) :
    (common d sets scope).ids = d.ids.filter fun id =>
      (sets.map fun f => f.answer d scope).all fun x => x.ids.contains id := by
  have answered (e : Element) (held : e ∈ d.elements) :
      (sets.all fun f => f.selects d scope e) =
        (sets.map fun f => f.answer d scope).all fun x => x.ids.contains e.id := by
    rw [List.all_map, Bool.eq_iff_iff, List.all_eq_true, List.all_eq_true]
    refine forall₂_congr fun f _ => ?_
    change _ ↔ (f.answer d scope).ids.contains e.id
    rw [List.contains_iff_mem, mem_answer, Document.element?_of_mem held]
    simp
  change (d.elements.filter _).map Element.id = (d.elements.map Element.id).filter _
  rw [List.filter_map, List.filter_congr answered]
  rfl

/-- Sets without a common key agree merged, nested in one another in any order, and intersected. -/
theorem merged_nested_agree (d : Document) (c : Config) (scope : Scope) (sets : List FilterSet)
    (answers : List Matches) (nonempty : sets ≠ []) (ordered : ∀ f ∈ sets, f.Ordered)
    (plain : ∀ f ∈ sets, f.Plain) (apart : Apart sets)
    (each : List.Forall₂ (fun f x => (inScope d c scope f).outcome = .ok x) sets answers) :
    ∃ m, (inScope d c scope (merge sets)).outcome = .ok m ∧
      (∀ moved, moved.Perm sets → (inScope d c scope (chain moved)).outcome = .ok m) ∧
      m.ids = d.ids.filter fun id => answers.all fun x => x.ids.contains id := by
  have told : List.Forall₂ (fun f x => f.Composes d c scope ∧ f.answer d scope = x) sets answers :=
    each.imp fun f x answered => (inScope_answer_iff.mp answered).2
  obtain ⟨composes, made⟩ := (List.forall₂_and_left _ _).mp told
  have results : sets.map (fun f => f.answer d scope) = answers :=
    List.forall₂_eq_eq_eq ▸ List.forall₂_map_left_iff.mpr made
  refine ⟨common d sets scope, ?_, fun moved perm => ?_, results ▸ ids_common d sets scope⟩
  · have selected : (merge sets).selects d scope = fun e => sets.all fun f => f.selects d scope e :=
      funext fun e => selects_merge nonempty ordered apart plain
    refine inScope_answer_iff.mpr ⟨(merge_plain ordered apart plain).scopes,
      merge_composes nonempty ordered apart plain composes, ?_⟩
    rw [answer, selected, common]
  · have same : common d moved scope = common d sets scope := by
      simp only [common, perm.all_eq]
    have some : moved ≠ [] := fun none => nonempty (List.nil_perm.mp (none ▸ perm))
    rw [← same]
    exact chain_answers some (fun f member => ordered f (perm.mem_iff.mp member))
      (fun f member => plain f (perm.mem_iff.mp member))
      fun f member => composes f (perm.mem_iff.mp member)

def wallLevelTest : List FilterSet :=
  [ofClass .empty (.token .wall), level .empty (.number 1), whereTest .empty fun e => e.id != ⟨21⟩]

theorem wallLevelTest_agree :
    let alone (ids : List ElementId) : Matches := ⟨.document, .sample 0, ids⟩
    let answers := [alone [⟨21⟩, ⟨22⟩, ⟨23⟩],
      alone [⟨10⟩, ⟨21⟩, ⟨22⟩, ⟨33⟩, ⟨35⟩, ⟨51⟩],
      alone ((Document.sample 0).ids.erase ⟨21⟩)]
    wallLevelTest ≠ [] ∧ (∀ f ∈ wallLevelTest, f.Ordered) ∧ (∀ f ∈ wallLevelTest, f.Plain) ∧
    Apart wallLevelTest ∧
    List.Forall₂ (fun f x => (inScope (.sample 0) {} .document f).outcome = .ok x)
      wallLevelTest answers ∧
    ∃ m, (inScope (.sample 0) {} .document (merge wallLevelTest)).outcome = .ok m ∧
      (inScope (.sample 0) {} .document (chain wallLevelTest.reverse)).outcome = .ok m ∧
      m.ids = [⟨22⟩] := by
  intro alone answers
  have some : wallLevelTest ≠ [] := List.cons_ne_nil _ _
  have ordered : ∀ f ∈ wallLevelTest, f.Ordered := by
    simp only [wallLevelTest, List.forall_mem_cons]
    exact ⟨Entries.insert_ordered Entries.empty_ordered _ _,
      Entries.insert_ordered Entries.empty_ordered _ _,
      Entries.insert_ordered Entries.empty_ordered _ _, by simp⟩
  have plain : ∀ f ∈ wallLevelTest, f.Plain := by
    simp only [wallLevelTest, List.forall_mem_cons]
    exact ⟨plain_single (by decide), plain_single (by decide), plain_single (by decide), by simp⟩
  have apart : Apart wallLevelTest := by
    have keys : wallLevelTest.map Entries.keys = [["of_class"], ["level"], ["where"]] := rfl
    rw [Apart, ← List.pairwise_map, keys]
    simp
  have each : List.Forall₂ (fun f x => (inScope (.sample 0) {} .document f).outcome = .ok x)
      wallLevelTest answers := .cons rfl (.cons rfl (.cons rfl .nil))
  obtain ⟨m, merged, nested, ids⟩ := merged_nested_agree (.sample 0) {} .document _ _ some ordered
    plain apart each
  exact ⟨some, ordered, plain, apart, each, m, merged, nested _ (List.reverse_perm _), ids⟩

end Matches

end Sieve
