import Mathlib.Data.List.Sort
import Sieve.Document.Selection
import Sieve.Proofs.Run

/-!
Selections are exactly the lists `Document.select` makes: the numbers of the elements with some
property, in the order of the document. Every operation on selections is an operation on properties.
-/

namespace Sieve

instance : Std.Antisymm (α := ElementId) (· < ·) where
  antisymm _ _ h k := absurd (Int64.lt_trans h k) (Int64.lt_irrefl)

namespace Ascending

theorem find?_eq_some_iff {α κ : Type} [LT κ] [DecidableEq κ] [Std.Irrefl (α := κ) (· < ·)]
    {key : α → κ} {xs : List α} (ascending : Ascending key xs) {k : κ} {x : α} :
    xs.find? (key · = k) = some x ↔ x ∈ xs ∧ key x = k := by
  induction xs with
  | nil => simp
  | cons y rest ih =>
    have ⟨below, tail⟩ := List.pairwise_cons.mp ascending
    by_cases found : key y = k
    · have apart : ∀ z ∈ rest, key z ≠ k := by
        intro z member same
        have lt := below z member
        rw [found, same] at lt
        exact Std.Irrefl.irrefl _ lt
      simp only [List.find?_cons, found, decide_true, Option.some.injEq, List.mem_cons]
      constructor
      · rintro rfl
        exact ⟨.inl rfl, found⟩
      · rintro ⟨rfl | member, same⟩
        · rfl
        · exact absurd same (apart x member)
    · simp only [List.find?_cons, found, decide_false, ih tail, List.mem_cons]
      constructor
      · exact fun ⟨member, same⟩ => ⟨.inr member, same⟩
      · rintro ⟨rfl | member, same⟩
        · exact absurd same found
        · exact ⟨member, same⟩

variable {ids more : List ElementId} {id other : ElementId}

theorem mem_insert_id : other ∈ insert (fun id => id) id ids ↔ other = id ∨ other ∈ ids := by
  constructor
  · exact mem_of_mem_insert
  · induction ids with
    | nil => simp [insert]
    | cons first rest ih =>
      rw [insert]
      split
      · simp
      · split
        · rintro (same | member)
          · exact List.mem_cons_of_mem _ (ih (.inl same))
          · rcases List.mem_cons.mp member with rfl | later
            · exact List.mem_cons_self
            · exact List.mem_cons_of_mem _ (ih (.inr later))
        · next notLt notGt =>
          have same : id = first := Std.Trichotomous.trichotomous _ _ notLt notGt
          simp [same]

theorem mem_insertAll_id :
    id ∈ insertAll (fun id => id) more ids ↔ id ∈ more ∨ id ∈ ids := by
  induction more generalizing ids with
  | nil => simp [insertAll]
  | cons first rest ih =>
    change id ∈ insertAll (fun id => id) rest (insert (fun id => id) first ids) ↔ _
    rw [ih, mem_insert_id, List.mem_cons]
    grind

theorem eq_of_mem_iff (left : Ascending (fun id => id) ids) (right : Ascending (fun id => id) more)
    (same : ∀ id, id ∈ ids ↔ id ∈ more) : ids = more := by
  have left : ids.Pairwise (· < ·) := left
  have right : more.Pairwise (· < ·) := right
  exact left.eq_of_mem_iff right same

end Ascending

namespace Document

variable {d : Document} {id : ElementId} {e : Element}

theorem element?_eq_some_iff : d.element? id = some e ↔ e ∈ d.elements ∧ e.id = id :=
  Ascending.find?_eq_some_iff d.ascending

theorem element?_of_mem (member : e ∈ d.elements) : d.element? e.id = some e :=
  element?_eq_some_iff.mpr ⟨member, rfl⟩

/-- Whether a query over the scope can start at all. -/
def opens (d : Document) : Scope → Bool
  | .document => true
  | .view id => (d.element? id).any (·.elementClass.isView)
  | .elements ids => ids.all fun id => (d.element? id).isSome

def select (d : Document) (p : Element → Bool) : Selection :=
  ⟨d, (d.elements.filter p).map Element.id⟩

theorem mem_select {p : Element → Bool} :
    id ∈ (d.select p).ids ↔ ∃ e, d.element? id = some e ∧ p e := by
  simp only [select, List.mem_map, List.mem_filter, element?_eq_some_iff]
  grind

theorem select_ascending (p : Element → Bool) : Ascending (fun id => id) (d.select p).ids :=
  List.pairwise_map.mpr (d.ascending.filter p)

/-- An ascending selection is known by what it holds. -/
theorem eq_select {s : Selection} {p : Element → Bool} (document : s.document = d)
    (ascending : Ascending (fun id => id) s.ids)
    (holds : ∀ id, id ∈ s.ids ↔ ∃ e, d.element? id = some e ∧ p e) : s = d.select p := by
  have ids : s.ids = (d.select p).ids :=
    ascending.eq_of_mem_iff (select_ascending p) fun id => (holds id).trans mem_select.symm
  rcases s with ⟨_, _⟩
  simp_all [select]

theorem select_congr {p q : Element → Bool} (same : ∀ e ∈ d.elements, p e = q e) :
    d.select p = d.select q := by
  simp only [select, List.filter_congr same]

theorem select_filter (p : Element → Bool) (keep : ElementId → Bool) :
    (⟨d, (d.select p).ids.filter keep⟩ : Selection) = d.select fun e => p e && keep e.id := by
  simp [select, List.filter_map, List.filter_filter, Function.comp_def, Bool.and_comm]

end Document

/-- The elements that a scope stands for. -/
def Scope.holds : Scope → Element → Bool
  | .document, _ => true
  | .view id, e => !e.isType && (e.ownerView == some id || e.visibleIn.contains id)
  | .elements ids, e => ids.contains e.id

namespace Selection

open Document

variable {d : Document} {p q : Element → Bool} {scope : Scope}

theorem ofScope_of_opens (opens : d.opens scope) :
    ofScope d scope = .ok (d.select scope.holds) := by
  cases scope with
  | document =>
    have all : Scope.document.holds = fun _ => true := rfl
    simp [ofScope, scopeIds, Document.ids, select, all]
  | view id =>
    have inside : (Scope.view id).holds = fun e => e.inView id := rfl
    simp_all [ofScope, scopeIds, Document.opens, select]
  | elements ids =>
    have present : ∀ id ∈ ids, (d.element? id).isSome := by simpa [Document.opens] using opens
    have none : (ids.find? fun id => (d.element? id).isNone) = none := by
      simpa [List.find?_eq_none, Option.isSome_iff_ne_none] using present
    simp only [ofScope, scopeIds, none, Except.ok.injEq]
    refine eq_select rfl (Ascending.ofList_ascending ids) fun id => ?_
    have listed : id ∈ Ascending.ofList (fun id => id) ids ↔ id ∈ ids := by
      simp [Ascending.ofList, Ascending.mem_insertAll_id]
    rw [listed]
    constructor
    · intro member
      obtain ⟨e, found⟩ := Option.isSome_iff_exists.mp (present id member)
      exact ⟨e, found, by simpa [Scope.holds, id_of_element? found] using member⟩
    · rintro ⟨e, found, holds⟩
      simpa [Scope.holds, id_of_element? found] using holds

theorem ofScope_of_not_opens (closed : ¬ d.opens scope) :
    ∃ cause, ofScope d scope = .error (.document cause) := by
  cases scope with
  | document => simp [Document.opens] at closed
  | view id => simp_all [ofScope, scopeIds, Document.opens]
  | elements ids =>
    cases missing : ids.find? fun id => (d.element? id).isNone with
    | none =>
      refine absurd ?_ closed
      simpa [Document.opens, List.find?_eq_none, Option.isSome_iff_ne_none] using missing
    | some id => exact ⟨.missingElement id, by simp [ofScope, scopeIds, missing]⟩

theorem apply_select (c : Criterion) :
    (d.select p).apply c = d.select fun e => p e && c.holds e := by
  refine (select_filter p _).trans (select_congr fun e member => ?_)
  have member : e ∈ d.elements := member
  change (p e && (d.element? e.id).any c.holds) = _
  rw [element?_of_mem member]
  rfl

theorem exclude_select (ids : List ElementId) :
    (d.select p).exclude ids = d.select fun e => p e && !ids.contains e.id :=
  select_filter p _

theorem sameDocument_select : (d.select p).sameDocument (d.select q) = .ok () := by
  simp [sameDocument, select]

theorem intersect_select :
    (d.select p).intersect (d.select q) = .ok (d.select fun e => p e && q e) := by
  have both : (⟨d, (d.select p).ids.filter (d.select q).ids.contains⟩ : Selection) =
      d.select fun e => p e && q e := by
    refine (select_filter p _).trans (select_congr fun e member => ?_)
    simp [mem_select, element?_of_mem member]
  rw [intersect, sameDocument_select]
  exact congrArg Except.ok both

theorem union_select :
    (d.select p).union (d.select q) = .ok (d.select fun e => p e || q e) := by
  have either : (⟨d, Ascending.insertAll (fun id => id) (d.select q).ids (d.select p).ids⟩ :
      Selection) = d.select fun e => p e || q e := by
    refine eq_select rfl (Ascending.insertAll_ascending _ (select_ascending p)) fun id => ?_
    simp only [Ascending.mem_insertAll_id, mem_select]
    grind
  rw [union, sameDocument_select]
  exact congrArg Except.ok either

/-- Every element of the list is pulled and tested, in its order. -/
theorem failures_of_held (t : ElementTest) {es : List Element}
    (held : ∀ e ∈ es, d.element? e.id = some e) :
    failures d t (es.map Element.id) =
      ⟨(es.filter fun e => !t e).map Element.id,
        (es.map fun e => (t, e)).flatMap Trial.events⟩ := by
  induction es with
  | nil => rfl
  | cons e rest ih =>
    have found := held e List.mem_cons_self
    rw [List.map_cons, failures, found]
    simp only [ih fun e member => held e (List.mem_cons_of_mem _ member)]
    cases passed : t e <;> simp [passed, bind, pure, Logged.log, Trial.events]

theorem exclude_failing (t : ElementTest) :
    (d.select p).exclude (((d.elements.filter p).filter fun e => !t e).map Element.id) =
      d.select fun e => p e && t e := by
  rw [exclude_select]
  refine select_congr fun e member => ?_
  have fails : e.id ∈ ((d.elements.filter p).filter fun e => !t e).map Element.id ↔
      p e ∧ t e = false := by
    simp only [List.mem_map, List.mem_filter]
    constructor
    · rintro ⟨other, ⟨⟨held, holds⟩, failed⟩, same⟩
      -- An element is known by its number.
      have same : other = e := Option.some.inj
        ((element?_of_mem held).symm.trans (same ▸ element?_of_mem member))
      exact same ▸ ⟨holds, by simpa using failed⟩
    · exact fun ⟨holds, failed⟩ => ⟨e, ⟨⟨member, holds⟩, by simp [failed]⟩, rfl⟩
  cases holds : p e <;> cases passed : t e <;> simp_all

/-- Excluding nothing makes no call, and leaves as much as excluding does. -/
theorem exclude_unless_empty (ids : List ElementId) :
    (if ids.isEmpty then return d.select p
      else Run.call (.exclude ids) (.ok ((d.select p).exclude ids)) : Run Selection).Does []
      (some ((d.select p).exclude ids)) := by
  split
  · next none =>
    have unchanged : (d.select p).exclude ids = d.select p := by
      rw [List.isEmpty_iff.mp none, exclude_select]
      simp
    exact .of_quiet rfl (congrArg Except.ok unchanged.symm)
  · exact .of_quiet rfl rfl

/-- All selected elements are tested, in ascending order, and those that pass are kept. -/
theorem keepPassing_select (t : ElementTest) :
    ((d.select p).keepPassing t).Does ((d.elements.filter p).map fun e => (t, e))
      (some (d.select fun e => p e && t e)) := by
  have held : ∀ e ∈ d.elements.filter p, d.element? e.id = some e := fun e member =>
    element?_of_mem (List.mem_filter.mp member).1
  have started : (liftM (d.select p).elements : Run Traversal).Does []
      (some (Traversal.start (d.select p))) := .of_lift rfl
  have tested : (liftM (failures d t (d.select p).ids) : Run (List ElementId)).Does
      ((d.elements.filter p).map fun e => (t, e))
      (some (((d.elements.filter p).filter fun e => !t e).map Element.id)) := by
    rw [select, failures_of_held t held]
    exact .of_lift (work_of_events _)
  rw [← exclude_failing, ← List.append_nil (List.map _ _), ← List.nil_append (_ ++ _)]
  refine started.bind (tested.bind ?_)
  exact exclude_unless_empty _

end Selection

end Sieve
