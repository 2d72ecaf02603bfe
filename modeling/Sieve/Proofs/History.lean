import Mathlib.Data.List.Induction
import Sieve.Proofs.Selection

/-!
What a document holds after any history of insertions: of the elements inserted under each id the
last, and nothing else. Insertions under different ids may change places. A unique id leads to the
smallest id under which it is held, and never to an element that was displaced.
-/

namespace Sieve

namespace Ascending

variable {α β κ : Type} [LT κ] [DecidableLT κ] {key : α → κ} {key' : β → κ} {f : α → β}

/-- Only the keys count for the place of an entry. -/
theorem insert_map (same : ∀ x, key' (f x) = key x) (x : α) (xs : List α) :
    insert key' (f x) (xs.map f) = (insert key x xs).map f := by
  induction xs with
  | nil => rfl
  | cons y rest ih =>
    rw [List.map_cons, insert, insert, same, same, ih]
    split
    · rfl
    · split <;> rfl

theorem ofList_map (same : ∀ x, key' (f x) = key x) (xs : List α) :
    ofList key' (xs.map f) = (ofList key xs).map f := by
  suffices general : ∀ sorted : List α,
      insertAll key' (xs.map f) (sorted.map f) = (insertAll key xs sorted).map f from general []
  induction xs with
  | nil => exact fun _ => rfl
  | cons x rest ih =>
    intro sorted
    rw [List.map_cons, insertAll, List.foldl_cons, insert_map same]
    exact ih (insert key x sorted)

omit [DecidableLT κ] in
/-- Lists that ascend are the same if they find the same under every key. -/
theorem eq_of_find? [DecidableEq κ] [Trans (α := κ) (· < ·) (· < ·) (· < ·)]
    [Std.Irrefl (α := κ) (· < ·)] {xs ys : List α} (left : Ascending key xs)
    (right : Ascending key ys)
    (same : ∀ k, xs.find? (key · = k) = ys.find? (key · = k)) : xs = ys := by
  have irrefl : Std.Irrefl fun a b => key a < key b := ⟨fun a => Std.Irrefl.irrefl (key a)⟩
  have antisymm : Std.Antisymm fun a b => key a < key b :=
    ⟨fun a _ below above => absurd (Trans.trans below above) (Std.Irrefl.irrefl (key a))⟩
  refine List.Pairwise.eq_of_mem_iff left right fun x => ?_
  have found := left.find?_eq_some_iff (k := key x) (x := x)
  rw [same, right.find?_eq_some_iff] at found
  simpa using found.symm

end Ascending

namespace Document

variable {d : Document} {serial : Nat} {history : List Element} {id : ElementId} {e : Element}
  {u : UniqueId}

def IsLatest (history : List Element) (id : ElementId) (e : Element) : Prop :=
  ∃ before after, history = before ++ e :: after ∧ e.id = id ∧ ∀ later ∈ after, later.id ≠ id

/-- Both hold the same elements, those of one id in the same order. -/
def Reorders (history other : List Element) : Prop :=
  ∀ id, other.filter (·.id = id) = history.filter (·.id = id)

/-- A table in which each element is put under its own id as the key, the keys beside the elements. -/
def tabulate (history : List Element) : List (ElementId × Element) :=
  Ascending.ofList Prod.fst (history.map fun e => (e.id, e))

theorem isLatest_iff : IsLatest history id e ↔ history.reverse.find? (·.id = id) = some e := by
  rw [List.find?_eq_some_iff_append]
  constructor
  · rintro ⟨before, after, rfl, same, last⟩
    exact ⟨by simpa using same, after.reverse, before.reverse, by simp, by simpa using last⟩
  · rintro ⟨same, after, before, reversed, last⟩
    refine ⟨before.reverse, after.reverse, ?_, by simpa using same, by simpa using last⟩
    rw [← List.reverse_reverse history, reversed]
    simp

theorem ofList_concat (serial : Nat) (history : List Element) (e : Element) :
    ofList serial (history ++ [e]) = (ofList serial history).insert e := by
  rw [ofList, List.foldl_concat, ofList]

theorem elements_insert (d : Document) (e : Element) :
    (d.insert e).elements = Ascending.insert Element.id e d.elements := rfl

theorem elements_ofList (serial : Nat) (history : List Element) :
    (ofList serial history).elements = Ascending.ofList Element.id history := by
  induction history using List.reverseRecOn with
  | nil => rfl
  | append_singleton before e ih =>
    rw [ofList_concat, elements_insert, ih, Ascending.ofList, Ascending.ofList, Ascending.insertAll,
      Ascending.insertAll, List.foldl_concat]

theorem serial_ofList (serial : Nat) (history : List Element) :
    (ofList serial history).serial = serial := by
  induction history using List.reverseRecOn with
  | nil => rfl
  | append_singleton before e ih =>
    rw [ofList_concat]
    exact ih

/-- Documents of one serial number are the same if they hold the same under every id. -/
theorem eq_of_element? {other : Document} (serials : d.serial = other.serial)
    (same : ∀ id, d.element? id = other.element? id) : d = other := by
  have elements : d.elements = other.elements := d.ascending.eq_of_find? other.ascending same
  obtain ⟨serial, elements, ascending⟩ := d
  obtain ⟨serial', elements', ascending'⟩ := other
  simp_all

/-- Each insertion hides what came before it under its id, and nothing else. -/
theorem element?_ofList (serial : Nat) (history : List Element) (id : ElementId) :
    (ofList serial history).element? id = history.reverse.find? (·.id = id) := by
  induction history using List.reverseRecOn with
  | nil => rfl
  | append_singleton before e ih =>
    rw [ofList_concat, element?_insert, ih, List.reverse_append, List.reverse_singleton,
      List.singleton_append]
    by_cases same : e.id = id <;> simp [same]

theorem element?_ofList_iff :
    (ofList serial history).element? id = some e ↔ IsLatest history id e := by
  rw [element?_ofList, isLatest_iff]

theorem element?_ofList_eq_none_iff :
    (ofList serial history).element? id = none ↔ ∀ e ∈ history, e.id ≠ id := by
  simp [element?_ofList, List.find?_eq_none]

theorem mem_ofList_iff : e ∈ (ofList serial history).elements ↔ IsLatest history e.id e := by
  have found : (ofList serial history).element? e.id = some e ↔ IsLatest history e.id e :=
    element?_ofList_iff
  rw [← found, element?_eq_some_iff, and_iff_left rfl]

theorem tabulate_eq (serial : Nat) (history : List Element) :
    tabulate history = (ofList serial history).elements.map fun e => (e.id, e) := by
  rw [elements_ofList, tabulate, Ascending.ofList_map fun _ => rfl]

theorem ofList_of_reorders {other : List Element} (reorders : Reorders history other) :
    ofList serial other = ofList serial history := by
  have found (id : ElementId) :
      other.reverse.find? (·.id = id) = history.reverse.find? (·.id = id) := by
    rw [← List.getLast?_filter, reorders id, List.getLast?_filter]
  refine eq_of_element? (by rw [serial_ofList, serial_ofList]) fun id => ?_
  rw [element?_ofList, element?_ofList, found]

/-- Of the elements with the unique id the one with the smallest id is found. -/
theorem resolve?_eq_some_iff :
    d.resolve? u = some id ↔ ∃ e, d.element? id = some e ∧ e.uniqueId = u ∧
      ∀ other ∈ d.elements, other.uniqueId = u → ¬ other.id < id := by
  have smallest {e : Element} (found : d.elements.find? (·.uniqueId = u) = some e) :
      ∀ other ∈ d.elements, other.uniqueId = u → ¬ other.id < e.id := by
    obtain ⟨_, before, after, split, others⟩ := List.find?_eq_some_iff_append.mp found
    intro other member same below
    have ascending := d.ascending
    rw [split] at member ascending
    rcases List.mem_append.mp member with earlier | later
    · simpa [same] using others other earlier
    · rcases List.mem_cons.mp later with rfl | later
      · exact Std.Irrefl.irrefl _ below
      · have above := (List.pairwise_cons.mp (List.pairwise_append.mp ascending).2.1).1 other later
        exact Std.Irrefl.irrefl _ (Trans.trans below above)
  rw [resolve?, Option.map_eq_some_iff]
  constructor
  · rintro ⟨e, found, rfl⟩
    have member := List.mem_of_find?_eq_some found
    exact ⟨e, element?_of_mem member, by simpa using List.find?_some found, smallest found⟩
  · rintro ⟨e, held, same, least⟩
    obtain ⟨member, rfl⟩ := element?_eq_some_iff.mp held
    cases found : d.elements.find? (·.uniqueId = u) with
    | none => exact absurd (List.find?_eq_none.mp found e member) (by simpa using same)
    | some first =>
      refine ⟨first, rfl, Std.Trichotomous.trichotomous _ _ ?_ (smallest found e member same)⟩
      exact least first (List.mem_of_find?_eq_some found) (by simpa using List.find?_some found)

theorem resolve?_eq_none_iff : d.resolve? u = none ↔ ∀ e ∈ d.elements, e.uniqueId ≠ u := by
  simp [resolve?, List.find?_eq_none]

structure Holds (d : Document) (history : List Element) : Prop where
  keys : tabulate history = d.elements.map fun e => (e.id, e)
  elements : ∀ e, e ∈ d.elements ↔ IsLatest history e.id e
  found : ∀ id e, d.element? id = some e ↔ IsLatest history id e
  missing : ∀ id, d.element? id = none ↔ ∀ e ∈ history, e.id ≠ id

structure Resolves (d : Document) (history : List Element) : Prop where
  found : ∀ u id, d.resolve? u = some id ↔ ∃ e, IsLatest history id e ∧ e.uniqueId = u ∧
    ∀ id' e', IsLatest history id' e' → e'.uniqueId = u → ¬ id' < id
  missing : ∀ u, d.resolve? u = none ↔ ∀ id e, IsLatest history id e → e.uniqueId ≠ u

theorem ofList_holds (serial : Nat) (history : List Element) :
    (ofList serial history).Holds history where
  keys := tabulate_eq serial history
  elements _ := mem_ofList_iff
  found _ _ := element?_ofList_iff
  missing _ := element?_ofList_eq_none_iff

theorem ofList_resolves (serial : Nat) (history : List Element) :
    (ofList serial history).Resolves history := by
  have each (p : ElementId → Element → Prop) :
      (∀ e ∈ (ofList serial history).elements, p e.id e) ↔
        ∀ id e, IsLatest history id e → p id e := by
    constructor
    · rintro all id e latest
      obtain ⟨member, rfl⟩ := element?_eq_some_iff.mp (element?_ofList_iff.mpr latest)
      exact all e member
    · exact fun all e member => all e.id e (mem_ofList_iff.mp member)
  refine ⟨fun u id => ?_, fun u => ?_⟩
  · simp only [resolve?_eq_some_iff, element?_ofList_iff]
    rw [← each fun other found => found.uniqueId = u → ¬ other < id]
  · rw [resolve?_eq_none_iff, ← each fun _ e => e.uniqueId ≠ u]

/-- After any history of insertions a document holds the latest element of each id and nothing else,
and resolves unique ids among those. One more insertion gives back the element that it displaces. The
order of the history counts only among elements of one id. -/
theorem history_kept (serial : Nat) (history : List Element) :
    let d := ofList serial history
    d.Holds history ∧ d.Resolves history ∧
      (∀ e, (d.put e).1 = ofList serial (history ++ [e]) ∧
        ∀ displaced, (d.put e).2 = some displaced ↔ IsLatest history e.id displaced) ∧
      ∀ other, Reorders history other → ofList serial other = d := by
  refine ⟨ofList_holds serial history, ofList_resolves serial history, fun e => ⟨?_, ?_⟩, ?_⟩
  · exact (ofList_concat serial history e).symm
  · exact fun _ => element?_ofList_iff
  · exact fun _ => ofList_of_reorders

/-- The unique id of a wall that a door has displaced leads nowhere, and the one that two elements
share leads to the smaller of them, whichever was inserted first. -/
theorem displacedWall_history_kept :
    let u (n : Int64) : UniqueId := .ofElementId ⟨n⟩
    let wall := Element.new ⟨2⟩ .wall
    let door := { Element.new ⟨2⟩ .familyInstance with uniqueId := u 7 }
    let level := { Element.new ⟨3⟩ .level with uniqueId := u 9 }
    let note := { Element.new ⟨1⟩ .textNote with uniqueId := u 9 }
    let d := ofList 0 [wall, level, door, note]
    Reorders [wall, level, door, note] [note, wall, door, level] ∧
      ofList 0 [note, wall, door, level] = d ∧ IsLatest [wall, level, door, note] ⟨2⟩ door ∧
      d.resolve? (u 2) = none ∧ d.resolve? (u 9) = some ⟨1⟩ := by
  intro u wall door level note d
  have reorders : Reorders [wall, level, door, note] [note, wall, door, level] := by
    intro id
    by_cases one : id = ⟨1⟩
    · subst one
      rfl
    · by_cases two : id = ⟨2⟩
      · subst two
        rfl
      · have first : note.id ≠ id := fun same => one same.symm
        have second : wall.id ≠ id := fun same => two same.symm
        have third : door.id ≠ id := fun same => two same.symm
        simp [List.filter_cons, first, second, third]
  obtain ⟨holds, _, _, reordered⟩ := history_kept 0 [wall, level, door, note]
  exact ⟨reorders, reordered _ reorders, (holds.found ⟨2⟩ door).mp rfl, rfl, rfl⟩

end Document

end Sieve
