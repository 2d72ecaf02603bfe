import Sieve.Proofs.Failures
import Sieve.Proofs.Json.Grammar

/-!
Reading and querying agree on the shapes of values. What is read under a key fits the filter or the
scope of that key, in the set and in all sets inside it, so no query of a set that was read finds a
fault in its form, whatever the document and whatever the configurations.
-/

namespace Sieve

theorem KeyShape.unique {key : String} {shape other : Shape} (first : KeyShape key shape)
    (second : KeyShape key other) : shape = other := by
  have found := KeyShape.iff.mpr first
  rw [KeyShape.iff.mpr second] at found
  exact (Except.ok.inj found).symm

theorem KeyShape.known {key : String} {shape : Shape} (named : KeyShape key shape) :
    (FilterKind.ofName? key).isSome ∨ (ScopeKey.ofName? key).isSome := by
  rcases named with scope | kind
  · simp [ScopeKey.ofName?_name]
  · simp [FilterKind.ofName?_name]

namespace FilterSet

variable {c : Config} {f : FilterSet} {key : String} {shape : Shape} {json : Json}
  {value : FilterValue}

def Admitted (f : FilterSet) : Prop :=
  ∀ entry ∈ f.toList, ∃ shape, KeyShape entry.1 shape ∧ shape.fits entry.2

theorem Admitted.fits (admitted : f.Admitted) : f.Fits where
  filters k value found := by
    obtain ⟨shape, named, fits⟩ := admitted _ (mem_of_get? found)
    exact named.unique (.filter k) ▸ fits
  scopes k value found := by
    obtain ⟨shape, named, fits⟩ := admitted _ (mem_of_get? found)
    exact named.unique (.scope k) ▸ fits

theorem Admitted.named (admitted : f.Admitted) : f.Named := by
  intro key member
  obtain ⟨value, entry⟩ := mem_keys_iff.mp member
  obtain ⟨shape, named, _⟩ := admitted _ entry
  exact named.known

/-- What is read is a nested set, from the fields of an object, or a value that fits by itself. -/
theorem valueOfJson_cases (read : valueOfJson c key shape json = .ok value) :
    (∃ fields entries, json = .object fields ∧ entriesOfJson c fields.toList = .ok entries ∧
      shape = .filterSet ∧ value = .filterSet (.ofList entries)) ∨
    (shape.fits value ∧ ∀ g, value ≠ .filterSet g) := by
  by_cases set : ∃ fields, shape = .filterSet ∧ json = .object fields
  · obtain ⟨fields, rfl, rfl⟩ := set
    rw [valueOfJson_object] at read
    obtain ⟨entries, inside, rfl⟩ := Scan.map_ok_iff.mp read
    exact .inl ⟨fields, entries, rfl, inside, rfl, rfl⟩
  · have noSet : ∀ fields, ¬ (shape = .filterSet ∧ json = .object fields) :=
      fun fields both => set ⟨fields, both⟩
    rw [valueOfJson_leaf noSet] at read
    refine .inr ?_
    by_cases predicate : shape = .parameter
    · subst predicate
      obtain ⟨p, _, rfl⟩ := Scan.map_ok_iff.mp (ofLeaf_parameter ▸ read)
      exact ⟨rfl, nofun⟩
    · have given : plain? shape json = some value := by
        rw [ofLeaf_eq predicate] at read
        split at read
        · next found => exact found.trans (congrArg some (Except.ok.inj read))
        · cases read
      have written := (plain?_eq_some_iff (c := c) predicate noSet).mp given
      refine ⟨by cases written <;> rfl, ?_⟩
      rintro g rfl
      cases written
      exact noSet _ ⟨rfl, rfl⟩

theorem entryOfJson_cases {field : String × Json} {entry : String × FilterValue}
    (read : entryOfJson c field = .ok entry) :
    ∃ shape, KeyShape entry.1 shape ∧ valueOfJson c entry.1 shape field.2 = .ok entry.2 := by
  cases named : shapeOf field.1 with
  | error e =>
    rw [entryOfJson, named] at read
    cases read
  | ok shape =>
    rw [entryOfJson_eq named] at read
    obtain ⟨value, made, rfl⟩ := Scan.map_ok_iff.mp read
    exact ⟨shape, KeyShape.iff.mp named, made⟩

/-- Whatever is read is admitted as a whole, by induction on the size of the object. -/
theorem entriesOfJson_admitted (fields : List (String × Json))
    {entries : List (String × FilterValue)} (read : entriesOfJson c fields = .ok entries) :
    Throughout Admitted (.ofList entries) := by
  rw [entriesOfJson_eq] at read
  have origin {entry : String × FilterValue} (member : entry ∈ (Entries.ofList entries).toList) :
      ∃ field ∈ fields, entryOfJson c field = .ok entry :=
    Scan.exists_of_mem_mapM read (Ascending.mem_of_mem_ofList member)
  refine .around (fun entry member => ?_) fun key g member => ?_
  · obtain ⟨field, _, made⟩ := origin member
    obtain ⟨shape, named, value⟩ := entryOfJson_cases made
    refine ⟨shape, named, ?_⟩
    rcases valueOfJson_cases value with ⟨_, _, _, _, rfl, set⟩ | ⟨fits, _⟩
    · rw [set]
      rfl
    · exact fits
  · obtain ⟨field, source, made⟩ := origin member
    obtain ⟨shape, named, value⟩ := entryOfJson_cases made
    rcases valueOfJson_cases value with ⟨inner, deeper, object, inside, _, set⟩ | ⟨_, noSet⟩
    · have _smaller := sizeOf_fields_lt source object
      obtain rfl := FilterValue.filterSet.inj set
      exact entriesOfJson_admitted inner.toList inside
    · exact absurd rfl (noSet g)
termination_by sizeOf fields

theorem ofJson_admitted (read : ofJson c json = .ok f) : f.Throughout Admitted := by
  cases json with
  | object fields =>
    rw [ofJson_object] at read
    obtain ⟨entries, inside, rfl⟩ := Scan.map_ok_iff.mp read
    exact entriesOfJson_admitted fields.toList inside
  | _ => cases read

/-- Whatever document a set that was read is put to, and under whatever configuration, the query
fails only over competing scopes, references that name nothing and calls that the document turns
down: never over a key or the shape of a value, at any depth. -/
theorem ofJson_fails_contextually (d : Document) (c₁ c₂ : Config) (json : Json) (f : FilterSet)
    (read : ofJson c₁ json = .ok f) (e : QueryError)
    (failed : (Matches.ofFilters d c₂ f).outcome = .error e) : e.Contextual := by
  have admitted := ofJson_admitted read
  have named : f.Throughout Named := admitted.mono fun _ => Admitted.named
  have fits : f.Throughout Fits := admitted.mono fun _ => Admitted.fits
  exact Matches.ofFilters_fails d c₂ (.of_named named) fits e failed

def rivalScopesJson : Json :=
  .object ⟨[("of_class", .string "Wall"),
    ("or_collector", .object ⟨[("elements", .array [.integer 1]), ("view", .integer 11)]⟩)]⟩

theorem rivalScopesJson_fails :
    let f : FilterSet := ⟨[("of_class", .elementClass (.name "Wall")),
      ("or_collector", .filterSet ⟨[("elements", .elements [.number 1]),
        ("view", .element (.number 11))]⟩)]⟩
    ofJson {} rivalScopesJson = .ok f ∧
      (Matches.ofFilters (.sample 0) {} f).outcome =
        .error (.ambiguousScope ["view", "elements"]) ∧
      QueryError.Contextual (.ambiguousScope ["view", "elements"]) :=
  ⟨rfl, rfl, ofJson_fails_contextually (.sample 0) {} {} rivalScopesJson _ rfl _ rfl⟩

end FilterSet

end Sieve
