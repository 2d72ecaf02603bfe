import Sieve.Proofs.Json.Parameter

/-!
The JSON form of filter sets: which values write out which sets, and which field of a value that
writes out none is at fault. Reading accepts exactly what writes out a set, gives that set, and
otherwise reports the first field at fault, those of nested sets before the ones after them.
-/

namespace Sieve

/-- In every object the fields stand in the order of their names, no name twice. -/
inductive Json.Ordered : Json → Prop where
  | null : Json.Ordered .null
  | bool {b : Bool} : Json.Ordered (.bool b)
  | integer {n : Int} : Json.Ordered (.integer n)
  | double {x : Float} : Json.Ordered (.double x)
  | string {s : String} : Json.Ordered (.string s)
  | array {items : List Json} (each : ∀ item ∈ items, Json.Ordered item) :
      Json.Ordered (.array items)
  | object {fields : Entries Json} (here : fields.Ordered)
      (inside : ∀ field ∈ fields.toList, Json.Ordered field.2) : Json.Ordered (.object fields)

inductive ElementRef.Written : Json → ElementRef → Prop where
  | number {n : Int64} : ElementRef.Written (.integer n.toInt) (.number n)
  | uniqueId {s : String} {u : UniqueId} (parsed : UniqueId.parse? s = some u) :
      ElementRef.Written (.string s) (.uniqueId u)

inductive CategoryRef.Written : Json → CategoryRef → Prop where
  | name {s : String} : CategoryRef.Written (.string s) (.name s)
  | number {n : Int64} : CategoryRef.Written (.integer n.toInt) (.number n)

inductive KeyShape : String → Shape → Prop where
  | scope (key : ScopeKey) : KeyShape key.name key.shape
  | filter (kind : FilterKind) : KeyShape kind.name kind.shape

mutual

/-- What a JSON value stands for where a shape is asked for. Nothing writes out a test. -/
inductive FilterValue.Written (c : Config) : Shape → Json → FilterValue → Prop where
  | flag {b : Bool} : FilterValue.Written c .flag (.bool b) (.flag b)
  | elementClass {s : String} :
      FilterValue.Written c .elementClass (.string s) (.elementClass (.name s))
  | category {json : Json} {r : CategoryRef} (ref : CategoryRef.Written json r) :
      FilterValue.Written c .category json (.category r)
  | element {json : Json} {r : ElementRef} (ref : ElementRef.Written json r) :
      FilterValue.Written c .element json (.element r)
  | one {json : Json} {r : ElementRef} (ref : ElementRef.Written json r) :
      FilterValue.Written c .elements json (.elements [r])
  | list {items : List Json} {refs : List ElementRef}
      (each : List.Forall₂ ElementRef.Written items refs) :
      FilterValue.Written c .elements (.array items) (.elements refs)
  | parameter {json : Json} {p : ParameterPredicate}
      (predicate : ParameterPredicate.Written c json p) :
      FilterValue.Written c .parameter json (.parameter p)
  | filterSet {fields : Entries Json} {g : FilterSet}
      (inside : FilterSet.FieldsWritten c fields.toList g.toList) :
      FilterValue.Written c .filterSet (.object fields) (.filterSet g)

inductive FilterSet.FieldsWritten (c : Config) :
    List (String × Json) → List (String × FilterValue) → Prop where
  | nil : FilterSet.FieldsWritten c [] []
  | cons {key : String} {shape : Shape} {json : Json} {value : FilterValue}
      {fields : List (String × Json)} {entries : List (String × FilterValue)}
      (named : KeyShape key shape) (written : FilterValue.Written c shape json value)
      (rest : FilterSet.FieldsWritten c fields entries) :
      FilterSet.FieldsWritten c ((key, json) :: fields) ((key, value) :: entries)

end

mutual

/-- How a value that does not fit is reported: a parameter filter by what is wrong with it, a nested
set by its own first fault, and any other value by its key. -/
inductive FilterValue.Refused (c : Config) : String → Shape → Json → QueryError → Prop where
  | misfit {key : String} {shape : Shape} {json : Json} (noPredicate : shape ≠ .parameter)
      (noSet : ∀ fields, ¬ (shape = .filterSet ∧ json = .object fields))
      (unwritten : ∀ value, ¬ FilterValue.Written c shape json value) :
      FilterValue.Refused c key shape json (.invalidValue key (.shape shape))
  | parameter {key : String} {json : Json} {e : QueryError}
      (predicate : ParameterPredicate.Refused c key json e) :
      FilterValue.Refused c key .parameter json e
  | filterSet {key : String} {fields : Entries Json} {e : QueryError}
      (inside : FilterSet.FieldsRefused c fields.toList e) :
      FilterValue.Refused c key .filterSet (.object fields) e

inductive FilterSet.FieldsRefused (c : Config) : List (String × Json) → QueryError → Prop where
  | unknown {before after : List (String × Json)} {entries : List (String × FilterValue)}
      {key : String} {json : Json} (fine : FilterSet.FieldsWritten c before entries)
      (nameless : ∀ shape, ¬ KeyShape key shape) :
      FilterSet.FieldsRefused c (before ++ (key, json) :: after) (.unknownFilter key)
  | value {before after : List (String × Json)} {entries : List (String × FilterValue)}
      {key : String} {json : Json} {shape : Shape} {e : QueryError}
      (fine : FilterSet.FieldsWritten c before entries) (named : KeyShape key shape)
      (refused : FilterValue.Refused c key shape json e) :
      FilterSet.FieldsRefused c (before ++ (key, json) :: after) e

end

def FilterSet.Written (c : Config) (json : Json) (f : FilterSet) : Prop :=
  ∃ fields, json = .object fields ∧ FieldsWritten c fields.toList f.toList

inductive FilterSet.Refused (c : Config) : Json → QueryError → Prop where
  | notAnObject {json : Json} (noObject : ∀ fields, json ≠ .object fields) :
      FilterSet.Refused c json (.malformed .notAnObject)
  | fields {fields : Entries Json} {e : QueryError}
      (refused : FilterSet.FieldsRefused c fields.toList e) :
      FilterSet.Refused c (.object fields) e

theorem ElementRef.ofJson?_eq_some_iff {json : Json} {r : ElementRef} :
    ofJson? json = some r ↔ Written json r := by
  constructor
  · intro read
    cases json with
    | integer n =>
      obtain ⟨m, rfl, rfl⟩ := Json.signed?_map_iff.mp read
      exact .number
    | string s =>
      obtain ⟨u, parsed, rfl⟩ := Option.map_eq_some_iff.mp read
      exact .uniqueId parsed
    | _ => cases read
  · intro written
    cases written with
    | number => exact Json.signed?_map_iff.mpr ⟨_, rfl, rfl⟩
    | uniqueId parsed => exact Option.map_eq_some_iff.mpr ⟨_, parsed, rfl⟩

theorem CategoryRef.ofJson?_eq_some_iff {json : Json} {r : CategoryRef} :
    ofJson? json = some r ↔ Written json r := by
  constructor
  · intro read
    cases json with
    | integer n =>
      obtain ⟨m, rfl, rfl⟩ := Json.signed?_map_iff.mp read
      exact .number
    | string s =>
      obtain rfl := Option.some.inj read
      exact .name
    | _ => cases read
  · intro written
    cases written with
    | name => rfl
    | number => exact Json.signed?_map_iff.mpr ⟨_, rfl, rfl⟩

/-- One reference, or a list of them. -/
theorem ElementRef.listOfJson?_eq_some_iff {json : Json} {refs : List ElementRef} :
    listOfJson? json = some refs ↔ (∃ r, Written json r ∧ refs = [r]) ∨
      ∃ items, json = .array items ∧ List.Forall₂ Written items refs := by
  have single (json : Json) : (ElementRef.ofJson? json).map (fun r => [r]) = some refs ↔
      ∃ r, Written json r ∧ refs = [r] := by
    simp only [Option.map_eq_some_iff, ElementRef.ofJson?_eq_some_iff]
    exact exists_congr fun r => and_congr_right fun _ => eq_comm
  cases json with
  | array items =>
    have noRef : ¬ ∃ r, Written (.array items) r ∧ refs = [r] := by
      rintro ⟨r, written, _⟩
      cases written
    have listed : items.mapM ElementRef.ofJson? = some refs ↔
        List.Forall₂ Written items refs := by
      simp only [Scan.mapM_eq_some_iff, ElementRef.ofJson?_eq_some_iff]
    simp [listOfJson?, noRef, listed]
  | _ => simp [listOfJson?, single]

theorem KeyShape.iff {key : String} {shape : Shape} :
    FilterSet.shapeOf key = .ok shape ↔ KeyShape key shape := by
  constructor
  · intro found
    rw [FilterSet.shapeOf] at found
    split at found
    · next scope named =>
      obtain rfl := Except.ok.inj found
      have same : scope.name = key := by simpa using List.find?_some named
      exact same ▸ .scope scope
    · next kind _ named =>
      obtain rfl := Except.ok.inj found
      have same : kind.name = key := by simpa using List.find?_some named
      exact same ▸ .filter kind
    · cases found
  · rintro (scope | kind)
    · simp [FilterSet.shapeOf, ScopeKey.ofName?_name]
    · simp [FilterSet.shapeOf, ScopeKey.ofName?_filter_name, FilterKind.ofName?_name]

theorem FilterSet.shapeOf_error_iff {key : String} {e : QueryError} :
    shapeOf key = .error e ↔ e = .unknownFilter key ∧ ∀ shape, ¬ KeyShape key shape := by
  simp only [← KeyShape.iff]
  rw [shapeOf]
  split <;> simp [eq_comm]

namespace FilterSet

variable {c : Config} {key : String} {shape : Shape} {json : Json}

/-- A value that is read or not, and is named by its key if it is not. -/
theorem exactly_of_read {read : Option FilterValue} (noPredicate : shape ≠ .parameter)
    (noSet : ∀ fields, ¬ (shape = .filterSet ∧ json = .object fields))
    (reads : ∀ value, read = some value ↔ FilterValue.Written c shape json value) :
    Scan.Exactly
      (match read with
        | some value => .ok value
        | none => FilterValue.misfit key shape)
      (FilterValue.Written c shape json) (FilterValue.Refused c key shape json) where
  ok value := by
    rw [← reads]
    cases read <;> simp [FilterValue.misfit]
  error e := by
    cases read with
    | none =>
      have unwritten : ∀ value, ¬ FilterValue.Written c shape json value := by simp [← reads]
      constructor
      · intro failed
        obtain rfl := Except.error.inj failed
        exact .misfit noPredicate noSet unwritten
      · intro refused
        cases refused with
        | misfit => rfl
        | parameter => exact absurd rfl noPredicate
        | filterSet => exact absurd ⟨rfl, rfl⟩ (noSet _)
    | some value =>
      have written := (reads value).mp rfl
      constructor
      · intro failed
        cases failed
      · intro refused
        cases refused with
        | misfit _ _ unwritten => exact absurd written (unwritten value)
        | parameter => exact absurd rfl noPredicate
        | filterSet => exact absurd ⟨rfl, rfl⟩ (noSet _)

theorem ofLeaf_parameter :
    FilterValue.ofLeaf c key .parameter json =
      (ParameterPredicate.ofJson c key json).map .parameter := rfl

theorem exactly_parameter (ordered : json.Ordered) :
    Scan.Exactly (FilterValue.ofLeaf c key .parameter json)
      (FilterValue.Written c .parameter json) (FilterValue.Refused c key .parameter json) := by
  have here : ∀ fields, json = .object fields → fields.Ordered := by
    rintro fields rfl
    cases ordered with
    | object here => exact here
  have predicate := ParameterPredicate.exactly_ofJson c key here
  rw [ofLeaf_parameter]
  refine (predicate.map FilterValue.parameter).of_iff (fun value => ⟨?_, fun written => ?_⟩)
    fun e => ⟨fun refused => .parameter refused, fun refused => ?_⟩
  · rintro ⟨p, written, rfl⟩
    exact .parameter written
  · cases written with
    | parameter written => exact ⟨_, written, rfl⟩
  · cases refused with
    | misfit noPredicate => exact absurd rfl noPredicate
    | parameter refused => exact refused

/-- What a value of a plain shape is read as: all shapes but predicates and nested sets. -/
def plain? (shape : Shape) (json : Json) : Option FilterValue :=
  match shape with
  | .flag => json.bool?.map .flag
  | .elementClass => json.string?.map fun s => .elementClass (.name s)
  | .category => (CategoryRef.ofJson? json).map .category
  | .element => (ElementRef.ofJson? json).map .element
  | .elements => (ElementRef.listOfJson? json).map .elements
  | .parameter | .test | .filterSet => none

theorem ofLeaf_split (c : Config) (key : String) (shape : Shape) (json : Json) :
    FilterValue.ofLeaf c key shape json = match shape, plain? shape json with
      | .parameter, _ => .parameter <$> ParameterPredicate.ofJson c key json
      | _, some value => .ok value
      | _, none => FilterValue.misfit key shape := rfl

theorem ofLeaf_eq (noPredicate : shape ≠ .parameter) :
    FilterValue.ofLeaf c key shape json = match plain? shape json with
      | some value => .ok value
      | none => FilterValue.misfit key shape := by
  rw [ofLeaf_split]
  cases plain? shape json <;> cases shape <;> first | rfl | exact absurd rfl noPredicate

theorem plain?_eq_some_iff (noPredicate : shape ≠ .parameter)
    (noSet : ∀ fields, ¬ (shape = .filterSet ∧ json = .object fields)) {value : FilterValue} :
    plain? shape json = some value ↔ FilterValue.Written c shape json value := by
  constructor
  · intro read
    cases shape with
    | parameter => exact absurd rfl noPredicate
    | flag =>
      obtain ⟨b, given, rfl⟩ := Option.map_eq_some_iff.mp read
      cases json <;> cases given
      exact .flag
    | elementClass =>
      obtain ⟨s, given, rfl⟩ := Option.map_eq_some_iff.mp read
      cases json <;> cases given
      exact .elementClass
    | category =>
      obtain ⟨r, given, rfl⟩ := Option.map_eq_some_iff.mp read
      exact .category (CategoryRef.ofJson?_eq_some_iff.mp given)
    | element =>
      obtain ⟨r, given, rfl⟩ := Option.map_eq_some_iff.mp read
      exact .element (ElementRef.ofJson?_eq_some_iff.mp given)
    | elements =>
      obtain ⟨refs, given, rfl⟩ := Option.map_eq_some_iff.mp read
      rcases ElementRef.listOfJson?_eq_some_iff.mp given with ⟨r, ref, rfl⟩ | ⟨items, rfl, each⟩
      · exact .one ref
      · exact .list each
    | test | filterSet => cases read
  · intro written
    cases written with
    | flag | elementClass => rfl
    | category ref =>
      exact Option.map_eq_some_iff.mpr ⟨_, CategoryRef.ofJson?_eq_some_iff.mpr ref, rfl⟩
    | element ref =>
      exact Option.map_eq_some_iff.mpr ⟨_, ElementRef.ofJson?_eq_some_iff.mpr ref, rfl⟩
    | one ref =>
      have listed := ElementRef.listOfJson?_eq_some_iff.mpr (.inl ⟨_, ref, rfl⟩)
      exact Option.map_eq_some_iff.mpr ⟨_, listed, rfl⟩
    | list each =>
      have listed := ElementRef.listOfJson?_eq_some_iff.mpr (.inr ⟨_, rfl, each⟩)
      exact Option.map_eq_some_iff.mpr ⟨_, listed, rfl⟩
    | parameter => exact absurd rfl noPredicate
    | filterSet => exact absurd ⟨rfl, rfl⟩ (noSet _)

theorem exactly_leaf (ordered : json.Ordered)
    (noSet : ∀ fields, ¬ (shape = .filterSet ∧ json = .object fields)) :
    Scan.Exactly (FilterValue.ofLeaf c key shape json) (FilterValue.Written c shape json)
      (FilterValue.Refused c key shape json) := by
  by_cases predicate : shape = .parameter
  · subst predicate
    exact exactly_parameter ordered
  · rw [ofLeaf_eq predicate]
    exact exactly_of_read predicate noSet fun value => plain?_eq_some_iff predicate noSet

theorem valueOfJson_leaf (noSet : ∀ fields, ¬ (shape = .filterSet ∧ json = .object fields)) :
    valueOfJson c key shape json = FilterValue.ofLeaf c key shape json := by
  cases json with
  | object fields =>
    cases shape with
    | filterSet => exact absurd ⟨rfl, rfl⟩ (noSet fields)
    | _ => rfl
  | _ => rfl

theorem valueOfJson_object (fields : Entries Json) :
    valueOfJson c key .filterSet (.object fields) =
      (entriesOfJson c fields.toList).map fun entries => .filterSet (.ofList entries) := by
  change (entriesOfJson c fields.toList >>= fun entries => pure _) = _
  cases entriesOfJson c fields.toList <;> rfl

def entryOfJson (c : Config) (field : String × Json) : Except QueryError (String × FilterValue) := do
  let shape ← shapeOf field.1
  let value ← valueOfJson c field.1 shape field.2
  return (field.1, value)

theorem entriesOfJson_eq (c : Config) (fields : List (String × Json)) :
    entriesOfJson c fields = fields.mapM (entryOfJson c) := by
  induction fields with
  | nil => rfl
  | cons field rest ih =>
    obtain ⟨key, json⟩ := field
    rw [entriesOfJson, List.mapM_cons, entryOfJson, ih]
    dsimp only
    cases shapeOf key with
    | error e => rfl
    | ok shape =>
      change (valueOfJson c key shape json >>= _) = (valueOfJson c key shape json >>= _) >>= _
      cases valueOfJson c key shape json <;> rfl

theorem fieldsWritten_iff {fields : List (String × Json)} {entries : List (String × FilterValue)} :
    FieldsWritten c fields entries ↔ List.Forall₂ (fun field entry => entry.1 = field.1 ∧
      ∃ shape, KeyShape field.1 shape ∧ FilterValue.Written c shape field.2 entry.2)
      fields entries := by
  induction fields generalizing entries with
  | nil =>
    rw [List.forall₂_nil_left_iff]
    constructor
    · intro written
      cases written
      rfl
    · rintro rfl
      exact .nil
  | cons field rest ih =>
    obtain ⟨key, json⟩ := field
    rw [List.forall₂_cons_left_iff]
    simp only [← ih]
    constructor
    · intro written
      cases written with
      | cons named written later => exact ⟨_, _, ⟨rfl, _, named, written⟩, later, rfl⟩
    · rintro ⟨⟨_, value⟩, entries, ⟨rfl, shape, named, written⟩, later, rfl⟩
      exact .cons named written later

theorem fieldsRefused_iff {fields : List (String × Json)} {e : QueryError} :
    FieldsRefused c fields e ↔ ∃ before field after, fields = before ++ field :: after ∧
      (∃ entries, FieldsWritten c before entries) ∧
      ((e = .unknownFilter field.1 ∧ ∀ shape, ¬ KeyShape field.1 shape) ∨
        ∃ shape, KeyShape field.1 shape ∧ FilterValue.Refused c field.1 shape field.2 e) := by
  constructor
  · rintro (⟨fine, nameless⟩ | ⟨fine, named, refused⟩)
    · exact ⟨_, _, _, rfl, ⟨_, fine⟩, .inl ⟨rfl, nameless⟩⟩
    · exact ⟨_, _, _, rfl, ⟨_, fine⟩, .inr ⟨_, named, refused⟩⟩
  · rintro ⟨before, ⟨key, json⟩, after, rfl, ⟨entries, fine⟩, ⟨rfl, nameless⟩ | ⟨shape, named, refused⟩⟩
    · exact .unknown fine nameless
    · exact .value fine named refused

theorem FieldsWritten.keys {fields : List (String × Json)} {entries : List (String × FilterValue)}
    (written : FieldsWritten c fields entries) :
    entries.map Prod.fst = fields.map Prod.fst := by
  induction fields generalizing entries with
  | nil =>
    cases written
    rfl
  | cons field rest ih =>
    cases written with
    | cons _ _ later => simpa using ih later

/-- Sets that ordered objects write out are in order as they are. -/
theorem FieldsWritten.ofList_eq {fields : Entries Json} {entries : List (String × FilterValue)}
    (written : FieldsWritten c fields.toList entries) (ordered : fields.Ordered) :
    Entries.ofList entries = ⟨entries⟩ := by
  have keys : (fields.toList.map Prod.fst).Pairwise (· < ·) := List.pairwise_map.mpr ordered
  rw [← written.keys] at keys
  exact congrArg Entries.mk (Ascending.ofList_eq_self (List.pairwise_map.mp keys))

abbrev ReadsFields (c : Config) (fields : List (String × Json)) : Prop :=
  Scan.Exactly (entriesOfJson c fields) (FieldsWritten c fields) (FieldsRefused c fields)

theorem exactly_value (ordered : json.Ordered)
    (nested : ∀ fields, json = .object fields → ReadsFields c fields.toList) :
    Scan.Exactly (valueOfJson c key shape json) (FilterValue.Written c shape json)
      (FilterValue.Refused c key shape json) := by
  by_cases set : ∃ fields, shape = .filterSet ∧ json = .object fields
  · obtain ⟨fields, rfl, rfl⟩ := set
    have here : fields.Ordered := by
      cases ordered with
      | object here => exact here
    rw [valueOfJson_object]
    refine ((nested fields rfl).map _).of_iff (fun value => ⟨?_, fun written => ?_⟩)
      fun e => ⟨.filterSet, fun refused => ?_⟩
    · rintro ⟨entries, inside, rfl⟩
      rw [inside.ofList_eq here]
      exact .filterSet inside
    · cases written with
      | filterSet inside => exact ⟨_, inside, congrArg _ (inside.ofList_eq here)⟩
    · cases refused with
      | misfit _ noSet => exact absurd ⟨rfl, rfl⟩ (noSet fields)
      | filterSet inside => exact inside
  · have noSet : ∀ fields, ¬ (shape = .filterSet ∧ json = .object fields) :=
      fun fields both => set ⟨fields, both⟩
    rw [valueOfJson_leaf noSet]
    exact exactly_leaf ordered noSet

theorem entryOfJson_eq {field : String × Json} (named : shapeOf field.1 = .ok shape) :
    entryOfJson c field =
      (valueOfJson c field.1 shape field.2).map fun value => (field.1, value) := by
  rw [entryOfJson, named]
  change (valueOfJson c field.1 shape field.2 >>= fun value => pure (field.1, value)) = _
  cases valueOfJson c field.1 shape field.2 <;> rfl

theorem exactly_entry {field : String × Json} (ordered : field.2.Ordered)
    (nested : ∀ fields, field.2 = .object fields → ReadsFields c fields.toList) :
    Scan.Exactly (entryOfJson c field)
      (fun entry => entry.1 = field.1 ∧
        ∃ shape, KeyShape field.1 shape ∧ FilterValue.Written c shape field.2 entry.2)
      fun e => (e = .unknownFilter field.1 ∧ ∀ shape, ¬ KeyShape field.1 shape) ∨
        ∃ shape, KeyShape field.1 shape ∧ FilterValue.Refused c field.1 shape field.2 e := by
  cases named : shapeOf field.1 with
  | error e =>
    obtain ⟨rfl, nameless⟩ := shapeOf_error_iff.mp named
    have reads : entryOfJson c field = .error (.unknownFilter field.1) := by
      rw [entryOfJson, named]
      rfl
    rw [reads]
    refine ⟨fun entry => ?_, fun e => ?_⟩
    · simp [nameless]
    · simp [nameless, eq_comm]
  | ok shape =>
    have only : ∀ other, KeyShape field.1 other ↔ shape = other := fun other => by
      rw [← KeyShape.iff, named, Except.ok.injEq]
    have value : Scan.Exactly (valueOfJson c field.1 shape field.2)
        (FilterValue.Written c shape field.2) (FilterValue.Refused c field.1 shape field.2) :=
      exactly_value ordered nested
    rw [entryOfJson_eq named]
    refine (value.map _).of_iff (fun entry => ?_) fun e => ?_
    · obtain ⟨key, made⟩ := entry
      simp only [only, exists_eq_left', Prod.mk.injEq]
      grind
    · simp [only]

theorem sizeOf_fields_lt {fields : List (String × Json)} {field : String × Json}
    {inner : Entries Json} (member : field ∈ fields) (object : field.2 = .object inner) :
    sizeOf inner.toList < sizeOf fields := by
  obtain ⟨key, json⟩ := field
  obtain rfl : json = .object inner := object
  obtain ⟨entries⟩ := inner
  have inside := List.sizeOf_lt_of_mem member
  simp only [Prod.mk.sizeOf_spec, Json.object.sizeOf_spec, Entries.mk.sizeOf_spec] at inside
  dsimp only
  omega

theorem exactly_fields (fields : List (String × Json))
    (ordered : ∀ field ∈ fields, field.2.Ordered) : ReadsFields c fields := by
  have each := fun field (member : field ∈ fields) =>
    exactly_entry (c := c) (ordered field member) fun inner object =>
      have _smaller := sizeOf_fields_lt member object
      exactly_fields inner.toList (by
        have inside := ordered field member
        rw [object] at inside
        cases inside with
        | object _ inside => exact inside)
  have scan := Scan.Exactly.mapM each
  rw [← entriesOfJson_eq] at scan
  refine ⟨fun entries => (scan.ok entries).trans fieldsWritten_iff.symm, fun e => ?_⟩
  rw [scan.error, fieldsRefused_iff]
  simp only [fieldsWritten_iff]
termination_by sizeOf fields

theorem ofJson_object (fields : Entries Json) :
    ofJson c (.object fields) = (entriesOfJson c fields.toList).map Entries.ofList := by
  change (entriesOfJson c fields.toList >>= fun entries => pure (Entries.ofList entries)) = _
  cases entriesOfJson c fields.toList <;> rfl

/-- Reading accepts exactly the values that write out a set, gives the set that they write out, and
fails on all others as the first field at fault asks. -/
theorem ofJson_reads_exactly (c : Config) (json : Json) (ordered : json.Ordered) :
    (∀ f, ofJson c json = .ok f ↔ Written c json f) ∧
      ∀ e, ofJson c json = .error e ↔ Refused c json e := by
  cases json with
  | object fields =>
    cases ordered with
    | object here inside =>
      have reads := (exactly_fields (c := c) fields.toList inside).map Entries.ofList
      rw [ofJson_object]
      refine ⟨fun f => (reads.ok f).trans ⟨?_, ?_⟩, fun e => (reads.error e).trans ⟨.fields, ?_⟩⟩
      · rintro ⟨entries, written, rfl⟩
        rw [written.ofList_eq here]
        exact ⟨fields, rfl, written⟩
      · rintro ⟨_, same, written⟩
        obtain rfl := Json.object.inj same
        exact ⟨_, written, written.ofList_eq here⟩
      · intro refused
        cases refused with
        | notAnObject noObject => exact absurd rfl (noObject fields)
        | fields refused => exact refused
  | _ =>
    refine ⟨fun f => ⟨nofun, nofun⟩, fun e => ⟨fun failed => ?_, fun refused => ?_⟩⟩
    · obtain rfl := Except.error.inj failed
      exact .notAnObject nofun
    · cases refused
      rfl

def wallsOrOthersJson : Json :=
  .object ⟨[("of_class", .string "Wall"),
    ("or_collector", .object ⟨[("exclude", .array [.integer 1, .integer 2])]⟩)]⟩

theorem wallsOrOthersJson_reads :
    let f : FilterSet := ⟨[("of_class", .elementClass (.name "Wall")),
      ("or_collector", .filterSet ⟨[("exclude", .elements [.number 1, .number 2])]⟩)]⟩
    wallsOrOthersJson.Ordered ∧ ofJson {} wallsOrOthersJson = .ok f ∧
      Written {} wallsOrOthersJson f := by
  have ordered : wallsOrOthersJson.Ordered := by
    have nested : Json.Ordered (.object ⟨[("exclude", .array [.integer 1, .integer 2])]⟩) := by
      refine .object (List.pairwise_singleton _ _) ?_
      simpa using Json.Ordered.array (by simp [Json.Ordered.integer])
    refine .object (List.pairwise_pair.mpr (by decide)) ?_
    simpa using ⟨.string, nested⟩
  exact ⟨ordered, rfl, ((ofJson_reads_exactly {} wallsOrOthersJson ordered).1 _).mp rfl⟩

/-- A fault inside a nested set comes before one in a later field of the set around it. -/
example : ofJson {} (.object ⟨[("and_collector", .object ⟨[("is_type", .integer 1)]⟩),
    ("bogus", .null)]⟩) = .error (.invalidValue "is_type" (.shape .flag)) := rfl

end FilterSet

end Sieve
