import Sieve.Proofs.Building
import Sieve.Proofs.Json.Building
import Sieve.Proofs.Negation
import Sieve.Proofs.Precedence

/-!
What a configuration can change. To a query it is the choice among several scope keys and nothing
else; to a set in JSON it is how texts and numbers compare, where a parameter filter with a condition
on one leaves the option open. Two configurations that agree there cannot be told apart, neither by
what succeeds nor by how it fails, and two that do not agree there never read the same set.
-/

namespace Sieve

/-- The configurations agree on what a condition takes from them: the case flag for a text and the
tolerance for a number, if neither the condition nor the call sets it. -/
@[mk_iff]
structure Config.AgreeFor (c₁ c₂ : Config) (call own : RuleOptions) (v : Value) : Prop where
  caseSensitive : v.domain = .text → own.caseSensitive = none → call.caseSensitive = none →
    c₁.caseSensitive = c₂.caseSensitive
  precision : v.domain = .number → own.precision = none → call.precision = none →
    c₁.precision = c₂.precision

namespace Json

inductive IsText : Json → Prop where
  | string {s : String} : IsText (.string s)

inductive IsNumeric : Json → Prop where
  | bool {b : Bool} : IsNumeric (.bool b)
  | integer {n : Int} : IsNumeric (.integer n)
  | double {x : Float} : IsNumeric (.double x)

/-- The parameter filters of a set in JSON: its own, and those of the sets nested in it as
combinations, at any depth. -/
inductive Filters : Json → Entries Json → Prop where
  | own {fields body : Entries Json} (entry : ("parameter_filter", .object body) ∈ fields.toList) :
      Filters (.object fields) body
  | nested {fields body : Entries Json} {key : String} {json : Json}
      (combination : FilterSet.isCombination key) (entry : (key, json) ∈ fields.toList)
      (deeper : Filters json body) : Filters (.object fields) body

end Json

namespace ParameterBody

/-- The field of the option is missing or null. -/
def LeavesOpen (fields : List (String × Json)) (option : String) : Prop :=
  (option, .null) ∈ fields ∨ ∀ value, (option, value) ∉ fields

structure Defers (fields : List (String × Json)) (kind : Json → Prop) (option : String) : Prop where
  condition : ∃ field ∈ fields, field.1 ∉ names ∧ kind field.2
  unset : LeavesOpen fields option

structure ReadFrom (fields : List (String × Json)) (b : ParameterBody) : Prop where
  conditions : ∀ field ∈ b.conditions, field ∈ fields ∧ field.1 ∉ names
  caseSensitive : b.options.caseSensitive = none → LeavesOpen fields "case_sensitive"
  precision : b.options.precision = none → LeavesOpen fields "precision"

end ParameterBody

structure Config.AgreeOn (c₁ c₂ : Config) (fields : List (String × Json)) : Prop where
  caseSensitive : ParameterBody.Defers fields Json.IsText "case_sensitive" →
    c₁.caseSensitive = c₂.caseSensitive
  precision : ParameterBody.Defers fields Json.IsNumeric "precision" → c₁.precision = c₂.precision

namespace FilterSet

variable {d : Document} {c₁ c₂ : Config}

theorem resolveScope_configs (same : c₁.scopePrecedence = c₂.scopePrecedence) (f : FilterSet) :
    f.resolveScope d c₁ = f.resolveScope d c₂ := by
  have chosen : c₁.chooseScope f.scopes = c₂.chooseScope f.scopes := by
    rcases f.scopes with _ | ⟨first, _ | ⟨second, more⟩⟩
    · rfl
    · rfl
    · simp only [Config.chooseScope, same]
  rw [resolveScope, chosen, resolveScope]

/-- Predicates are built before a set is planned, so only the choice of scopes is left to plan by. -/
theorem plan_configs (same : c₁.scopePrecedence = c₂.scopePrecedence) (f : FilterSet)
    (scope : Scope) : f.plan d c₁ scope = f.plan d c₂ scope := by
  induction f using nested_induction generalizing scope with
  | around f ih =>
    have nested (k : FilterKind) (g : FilterSet) (below : f.nested? k = some g) :
        planNested d c₁ g ⟨planners d c₁ g.toList⟩ scope =
          planNested d c₂ g ⟨planners d c₂ g.toList⟩ scope := by
      rw [planNested_eq, planNested_eq, resolveScope_configs same]
      simp only [ih k g below]
    rw [plan, plan, planSteps_congr fun k => ?_]
    rw [get?_planners_toList, get?_planners_toList, Option.map_map, Option.map_map]
    cases found : f.get? k.name with
    | none => rfl
    | some value =>
      refine congrArg some ?_
      cases value with
      | filterSet g =>
        have below := nested k g (nested?_eq_some_iff.mpr found)
        cases k with
        | andCollector | orCollector => exact congrArg (_ <$> ·) below
        | _ => rfl
      | _ => rfl

end FilterSet

theorem Matches.ofFilters_configs {d : Document} {c₁ c₂ : Config}
    (same : c₁.scopePrecedence = c₂.scopePrecedence) (f : FilterSet) :
    ofFilters d c₁ f = ofFilters d c₂ f := by
  rw [ofFilters_eq, ofFilters_eq, FilterSet.resolveScope_configs same]
  simp only [FilterSet.collect, FilterSet.plan_configs same]

section Building

open Condition

variable {c₁ c₂ : Config} {call own : RuleOptions} {v : Value}

/-- An option that is set anywhere before the configuration is not asked of it. -/
theorem getD_getD_eq_iff {α : Type} {own call : Option α} {a b : α} :
    own.getD (call.getD a) = own.getD (call.getD b) ↔ (own = none → call = none → a = b) := by
  cases own <;> cases call <;> simp

theorem Condition.argument_configs_iff :
    argument v (own.or (call.or c₁.ruleDefaults)) = argument v (own.or (call.or c₂.ruleDefaults)) ↔
      c₁.AgreeFor c₂ call own v := by
  rw [Config.agreeFor_iff]
  cases v <;>
    simp [argument, Value.domain, RuleOptions.or, Config.ruleDefaults, getD_getD_eq_iff]

/-- A condition that makes a rule makes the same one exactly where the configurations agree. -/
theorem Condition.rule_configs_iff {parameter : ParameterId} {d : Condition} {r : Rule}
    (made : d.rule parameter (call.or c₁.ruleDefaults) = .ok r) :
    d.rule parameter (call.or c₂.ruleDefaults) = .ok r ↔
      c₁.AgreeFor c₂ call d.options d.value := by
  rw [← argument_configs_iff, ← made]
  by_cases misused : d.name.comparison.textOnly && !d.value.isText
  · rw [rule, if_pos misused] at made
    cases made
  · rw [rule, rule, if_neg misused, if_neg misused]
    cases d.name.negated <;> simp [eq_comm]

theorem Condition.rule_configs {parameter : ParameterId} {d : Condition}
    (agree : c₁.AgreeFor c₂ call d.options d.value) :
    d.rule parameter (call.or c₁.ruleDefaults) = d.rule parameter (call.or c₂.ruleDefaults) := by
  rw [rule, rule, argument_configs_iff.mpr agree]

/-- A filter is built the same, or fails the same, where the configurations agree on every one of its
conditions. -/
theorem ParameterFilter.build_configs {f : ParameterFilter}
    (agree : ∀ d ∈ f.conditions, c₁.AgreeFor c₂ f.options d.2.2 d.2.1) :
    f.build c₁ = f.build c₂ := by
  rw [ParameterFilter.build_eq, ParameterFilter.build_eq]
  cases read : f.conditions.mapM fun d => parse d.1 d.2.1 d.2.2 with
  | error e => rfl
  | ok parsed =>
    have drafts := parse_all_ok_iff.mp read
    have rules : parsed.mapM (rule f.parameter (f.options.or c₁.ruleDefaults)) =
        parsed.mapM (rule f.parameter (f.options.or c₂.ruleDefaults)) := by
      refine Scan.mapM_congr fun d member => rule_configs ?_
      exact agree d.draft (drafts ▸ List.mem_map_of_mem member)
    change ParameterPredicate.ofConditions _ _ _ _ = ParameterPredicate.ofConditions _ _ _ _
    rw [ParameterPredicate.ofConditions, ParameterPredicate.ofConditions, rules]

/-- Where both build the filter to the same predicate, they agree on every one of its conditions. -/
theorem ParameterFilter.agreeFor_of_build {f : ParameterFilter} {p : ParameterPredicate}
    (left : f.build c₁ = .ok p) (right : f.build c₂ = .ok p) {d : Draft}
    (member : d ∈ f.conditions) : c₁.AgreeFor c₂ f.options d.2.2 d.2.1 := by
  rw [build_eq] at left right
  cases read : f.conditions.mapM fun d => parse d.1 d.2.1 d.2.2 with
  | error e =>
    rw [read] at left
    cases left
  | ok parsed =>
    rw [read] at left right
    rw [parse_all_ok_iff.mp read] at member
    obtain ⟨condition, held, rfl⟩ := List.mem_map.mp member
    obtain ⟨r, _, made, alike⟩ := Scan.exists_of_mapM_eq (rules_of_ofConditions left)
      (rules_of_ofConditions right) held
    exact (rule_configs_iff made).mp alike

end Building

namespace ParameterBody

variable {fields : List (String × Json)} {b b' : ParameterBody} {name : String} {value : Json}

theorem leavesOpen_null {option : String} : LeavesOpen (fields ++ [(option, .null)]) option :=
  .inl (List.mem_append_right _ List.mem_cons_self)

theorem LeavesOpen.snoc {option : String} (unset : LeavesOpen fields option)
    (other : name ≠ option) : LeavesOpen (fields ++ [(name, value)]) option := by
  refine unset.imp (List.mem_append_left _) fun missing found member => ?_
  rcases List.mem_append.mp member with member | member
  · exact missing found member
  · simp [Ne.symm other] at member

theorem eq_null_of_optional {α : Type} {read : Json → Except BodyError α} {json : Json}
    (unset : optional read json = .ok none) : json = .null := by
  have given : some <$> read json ≠ .ok none := by cases read json <;> simp
  cases json with
  | null => rfl
  | _ => exact absurd unset given

/-- Taking one more field in keeps the account of what was read. -/
theorem ReadFrom.step (read : ReadFrom fields b) (taken : b.addField name value = .ok b') :
    ReadFrom (fields ++ [(name, value)]) b' := by
  have kept : ∀ field ∈ b.conditions, field ∈ fields ++ [(name, value)] ∧ field.1 ∉ names :=
    fun field member => (read.conditions field member).imp_left (List.mem_append_left _)
  -- An option that is not named here stays as it was.
  have flagKept (other : name ≠ "case_sensitive") (unset : b.options.caseSensitive = none) :
      LeavesOpen (fields ++ [(name, value)]) "case_sensitive" := (read.caseSensitive unset).snoc other
  have toleranceKept (other : name ≠ "precision") (unset : b.options.precision = none) :
      LeavesOpen (fields ++ [(name, value)]) "precision" := (read.precision unset).snoc other
  by_cases special : name ∈ names
  · simp only [names, List.mem_cons, List.not_mem_nil, or_false] at special
    rcases special with rfl | rfl | rfl | rfl
    · obtain ⟨n, _, rfl⟩ := Scan.bind_pure_ok_iff.mp taken
      exact ⟨kept, flagKept (by decide), toleranceKept (by decide)⟩
    · obtain ⟨reverse, _, rfl⟩ := Scan.bind_pure_ok_iff.mp taken
      exact ⟨kept, flagKept (by decide), toleranceKept (by decide)⟩
    · obtain ⟨flag, given, rfl⟩ := Scan.bind_pure_ok_iff.mp taken
      refine ⟨kept, fun unset => ?_, toleranceKept (by decide)⟩
      obtain rfl : flag = none := unset
      exact eq_null_of_optional given ▸ leavesOpen_null
    · obtain ⟨tolerance, given, rfl⟩ := Scan.bind_pure_ok_iff.mp taken
      refine ⟨kept, flagKept (by decide), fun unset => ?_⟩
      obtain rfl : tolerance = none := unset
      exact eq_null_of_optional given ▸ leavesOpen_null
  · rw [addField_condition b value special] at taken
    obtain rfl := Except.ok.inj taken
    have apart : ∀ option ∈ names, name ≠ option := fun option member same => special (same ▸ member)
    refine ⟨fun field member => ?_, flagKept (apart _ (by decide)), toleranceKept (apart _ (by decide))⟩
    rcases List.mem_append.mp member with member | member
    · exact kept field member
    · obtain rfl := List.mem_singleton.mp member
      exact ⟨List.mem_append_right _ List.mem_cons_self, special⟩

theorem ReadFrom.run {rest : List (String × Json)} (read : ReadFrom fields b)
    (taken : rest.foldlM (fun b field => b.addField field.1 field.2) b = .ok b') :
    ReadFrom (fields ++ rest) b' := by
  induction rest generalizing fields b with
  | nil =>
    obtain rfl := Except.ok.inj taken
    rwa [List.append_nil]
  | cons field rest ih =>
    rw [List.foldlM_cons] at taken
    cases next : b.addField field.1 field.2 with
    | error e =>
      rw [next] at taken
      cases taken
    | ok between =>
      rw [next] at taken
      rw [← List.singleton_append, ← List.append_assoc]
      exact ih (read.step next) taken

theorem readFrom_of_ofFields {body : ParameterBody} (read : ofFields fields = .ok body) :
    ReadFrom fields body :=
  have unread : ReadFrom [] {} := ⟨by simp, fun _ => .inr (by simp), fun _ => .inr (by simp)⟩
  unread.run read

theorem LeavesOpen.lookUp {fields : Entries Json} {option : String}
    (unset : LeavesOpen fields.toList option) (ordered : fields.Ordered) :
    ParameterBody.lookUp fields.toList option = none ∨
      ParameterBody.lookUp fields.toList option = some .null := by
  rcases unset with null | missing
  · right
    have found := (Ascending.find?_eq_some_iff ordered).mpr ⟨null, rfl⟩
    simp only [ParameterBody.lookUp, Entries.get?, found, Option.map_some]
  · left
    exact lookUp_eq_none fun field member same => missing field.2 (same ▸ member)

theorem Sets.unset {α : Type} {read : Json → Except BodyError α} {field : Option Json}
    {after : Option α} (sets : Sets (optional read) field none after)
    (unset : field = none ∨ field = some .null) : after = none := by
  rcases unset with rfl | rfl
  · exact sets
  · exact (Except.ok.inj sets).symm

theorem conditions_of_filter {body : ParameterBody} {key : String} {f : ParameterFilter}
    (filtered : body.filter key = .ok f) :
    body.conditions.mapM (readCondition key) = .ok f.conditions := by
  obtain ⟨_, _, _, each⟩ := filter_ok_iff.mp filtered
  simpa only [← readCondition_ok_iff key, ← Scan.mapM_ok_iff] using each

/-- Of each field that is kept as a condition the filter has a condition with its value. -/
theorem exists_draft {fields : List (String × Json)} {body : ParameterBody} {key : String}
    {f : ParameterFilter} (takes : Takes fields {} body) (filtered : body.filter key = .ok f)
    {field : String × Json} (member : field ∈ fields) (noPart : field.1 ∉ names) :
    ∃ d ∈ f.conditions, Value.Written field.2 d.2.1 ∧ d.2.2 = {} := by
  have each := conditions_of_filter filtered
  have kept := takes.mem_conditions_iff.mpr ⟨member, noPart⟩
  obtain ⟨d, given, made, _⟩ := Scan.exists_of_mapM_eq each each kept
  obtain ⟨_, written, own⟩ := (readCondition_ok_iff key).mp made
  exact ⟨d, given, written, own⟩

end ParameterBody

theorem Value.Written.isText_iff {json : Json} {v : Value} (written : Written json v) :
    json.IsText ↔ v.domain = .text := by
  cases written with
  | text => exact iff_of_true .string rfl
  | flag | double | integer => exact iff_of_false (by rintro ⟨⟩) (by rintro ⟨⟩)

theorem Value.Written.isNumeric_iff {json : Json} {v : Value} (written : Written json v) :
    json.IsNumeric ↔ v.domain = .number := by
  cases written with
  | text => exact iff_of_false (by rintro ⟨⟩) (by rintro ⟨⟩)
  | flag => exact iff_of_true .bool rfl
  | double => exact iff_of_true .double rfl
  | integer => exact iff_of_true .integer rfl

namespace ParameterPredicate

open ParameterBody

variable {c₁ c₂ : Config} {key : String}

/-- What a condition takes from the configuration is what its filter defers to it. -/
theorem agreeFor_of_agreeOn {fields : List (String × Json)} {body : ParameterBody}
    {f : ParameterFilter} (agree : c₁.AgreeOn c₂ fields) (read : ofFields fields = .ok body)
    (filtered : body.filter key = .ok f) {d : Condition.Draft} (member : d ∈ f.conditions) :
    c₁.AgreeFor c₂ f.options d.2.2 d.2.1 := by
  obtain ⟨_, _, options, _⟩ := filter_ok_iff.mp filtered
  obtain ⟨field, kept, made⟩ := Scan.exists_of_mem_mapM (conditions_of_filter filtered) member
  obtain ⟨_, written, _⟩ := (readCondition_ok_iff key).mp made
  have source := readFrom_of_ofFields read
  obtain ⟨given, noPart⟩ := source.conditions field kept
  rw [← options]
  exact {
    caseSensitive := fun text _ unset => agree.caseSensitive
      ⟨⟨field, given, noPart, written.isText_iff.mpr text⟩, source.caseSensitive unset⟩
    precision := fun number _ unset => agree.precision
      ⟨⟨field, given, noPart, written.isNumeric_iff.mpr number⟩, source.precision unset⟩ }

theorem ofJson_configs {json : Json}
    (agree : ∀ fields : Entries Json, json = .object fields → c₁.AgreeOn c₂ fields.toList) :
    ofJson c₁ key json = ofJson c₂ key json := by
  cases json with
  | object fields =>
    cases read : ofFields fields.toList with
    | error e =>
      rw [ofJson, ofJson, read]
      rfl
    | ok body =>
      rw [ofJson_of_body read, ofJson_of_body read]
      cases filtered : body.filter key with
      | error e => rfl
      | ok f =>
        exact ParameterFilter.build_configs fun d =>
          agreeFor_of_agreeOn (agree fields rfl) read filtered
  | _ => rfl

theorem agreeOn_of_ofJson {fields : Entries Json} {p : ParameterPredicate}
    (ordered : fields.Ordered) (left : ofJson c₁ key (.object fields) = .ok p)
    (right : ofJson c₂ key (.object fields) = .ok p) : c₁.AgreeOn c₂ fields.toList := by
  cases read : ofFields fields.toList with
  | error e =>
    rw [ofJson, read] at left
    cases left
  | ok body =>
    have takes := (ofFields_ok_iff ordered.once).mp read
    rw [ofJson_of_body read] at left right
    cases filtered : body.filter key with
    | error e =>
      rw [filtered] at left
      cases left
    | ok f =>
      rw [filtered] at left right
      obtain ⟨_, _, options, _⟩ := filter_ok_iff.mp filtered
      refine ⟨fun defers => ?_, fun defers => ?_⟩
      · obtain ⟨field, member, noPart, text⟩ := defers.condition
        obtain ⟨d, given, written, own⟩ := exists_draft takes filtered member noPart
        have unset := takes.caseSensitive.unset (defers.unset.lookUp ordered)
        exact (ParameterFilter.agreeFor_of_build left right given).caseSensitive
          (written.isText_iff.mp text) (by rw [own]) (options ▸ unset)
      · obtain ⟨field, member, noPart, number⟩ := defers.condition
        obtain ⟨d, given, written, own⟩ := exists_draft takes filtered member noPart
        have unset := takes.precision.unset (defers.unset.lookUp ordered)
        exact (ParameterFilter.agreeFor_of_build left right given).precision
          (written.isNumeric_iff.mp number) (by rw [own]) (options ▸ unset)

end ParameterPredicate

namespace FilterSet

variable {c₁ c₂ : Config}

theorem shapeOf_eq_parameter_iff {key : String} :
    shapeOf key = .ok .parameter ↔ key = "parameter_filter" := by
  constructor
  · intro found
    have named := KeyShape.iff.mp found
    generalize shape : Shape.parameter = s at named
    rcases named with scope | kind
    · cases scope <;> cases shape
    · cases kind <;> first | rfl | cases shape
  · rintro rfl
    rfl

theorem shapeOf_eq_filterSet_iff {key : String} :
    shapeOf key = .ok .filterSet ↔ isCombination key := by
  constructor
  · intro found
    have named := KeyShape.iff.mp found
    generalize shape : Shape.filterSet = s at named
    rcases named with scope | kind
    · cases scope <;> cases shape
    · rw [isCombination_name]
      cases kind <;> first | rfl | cases shape
  · intro combination
    obtain ⟨kind, found, logical⟩ := (Option.any_eq_true _ _).mp combination
    obtain rfl : kind.name = key := by simpa using List.find?_some found
    exact KeyShape.iff.mpr (FilterKind.shape_of_logical (by simpa using logical) ▸ .filter kind)

theorem entryOfJson_set {c : Config} {key : String} (combination : isCombination key)
    (fields : Entries Json) : entryOfJson c (key, .object fields) =
      (ofJson c (.object fields)).map fun g => (key, .filterSet g) := by
  have found := shapeOf_eq_filterSet_iff.mpr combination
  rw [entryOfJson_eq found, valueOfJson_object, ofJson_object]
  cases entriesOfJson c fields.toList <;> rfl

theorem entryOfJson_configs {field : String × Json}
    (own : field.1 = "parameter_filter" → ∀ body : Entries Json, field.2 = .object body →
      c₁.AgreeOn c₂ body.toList)
    (nested : isCombination field.1 → ∀ inner : Entries Json, field.2 = .object inner →
      ofJson c₁ (.object inner) = ofJson c₂ (.object inner)) :
    entryOfJson c₁ field = entryOfJson c₂ field := by
  obtain ⟨key, json⟩ := field
  cases found : shapeOf key with
  | error e =>
    rw [entryOfJson, entryOfJson, found]
    rfl
  | ok shape =>
    by_cases set : ∃ fields, shape = .filterSet ∧ json = .object fields
    · obtain ⟨inner, rfl, rfl⟩ := set
      have combination := shapeOf_eq_filterSet_iff.mp found
      rw [entryOfJson_set combination, entryOfJson_set combination, nested combination inner rfl]
    · have noSet : ∀ fields, ¬ (shape = .filterSet ∧ json = .object fields) :=
        fun fields both => set ⟨fields, both⟩
      rw [entryOfJson_eq found, entryOfJson_eq found, valueOfJson_leaf noSet, valueOfJson_leaf noSet]
      by_cases predicate : shape = .parameter
      · subst predicate
        rw [ofLeaf_parameter, ofLeaf_parameter,
          ParameterPredicate.ofJson_configs (own (shapeOf_eq_parameter_iff.mp found))]
      · rw [ofLeaf_eq predicate, ofLeaf_eq predicate]

/-- By induction on the size of the object: its own parameter filters and those nested in it are
all that the configuration comes into. -/
theorem entriesOfJson_configs (fields : Entries Json)
    (agree : ∀ body, (Json.object fields).Filters body → c₁.AgreeOn c₂ body.toList) :
    entriesOfJson c₁ fields.toList = entriesOfJson c₂ fields.toList := by
  rw [entriesOfJson_eq, entriesOfJson_eq]
  refine Scan.mapM_congr fun field member => entryOfJson_configs ?_ ?_
  · intro named body object
    exact agree body (.own (by rw [← named, ← object]; exact member))
  · intro combination inner object
    have _smaller := sizeOf_fields_lt member object
    rw [ofJson_object, ofJson_object, entriesOfJson_configs inner fun body deeper =>
      agree body (.nested combination member (object ▸ deeper))]
termination_by sizeOf fields.toList

theorem ofJson_configs {json : Json}
    (agree : ∀ body, json.Filters body → c₁.AgreeOn c₂ body.toList) :
    ofJson c₁ json = ofJson c₂ json := by
  cases json with
  | object fields => rw [ofJson_object, ofJson_object, entriesOfJson_configs fields agree]
  | _ => rfl

/-- No entry of an ordered object is hidden by another, so sets that are read alike have each entry
alike. -/
theorem entryOfJson_of_ofJson {fields : Entries Json} {f : FilterSet}
    (ordered : (Json.object fields).Ordered) (left : ofJson c₁ (.object fields) = .ok f)
    (right : ofJson c₂ (.object fields) = .ok f) {field : String × Json}
    (member : field ∈ fields.toList) :
    ∃ entry, entryOfJson c₁ field = .ok entry ∧ entryOfJson c₂ field = .ok entry := by
  cases ordered with
  | object here inside =>
    have plain {c : Config} {entries : List (String × FilterValue)}
        (read : entriesOfJson c fields.toList = .ok entries) : Entries.ofList entries = ⟨entries⟩ :=
      (((exactly_fields fields.toList inside).ok entries).mp read).ofList_eq here
    rw [ofJson_object] at left right
    obtain ⟨entries, first, rfl⟩ := Scan.map_ok_iff.mp left
    obtain ⟨entries', second, same⟩ := Scan.map_ok_iff.mp right
    rw [plain first, plain second] at same
    obtain rfl := Entries.mk.inj same
    rw [entriesOfJson_eq] at first second
    obtain ⟨entry, _, alike⟩ := Scan.exists_of_mapM_eq first second member
    exact ⟨entry, alike⟩

/-- By induction on where the parameter filter stands. -/
theorem agreeOn_of_ofJson {json : Json} {body : Entries Json} (filters : json.Filters body)
    {f : FilterSet} (ordered : json.Ordered) (left : ofJson c₁ json = .ok f)
    (right : ofJson c₂ json = .ok f) : c₁.AgreeOn c₂ body.toList := by
  have inside {fields : Entries Json} (ordered : (Json.object fields).Ordered)
      {field : String × Json} (member : field ∈ fields.toList) : field.2.Ordered := by
    cases ordered with
    | object _ inside => exact inside field member
  induction filters generalizing f with
  | own member =>
    obtain ⟨entry, first, second⟩ := entryOfJson_of_ofJson ordered left right member
    rw [entryOfJson_parameterFilter] at first second
    obtain ⟨p, made, rfl⟩ := Scan.map_ok_iff.mp first
    obtain ⟨p', alike, same⟩ := Scan.map_ok_iff.mp second
    obtain rfl := FilterValue.parameter.inj (Prod.mk.inj same).2
    cases inside ordered member with
    | object here => exact ParameterPredicate.agreeOn_of_ofJson here made alike
  | @nested fields body key json combination member deeper ih =>
    obtain ⟨inner, rfl⟩ : ∃ inner, json = .object inner := by
      cases deeper <;> exact ⟨_, rfl⟩
    obtain ⟨entry, first, second⟩ := entryOfJson_of_ofJson ordered left right member
    rw [entryOfJson_set combination] at first second
    obtain ⟨g, made, rfl⟩ := Scan.map_ok_iff.mp first
    obtain ⟨g', alike, same⟩ := Scan.map_ok_iff.mp second
    obtain rfl := FilterValue.filterSet.inj (Prod.mk.inj same).2
    exact ih (inside ordered member) made alike

end FilterSet

namespace Config

/-- To a query, two configurations that choose scopes alike are the same, whatever they have of rules:
its predicates are built already. To a set in JSON they are the same if they agree on whatever some
parameter filter defers to them, at any depth, and then fail alike as well. What both read alike
defers nothing on which they differ. -/
theorem noninterference (c₁ c₂ : Config) :
    (c₁.scopePrecedence = c₂.scopePrecedence →
      ∀ d f, Matches.ofFilters d c₁ f = Matches.ofFilters d c₂ f) ∧
    ∀ json : Json,
      ((∀ body, json.Filters body → c₁.AgreeOn c₂ body.toList) →
        FilterSet.ofJson c₁ json = FilterSet.ofJson c₂ json) ∧
      (json.Ordered → ∀ f, FilterSet.ofJson c₁ json = .ok f → FilterSet.ofJson c₂ json = .ok f →
        ∀ body, json.Filters body → c₁.AgreeOn c₂ body.toList) := by
  refine ⟨fun same _ => Matches.ofFilters_configs same, fun json => ⟨FilterSet.ofJson_configs, ?_⟩⟩
  intro ordered f left right body filters
  exact FilterSet.agreeOn_of_ofJson filters ordered left right

end Config

namespace FilterSet

def tallOrMarkedJson : Json :=
  .object ⟨[
    ("or_collector", .object ⟨[("parameter_filter", .object ⟨[
      ("begins", .string "w"), ("case_sensitive", .bool false),
      ("parameter", .integer (-1001203))]⟩)]⟩),
    ("parameter_filter", .object ⟨[
      ("not_less", .double 14), ("parameter", .integer (-1001300)),
      ("precision", .double 0.5)]⟩)]⟩

/-- The text has a case flag of its own, and the number a tolerance. -/
theorem tallOrMarkedJson_settled (c₁ c₂ : Config) {body : Entries Json}
    (filters : tallOrMarkedJson.Filters body) : c₁.AgreeOn c₂ body.toList := by
  cases filters with
  | own entry =>
    obtain rfl : body = _ := by simpa using entry
    refine ⟨fun defers => ?_, fun defers => ?_⟩
    · obtain ⟨field, member, noPart, text⟩ := defers.condition
      simp only [List.mem_cons, List.not_mem_nil, or_false] at member
      rcases member with rfl | rfl | rfl <;> cases text
    · simpa [ParameterBody.LeavesOpen] using defers.unset
  | nested combination entry deeper =>
    simp only [List.mem_cons, Prod.mk.injEq, List.not_mem_nil, or_false] at entry
    rcases entry with ⟨rfl, rfl⟩ | ⟨rfl, rfl⟩
    · cases deeper with
      | own entry =>
        obtain rfl : body = _ := by simpa using entry
        refine ⟨fun defers => ?_, fun defers => ?_⟩
        · simpa [ParameterBody.LeavesOpen] using defers.unset
        · obtain ⟨field, member, noPart, number⟩ := defers.condition
          simp only [List.mem_cons, List.not_mem_nil, or_false] at member
          rcases member with rfl | rfl | rfl
          · cases number
          · exact absurd (by decide) noPart
          · exact absurd (by decide) noPart
      | nested combination entry =>
        obtain ⟨rfl, rfl⟩ : _ = "parameter_filter" ∧ _ := by simpa using entry
        cases combination
    · cases combination

theorem tallOrMarkedJson_ordered : tallOrMarkedJson.Ordered := by
  have marked : (Json.object ⟨[("begins", .string "w"), ("case_sensitive", .bool false),
      ("parameter", .integer (-1001203))]⟩).Ordered := by
    refine .object ?_ ?_
    · simp only [Entries.Ordered, Ascending, List.pairwise_cons]
      decide
    · simp [Json.Ordered.string, Json.Ordered.bool, Json.Ordered.integer]
  have tall : (Json.object ⟨[("not_less", .double 14), ("parameter", .integer (-1001300)),
      ("precision", .double 0.5)]⟩).Ordered := by
    refine .object ?_ ?_
    · simp only [Entries.Ordered, Ascending, List.pairwise_cons]
      decide
    · simp [Json.Ordered.double, Json.Ordered.integer]
  refine .object (List.pairwise_pair.mpr (by decide)) ?_
  simpa using ⟨.object (List.pairwise_singleton _ _) (by simpa using marked), tall⟩

/-- Neither the case of the second configuration nor its tolerance of four counts. -/
theorem tallOrMarkedJson_noninterference :
    let height := Document.Sample.height
    let mark := Document.Sample.mark
    let d := Document.sample 0
    let other : Config := { caseSensitive := false, precision := 4 }
    let f : FilterSet := ⟨[
      ("or_collector", .filterSet ⟨[("parameter_filter",
        .parameter ⟨mark, [.compare mark .begins (.text "w" false)], false⟩)]⟩),
      ("parameter_filter",
        .parameter ⟨height, [.inverse (.compare height .less (.double 14 0.5))], false⟩)]⟩
    ofJson {} tallOrMarkedJson = .ok f ∧ ofJson other tallOrMarkedJson = .ok f ∧
      (∀ body, tallOrMarkedJson.Filters body → ({} : Config).AgreeOn other body.toList) ∧
      Matches.ofFilters d {} f = Matches.ofFilters d other f ∧
      (Matches.ofFilters d {} f).outcome = .ok ⟨.document, d, [⟨21⟩, ⟨22⟩, ⟨23⟩]⟩ := by
  intro height mark d other f
  obtain ⟨queries, reads⟩ := Config.noninterference {} other
  obtain ⟨alike, settled⟩ := reads tallOrMarkedJson
  have first : ofJson {} tallOrMarkedJson = .ok f := rfl
  have second : ofJson other tallOrMarkedJson = .ok f :=
    (alike fun _ => tallOrMarkedJson_settled {} other).symm.trans first
  exact ⟨first, second, settled tallOrMarkedJson_ordered f first second, queries rfl d f, rfl⟩

end FilterSet

end Sieve
