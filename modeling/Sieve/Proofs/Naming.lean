import Mathlib.Data.List.Infix
import Mathlib.Data.List.Nodup
import Mathlib.Data.List.TakeWhile
import Sieve.Reference.Basic

/-!
What names of classes and categories stand for. A name has blanks around it, then the qualifiers
that it spells, each at its turn, then a body; it stands for the token of the catalog whose own name
has the letters of the body. Taking a qualifier off by its bytes comes to the same, and never parts
a character.
-/

namespace Sieve

namespace Text

structure Trims (text core : List Char) : Prop where
  ends : ∃ before after, text = before ++ core ++ after ∧ ∀ c ∈ before ++ after, isBlank c
  first : ∀ c ∈ core.head?, ¬ isBlank c
  last : ∀ c ∈ core.getLast?, ¬ isBlank c

/-- What blanks in front hide is kept as it is. -/
theorem dropWhile_front {front rest : List Char} (blank : ∀ c ∈ front, isBlank c)
    (first : ∀ c ∈ rest.head?, ¬ isBlank c) : (front ++ rest).dropWhile isBlank = rest := by
  rw [List.dropWhile_append_of_pos blank]
  cases rest with
  | nil => rfl
  | cons c more => exact List.dropWhile_cons_of_neg (first c rfl)

theorem exists_front (cs : List Char) :
    ∃ front, cs = front ++ cs.dropWhile isBlank ∧ (∀ c ∈ front, isBlank c) ∧
      ∀ c ∈ (cs.dropWhile isBlank).head?, ¬ isBlank c := by
  refine ⟨cs.takeWhile isBlank, List.takeWhile_append_dropWhile.symm,
    fun c member => List.mem_takeWhile_imp member, fun c first => ?_⟩
  have outside := List.head?_dropWhile_not isBlank cs
  rw [Option.mem_def.mp first] at outside
  simpa using outside

theorem Trims.trim_eq {text core : List Char} (trims : Trims text core) : trim text = core := by
  obtain ⟨⟨before, after, rfl, blank⟩, first, last⟩ := trims
  have front : ∀ c ∈ before, isBlank c := fun c member => blank c (List.mem_append_left _ member)
  have back : ∀ c ∈ after.reverse, isBlank c := fun c member =>
    blank c (List.mem_append_right _ (List.mem_reverse.mp member))
  rw [← List.head?_reverse] at last
  cases core with
  | nil =>
    have all : ∀ c ∈ before ++ [] ++ after, isBlank c := by simpa using blank
    have none : (before ++ [] ++ after).dropWhile isBlank = [] :=
      List.dropWhile_eq_nil_iff.mpr all
    rw [trim, none]
    rfl
  | cons c rest =>
    have kept : (before ++ (c :: rest ++ after)).dropWhile isBlank = c :: rest ++ after :=
      dropWhile_front front (by simpa using first)
    rw [trim, List.append_assoc, kept, List.reverse_append, dropWhile_front back last,
      List.reverse_reverse]

theorem trims_trim (text : List Char) : Trims text (trim text) := by
  obtain ⟨before, split, front, first⟩ := exists_front text
  obtain ⟨after, rest, back, last⟩ := exists_front (text.dropWhile isBlank).reverse
  have parts : text.dropWhile isBlank = trim text ++ after.reverse := by
    rw [trim, ← List.reverse_append, ← rest, List.reverse_reverse]
  refine ⟨⟨before, after.reverse, ?_, ?_⟩, ?_, ?_⟩
  · rw [List.append_assoc, ← parts, ← split]
  · intro c member
    rcases List.mem_append.mp member with before | after
    · exact front c before
    · exact back c (List.mem_reverse.mp after)
  · intro c member
    refine first c ?_
    rw [parts, List.head?_append, Option.mem_def.mp member]
    rfl
  · rwa [trim, List.getLast?_reverse]

theorem trims_iff {text core : List Char} : Trims text core ↔ trim text = core :=
  ⟨Trims.trim_eq, fun same => same ▸ trims_trim text⟩

/-- ASCII case folding moves only the twenty-six capitals. -/
@[elab_as_elim]
theorem toLower_cases {motive : Char → Prop}
    (capital : ∀ n < 26, motive (Char.ofNat (65 + n)))
    (fixed : ∀ c : Char, c.toLower = c → motive c) (c : Char) : motive c := by
  by_cases inside : 65 ≤ c.toNat ∧ c.toNat ≤ 90
  · have same : Char.ofNat (65 + (c.toNat - 65)) = c := by
      rw [Nat.add_sub_cancel' inside.1, Char.ofNat_toNat]
    exact same ▸ capital (c.toNat - 65) (by omega)
  · refine fixed c (dif_neg fun capital => inside ?_)
    exact ⟨capital.1, capital.2⟩

end Text

namespace Name

def letters (c : Char) : List Char :=
  if Text.isBlank c ∨ c = '_' then [] else Text.lowerChar c

theorem normal_eq (name : List Char) : normal name = name.flatMap letters := by
  induction name with
  | nil => rfl
  | cons c rest ih =>
    rw [List.flatMap_cons, ← ih, normal, letters, normal]
    by_cases blank : Text.isBlank c <;> by_cases underscore : c = '_' <;> simp [blank, underscore]

theorem normal_append (first last : List Char) :
    normal (first ++ last) = normal first ++ normal last := by
  simp only [normal_eq, List.flatMap_append]

theorem letters_toLower (c : Char) : letters c.toLower = letters c := by
  cases c using Text.toLower_cases with
  | capital n below => revert n; decide +kernel
  | fixed c same => rw [same]

theorem normal_trim (name : List Char) : normal (Text.trim name) = normal name := by
  obtain ⟨before, after, split, blank⟩ := (Text.trims_trim name).ends
  have none (cs : List Char) (within : ∀ c ∈ cs, c ∈ before ++ after) : normal cs = [] := by
    rw [normal_eq, List.flatMap_eq_nil_iff]
    exact fun c member => if_pos (.inl (blank c (within c member)))
  have front := none before fun c member => List.mem_append_left _ member
  have back := none after fun c member => List.mem_append_right _ member
  calc normal (Text.trim name)
      = normal before ++ normal (Text.trim name) ++ normal after := by rw [front, back]; simp
    _ = normal name := by rw [← normal_append, ← normal_append, ← split]

def Spells (part : List Char) (qualifier : String) : Prop :=
  part.map Char.toLower = qualifier.toList.map Char.toLower

instance {part : List Char} {qualifier : String} : Decidable (Spells part qualifier) :=
  inferInstanceAs (Decidable (part.map Char.toLower = qualifier.toList.map Char.toLower))

section Spells

variable {part rest name : List Char} {q : String}

theorem Spells.length (spelled : Spells part q) : part.length = q.length := by
  simpa [String.length_toList] using congrArg List.length spelled

theorem Spells.normal (spelled : Spells part q) : normal part = normal q.toList := by
  have lowered (name : List Char) : Name.normal (name.map Char.toLower) = Name.normal name := by
    simp only [normal_eq, List.flatMap_map, letters_toLower]
  rw [← lowered part, spelled, lowered]

/-- A qualifier that is spelled in front shows in the letters of the name. -/
theorem Spells.normal_prefix (spelled : Spells part q) :
    Name.normal q.toList <+: Name.normal (part ++ rest) := by
  rw [normal_append, spelled.normal]
  exact List.prefix_append _ _

theorem Spells.dropQualifier (spelled : Spells part q) :
    dropQualifier (part ++ rest) q = rest := by
  have here : (part ++ rest).take q.length = part := List.take_left' spelled.length
  rw [Name.dropQualifier, here]
  exact (if_pos spelled).trans (List.drop_left' spelled.length)

theorem front_cases (name : List Char) (q : String) :
    (∃ part rest, name = part ++ rest ∧ Spells part q) ∨
      ∀ part rest, name = part ++ rest → ¬ Spells part q := by
  by_cases present : ∃ part rest, name = part ++ rest ∧ Spells part q
  · exact .inl present
  · exact .inr fun part rest split spelled => present ⟨part, rest, split, spelled⟩

theorem dropQualifier_absent (absent : ∀ part rest, name = part ++ rest → ¬ Spells part q) :
    dropQualifier name q = name :=
  if_neg (absent _ _ (List.take_append_drop q.length name).symm)

end Spells

/-- What stands behind the qualifiers of a name. Each is taken off at its turn if it is there. -/
inductive Qualified : List String → List Char → List Char → Prop where
  | body {body : List Char} : Qualified [] body body
  | taken {q : String} {more : List String} {part rest body : List Char} :
    Spells part q → Qualified more rest body → Qualified (q :: more) (part ++ rest) body
  | absent {q : String} {more : List String} {name body : List Char} :
    (∀ part rest, name = part ++ rest → ¬ Spells part q) → Qualified more name body →
      Qualified (q :: more) name body

theorem qualified_drop (qualifiers : List String) (name : List Char) :
    Qualified qualifiers name (qualifiers.foldl dropQualifier name) := by
  induction qualifiers generalizing name with
  | nil => exact .body
  | cons q more ih =>
    rcases front_cases name q with ⟨part, rest, rfl, spelled⟩ | absent
    · refine .taken spelled ?_
      rw [List.foldl_cons, spelled.dropQualifier]
      exact ih rest
    · refine .absent absent ?_
      rw [List.foldl_cons, dropQualifier_absent absent]
      exact ih name

theorem Qualified.drop_eq {qualifiers : List String} {name body : List Char}
    (qualified : Qualified qualifiers name body) : qualifiers.foldl dropQualifier name = body := by
  induction qualified with
  | body => rfl
  | taken spelled _ ih => rw [List.foldl_cons, spelled.dropQualifier, ih]
  | absent absent _ ih => rw [List.foldl_cons, dropQualifier_absent absent, ih]

theorem qualified_iff {qualifiers : List String} {name body : List Char} :
    Qualified qualifiers name body ↔ qualifiers.foldl dropQualifier name = body :=
  ⟨Qualified.drop_eq, fun same => same ▸ qualified_drop qualifiers name⟩

section Bytes

def size : List Char → Nat
  | [] => 0
  | c :: rest => c.utf8Size + size rest

theorem size_toList (s : String) : size s.toList = s.utf8ByteSize := by
  have all (name : List Char) : (String.ofList name).utf8ByteSize = size name := by
    induction name with
    | nil => rfl
    | cons c rest ih =>
      rw [String.ofList_cons, String.utf8ByteSize_append, String.utf8ByteSize_singleton, ih, size]
  rw [← all, String.ofList_toList]

/-- The characters of the first bytes, and the rest. There is no such cut if the text is too short
or a character stands across it. -/
def cut? (bytes : Nat) : List Char → Option (List Char × List Char)
  | [] => if bytes = 0 then some ([], []) else none
  | c :: rest =>
    if bytes = 0 then some ([], c :: rest)
    else if c.utf8Size ≤ bytes then
      (cut? (bytes - c.utf8Size) rest).map fun parts => (c :: parts.1, parts.2)
    else none

theorem cut?_append (head rest : List Char) :
    cut? (size head) (head ++ rest) = some (head, rest) := by
  induction head with
  | nil => cases rest <;> rfl
  | cons c head ih =>
    have positive := c.utf8Size_pos
    rw [List.cons_append, size, cut?, if_neg (by omega), if_pos (by omega),
      Nat.add_sub_cancel_left, ih]
    rfl

theorem append_of_cut? {bytes : Nat} {name head rest : List Char}
    (cut : cut? bytes name = some (head, rest)) : name = head ++ rest ∧ size head = bytes := by
  induction name generalizing bytes head with
  | nil =>
    obtain ⟨zero, same⟩ : 0 = bytes ∧ ([], []) = (head, rest) := by
      simpa [cut?, eq_comm] using cut
    cases same
    exact ⟨rfl, zero⟩
  | cons c more ih =>
    rw [cut?] at cut
    split at cut
    · next zero =>
      cases cut
      exact ⟨rfl, zero.symm⟩
    · split at cut
      · next fits =>
        obtain ⟨⟨front, back⟩, inner, same⟩ := Option.map_eq_some_iff.mp cut
        cases same
        obtain ⟨split, count⟩ := ih inner
        refine ⟨congrArg (c :: ·) split, ?_⟩
        change c.utf8Size + size front = bytes
        omega
      · cases cut

theorem cut?_iff {bytes : Nat} {name head rest : List Char} :
    cut? bytes name = some (head, rest) ↔ name = head ++ rest ∧ size head = bytes := by
  refine ⟨append_of_cut?, ?_⟩
  rintro ⟨rfl, rfl⟩
  exact cut?_append head rest

def dropBytes (name : List Char) (qualifier : String) : List Char :=
  match cut? qualifier.utf8ByteSize name with
  | some (head, rest) => if Spells head qualifier then rest else name
  | none => name

theorem Spells.size {part : List Char} {q : String} (spelled : Spells part q) :
    size part = q.utf8ByteSize := by
  have same (c : Char) : c.toLower.utf8Size = c.utf8Size := by
    cases c using Text.toLower_cases with
    | capital n below => revert n; decide +kernel
    | fixed c same => rw [same]
  have lowered (name : List Char) : Name.size (name.map Char.toLower) = Name.size name := by
    induction name with
    | nil => rfl
    | cons c rest ih => rw [List.map_cons, Name.size, Name.size, same, ih]
  rw [← lowered, spelled, lowered, size_toList]

theorem dropBytes_eq (name : List Char) (q : String) : dropBytes name q = dropQualifier name q := by
  rcases front_cases name q with ⟨part, rest, rfl, spelled⟩ | absent
  · have here : cut? q.utf8ByteSize (part ++ rest) = some (part, rest) :=
      cut?_iff.mpr ⟨rfl, spelled.size⟩
    rw [spelled.dropQualifier, dropBytes, here]
    exact if_pos spelled
  · rw [dropQualifier_absent absent, dropBytes]
    split
    · next head rest found => exact if_neg (absent head rest (cut?_iff.mp found).1)
    · rfl

end Bytes

inductive Fronts : List String → List Char → Prop where
  | nil : Fronts [] []
  | taken {q : String} {more : List String} {part rest : List Char} :
    Spells part q → Fronts more rest → Fronts (q :: more) (part ++ rest)
  | left {q : String} {more : List String} {rest : List Char} :
    Fronts more rest → Fronts (q :: more) rest

/-- The letters of neither qualifier begin with those of the other. -/
def Apart (p q : String) : Prop :=
  ¬ normal p.toList <+: normal q.toList ∧ ¬ normal q.toList <+: normal p.toList

instance {p q : String} : Decidable (Apart p q) := inferInstanceAs (Decidable (_ ∧ _))

theorem Apart.not_spells {p q : String} {part rest : List Char} (apart : Apart q p)
    (front : normal q.toList <+: normal (part ++ rest)) : ¬ Spells part p := by
  intro spelled
  rcases List.prefix_or_prefix_of_prefix front spelled.normal_prefix with first | second
  · exact apart.1 first
  · exact apart.2 second

def Solid (s : String) : Prop := ∀ c ∈ s.toList, ¬ Text.isBlank c

instance {s : String} : Decidable (Solid s) :=
  decidable_of_iff (s.toList.all fun c => !Text.isBlank c) (by simp [Solid])

/-- No two names have the same letters, and no name or qualifier can be taken for a qualifier. -/
structure Telling {α : Type} (qualifiers : List String) (catalog : List (α × String)) : Prop where
  apart : (catalog.map fun entry => normal entry.2.toList).Nodup
  bare : ∀ q ∈ qualifiers, ∀ entry ∈ catalog, ¬ normal q.toList <+: normal entry.2.toList
  fronts : qualifiers.Pairwise Apart
  solid : ∀ text ∈ qualifiers ++ catalog.map Prod.snd, Solid text

section Telling

variable {α : Type} {qualifiers more : List String} {catalog : List (α × String)}
  {fronts name body : List Char} {q : String}

theorem Telling.tail (telling : Telling (q :: more) catalog) : Telling more catalog where
  apart := telling.apart
  bare := fun p member => telling.bare p (List.mem_cons_of_mem _ member)
  fronts := (List.pairwise_cons.mp telling.fronts).2
  solid := fun text member => telling.solid text (List.mem_cons_of_mem _ member)

/-- What does not begin with the letters of a qualifier does not either with other ones in front. -/
theorem Fronts.clear (front : Fronts more fronts) (bare : ¬ normal q.toList <+: normal name)
    (apart : ∀ p ∈ more, Apart q p) : ¬ normal q.toList <+: normal (fronts ++ name) := by
  induction front with
  | nil => exact bare
  | taken spelled _ ih =>
    intro front
    rw [List.append_assoc] at front
    exact (apart _ List.mem_cons_self).not_spells front spelled
  | left _ ih => exact ih fun p member => apart p (List.mem_cons_of_mem _ member)

theorem Fronts.qualified (front : Fronts qualifiers fronts) (telling : Telling qualifiers catalog)
    {entry : α × String} (member : entry ∈ catalog) :
    Qualified qualifiers (fronts ++ entry.2.toList) entry.2.toList := by
  induction front with
  | nil => exact .body
  | taken spelled _ ih =>
    rw [List.append_assoc]
    exact .taken spelled (ih telling.tail)
  | @left q more rest front ih =>
    refine .absent (fun part behind split spelled => ?_) (ih telling.tail)
    have bare := telling.bare q List.mem_cons_self entry member
    have clear := front.clear bare (List.pairwise_cons.mp telling.fronts).1
    rw [split] at clear
    exact clear spelled.normal_prefix

/-- Blanks are no letters, so no ASCII case of a solid text has any. -/
theorem Spells.solid {part : List Char} (spelled : Spells part q) (solid : Solid q) :
    ∀ c ∈ part, ¬ Text.isBlank c := by
  have same (c : Char) : Text.isBlank c.toLower = Text.isBlank c := by
    cases c using Text.toLower_cases with
    | capital n below => revert n; decide +kernel
    | fixed c same => rw [same]
  intro c member
  have lowered : c.toLower ∈ q.toList.map Char.toLower := spelled ▸ List.mem_map_of_mem member
  obtain ⟨d, letter, equal⟩ := List.mem_map.mp lowered
  rw [← same, ← equal, same]
  exact solid d letter

theorem Fronts.solid (front : Fronts qualifiers fronts)
    (solid : ∀ q ∈ qualifiers, Solid q) :
    ∀ c ∈ fronts, ¬ Text.isBlank c := by
  induction front with
  | nil => simp
  | taken spelled _ ih =>
    intro c member
    rcases List.mem_append.mp member with part | rest
    · exact spelled.solid (solid _ List.mem_cons_self) c part
    · exact ih (fun q member => solid q (List.mem_cons_of_mem _ member)) c rest
  | left _ ih => exact ih fun q member => solid q (List.mem_cons_of_mem _ member)

end Telling

/-- The token that a name stands for: between the blanks at its ends and behind its qualifiers it
has the letters of the token's own name. -/
def Denotes {α : Type} (qualifiers : List String) (catalog : List (α × String)) (s : String)
    (token : α) : Prop :=
  ∃ core body name, Text.Trims s.toList core ∧ Qualified qualifiers core body ∧
    (token, name) ∈ catalog ∧ normal body = normal name.toList

structure Reads {α : Type} (qualifiers : List String) (catalog : List (α × String))
    (resolve : String → Except ReferenceError α) (unknown : String → ReferenceError) : Prop where
  exact : ∀ s token, resolve s = .ok token ↔ Denotes qualifiers catalog s token
  single : ∀ s a b, Denotes qualifiers catalog s a → Denotes qualifiers catalog s b → a = b
  own : ∀ entry ∈ catalog, ∀ before fronts after, (∀ c ∈ before ++ after, Text.isBlank c) →
    Fronts qualifiers fronts →
      resolve (String.ofList (before ++ (fronts ++ entry.2.toList) ++ after)) = .ok entry.1
  otherwise : ∀ s, (∀ token, ¬ Denotes qualifiers catalog s token) →
    resolve s = .error (unknown s)
  /-- No character is parted where qualifiers are taken off by their bytes. -/
  bytes : ∀ s : String,
    qualifiers.foldl dropBytes (Text.trim s.toList) =
      qualifiers.foldl dropQualifier (Text.trim s.toList)

section Reads

variable {α : Type} {qualifiers : List String} {catalog : List (α × String)} {s : String}
  {token : α}

theorem denotes_iff : Denotes qualifiers catalog s token ↔
    ∃ name, (token, name) ∈ catalog ∧ normal name.toList = matchKey qualifiers s := by
  simp only [Denotes, Text.trims_iff, qualified_iff, matchKey]
  constructor
  · rintro ⟨_, _, name, rfl, rfl, member, same⟩
    exact ⟨name, member, same.symm⟩
  · rintro ⟨name, member, same⟩
    exact ⟨_, _, name, rfl, rfl, member, same.symm⟩

def answer (qualifiers : List String) (catalog : List (α × String))
    (unknown : String → ReferenceError) (s : String) : Except ReferenceError α :=
  match catalog.find? fun entry => normal entry.2.toList = matchKey qualifiers s with
  | some entry => .ok entry.1
  | none => .error (unknown s)

theorem Telling.single (telling : Telling qualifiers catalog) {a b : α}
    (first : Denotes qualifiers catalog s a) (second : Denotes qualifiers catalog s b) :
    a = b := by
  obtain ⟨name, inside, same⟩ := denotes_iff.mp first
  obtain ⟨other, within, equal⟩ := denotes_iff.mp second
  have entries := List.inj_on_of_nodup_map telling.apart inside within (same.trans equal.symm)
  exact congrArg Prod.fst entries

theorem Telling.answer_eq_ok_iff (telling : Telling qualifiers catalog)
    {unknown : String → ReferenceError} :
    answer qualifiers catalog unknown s = .ok token ↔ Denotes qualifiers catalog s token := by
  rw [answer]
  split
  · next entry found =>
    have here : Denotes qualifiers catalog s entry.1 :=
      denotes_iff.mpr ⟨entry.2, List.mem_of_find?_eq_some found, by
        simpa using List.find?_some found⟩
    constructor
    · rintro ⟨⟩
      exact here
    · intro denotes
      rw [telling.single here denotes]
  · next missing =>
    refine ⟨nofun, fun denotes => ?_⟩
    obtain ⟨name, member, same⟩ := denotes_iff.mp denotes
    have other := List.find?_eq_none.mp missing (token, name) member
    exact absurd (by simpa using same) other

theorem answer_eq_error {unknown : String → ReferenceError}
    (nothing : ∀ token, ¬ Denotes qualifiers catalog s token) :
    answer qualifiers catalog unknown s = .error (unknown s) := by
  rw [answer]
  split
  · next entry found =>
    refine absurd (denotes_iff.mpr ?_) (nothing entry.1)
    exact ⟨entry.2, List.mem_of_find?_eq_some found, by simpa using List.find?_some found⟩
  · rfl

theorem Telling.reads (telling : Telling qualifiers catalog) (unknown : String → ReferenceError) :
    Reads qualifiers catalog (answer qualifiers catalog unknown) unknown where
  exact := fun s token => telling.answer_eq_ok_iff
  single := fun s a b => telling.single
  own := by
    intro entry member before fronts after blank front
    refine telling.answer_eq_ok_iff.mpr ?_
    refine ⟨fronts ++ entry.2.toList, entry.2.toList, entry.2, ?_,
      front.qualified telling member, member, rfl⟩
    have solid : ∀ c ∈ fronts ++ entry.2.toList, ¬ Text.isBlank c := by
      intro c inside
      rcases List.mem_append.mp inside with inside | inside
      · exact front.solid (fun q among => telling.solid q (List.mem_append_left _ among)) c inside
      · exact telling.solid entry.2
          (List.mem_append_right _ (List.mem_map_of_mem member)) c inside
    refine ⟨⟨before, after, String.toList_ofList, blank⟩, ?_, ?_⟩
    · exact fun c first => solid c (List.mem_of_mem_head? first)
    · exact fun c last => solid c (List.mem_of_mem_getLast? last)
  otherwise := fun s nothing => answer_eq_error nothing
  bytes := fun s => by simp only [funext₂ dropBytes_eq]

end Reads

end Name

theorem CategoryRef.qualifiers_telling :
    Name.Telling CategoryRef.qualifiers Category.catalog where
  apart := by decide +kernel
  bare := by decide +kernel
  fronts := by decide +kernel
  solid := by decide +kernel

def ElementClass.catalog : List (ElementClass × String) := all.map fun c => (c, c.name)

theorem ClassRef.qualifiers_telling : Name.Telling ClassRef.qualifiers ElementClass.catalog where
  apart := by decide +kernel
  bare := by decide +kernel
  fronts := by decide +kernel
  solid := by decide +kernel

theorem CategoryRef.resolve_name (s : String) : (name s).resolve =
    Name.answer qualifiers Category.catalog .unknownCategory s := by
  rw [resolve, Name.answer]
  generalize Category.catalog.find? _ = found
  cases found <;> rfl

theorem ClassRef.resolve_name (s : String) : (name s).resolve =
    Name.answer qualifiers ElementClass.catalog .unknownClass s := by
  rw [resolve, Name.answer, ElementClass.catalog, List.find?_map, Function.comp_def]
  generalize ElementClass.all.find? _ = found
  cases found <;> rfl

/-- Names of categories and of classes are read exactly. -/
theorem names_read_exactly :
    Name.Reads CategoryRef.qualifiers Category.catalog (fun s => (CategoryRef.name s).resolve)
        .unknownCategory ∧
      Name.Reads ClassRef.qualifiers ElementClass.catalog (fun s => (ClassRef.name s).resolve)
        .unknownClass := by
  rw [funext CategoryRef.resolve_name, funext ClassRef.resolve_name]
  exact ⟨CategoryRef.qualifiers_telling.reads _, ClassRef.qualifiers_telling.reads _⟩

example : (CategoryRef.name " builtincategory.OST_curtain wall_PANELS").resolve =
    .ok .curtainWallPanels := by
  decide +kernel

end Sieve
