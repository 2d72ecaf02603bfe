import Sieve.Proofs.Naming

/-!
Names that differ only in case, blanks and underscores. A qualifier is taken off as it is written,
before blanks and underscores are left out, so one that has them added or missing stays in the name
and the name stands for nothing. Names that keep their qualifiers whole stand for the same.
-/

namespace Sieve

namespace Name

/-- Every qualifier that the letters of the name begin with, at its turn, is also written out. -/
def Unbroken : List String → List Char → Prop
  | [], _ => True
  | q :: more, name =>
    (normal q.toList <+: normal name → Spells (name.take q.length) q) ∧
      Unbroken more (dropQualifier name q)

instance Unbroken.decide : (qualifiers : List String) → (name : List Char) →
    Decidable (Unbroken qualifiers name)
  | [], _ => .isTrue trivial
  | q :: more, name =>
    have := Unbroken.decide more (dropQualifier name q)
    inferInstanceAs (Decidable (_ ∧ _))

def Whole (qualifiers : List String) (s : String) : Prop :=
  Unbroken qualifiers (Text.trim s.toList)

instance {qualifiers : List String} {s : String} : Decidable (Whole qualifiers s) :=
  inferInstanceAs (Decidable (Unbroken _ _))

def bareLetters (qualifiers : List String) (letters : List Char) : List Char :=
  qualifiers.foldl (fun letters q =>
    if normal q.toList <+: letters then letters.drop (normal q.toList).length else letters) letters

section Letters

variable {α : Type} {qualifiers more : List String} {catalog : List (α × String)}
  {name : List Char} {q : String}

/-- The letters behind a whole qualifier are the rest of the letters. -/
theorem normal_dropQualifier (whole : normal q.toList <+: normal name →
    Spells (name.take q.length) q) :
    normal (dropQualifier name q) =
      if normal q.toList <+: normal name then (normal name).drop (normal q.toList).length
      else normal name := by
  rcases front_cases name q with ⟨part, rest, rfl, spelled⟩ | absent
  · rw [if_pos spelled.normal_prefix, spelled.dropQualifier, normal_append, spelled.normal,
      List.drop_left]
  · have other : ¬ normal q.toList <+: normal name := fun front =>
      absent _ _ (List.take_append_drop q.length name).symm (whole front)
    rw [if_neg other, dropQualifier_absent absent]

theorem Unbroken.normal_eq (unbroken : Unbroken qualifiers name) :
    normal (qualifiers.foldl dropQualifier name) = bareLetters qualifiers (normal name) := by
  induction qualifiers generalizing name with
  | nil => rfl
  | cons q more ih =>
    obtain ⟨whole, later⟩ := unbroken
    rw [List.foldl_cons, ih later, normal_dropQualifier whole]
    rfl

/-- Behind the letters of one qualifier no other is looked for with success. -/
theorem foldl_dropQualifier_of_prefix (front : normal q.toList <+: normal name)
    (apart : ∀ p ∈ more, Apart q p) : more.foldl dropQualifier name = name := by
  induction more with
  | nil => rfl
  | cons p more ih =>
    have absent : ∀ part rest, name = part ++ rest → ¬ Spells part p := by
      rintro part rest rfl
      exact (apart p List.mem_cons_self).not_spells front
    rw [List.foldl_cons, dropQualifier_absent absent]
    exact ih fun p member => apart p (List.mem_cons_of_mem _ member)

/-- A name with a broken qualifier keeps its letters, and no name of the catalog begins so. -/
theorem Telling.unbroken (telling : Telling qualifiers catalog) {entry : α × String}
    (member : entry ∈ catalog)
    (same : normal (qualifiers.foldl dropQualifier name) = normal entry.2.toList) :
    Unbroken qualifiers name := by
  induction qualifiers generalizing name with
  | nil => trivial
  | cons q more ih =>
    refine ⟨fun front => ?_, ih telling.tail same⟩
    by_contra broken
    have kept : dropQualifier name q = name := if_neg broken
    have rest := foldl_dropQualifier_of_prefix front (List.pairwise_cons.mp telling.fronts).1
    rw [List.foldl_cons, kept, rest] at same
    rw [same] at front
    exact telling.bare q List.mem_cons_self entry member front

end Letters

/-- Two names are read alike as far as their qualifiers are whole in both or in neither. -/
structure ReadAlike {α : Type} (qualifiers : List String)
    (resolve : String → Except ReferenceError α) (s t : String) : Prop where
  agree : (Whole qualifiers s ↔ Whole qualifiers t) →
    ∀ token, resolve s = .ok token ↔ resolve t = .ok token
  /-- The token of one name is that of the other too, unless this one breaks a qualifier. -/
  kept : ∀ token, resolve s = .ok token → (resolve t = .ok token ↔ Whole qualifiers t)

section Alike

variable {α : Type} {qualifiers : List String} {catalog : List (α × String)} {s t : String}
  {token : α}

theorem Telling.whole (telling : Telling qualifiers catalog)
    (denotes : Denotes qualifiers catalog s token) : Whole qualifiers s := by
  obtain ⟨name, member, same⟩ := denotes_iff.mp denotes
  exact telling.unbroken member same.symm

theorem Whole.matchKey_eq (whole : Whole qualifiers s) :
    matchKey qualifiers s = bareLetters qualifiers (normal s.toList) := by
  rw [matchKey, Unbroken.normal_eq whole, normal_trim]

theorem Denotes.respell (denotes : Denotes qualifiers catalog s token)
    (same : normal s.toList = normal t.toList) (first : Whole qualifiers s)
    (second : Whole qualifiers t) : Denotes qualifiers catalog t token := by
  obtain ⟨name, member, key⟩ := denotes_iff.mp denotes
  rw [first.matchKey_eq, same, ← second.matchKey_eq] at key
  exact denotes_iff.mpr ⟨name, member, key⟩

theorem Telling.readAlike (telling : Telling qualifiers catalog)
    (unknown : String → ReferenceError) (same : normal s.toList = normal t.toList) :
    ReadAlike qualifiers (answer qualifiers catalog unknown) s t where
  agree := by
    intro both token
    simp only [telling.answer_eq_ok_iff]
    constructor
    · intro denotes
      have whole := telling.whole denotes
      exact denotes.respell same whole (both.mp whole)
    · intro denotes
      have whole := telling.whole denotes
      exact denotes.respell same.symm whole (both.mpr whole)
  kept := by
    intro token
    simp only [telling.answer_eq_ok_iff]
    exact fun denotes =>
      ⟨telling.whole, fun whole => denotes.respell same (telling.whole denotes) whole⟩

end Alike

end Name

/-- Names of the same letters stand for the same category and for the same class, as far as they
have their qualifiers whole. -/
theorem names_read_alike {s t : String} (same : Name.normal s.toList = Name.normal t.toList) :
    Name.ReadAlike CategoryRef.qualifiers (fun s => (CategoryRef.name s).resolve) s t ∧
      Name.ReadAlike ClassRef.qualifiers (fun s => (ClassRef.name s).resolve) s t := by
  rw [funext CategoryRef.resolve_name, funext ClassRef.resolve_name]
  exact ⟨CategoryRef.qualifiers_telling.readAlike _ same,
    ClassRef.qualifiers_telling.readAlike _ same⟩

theorem columns_read_alike :
    Name.normal "OST_structuralColumns".toList = Name.normal " ost_STRUCTURAL columns".toList ∧
      (CategoryRef.name " ost_STRUCTURAL columns").resolve = .ok .structuralColumns := by
  have same : Name.normal "OST_structuralColumns".toList =
      Name.normal " ost_STRUCTURAL columns".toList := by decide +kernel
  refine ⟨same, ?_⟩
  refine ((names_read_alike same).1.kept .structuralColumns ?_).mpr ?_
  · decide +kernel
  · decide +kernel

/-- A blank in the place of the underscore breaks the qualifier. -/
theorem broken_qualifier_loses_category :
    Name.normal "OST_Walls".toList = Name.normal "OST Walls".toList ∧
      (CategoryRef.name "OST_Walls").resolve = .ok .walls ∧
      (CategoryRef.name "OST Walls").resolve = .error (.unknownCategory "OST Walls") ∧
      Name.normal "DB.Wall".toList = Name.normal "D B.Wall".toList ∧
      (ClassRef.name "DB.Wall").resolve = .ok .wall ∧
      (ClassRef.name "D B.Wall").resolve = .error (.unknownClass "D B.Wall") := by
  decide +kernel

end Sieve
