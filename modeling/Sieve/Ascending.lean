/-!
Lists in strictly ascending order of a key: no two entries share a key, and a new entry takes the
place of the one that has its key. Documents, filter sets, parameters and sets of ids are kept so.
-/

namespace Sieve

/-- Each entry's key is below the keys of all entries after it. -/
def Ascending {α κ : Type} [LT κ] (key : α → κ) (xs : List α) : Prop :=
  xs.Pairwise fun a b => key a < key b

namespace Ascending

theorem nil {α κ : Type} [LT κ] {key : α → κ} : Ascending key ([] : List α) :=
  List.Pairwise.nil

variable {α κ : Type} [LT κ] [DecidableLT κ] {key : α → κ}

/-- Puts an entry in its place by key, instead of the one with the same key. -/
def insert (key : α → κ) (x : α) : List α → List α
  | [] => [x]
  | y :: rest =>
    if key x < key y then x :: y :: rest
    else if key y < key x then y :: insert key x rest
    else x :: rest

/-- Inserts one after another, so a later entry replaces an earlier one with its key. -/
def insertAll (key : α → κ) (xs sorted : List α) : List α :=
  xs.foldl (fun sorted x => insert key x sorted) sorted

def ofList (key : α → κ) (xs : List α) : List α := insertAll key xs []

theorem mem_of_mem_insert {x y : α} {xs : List α} (h : y ∈ insert key x xs) :
    y = x ∨ y ∈ xs := by
  induction xs with
  | nil => simpa [insert] using h
  | cons z rest ih =>
    rw [insert] at h
    split at h
    · simpa using h
    · split at h
      · rcases List.mem_cons.mp h with rfl | h
        · simp
        · rcases ih h with rfl | h <;> simp [*]
      · rcases List.mem_cons.mp h with rfl | h <;> simp [*]

theorem mem_of_mem_insertAll {x : α} {xs sorted : List α} (h : x ∈ insertAll key xs sorted) :
    x ∈ xs ∨ x ∈ sorted := by
  induction xs generalizing sorted with
  | nil => exact .inr h
  | cons y rest ih =>
    rcases ih h with later | before
    · exact .inl (List.mem_cons_of_mem _ later)
    · rcases mem_of_mem_insert before with rfl | before
      · exact .inl List.mem_cons_self
      · exact .inr before

theorem mem_of_mem_ofList {x : α} {xs : List α} (h : x ∈ ofList key xs) : x ∈ xs := by
  simpa using mem_of_mem_insertAll h

theorem insert_ascending [Trans (α := κ) (· < ·) (· < ·) (· < ·)]
    [Std.Trichotomous (α := κ) (· < ·)] {x : α} {xs : List α} (h : Ascending key xs) :
    Ascending key (insert key x xs) := by
  induction xs with
  | nil => simp [insert, Ascending]
  | cons z rest ih =>
    have ⟨below, tail⟩ := List.pairwise_cons.mp h
    rw [insert]
    split
    · next lt =>
      refine List.pairwise_cons.mpr ⟨fun y hy => ?_, h⟩
      rcases List.mem_cons.mp hy with rfl | hy
      · exact lt
      · exact Trans.trans lt (below y hy)
    · next notLt =>
      split
      · next gt =>
        refine List.pairwise_cons.mpr ⟨fun y hy => ?_, ih tail⟩
        rcases mem_of_mem_insert hy with rfl | hy
        · exact gt
        · exact below y hy
      · next notGt =>
        have same : key x = key z := Std.Trichotomous.trichotomous _ _ notLt notGt
        exact List.pairwise_cons.mpr ⟨fun y hy => same ▸ below y hy, tail⟩

/-- The new entry is found under its key, and all others under theirs. -/
theorem find?_insert [DecidableEq κ] [Std.Irrefl (α := κ) (· < ·)]
    [Std.Trichotomous (α := κ) (· < ·)] (x : α) (xs : List α) (k : κ) :
    (insert key x xs).find? (key · = k) =
      if key x = k then some x else xs.find? (key · = k) := by
  induction xs with
  | nil => by_cases h : key x = k <;> simp [insert, h]
  | cons z rest ih =>
    rw [insert]
    split
    · by_cases h : key x = k <;> simp [h]
    · next notLt =>
      split
      · next gt =>
        have apart : key z ≠ key x := by
          intro same
          rw [same] at gt
          exact Std.Irrefl.irrefl _ gt
        simp only [List.find?_cons, ih]
        by_cases h : key z = k
        · subst h; simp [Ne.symm apart]
        · simp [h]
      · next notGt =>
        have same : key x = key z := Std.Trichotomous.trichotomous _ _ notLt notGt
        by_cases h : key x = k
        · simp [h]
        · simp [h, same ▸ h]

theorem insertAll_ascending [Trans (α := κ) (· < ·) (· < ·) (· < ·)]
    [Std.Trichotomous (α := κ) (· < ·)] (xs : List α) {sorted : List α}
    (h : Ascending key sorted) : Ascending key (insertAll key xs sorted) := by
  induction xs generalizing sorted with
  | nil => exact h
  | cons x rest ih => exact ih (insert_ascending h)

theorem ofList_ascending [Trans (α := κ) (· < ·) (· < ·) (· < ·)]
    [Std.Trichotomous (α := κ) (· < ·)] (xs : List α) : Ascending key (ofList key xs) :=
  insertAll_ascending xs nil

theorem insert_last [Trans (α := κ) (· < ·) (· < ·) (· < ·)] [Std.Irrefl (α := κ) (· < ·)]
    {x : α} {xs : List α} (above : ∀ y ∈ xs, key y < key x) : insert key x xs = xs ++ [x] := by
  induction xs with
  | nil => rfl
  | cons y rest ih =>
    have lt := above y List.mem_cons_self
    have notLt : ¬ key x < key y := fun gt => Std.Irrefl.irrefl _ (Trans.trans lt gt)
    rw [insert, if_neg notLt, if_pos lt, ih fun z member => above z (List.mem_cons_of_mem _ member)]
    rfl

theorem insertAll_eq_append [Trans (α := κ) (· < ·) (· < ·) (· < ·)]
    [Std.Irrefl (α := κ) (· < ·)] {xs sorted : List α} (h : Ascending key (sorted ++ xs)) :
    insertAll key xs sorted = sorted ++ xs := by
  induction xs generalizing sorted with
  | nil => simp [insertAll]
  | cons x rest ih =>
    have above : ∀ y ∈ sorted, key y < key x := fun y member =>
      (List.pairwise_append.mp h).2.2 y member x List.mem_cons_self
    have split : sorted ++ x :: rest = (sorted ++ [x]) ++ rest := by simp
    rw [split] at h ⊢
    rw [← ih h, ← insert_last above]
    rfl

/-- A list that ascends already stays as it is. -/
theorem ofList_eq_self [Trans (α := κ) (· < ·) (· < ·) (· < ·)] [Std.Irrefl (α := κ) (· < ·)]
    {xs : List α} (h : Ascending key xs) : ofList key xs = xs := insertAll_eq_append h

end Ascending

end Sieve
