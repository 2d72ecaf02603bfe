import Mathlib.Data.List.Forall2

/-!
Going through a list in `Except`: the whole succeeds exactly if every step does, and otherwise fails
as the first step that fails.
-/

namespace Sieve.Scan

variable {ε α β : Type} {f : α → Except ε β}

theorem map_ok_iff {x : Except ε α} {g : α → β} {b : β} :
    x.map g = .ok b ↔ ∃ a, x = .ok a ∧ g a = b := by
  cases x <;> simp [Except.map]

theorem map_error_iff {x : Except ε α} {g : α → β} {e : ε} :
    x.map g = .error e ↔ x = .error e := by
  cases x <;> simp [Except.map]

theorem mapM_ok_iff {xs : List α} {ys : List β} :
    xs.mapM f = .ok ys ↔ List.Forall₂ (fun x y => f x = .ok y) xs ys := by
  induction xs generalizing ys with
  | nil => cases ys <;> simp [pure, Except.pure]
  | cons x rest ih =>
    rw [List.mapM_cons, List.forall₂_cons_left_iff]
    simp only [← ih]
    cases f x with
    | error e => simp [bind, Except.bind]
    | ok y => cases rest.mapM f <;> simp [bind, Except.bind, pure, Except.pure, eq_comm]

theorem exists_of_mem_mapM {xs : List α} {ys : List β} (ended : xs.mapM f = .ok ys) {y : β}
    (member : y ∈ ys) : ∃ x ∈ xs, f x = .ok y := by
  have each := mapM_ok_iff.mp ended
  induction each with
  | nil => cases member
  | cons here later ih =>
    rcases List.mem_cons.mp member with rfl | member
    · exact ⟨_, List.mem_cons_self, here⟩
    · obtain ⟨x, found, made⟩ := ih (mapM_ok_iff.mpr later) member
      exact ⟨x, List.mem_cons_of_mem _ found, made⟩

theorem mapM_succeeds_iff {xs : List α} :
    (∃ ys, xs.mapM f = .ok ys) ↔ ∀ x ∈ xs, ∃ y, f x = .ok y := by
  induction xs with
  | nil => simp [pure, Except.pure]
  | cons x rest ih =>
    rw [List.forall_mem_cons, ← ih, List.mapM_cons]
    cases f x with
    | error e => simp [bind, Except.bind]
    | ok y => cases rest.mapM f <;> simp [bind, Except.bind, pure, Except.pure]

theorem mapM_error_iff {xs : List α} {e : ε} :
    xs.mapM f = .error e ↔ ∃ before x after, xs = before ++ x :: after ∧
      (∀ earlier ∈ before, ∃ y, f earlier = .ok y) ∧ f x = .error e := by
  induction xs with
  | nil => simp [pure, Except.pure]
  | cons x rest ih =>
    rw [List.mapM_cons]
    constructor
    · intro failed
      cases here : f x with
      | error e' =>
        rw [here] at failed
        obtain rfl := Except.error.inj failed
        exact ⟨[], x, rest, rfl, by simp, here⟩
      | ok y =>
        have later : rest.mapM f = .error e := by
          rw [here] at failed
          cases ended : rest.mapM f with
          | error e' =>
            rw [ended] at failed
            exact congrArg _ (Except.error.inj failed)
          | ok ys =>
            rw [ended] at failed
            cases failed
        obtain ⟨before, z, after, rfl, fine, failed⟩ := ih.mp later
        exact ⟨x :: before, z, after, rfl, List.forall_mem_cons.mpr ⟨⟨y, here⟩, fine⟩, failed⟩
    · rintro ⟨before, z, after, split, fine, failed⟩
      cases before with
      | nil =>
        obtain ⟨rfl, rfl⟩ := List.cons.inj split
        rw [failed]
        rfl
      | cons first before =>
        obtain ⟨rfl, rfl⟩ := List.cons.inj split
        obtain ⟨⟨y, here⟩, fine⟩ := List.forall_mem_cons.mp fine
        have later := ih.mpr ⟨before, z, after, rfl, fine, failed⟩
        rw [here, later]
        rfl

theorem mapM_eq_some_iff {g : α → Option β} {xs : List α} {ys : List β} :
    xs.mapM g = some ys ↔ List.Forall₂ (fun x y => g x = some y) xs ys := by
  induction xs generalizing ys with
  | nil => cases ys <;> simp
  | cons x rest ih =>
    rw [List.mapM_cons, List.forall₂_cons_left_iff]
    simp only [← ih]
    cases g x with
    | none => simp
    | some y => cases rest.mapM g <;> simp [eq_comm]

/-- Steps that come to the same one by one come to the same as a whole. -/
theorem mapM_congr {g : α → Except ε β} {xs : List α} (same : ∀ x ∈ xs, f x = g x) :
    xs.mapM f = xs.mapM g := by
  induction xs with
  | nil => rfl
  | cons x rest ih =>
    obtain ⟨here, later⟩ := List.forall_mem_cons.mp same
    rw [List.mapM_cons, List.mapM_cons, here, ih later]

/-- Two ways through a list that end alike are alike at each step. -/
theorem exists_of_mapM_eq {g : α → Except ε β} {xs : List α} {ys : List β}
    (left : xs.mapM f = .ok ys) (right : xs.mapM g = .ok ys) {x : α} (member : x ∈ xs) :
    ∃ y ∈ ys, f x = .ok y ∧ g x = .ok y := by
  obtain ⟨lengths, each⟩ := List.forall₂_iff_get.mp (mapM_ok_iff.mp left)
  obtain ⟨_, each'⟩ := List.forall₂_iff_get.mp (mapM_ok_iff.mp right)
  obtain ⟨i, inside, rfl⟩ := List.getElem_of_mem member
  have insideToo : i < ys.length := lengths ▸ inside
  exact ⟨ys[i], List.getElem_mem insideToo, each i inside insideToo, each' i inside insideToo⟩

theorem bind_pure_ok_iff {x : Except ε α} {g : α → β} {b : β} :
    (x >>= fun a => pure (g a)) = .ok b ↔ ∃ a, x = .ok a ∧ g a = b := by
  cases x <;> simp [bind, Except.bind, pure, Except.pure]

theorem bind_pure_error_iff {x : Except ε α} {g : α → β} {e : ε} :
    (x >>= fun a => pure (g a)) = .error e ↔ x = .error e := by
  cases x <;> simp [bind, Except.bind, pure, Except.pure]

inductive First (bad : α → Prop) : List α → α → Prop where
  | here {x : α} {rest : List α} (isBad : bad x) : First bad (x :: rest) x
  | later {x y : α} {rest : List α} (fine : ¬ bad x) (first : First bad rest y) :
      First bad (x :: rest) y

theorem First.mem {bad : α → Prop} {xs : List α} {x : α} (first : First bad xs x) : x ∈ xs := by
  induction first with
  | here => exact List.mem_cons_self
  | later _ _ ih => exact List.mem_cons_of_mem _ ih

theorem First.isBad {bad : α → Prop} {xs : List α} {x : α} (first : First bad xs x) : bad x := by
  induction first with
  | here isBad => exact isBad
  | later _ _ ih => exact ih

theorem not_first_nil {bad : α → Prop} {y : α} : ¬ First bad [] y := nofun

theorem first_cons_iff {bad : α → Prop} {x y : α} {rest : List α} :
    First bad (x :: rest) y ↔ bad x ∧ y = x ∨ ¬ bad x ∧ First bad rest y := by
  constructor
  · rintro (⟨isBad⟩ | ⟨fine, first⟩)
    · exact .inl ⟨isBad, rfl⟩
    · exact .inr ⟨fine, first⟩
  · rintro (⟨isBad, rfl⟩ | ⟨fine, first⟩)
    · exact .here isBad
    · exact .later fine first

theorem first_map_iff {γ : Type} {bad : γ → Prop} {g : α → γ} {xs : List α} {y : γ} :
    First bad (xs.map g) y ↔ ∃ x, First (fun x => bad (g x)) xs x ∧ y = g x := by
  induction xs with
  | nil => simp [not_first_nil]
  | cons x rest ih =>
    rw [List.map_cons, first_cons_iff, ih]
    simp only [first_cons_iff]
    grind

/-- Where each bad one fails for a cause of its own, the whole fails for that of the first. -/
theorem mapM_error_iff_first {bad : α → Prop} {cause : α → ε}
    (each : ∀ x e, f x = .error e ↔ bad x ∧ e = cause x) {xs : List α} {e : ε} :
    xs.mapM f = .error e ↔ ∃ x, First bad xs x ∧ e = cause x := by
  induction xs with
  | nil => simp [not_first_nil, pure, Except.pure]
  | cons x rest ih =>
    rw [List.mapM_cons]
    simp only [first_cons_iff]
    cases here : f x with
    | error e' =>
      obtain ⟨isBad, rfl⟩ := (each x e').mp here
      simp [isBad, bind, Except.bind, eq_comm]
    | ok y =>
      have fine : ¬ bad x := by
        intro isBad
        rw [(each x (cause x)).mpr ⟨isBad, rfl⟩] at here
        cases here
      simp only [fine, false_and, not_false_eq_true, true_and, false_or, ← ih]
      exact bind_pure_error_iff

/-- If a step fails by what it takes in alone, it is as if each stood by itself. -/
theorem foldlM_succeeds_iff {step : β → α → Except ε β} {bad : α → ε → Prop}
    (error : ∀ b x e, step b x = .error e ↔ bad x e) {xs : List α} {b : β} :
    (∃ last, xs.foldlM step b = .ok last) ↔ ∀ x ∈ xs, ∀ e, ¬ bad x e := by
  induction xs generalizing b with
  | nil => simp [pure, Except.pure]
  | cons x rest ih =>
    rw [List.foldlM_cons, List.forall_mem_cons]
    cases here : step b x with
    | error e =>
      have refused := (error b x e).mp here
      constructor
      · rintro ⟨_, ended⟩
        cases ended
      · rintro ⟨fineHere, _⟩
        exact absurd refused (fineHere e)
    | ok next =>
      have fineHere : ∀ e, ¬ bad x e := by simp [← error b, here]
      exact ih.trans ⟨fun fine => ⟨fineHere, fine⟩, And.right⟩

/-- Steps that fail by what they take in, whatever came of the steps before them. -/
theorem foldlM_error_iff {step : β → α → Except ε β} {bad : α → ε → Prop}
    (error : ∀ b x e, step b x = .error e ↔ bad x e) {xs : List α} {b : β} {e : ε} :
    xs.foldlM step b = .error e ↔ ∃ before x after, xs = before ++ x :: after ∧
      (∀ earlier ∈ before, ∀ e, ¬ bad earlier e) ∧ bad x e := by
  induction xs generalizing b with
  | nil => simp [pure, Except.pure]
  | cons x rest ih =>
    rw [List.foldlM_cons]
    constructor
    · intro failed
      cases here : step b x with
      | error e' =>
        rw [here] at failed
        obtain rfl := Except.error.inj failed
        exact ⟨[], x, rest, rfl, by simp, (error b x e').mp here⟩
      | ok next =>
        rw [here] at failed
        obtain ⟨before, y, after, rfl, fine, refused⟩ := ih.mp failed
        have fineHere : ∀ e, ¬ bad x e := by simp [← error b, here]
        exact ⟨x :: before, y, after, rfl, List.forall_mem_cons.mpr ⟨fineHere, fine⟩, refused⟩
    · rintro ⟨before, y, after, split, fine, refused⟩
      cases before with
      | nil =>
        obtain ⟨rfl, rfl⟩ := List.cons.inj split
        rw [(error b x e).mpr refused]
        rfl
      | cons first before =>
        obtain ⟨rfl, rfl⟩ := List.cons.inj split
        obtain ⟨fineHere, fine⟩ := List.forall_mem_cons.mp fine
        cases here : step b x with
        | error e' => exact absurd ((error b x e').mp here) (fineHere e')
        | ok next => exact ih.mpr ⟨before, y, after, rfl, fine, refused⟩

theorem exists_forall₂_iff {R : α → β → Prop} {xs : List α} :
    (∃ ys, List.Forall₂ R xs ys) ↔ ∀ x ∈ xs, ∃ y, R x y := by
  induction xs with
  | nil => simp
  | cons x rest ih =>
    simp only [List.forall₂_cons_left_iff, List.forall_mem_cons, ← ih]
    grind

theorem forall₂_iff_of_mem {R S : α → β → Prop} {xs : List α} {ys : List β}
    (same : ∀ x ∈ xs, ∀ y, R x y ↔ S x y) : List.Forall₂ R xs ys ↔ List.Forall₂ S xs ys := by
  induction xs generalizing ys with
  | nil => simp
  | cons x rest ih =>
    rw [List.forall₂_cons_left_iff, List.forall₂_cons_left_iff]
    simp only [same x List.mem_cons_self,
      ih fun y member => same y (List.mem_cons_of_mem _ member)]

/-- What a computation gives when it succeeds, and what it fails as, both to the full. -/
structure Exactly (x : Except ε α) (good : α → Prop) (bad : ε → Prop) : Prop where
  ok : ∀ a, x = .ok a ↔ good a
  error : ∀ e, x = .error e ↔ bad e

theorem Exactly.refl (x : Except ε α) : Exactly x (x = .ok ·) (x = .error ·) :=
  ⟨fun _ => Iff.rfl, fun _ => Iff.rfl⟩

theorem Exactly.map {x : Except ε α} {good : α → Prop} {bad : ε → Prop}
    (exact : Exactly x good bad) (g : α → β) :
    Exactly (x.map g) (fun b => ∃ a, good a ∧ g a = b) bad where
  ok b := by simp only [map_ok_iff, exact.ok]
  error e := by rw [map_error_iff, exact.error]

theorem Exactly.mapError {ε' : Type} {x : Except ε α} {good : α → Prop} {bad : ε → Prop}
    (exact : Exactly x good bad) (g : ε → ε') :
    Exactly (x.mapError g) good fun e' => ∃ e, bad e ∧ g e = e' where
  ok a := by
    rw [← exact.ok]
    cases x <;> simp [Except.mapError]
  error e' := by
    simp only [← exact.error]
    cases x <;> simp [Except.mapError]

theorem Exactly.bind {x : Except ε α} {g : α → Except ε β} {good : α → Prop} {bad : ε → Prop}
    {next : α → β → Prop} {worse : α → ε → Prop} (first : Exactly x good bad)
    (rest : ∀ a, Exactly (g a) (next a) (worse a)) :
    Exactly (x >>= g) (fun b => ∃ a, good a ∧ next a b)
      fun e => bad e ∨ ∃ a, good a ∧ worse a e where
  ok b := by
    simp only [← first.ok, ← (rest _).ok]
    cases x <;> simp [Bind.bind, Except.bind]
  error e := by
    simp only [← first.ok, ← first.error, ← (rest _).error]
    cases x <;> simp [Bind.bind, Except.bind]

theorem Exactly.of_iff {x : Except ε α} {good good' : α → Prop} {bad bad' : ε → Prop}
    (exact : Exactly x good bad) (ok : ∀ a, good a ↔ good' a) (error : ∀ e, bad e ↔ bad' e) :
    Exactly x good' bad' where
  ok a := (exact.ok a).trans (ok a)
  error e := (exact.error e).trans (error e)

theorem Exactly.mapM {good : α → β → Prop} {bad : α → ε → Prop} {xs : List α}
    (each : ∀ x ∈ xs, Exactly (f x) (good x) (bad x)) :
    Exactly (xs.mapM f) (List.Forall₂ good xs) fun e => ∃ before x after,
      xs = before ++ x :: after ∧ (∃ ys, List.Forall₂ good before ys) ∧ bad x e where
  ok ys := mapM_ok_iff.trans (forall₂_iff_of_mem fun x member => (each x member).ok)
  error e := by
    have fine {before : List α} (part : ∀ x ∈ before, x ∈ xs) :
        (∀ x ∈ before, ∃ y, f x = .ok y) ↔ ∃ ys, List.Forall₂ good before ys := by
      rw [← mapM_succeeds_iff]
      refine exists_congr fun ys => mapM_ok_iff.trans (forall₂_iff_of_mem fun x member => ?_)
      exact (each x (part x member)).ok
    rw [mapM_error_iff]
    constructor
    · rintro ⟨before, x, after, rfl, earlier, failed⟩
      have part : ∀ y ∈ before, y ∈ before ++ x :: after := fun y => List.mem_append_left _
      exact ⟨before, x, after, rfl, (fine part).mp earlier, ((each x (by simp)).error e).mp failed⟩
    · rintro ⟨before, x, after, rfl, earlier, failed⟩
      have part : ∀ y ∈ before, y ∈ before ++ x :: after := fun y => List.mem_append_left _
      exact ⟨before, x, after, rfl, (fine part).mpr earlier, ((each x (by simp)).error e).mpr failed⟩

end Sieve.Scan
