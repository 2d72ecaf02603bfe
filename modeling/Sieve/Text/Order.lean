/-! The order of texts: by the code points of their characters, and a text before all it begins. -/

namespace Sieve.Text

/-- The first characters that differ decide. -/
def order : List Char → List Char → Ordering
  | [], [] => .eq
  | [], _ :: _ => .lt
  | _ :: _, [] => .gt
  | a :: s, b :: t =>
    if a.toNat < b.toNat then .lt else if b.toNat < a.toNat then .gt else order s t

theorem order_self (s : List Char) : order s s = .eq := by
  induction s with
  | nil => rfl
  | cons a s ih => simp [order, ih]

theorem order_eq_eq {s t : List Char} : order s t = .eq ↔ s = t := by
  constructor
  · intro same
    induction s generalizing t with
    | nil =>
      cases t with
      | nil => rfl
      | cons b t => simp [order] at same
    | cons a s ih =>
      cases t with
      | nil => simp [order] at same
      | cons b t =>
        simp only [order] at same
        split at same
        · contradiction
        · next notBelow =>
          split at same
          · contradiction
          · next notAbove =>
            have code : a.toNat = b.toNat := by omega
            rw [Char.toNat_inj.mp code, ih same]
  · rintro rfl
    exact order_self s

theorem order_swap (s t : List Char) : (order s t).swap = order t s := by
  induction s generalizing t with
  | nil => cases t <;> rfl
  | cons a s ih =>
    cases t with
    | nil => rfl
    | cons b t =>
      simp only [order]
      rcases Nat.lt_trichotomy a.toNat b.toNat with below | same | above
      · simp [below, Nat.lt_asymm below]
      · simp [same, ih]
      · simp [above, Nat.lt_asymm above]

end Sieve.Text
