import Sieve.Ascending

/-!
Named entries: values under text keys, in the order of the keys by code point. A later value for a
key replaces the earlier one.
-/

namespace Sieve

structure Entries (β : Type) where
  toList : List (String × β)

namespace Entries

variable {β : Type}

def empty : Entries β := ⟨[]⟩

def size (e : Entries β) : Nat := e.toList.length

def isEmpty (e : Entries β) : Bool := e.toList.isEmpty

def keys (e : Entries β) : List String := e.toList.map Prod.fst

def get? (e : Entries β) (key : String) : Option β :=
  (e.toList.find? (Prod.fst · = key)).map Prod.snd

def contains (e : Entries β) (key : String) : Bool := (e.get? key).isSome

def insert (e : Entries β) (key : String) (value : β) : Entries β :=
  ⟨Ascending.insert Prod.fst (key, value) e.toList⟩

def erase (e : Entries β) (key : String) : Entries β :=
  ⟨e.toList.filter fun entry => entry.1 ≠ key⟩

def ofList (entries : List (String × β)) : Entries β := ⟨Ascending.ofList Prod.fst entries⟩

/-- The keys ascend, so none occurs twice. -/
def Ordered (e : Entries β) : Prop := Ascending Prod.fst e.toList

@[simp] theorem get?_insert (e : Entries β) (key : String) (value : β) (k : String) :
    (e.insert key value).get? k = if key = k then some value else e.get? k := by
  simp only [get?, insert, Ascending.find?_insert]
  split <;> rfl

@[simp] theorem get?_erase (e : Entries β) (key k : String) :
    (e.erase key).get? k = if key = k then none else e.get? k := by
  simp only [get?, erase]
  induction e.toList with
  | nil => simp
  | cons entry rest ih =>
    by_cases dropped : entry.1 = key
    · simp only [dropped, ne_eq, not_true_eq_false, decide_false, Bool.false_eq_true,
        not_false_eq_true, List.filter_cons_of_neg, ih, List.find?_cons]
      split <;> simp_all
    · by_cases same : entry.1 = k
      · have apart : key ≠ k := fun h => dropped (same.trans h.symm)
        rw [List.filter_cons_of_pos (by simpa using dropped)]
        simp [same, apart]
      · simpa [dropped, same] using ih

theorem empty_ordered : (empty : Entries β).Ordered := Ascending.nil

theorem insert_ordered {e : Entries β} (h : e.Ordered) (key : String) (value : β) :
    (e.insert key value).Ordered := Ascending.insert_ascending h

theorem ofList_ordered (entries : List (String × β)) : (ofList entries).Ordered :=
  Ascending.ofList_ascending entries

end Entries

end Sieve
