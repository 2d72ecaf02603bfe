import Sieve.Document.Basic
import Sieve.Document.Criterion

/-!
What a query asks of its document, kept beside its result: the calls, the elements that a traversal
pulls, and the tests that callers' predicates are put to. The journal never decides a result; it is
there to be counted and shown. A document that refuses the call at some place cuts the run short
there.
-/

namespace Sieve

/-- A caller's own test of an element. -/
abbrev ElementTest := Element → Bool

/-- What is asked of a document or of a selection in it. -/
inductive Call where
  | query (scope : Scope)
  | element (id : ElementId)
  | resolveUniqueId (u : UniqueId)
  | apply (c : Criterion)
  | exclude (ids : List ElementId)
  | intersect (others : List ElementId)
  | union (others : List ElementId)
  | elements
  | ids
  | count
deriving DecidableEq

/-- A document may refuse to open or to change a selection; look-ups and answers cannot fail. -/
def Call.refusable : Call → Bool
  | query _ | apply _ | exclude _ | intersect _ | union _ => true
  | _ => false

inductive Event where
  | call (c : Call)
  | pull (id : ElementId)
  | test (t : ElementTest) (e : Element)

/-- A value and the events on the way to it. -/
structure Logged (α : Type) where
  value : α
  events : List Event

namespace Logged

instance : Monad Logged where
  pure a := ⟨a, []⟩
  bind x f := let y := f x.value; ⟨y.value, x.events ++ y.events⟩

@[simp] theorem value_pure {α : Type} (a : α) : (pure a : Logged α).value = a := rfl

@[simp] theorem events_pure {α : Type} (a : α) : (pure a : Logged α).events = [] := rfl

@[simp] theorem value_bind {α β : Type} (x : Logged α) (f : α → Logged β) :
    (x >>= f).value = (f x.value).value := rfl

@[simp] theorem events_bind {α β : Type} (x : Logged α) (f : α → Logged β) :
    (x >>= f).events = x.events ++ (f x.value).events := rfl

instance : LawfulMonad Logged := LawfulMonad.mk' Logged
  (fun x => congrArg (Logged.mk x.value) (List.append_nil x.events))
  (fun _ _ => rfl)
  (fun _ _ _ => congrArg (Logged.mk _) (List.append_assoc _ _ _))

def log (e : Event) : Logged Unit := ⟨(), [e]⟩

def calls {α : Type} (x : Logged α) : List Call :=
  x.events.filterMap fun
    | .call c => some c
    | _ => none

/-- How many elements were pulled. -/
def pulls {α : Type} (x : Logged α) : Nat :=
  x.events.countP fun
    | .pull _ => true
    | _ => false

end Logged

/-- The events up to the call at a place of the journal, and that call. -/
def upToCall : Nat → List Event → Option (List Event × Call)
  | _, [] => none
  | 0, .call c :: _ => some ([.call c], c)
  | n + 1, .call c :: rest => (upToCall n rest).map fun (events, last) => (.call c :: events, last)
  | n, event :: rest => (upToCall n rest).map fun (events, last) => (event :: events, last)

/-- A computation over a document that may fail, with its journal. -/
abbrev Run := ExceptT QueryError Logged

namespace Run

def outcome {α : Type} (x : Run α) : Except QueryError α := x.run.value

def events {α : Type} (x : Run α) : List Event := x.run.events

def ofExcept {α : Type} (x : Except QueryError α) : Run α := ExceptT.mk ⟨x, []⟩

/-- Makes a call, which the journal holds whether it fails or not. -/
def call {α : Type} (c : Call) (result : Except QueryError α) : Run α :=
  ExceptT.mk ⟨result, [.call c]⟩

section Laws

variable {α β : Type}

@[simp] theorem outcome_pure (a : α) : (pure a : Run α).outcome = .ok a := rfl

@[simp] theorem events_pure (a : α) : (pure a : Run α).events = [] := rfl

@[simp] theorem outcome_throw (e : QueryError) : (throw e : Run α).outcome = .error e := rfl

@[simp] theorem events_throw (e : QueryError) : (throw e : Run α).events = [] := rfl

@[simp] theorem outcome_ofExcept (x : Except QueryError α) : (ofExcept x).outcome = x := rfl

@[simp] theorem events_ofExcept (x : Except QueryError α) : (ofExcept x).events = [] := rfl

@[simp] theorem outcome_call (c : Call) (x : Except QueryError α) : (call c x).outcome = x := rfl

@[simp] theorem events_call (c : Call) (x : Except QueryError α) :
    (call c x).events = [.call c] := rfl

/-- The journal has no part in the outcome. -/
@[simp] theorem outcome_bind (x : Run α) (f : α → Run β) :
    (x >>= f).outcome = x.outcome >>= fun a => (f a).outcome := by
  change (ExceptT.bindCont f x.run.value).value = Except.bind x.run.value _
  cases x.run.value <;> rfl

/-- Nothing happens after a failure. -/
@[simp] theorem events_bind (x : Run α) (f : α → Run β) :
    (x >>= f).events = x.events ++
      match x.outcome with
      | .ok a => (f a).events
      | .error _ => [] := by
  change x.run.events ++ (ExceptT.bindCont f x.run.value).events = x.run.events ++ _
  simp only [outcome]
  cases x.run.value <;> rfl

end Laws

/-- The run when the document refuses the call at a place, if there is such a call and it can be
refused: the call is in the journal, and nothing comes after it. -/
def refusedAt {α : Type} (position : Nat) (x : Run α) : Run α :=
  match upToCall position x.events with
  | some (events, last) =>
    if last.refusable then ExceptT.mk ⟨.error (.document (.refused position)), events⟩ else x
  | none => x

end Run

end Sieve
