import Mathlib.Data.List.Basic

/-!
# Keys held in a table

A table of places, each empty or held under a key. A turn takes an empty place, gives one
back, or clears the table. What was taken is what was given back, what was cleared away
and what is still held.
-/

namespace Mqtt.Library

variable {Key : Type}

/-- What happens to the table. -/
inductive Turn (Key : Type) where
  | kept
  | taken (key : Key)
  | returned (key : Key)
  | cleared
  deriving DecidableEq

/-- How many places are held. -/
def held (table : List (Option Key)) : Nat := table.countP (·.isSome)

inductive Turns (table : List (Option Key)) : Turn Key → List (Option Key) → Prop where
  | kept : Turns table .kept table
  | taken (place : Nat) (key : Key) (empty : table[place]? = some none) :
      Turns table (.taken key) (table.set place (some key))
  | returned (place : Nat) (key : Key) (here : table[place]? = some (some key)) :
      Turns table (.returned key) (table.set place none)
  | cleared (next : List (Option Key)) (empty : held next = 0) : Turns table .cleared next

namespace Turn

/-- How many keys the turn takes. -/
def takes : Turn Key → Nat
  | .taken _ => 1
  | _ => 0

/-- How many keys the turn gives back. -/
def returns : Turn Key → Nat
  | .returned _ => 1
  | _ => 0

/-- How many keys the turn clears away. -/
def loses (turn : Turn Key) (table : List (Option Key)) : Nat :=
  match turn with
  | .cleared => held table
  | _ => 0

/-- The turn ends the hold of a key. -/
def Ends (turn : Turn Key) (key : Key) : Prop := turn = .returned key ∨ turn = .cleared

end Turn

namespace Turns

variable {table next : List (Option Key)} {turn : Turn Key} {key : Key}

theorem held_set {place : Nat} {old : Option Key} (here : table[place]? = some old)
    (new : Option Key) :
    held (table.set place new) + (if old.isSome then 1 else 0) =
      held table + (if new.isSome then 1 else 0) := by
  obtain ⟨within, isOld⟩ := List.getElem?_eq_some_iff.mp here
  have counts := @List.boole_getElem_le_countP _ (·.isSome) table place within
  rw [isOld] at counts
  simp only [held, List.countP_set within, isOld]
  generalize table.countP (·.isSome) = count at counts ⊢
  cases old <;> cases new <;> simp at counts ⊢ <;> omega

/-- One turn balances. -/
theorem balance (turns : Turns table turn next) :
    turn.takes + held table = turn.returns + turn.loses table + held next := by
  cases turns with
  | kept => simp [Turn.takes, Turn.returns, Turn.loses]
  | taken place key empty =>
    have counted := held_set empty (some key)
    simp [Turn.takes, Turn.returns, Turn.loses] at counted ⊢
    omega
  | returned place key here =>
    have counted := held_set here none
    simp [Turn.takes, Turn.returns, Turn.loses] at counted ⊢
    omega
  | cleared next empty => simp [Turn.takes, Turn.returns, Turn.loses, empty]

theorem holds (turns : Turns table (.taken key) next) : some key ∈ next := by
  cases turns with
  | taken place key empty =>
    exact List.mem_set (List.getElem?_eq_some_iff.mp empty).1 _

/-- A key is held until its hold ends. -/
theorem stays (turns : Turns table turn next) (holds : some key ∈ table)
    (lasts : ¬ turn.Ends key) : some key ∈ next := by
  obtain ⟨place, here⟩ := List.mem_iff_getElem?.mp holds
  -- The place that changes is another one.
  have aside : ∀ {other : Nat} {old : Option Key} (new : Option Key), table[other]? = some old →
      old ≠ some key → some key ∈ table.set other new := by
    intro other old new there different
    refine List.mem_of_getElem? (i := place) ?_
    rw [List.getElem?_set_ne, here]
    rintro rfl
    exact different (Option.some.inj (there.symm.trans here))
  cases turns with
  | kept => exact holds
  | taken other key' empty => exact aside _ empty (by simp)
  | returned other key' there =>
    exact aside _ there fun same => lasts (.inl (by rw [Option.some.inj same]))
  | cleared => exact absurd (.inr rfl) lasts

end Turns

end Mqtt.Library
