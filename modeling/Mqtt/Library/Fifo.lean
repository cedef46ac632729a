import Mathlib.Data.List.Basic

/-!
# Bounded queues

A queue holds at most `capacity` items in order. Its writer asks for room, writes into
the room it was given, and commits what it wrote; its reader looks at the committed
items and takes some from the front. `Fifo.step` says what each operation answers. It
has no answer for a writer that leaves the room it was given, or commits what it did
not write.

`Fifo.run_of_follows` is the rule for an implementation: what follows the queue in
every operation gives its answers in every run.
-/

namespace Mqtt.Library

/-- What is asked of a queue; sizes are given in the type `Count`. -/
inductive FifoOp (Item Count : Type) where
  | reserve (count : Count)
  | write (items : List Item)
  | commit (count : Count)
  | consume (count : Count)
  | clear
  | peek

inductive FifoAnswer (Item : Type) where
  | done
  | room (given : Bool)
  | waiting (items : List Item)
  deriving DecidableEq

namespace FifoOp

variable {Item Count Other : Type}

/-- The operation with its size in another type. -/
def map (convert : Count → Other) : FifoOp Item Count → FifoOp Item Other
  | reserve count => reserve (convert count)
  | write items => write items
  | commit count => commit (convert count)
  | consume count => consume (convert count)
  | clear => clear
  | peek => peek

end FifoOp

/-- A queue with its committed items, the room its writer has been given, and what has
been written there and not committed. -/
structure Fifo (Item : Type) (capacity : Nat) where
  items : List Item
  granted : Nat
  staged : List Item
  stagedFits : staged.length ≤ granted
  grantFits : items.length + granted ≤ capacity

namespace Fifo

variable {Item : Type} {capacity : Nat}

def empty (Item : Type) (capacity : Nat) : Fifo Item capacity where
  items := []
  granted := 0
  staged := []
  stagedFits := Nat.le_refl _
  grantFits := Nat.zero_le _

/-- What an operation answers and leaves, if it is allowed. -/
def step (queue : Fifo Item capacity) :
    FifoOp Item Nat → Option (FifoAnswer Item × Fifo Item capacity)
  | .reserve count =>
    if room : queue.items.length + count ≤ capacity then
      some (.room true,
        { queue with
          granted := count, staged := [], stagedFits := Nat.zero_le _, grantFits := room })
    else some (.room false, { queue with staged := [], stagedFits := Nat.zero_le _ })
  | .write items =>
    if fits : items.length ≤ queue.granted then
      some (.done, { queue with staged := items, stagedFits := fits })
    else none
  | .commit count =>
    if written : count ≤ queue.staged.length then
      some (.done,
        { items := queue.items ++ queue.staged.take count
          granted := queue.granted - count
          staged := queue.staged.drop count
          stagedFits := by
            have fits := queue.stagedFits
            rw [List.length_drop]
            omega
          grantFits := by
            have fits := queue.stagedFits
            have bound := queue.grantFits
            rw [List.length_append, List.length_take]
            omega })
    else none
  | .consume count =>
    some (.done,
      { queue with
        items := queue.items.drop count
        staged := []
        stagedFits := Nat.zero_le _
        grantFits := by
          have bound := queue.grantFits
          rw [List.length_drop]
          omega })
  | .clear =>
    some (.done,
      { queue with
        items := []
        staged := []
        stagedFits := Nat.zero_le _
        grantFits := by
          have bound := queue.grantFits
          rw [List.length_nil]
          omega })
  | .peek => some (.waiting queue.items, queue)

/-- The answers to a sequence of operations, if all of them are allowed. -/
def run (queue : Fifo Item capacity) :
    List (FifoOp Item Nat) → Option (List (FifoAnswer Item) × Fifo Item capacity)
  | [] => some ([], queue)
  | op :: ops =>
    match queue.step op with
    | none => none
    | some (answer, next) =>
      match next.run ops with
      | none => none
      | some (answers, last) => some (answer :: answers, last)

end Fifo

/-- The answers of an implementation to a sequence of operations. -/
def runOps {State Op Answer : Type} (step : State → Op → Answer × State) :
    State → List Op → List Answer × State
  | state, [] => ([], state)
  | state, op :: ops =>
    ((step state op).1 :: (runOps step (step state op).2 ops).1,
      (runOps step (step state op).2 ops).2)

section Implementation

variable {Item Count State : Type} {capacity : Nat} {size : Count → Nat}
  {step : State → FifoOp Item Count → FifoAnswer Item × State}

/-- What every operation keeps, a sequence of operations keeps. -/
theorem runOps_invariant {Keeps : State → Prop}
    (kept : ∀ state op, Keeps state → Keeps (step state op).2) (ops : List (FifoOp Item Count))
    {state : State} (start : Keeps state) : Keeps (runOps step state ops).2 := by
  induction ops generalizing state with
  | nil => exact start
  | cons op ops ih => exact ih (kept state op start)

/-- An implementation that follows the queue in every operation gives its answers. -/
theorem Fifo.run_of_follows {Models : State → Fifo Item capacity → Prop}
    (follows : ∀ {state queue op answer next}, Models state queue →
      queue.step (FifoOp.map size op) = some (answer, next) →
      (step state op).1 = answer ∧ Models (step state op).2 next)
    {ops : List (FifoOp Item Count)} {state : State} {queue last : Fifo Item capacity}
    {answers : List (FifoAnswer Item)} (models : Models state queue)
    (allowed : queue.run (ops.map (FifoOp.map size)) = some (answers, last)) :
    (runOps step state ops).1 = answers ∧ Models (runOps step state ops).2 last := by
  induction ops generalizing state queue answers with
  | nil =>
    cases allowed
    exact ⟨rfl, models⟩
  | cons op ops ih =>
    rw [List.map_cons, Fifo.run] at allowed
    split at allowed
    · cases allowed
    next answer next stepped =>
    split at allowed
    · cases allowed
    next rest finish ran =>
    cases allowed
    obtain ⟨same, models'⟩ := follows models stepped
    obtain ⟨others, finished⟩ := ih models' ran
    exact ⟨by rw [runOps, same, others], finished⟩

end Implementation

end Mqtt.Library
