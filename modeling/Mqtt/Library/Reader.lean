import Mathlib.Control.Monad.Basic
import Mathlib.Data.List.Basic

/-!
# Reading a format from the front

A reader takes what it needs from the front of a list and leaves the rest. `Reads`
says that a reader gives back a value from what was written for it, whatever follows;
`Finishes` says the same of a reader that goes on to the end. A format is read by
composing them in the order it was written in.
-/

namespace Mqtt.Library

variable {Token α β : Type}

abbrev Reader (Token α : Type) := StateT (List Token) Option α

namespace Reader

def one : Reader Token Token
  | [] => none
  | first :: rest => some (first, rest)

def take (count : Nat) : Reader Token (List Token) := fun input =>
  if input.length < count then none else some (input.take count, input.drop count)

/-- Go on only if the condition holds. -/
def require (condition : Bool) : Reader Token Unit := fun input =>
  if condition then some ((), input) else none

/-- A value computed from what was read before, if there is one. -/
def given (value : Option α) : Reader Token α := fun input => value.map (·, input)

/-- A field that is there only if it was announced. -/
def optional (present : Bool) (field : Reader Token α) : Reader Token (Option α) :=
  if present then do return some (← field) else return none

/-- Read elements until nothing is left. -/
def untilEnd (element : Reader Token α) : Nat → Reader Token (List α)
  | 0 => fun input => if input.isEmpty then some ([], []) else none
  | rounds + 1 => fun input =>
    if input.isEmpty then some ([], [])
    else (do
      let first ← element
      let others ← untilEnd element rounds
      return first :: others : Reader Token (List α)) input

/-- Everything must have been read. -/
def whole (reader : Reader Token α) (input : List Token) : Option α :=
  match reader input with
  | some (value, []) => some value
  | _ => none

theorem bind_apply (reader : Reader Token α) (next : α → Reader Token β) (input : List Token) :
    (reader >>= next) input = (reader input).bind fun read => next read.1 read.2 := by
  show Option.bind (reader input) _ = _
  cases reader input <;> rfl

/-! ## Reading back -/

/-- The reader gives back the value from what was written for it. -/
def Reads (reader : Reader Token α) (written : List Token) (value : α) : Prop :=
  ∀ rest, reader (written ++ rest) = some (value, rest)

/-- The reader gives back the value from everything that is left. -/
def Finishes (reader : Reader Token α) (written : List Token) (value : α) : Prop :=
  reader written = some (value, [])

theorem reads_pure (value : α) : Reads (pure value : Reader Token α) [] value := fun _ => rfl

theorem reads_one (token : Token) : Reads one [token] token := fun _ => rfl

theorem reads_take (tokens : List Token) : Reads (take tokens.length) tokens tokens := by
  intro rest
  unfold take
  rw [if_neg (by simp), List.take_left, List.drop_left]

theorem reads_require {condition : Bool} (holds : condition = true) :
    Reads (require condition : Reader Token Unit) [] () := by
  intro rest
  simp [require, holds]

theorem reads_given {value : α} {option : Option α} (isSome : option = some value) :
    Reads (given option : Reader Token α) [] value := by
  intro rest
  simp [given, isSome]

variable {reader : Reader Token α} {next : α → Reader Token β} {written more : List Token}
  {value : α} {other : β}

/-- What is written one after the other is read one after the other. -/
theorem Reads.bind (first : Reads reader written value) (second : Reads (next value) more other) :
    Reads (reader >>= next) (written ++ more) other := by
  intro rest
  rw [bind_apply, List.append_assoc, first, Option.bind_some]
  exact second rest

/-- A step that reads nothing comes first. -/
theorem Reads.nil_bind (first : Reads reader [] value) (second : Reads (next value) more other) :
    Reads (reader >>= next) more other := first.bind second

/-- A step that reads nothing comes last. -/
theorem Reads.bind_nil (first : Reads reader written value)
    (second : Reads (next value) [] other) : Reads (reader >>= next) written other := by
  have both := first.bind second
  rwa [List.append_nil] at both

/-- A field that is present is read. -/
theorem reads_optional {present : Bool} (reads : present = true → Reads reader written value) :
    Reads (optional present reader) (if present then written else [])
      (if present then some value else none) := by
  cases present with
  | false => exact reads_pure none
  | true => exact (reads rfl).bind_nil (reads_pure _)

theorem Finishes.bind (first : Reads reader written value)
    (second : Finishes (next value) more other) :
    Finishes (reader >>= next) (written ++ more) other := by
  unfold Finishes
  rw [bind_apply, first, Option.bind_some]
  exact second

/-- A reader that stopped at the end, and then one that reads nothing. -/
theorem Finishes.bind_nil (first : Finishes reader written value)
    (second : Reads (next value) [] other) : Finishes (reader >>= next) written other := by
  unfold Finishes
  rw [bind_apply, first, Option.bind_some]
  exact second []

theorem Reads.finishes (reads : Reads reader written value) : Finishes reader written value := by
  have all := reads []
  rwa [List.append_nil] at all

/-- What finishes its input is all of it. -/
theorem Finishes.whole (finishes : Finishes reader written value) :
    whole reader written = some value := by
  unfold Reader.whole
  rw [finishes]

/-- Elements written one behind the other are read back. -/
theorem finishes_untilEnd {element : Reader Token α} {write : α → List Token} {elements : List α}
    {rounds : Nat} (enough : elements.length ≤ rounds)
    (nonempty : ∀ value ∈ elements, write value ≠ [])
    (reads : ∀ value ∈ elements, Reads element (write value) value) :
    Finishes (untilEnd element rounds) (elements.flatMap write) elements := by
  induction elements generalizing rounds with
  | nil => cases rounds <;> rfl
  | cons value rest ih =>
    cases rounds with
    | zero => simp at enough
    | succ rounds =>
      rw [List.forall_mem_cons] at nonempty reads
      have others := @ih rounds (by simpa using enough) nonempty.2 reads.2
      have begun : ¬ ((value :: rest).flatMap write).isEmpty = true := by
        simp [nonempty.1]
      unfold Finishes untilEnd
      rw [if_neg begun, List.flatMap_cons]
      exact Finishes.bind reads.1 (others.bind_nil (reads_pure _))

end Reader

end Mqtt.Library
