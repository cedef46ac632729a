import Mathlib.Data.List.Basic

/-!
# Writers into a bounded buffer

A `Writer` appends to a buffer of fixed size and fails when an append does not
fit. Each append is all or nothing, but appends made before a failing one stay
in the buffer, so a failed writer still reports what it wrote.

`Emits` says a writer is exact about space: with room it appends exactly the
given items, and without room it fails with the given code having appended a
prefix of them. `Emits.bind` makes it compositional.
-/

namespace Mqtt.Library

/-- A buffer of `size` items and the items written so far. -/
structure Buffer (β : Type) where
  size : Nat
  written : List β := []

/-- A computation that appends to a bounded buffer and may fail. -/
def Writer (ε β α : Type) := Buffer β → Except ε α × Buffer β

namespace Writer

variable {ε β : Type}

instance : Monad (Writer ε β) where
  pure value := fun buffer => (.ok value, buffer)
  bind first second := fun buffer =>
    match first buffer with
    | (.ok value, next) => second value next
    | (.error error, next) => (.error error, next)

/-- Stop with an error. -/
def fail {α : Type} (error : ε) : Writer ε β α := fun buffer => (.error error, buffer)

/-- Append `items`, or fail with `full` and append nothing. -/
def put (full : ε) (items : List β) : Writer ε β Unit := fun buffer =>
  if buffer.written.length + items.length ≤ buffer.size then
    (.ok (), { buffer with written := buffer.written ++ items })
  else (.error full, buffer)

/-- Run a writer on an empty buffer: the number of items written or the error,
and the items now in the buffer either way. -/
def exec (size : Nat) (writer : Writer ε β Unit) : Except ε Nat × List β :=
  match writer { size := size } with
  | (.ok (), buffer) => (.ok buffer.written.length, buffer.written)
  | (.error error, buffer) => (.error error, buffer.written)

/-- The writer appends exactly `items` when they fit and fails with `full` when
they do not, leaving a prefix of them behind. -/
def Emits (full : ε) (writer : Writer ε β Unit) (items : List β) : Prop :=
  ∀ buffer : Buffer β, buffer.written.length ≤ buffer.size →
    (buffer.written.length + items.length ≤ buffer.size →
      writer buffer = (.ok (), { buffer with written := buffer.written ++ items })) ∧
    (buffer.size < buffer.written.length + items.length →
      ∃ part, part <+: items ∧ buffer.written.length + part.length ≤ buffer.size ∧
        writer buffer = (.error full, { buffer with written := buffer.written ++ part }))

variable {full : ε}

/-- A writer that does nothing emits nothing. -/
theorem emits_pure : Emits full (pure () : Writer ε β Unit) [] := by
  intro buffer within
  refine ⟨fun _ => ?_, fun short => ?_⟩
  · rw [List.append_nil]
    rfl
  · simp only [List.length_nil, Nat.add_zero] at short
    omega

/-- One append emits its items. -/
theorem emits_put (items : List β) : Emits full (put full items) items := by
  intro buffer within
  refine ⟨fun fits => ?_, fun short => ⟨[], List.nil_prefix, ?_, ?_⟩⟩
  · simp only [put, if_pos fits]
  · simpa using within
  · have tight : ¬ buffer.written.length + items.length ≤ buffer.size := by omega
    simp only [put, if_neg tight, List.append_nil]

/-- Two exact writers in sequence emit the concatenation of their items. -/
theorem Emits.bind {first second : Writer ε β Unit} {left right : List β}
    (emitsFirst : Emits full first left) (emitsSecond : Emits full second right) :
    Emits full (do first; second) (left ++ right) := by
  intro buffer within
  have unfolded : (do first; second : Writer ε β Unit) buffer =
      match first buffer with
      | (.ok _, next) => second next
      | (.error error, next) => (.error error, next) := by
    simp only [Bind.bind]
    rcases first buffer with ⟨_ | _, _⟩ <;> rfl
  by_cases leftFits : buffer.written.length + left.length ≤ buffer.size
  · have firstRun := (emitsFirst buffer within).1 leftFits
    have nextWithin : (buffer.written ++ left).length ≤ buffer.size := by
      simpa using leftFits
    obtain ⟨whenFits, whenShort⟩ :=
      emitsSecond { buffer with written := buffer.written ++ left } nextWithin
    refine ⟨fun fits => ?_, fun short => ?_⟩
    · rw [unfolded, firstRun]
      simp only
      rw [whenFits (by simp at fits ⊢; omega)]
      simp [List.append_assoc]
    · obtain ⟨part, isPart, partFits, secondRun⟩ := whenShort (by simp at short ⊢; omega)
      refine ⟨left ++ part, ?_, ?_, ?_⟩
      · exact (List.prefix_append_right_inj left).mpr isPart
      · simp at partFits ⊢
        omega
      · rw [unfolded, firstRun]
        simp only
        rw [secondRun]
        simp [List.append_assoc]
  · refine ⟨fun fits => ?_, fun _ => ?_⟩
    · simp at fits
      omega
    · obtain ⟨part, isPart, partFits, firstRun⟩ := (emitsFirst buffer within).2 (by omega)
      refine ⟨part, isPart.trans (List.prefix_append left right), partFits, ?_⟩
      rw [unfolded, firstRun]

/-- Running a writer over a list on whose elements it is exact emits the items
of every element in order. -/
theorem emits_forM {α : Type} {writer : α → Writer ε β Unit} {items : α → List β}
    {elements : List α} (exact : ∀ a ∈ elements, Emits full (writer a) (items a)) :
    Emits full (elements.forM writer) (elements.flatMap items) := by
  induction elements with
  | nil => exact emits_pure
  | cons element rest ih =>
    rw [List.flatMap_cons]
    exact (exact element (by simp)).bind
      (ih fun a member => exact a (List.mem_cons_of_mem _ member))

/-- An optional writer, exact under its condition, emits its items exactly when
it runs. -/
theorem emits_when {writer : Writer ε β Unit} {items : List β} (condition : Prop)
    [Decidable condition] (emits : condition → Emits full writer items) :
    Emits full (if condition then writer else pure ()) (if condition then items else []) := by
  by_cases holds : condition
  · simpa only [if_pos holds] using emits holds
  · simpa only [if_neg holds] using emits_pure

/-- With room an exact writer reports the number of its items and nothing but
them is in the buffer. -/
theorem Emits.exec_of_fits {writer : Writer ε β Unit} {items : List β} {size : Nat}
    (emits : Emits full writer items) (fits : items.length ≤ size) :
    exec size writer = (.ok items.length, items) := by
  have run := (emits { size := size } (by simp)).1 (by simpa using fits)
  simp only [exec, run, List.nil_append]

/-- Without room an exact writer fails with its code, and what is in the buffer
still fits it. -/
theorem Emits.exec_of_short {writer : Writer ε β Unit} {items : List β} {size : Nat}
    (emits : Emits full writer items) (short : size < items.length) :
    ∃ part, part.length ≤ size ∧ exec size writer = (.error full, part) := by
  obtain ⟨part, _, partFits, run⟩ := (emits { size := size } (by simp)).2 (by simpa using short)
  refine ⟨part, by simpa using partFits, ?_⟩
  simp only [exec, run, List.nil_append]

end Writer
end Mqtt.Library
