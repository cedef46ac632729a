import Mathlib.Data.List.Basic

/-!
# Reads that fail out of range

A span names a stretch of a buffer by position, as a pointer and a length do. Reading
through it looks at the buffer as it is at that moment, and fails where the buffer
does not reach that far any more.
-/

namespace Mqtt.Library

variable {α : Type}

/-- A stretch of a buffer. -/
structure Span where
  start : Nat
  size : Nat
  deriving DecidableEq, Repr

namespace Span

/-- One element of the stretch. -/
def get (span : Span) (buffer : List α) (index : Nat) : Option α :=
  if index < span.size then buffer[span.start + index]? else none

/-- All of it. -/
def read (span : Span) (buffer : List α) : Option (List α) :=
  if span.start + span.size ≤ buffer.length then
    some ((buffer.drop span.start).take span.size)
  else none

/-- A stretch of the stretch. -/
def part (span : Span) (offset size : Nat) : Span := ⟨span.start + offset, size⟩

/-- What is left after the first `count`. -/
def skip (span : Span) (count : Nat) : Span := span.part count (span.size - count)

theorem read_whole (buffer : List α) : read ⟨0, buffer.length⟩ buffer = some buffer := by
  simp [read]

variable {span : Span} {buffer held : List α}

section

variable (here : span.read buffer = some held)

include here

theorem length_of_read : held.length = span.size := by
  unfold read at here
  split at here
  · rename_i within
    obtain rfl := Option.some.inj here
    rw [List.length_take, List.length_drop]
    omega
  · cases here

/-- A read within the span is a read of its contents. -/
theorem get_of_read (index : Nat) : span.get buffer index = held[index]? := by
  have length := length_of_read here
  unfold get
  unfold read at here
  split at here
  · obtain rfl := Option.some.inj here
    split
    · rename_i inside
      rw [List.getElem?_take_of_lt inside, List.getElem?_drop]
    · rename_i outside
      exact (List.getElem?_eq_none (by omega)).symm
  · cases here

/-- A part of a span shows that part of its contents. -/
theorem read_part {offset size : Nat} (within : offset + size ≤ span.size) :
    (span.part offset size).read buffer = some ((held.drop offset).take size) := by
  unfold read at here
  split at here
  · rename_i reaches
    obtain rfl := Option.some.inj here
    have enough : span.start + offset + size ≤ buffer.length := by omega
    simp only [read, part, List.drop_take, List.drop_drop, List.take_take]
    rw [Nat.min_eq_left (by omega)]
    exact if_pos enough
  · cases here

theorem read_skip {count : Nat}
    (within : count ≤ span.size) : (span.skip count).read buffer = some (held.drop count) := by
  have length := length_of_read here
  rw [skip, read_part here (by omega), List.take_of_length_le (by rw [List.length_drop]; omega)]

end

end Span

/-- Look through a table by position: `left` rows from `index` on. -/
def scan (table : List α) (wanted : α → Bool) : Nat → Nat → Option (Option Nat)
  | _, 0 => some none
  | index, left + 1 => do
    let row ← table[index]?
    if wanted row then some (some index) else scan table wanted (index + 1) left

/-- A bounded scan finds what `find` does. -/
theorem scan_drop (table : List α) (wanted : α → Bool) {index left : Nat}
    (whole : index + left = table.length) :
    scan table wanted index left = some (((table.drop index).findIdx? wanted).map (· + index)) := by
  induction left generalizing index with
  | zero =>
    rw [scan, List.drop_of_length_le (by omega)]
    rfl
  | succ left ih =>
    have inside : index < table.length := by omega
    rw [scan, List.getElem?_eq_getElem inside, List.drop_eq_getElem_cons inside,
      List.findIdx?_cons, ih (by omega)]
    by_cases found : wanted table[index] = true
    · simp [found]
    · simp [found, Nat.add_comm, Nat.add_left_comm, Function.comp_def]

/-- A whole table is looked through without leaving it. -/
theorem scan_whole (table : List α) (wanted : α → Bool) :
    scan table wanted 0 table.length = some (table.findIdx? wanted) := by
  rw [scan_drop table wanted (Nat.zero_add _)]
  simp

end Mqtt.Library
