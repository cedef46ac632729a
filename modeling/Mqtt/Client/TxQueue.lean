import Mqtt.Error
import Mathlib.Data.List.Basic

/-!
# The outbound byte queue

A linear buffer with a head and a tail index. The index bounds are fields of
the structure, so no operation can move an index out of range. The `peek`
lemmas say what each operation does to the waiting bytes; the client's proofs
use nothing else about the queue.
-/

namespace Mqtt

/-- A fixed-capacity byte FIFO for outbound packets. -/
structure TxQueue (capacity : Nat) where
  buffer : Bytes
  head : Nat
  tail : Nat
  bufferSize : buffer.length = capacity
  headLeTail : head ≤ tail
  tailLeCapacity : tail ≤ capacity

namespace TxQueue

variable {capacity : Nat}

/-- The queue as constructed. -/
def initial (capacity : Nat) : TxQueue capacity where
  buffer := List.replicate capacity 0
  head := 0
  tail := 0
  bufferSize := by simp
  headLeTail := Nat.le_refl _
  tailLeCapacity := Nat.zero_le _

/-- Bytes written but not yet handed to the transport. -/
def pending (queue : TxQueue capacity) : Nat := queue.tail - queue.head

def isEmpty (queue : TxQueue capacity) : Bool := queue.head = queue.tail

/-- The bytes waiting to go out, as one contiguous span. -/
def peek (queue : TxQueue capacity) : Bytes :=
  (queue.buffer.drop queue.head).take (queue.tail - queue.head)

/-- Move the waiting bytes to the front of the buffer. -/
def compact (queue : TxQueue capacity) : TxQueue capacity :=
  if queue.head = 0 then queue
  else
    { buffer := queue.peek ++ queue.buffer.drop (queue.tail - queue.head)
      head := 0
      tail := queue.tail - queue.head
      bufferSize := by
        have size := queue.bufferSize
        have bound := queue.tailLeCapacity
        simp only [peek, List.length_append, List.length_take, List.length_drop]
        omega
      headLeTail := Nat.zero_le _
      tailLeCapacity := by
        have bound := queue.tailLeCapacity
        omega }

/-- Make room for `count` contiguous bytes at the tail, compacting if needed. -/
def reserve (queue : TxQueue capacity) (count : Nat) : Bool × TxQueue capacity :=
  if count > capacity then (false, queue)
  else if capacity - queue.tail ≥ count then (true, queue)
  else (capacity - queue.compact.tail ≥ count, queue.compact)

/-- Write into the span at the tail without publishing the bytes. A writer is
never given more than that span, so what would not fit is not written. -/
def write (queue : TxQueue capacity) (bytes : Bytes) : TxQueue capacity :=
  { queue with
    buffer := queue.buffer.take queue.tail ++ bytes.take (capacity - queue.tail) ++
      queue.buffer.drop (queue.tail + (bytes.take (capacity - queue.tail)).length)
    bufferSize := by
      have size := queue.bufferSize
      have bound := queue.tailLeCapacity
      simp only [List.length_append, List.length_take, List.length_drop]
      omega }

/-- Publish `count` bytes previously written at the tail. -/
def commit (queue : TxQueue capacity) (count : Nat) : TxQueue capacity :=
  { queue with
    tail := queue.tail + min count (capacity - queue.tail)
    headLeTail := Nat.le_trans queue.headLeTail (Nat.le_add_right _ _)
    tailLeCapacity := by
      have bound := queue.tailLeCapacity
      omega }

/-- Drop `count` bytes from the front after the transport accepted them. -/
def consume (queue : TxQueue capacity) (count : Nat) : TxQueue capacity :=
  if queue.head + min count (queue.tail - queue.head) = queue.tail then
    { queue with
      head := 0
      tail := 0
      headLeTail := Nat.le_refl _
      tailLeCapacity := Nat.zero_le _ }
  else
    { queue with
      head := queue.head + min count (queue.tail - queue.head)
      headLeTail := by
        have bound := queue.headLeTail
        omega }

def clear (queue : TxQueue capacity) : TxQueue capacity :=
  { queue with
    head := 0
    tail := 0
    headLeTail := Nat.le_refl _
    tailLeCapacity := Nat.zero_le _ }

/-! ## What the operations do to the waiting bytes -/

@[simp] theorem length_peek (queue : TxQueue capacity) : queue.peek.length = queue.pending := by
  have size := queue.bufferSize
  have bound := queue.tailLeCapacity
  simp only [peek, pending, List.length_take, List.length_drop]
  omega

theorem pending_le_capacity (queue : TxQueue capacity) : queue.pending ≤ capacity := by
  have bound := queue.tailLeCapacity
  unfold pending
  omega

@[simp] theorem peek_initial : (initial capacity).peek = [] := by
  simp [peek, initial]

section

variable (queue : TxQueue capacity)

@[simp] theorem peek_clear : queue.clear.peek = [] := by
  simp [peek, clear]

theorem isEmpty_iff : queue.isEmpty = true ↔ queue.peek = [] := by
  rw [← List.length_eq_zero_iff, length_peek]
  have bound := queue.headLeTail
  simp only [isEmpty, pending, decide_eq_true_eq]
  omega

@[simp] theorem peek_compact : queue.compact.peek = queue.peek := by
  by_cases atFront : queue.head = 0
  · simp only [compact, if_pos atFront]
  · have length := queue.length_peek
    unfold compact
    rw [if_neg atFront]
    simp only [peek, Nat.sub_zero, List.drop_zero]
    rw [List.take_append_of_le_length]
    · rw [List.take_take, Nat.min_self]
    · simp only [peek, pending] at length
      omega

theorem tail_compact : queue.compact.tail = queue.pending := by
  by_cases atFront : queue.head = 0
  · simp [compact, atFront, pending]
  · simp [compact, atFront, pending]

/-- Reserving never changes the waiting bytes. -/
@[simp] theorem peek_reserve (count : Nat) : (queue.reserve count).2.peek = queue.peek := by
  unfold reserve
  split
  · rfl
  · split
    · rfl
    · exact queue.peek_compact

/-- Reserving succeeds exactly when the waiting bytes leave that much room. -/
theorem reserve_iff (count : Nat) :
    (queue.reserve count).1 = true ↔ queue.peek.length + count ≤ capacity := by
  have bound := queue.tailLeCapacity
  have order := queue.headLeTail
  have tail := queue.tail_compact
  rw [length_peek]
  unfold reserve
  by_cases tooLarge : count > capacity
  · simp only [if_pos tooLarge, Bool.false_eq_true, false_iff]
    omega
  · by_cases atTail : capacity - queue.tail ≥ count
    · simp only [if_neg tooLarge, if_pos atTail, true_iff]
      unfold pending
      omega
    · simp only [if_neg tooLarge, if_neg atTail, decide_eq_true_eq, tail]
      have pendingBound := queue.pending_le_capacity
      omega

end

/-- A successful reservation leaves that much room at the tail. -/
theorem room_of_reserve {queue : TxQueue capacity} {count : Nat}
    (reserved : (queue.reserve count).1 = true) :
    (queue.reserve count).2.tail + count ≤ capacity := by
  have bound := queue.tailLeCapacity
  have compactBound := queue.compact.tailLeCapacity
  unfold reserve at reserved ⊢
  split
  · simp_all
  · split
    · simp only
      omega
    · simp_all
      omega

section

variable (queue : TxQueue capacity)

/-- A reservation never takes room away. -/
theorem tail_reserve_le (count : Nat) : (queue.reserve count).2.tail ≤ queue.tail := by
  have tail := queue.tail_compact
  unfold reserve pending at *
  split_ifs
  · exact Nat.le_refl _
  · exact Nat.le_refl _
  · simp only [tail]
    omega

/-- Writing at the tail is invisible until it is committed. -/
@[simp] theorem peek_write (bytes : Bytes) : (queue.write bytes).peek = queue.peek := by
  have size := queue.bufferSize
  have bound := queue.tailLeCapacity
  have order := queue.headLeTail
  simp only [peek, write]
  rw [List.append_assoc, List.drop_append_of_le_length (by simp; omega),
    List.take_append_of_le_length (by simp; omega), List.drop_take, List.take_take,
    Nat.min_self]

/-- What was written stands at the tail. -/
theorem take_write {bytes : Bytes} (room : queue.tail + bytes.length ≤ capacity) :
    ((queue.write bytes).buffer.drop queue.tail).take bytes.length = bytes := by
  have size := queue.bufferSize
  have whole : bytes.take (capacity - queue.tail) = bytes :=
    List.take_of_length_le (by omega)
  have front : (queue.buffer.take queue.tail).length = queue.tail := by
    rw [List.length_take]
    omega
  simp only [write, whole, List.append_assoc]
  nth_rewrite 1 [← front]
  rw [List.drop_left, List.take_left]

/-- Committing appends what stands at the tail. -/
theorem peek_commit {count : Nat} (room : queue.tail + count ≤ capacity) :
    (queue.commit count).peek = queue.peek ++ (queue.buffer.drop queue.tail).take count := by
  have order := queue.headLeTail
  have fits : min count (capacity - queue.tail) = count := by omega
  have split : queue.tail + count - queue.head = queue.tail - queue.head + count := by omega
  have reach : queue.head + (queue.tail - queue.head) = queue.tail := by omega
  simp only [peek, commit, fits]
  rw [split, List.take_add, List.drop_drop, reach]

/-- Committing what was just written appends exactly those bytes. -/
theorem peek_commit_write (bytes : Bytes) (room : queue.tail + bytes.length ≤ capacity) :
    ((queue.write bytes).commit bytes.length).peek = queue.peek ++ bytes := by
  rw [peek_commit _ (show (queue.write bytes).tail + bytes.length ≤ capacity from room),
    peek_write]
  exact congrArg _ (queue.take_write room)

/-- Consuming drops exactly the accepted bytes, or everything. -/
@[simp] theorem peek_consume (count : Nat) :
    (queue.consume count).peek = queue.peek.drop count := by
  have order := queue.headLeTail
  have length := queue.length_peek
  unfold consume
  split
  · rename_i drained
    have nothing : queue.peek.drop count = [] := by
      apply List.drop_eq_nil_of_le
      rw [length, pending]
      omega
    rw [nothing]
    simp [peek]
  · rename_i remains
    have within : min count (queue.tail - queue.head) = count := by omega
    simp only [peek, within]
    rw [List.drop_take, List.drop_drop]
    congr 1
    omega

theorem tail_consume_le (count : Nat) : (queue.consume count).tail ≤ queue.tail := by
  unfold consume
  split
  · exact Nat.zero_le _
  · exact Nat.le_refl _

end

end TxQueue
end Mqtt
