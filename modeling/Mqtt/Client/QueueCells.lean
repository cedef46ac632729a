import Mqtt.Client.TxQueue
import Mqtt.Library.CheckedReads
import Mqtt.Library.Fifo

/-!
# The queue in machine arithmetic

`TxQueue` carries its index bounds in its type. Here the queue is what the source
declares, an array and two `size_t` indices with nothing known about them, and every
sum and difference is one of the machine's. Started empty it stays within its bounds,
follows `TxQueue` in every operation, and so is the bounded queue of `Library.Fifo`.
-/

namespace Mqtt

open Library

/-- The members of the source's queue, `width` bits to an index. -/
structure QueueCells {width : Nat} (capacity : BitVec width) where
  buffer : Bytes
  head : BitVec width
  tail : BitVec width

namespace QueueCells

variable {width : Nat} {capacity : BitVec width}

def initial (capacity : BitVec width) : QueueCells capacity where
  buffer := List.replicate capacity.toNat 0
  head := 0
  tail := 0

def pending (cells : QueueCells capacity) : BitVec width := cells.tail - cells.head

/-- Where the waiting bytes stand. -/
def peekSpan (cells : QueueCells capacity) : Span :=
  ⟨cells.head.toNat, (cells.tail - cells.head).toNat⟩

/-- Where the next bytes may be written. -/
def writeSpan (cells : QueueCells capacity) : Span :=
  ⟨cells.tail.toNat, (capacity - cells.tail).toNat⟩

/-- The waiting bytes; a span that leaves the buffer shows nothing. -/
def peek (cells : QueueCells capacity) : Bytes := (cells.peekSpan.read cells.buffer).getD []

def compact (cells : QueueCells capacity) : QueueCells capacity :=
  if cells.head = 0 then cells
  else
    { buffer :=
        if cells.tail - cells.head > 0 then
          cells.peek ++ cells.buffer.drop (cells.tail - cells.head).toNat
        else cells.buffer
      head := 0
      tail := cells.tail - cells.head }

/-- Reserving finds the same room. -/
def reserve (cells : QueueCells capacity) (count : BitVec width) : Bool × QueueCells capacity :=
  if count > capacity then (false, cells)
  else if capacity - cells.tail ≥ count then (true, cells)
  else (capacity - cells.compact.tail ≥ count, cells.compact)

/-- Write at the start of `writeSpan`, no further than it reaches. -/
def write (cells : QueueCells capacity) (bytes : Bytes) : QueueCells capacity :=
  let written := bytes.take cells.writeSpan.size
  { cells with
    buffer := cells.buffer.take cells.writeSpan.start ++ written ++
      cells.buffer.drop (cells.writeSpan.start + written.length) }

def commit (cells : QueueCells capacity) (count : BitVec width) : QueueCells capacity :=
  let room := capacity - cells.tail
  { cells with tail := cells.tail + if count < room then count else room }

def consume (cells : QueueCells capacity) (count : BitVec width) : QueueCells capacity :=
  let avail := cells.tail - cells.head
  let head := cells.head + if count < avail then count else avail
  if head = cells.tail then { cells with head := 0, tail := 0 } else { cells with head := head }

def clear (cells : QueueCells capacity) : QueueCells capacity := { cells with head := 0, tail := 0 }

/-- One operation, with what it returns. -/
def step (cells : QueueCells capacity) :
    FifoOp UInt8 (BitVec width) → FifoAnswer UInt8 × QueueCells capacity
  | .reserve count => (.room (cells.reserve count).1, (cells.reserve count).2)
  | .write bytes => (.done, cells.write bytes)
  | .commit count => (.done, cells.commit count)
  | .consume count => (.done, cells.consume count)
  | .clear => (.done, cells.clear)
  | .peek => (.waiting cells.peek, cells)

/-- A sequence of operations on a fresh queue. -/
def run (capacity : BitVec width) (ops : List (FifoOp UInt8 (BitVec width))) :
    List (FifoAnswer UInt8) × QueueCells capacity :=
  runOps step (initial capacity) ops

end QueueCells

/-! ## The cells follow `TxQueue` -/

/-- The cells and the queue hold the same. -/
structure QueueCells.Holds {width : Nat} {capacity : BitVec width} (cells : QueueCells capacity)
    (queue : TxQueue capacity.toNat) : Prop where
  buffer : cells.buffer = queue.buffer
  head : cells.head.toNat = queue.head
  tail : cells.tail.toNat = queue.tail

namespace QueueCells

variable {width : Nat} {capacity : BitVec width} {cells : QueueCells capacity}
  {queue : TxQueue capacity.toNat}

theorem holds_initial (capacity : BitVec width) :
    (initial capacity).Holds (TxQueue.initial capacity.toNat) :=
  ⟨rfl, by simp [initial, TxQueue.initial], by simp [initial, TxQueue.initial]⟩

namespace Holds

section

variable (holds : cells.Holds queue)

include holds

theorem head_le_tail : cells.head ≤ cells.tail := by
  rw [BitVec.le_def, holds.head, holds.tail]
  exact queue.headLeTail

theorem tail_le_capacity : cells.tail ≤ capacity := by
  rw [BitVec.le_def, holds.tail]
  exact queue.tailLeCapacity

/-- The difference of the indices does not wrap. -/
theorem toNat_pending : (cells.tail - cells.head).toNat = queue.tail - queue.head := by
  rw [BitVec.toNat_sub_of_le holds.head_le_tail, holds.head, holds.tail]

/-- Neither does the room at the tail. -/
theorem toNat_room : (capacity - cells.tail).toNat = capacity.toNat - queue.tail := by
  rw [BitVec.toNat_sub_of_le holds.tail_le_capacity, holds.tail]

/-- The span shown holds the waiting bytes. -/
theorem read_peekSpan : cells.peekSpan.read cells.buffer = some queue.peek := by
  have size := queue.bufferSize
  have order := queue.headLeTail
  have bound := queue.tailLeCapacity
  rw [peekSpan, holds.toNat_pending, holds.head, holds.buffer, Span.read, if_pos (by simp; omega)]
  rfl

theorem peek_eq : cells.peek = queue.peek := by
  rw [peek, holds.read_peekSpan, Option.getD_some]

theorem compact : cells.compact.Holds queue.compact := by
  have atFront : cells.head = 0 ↔ queue.head = 0 := by
    rw [← holds.head, ← BitVec.toNat_inj]
    simp
  unfold QueueCells.compact TxQueue.compact
  by_cases front : queue.head = 0
  · rw [if_pos (atFront.mpr front), if_pos front]
    exact holds
  · rw [if_neg (fun same => front (atFront.mp same)), if_neg front]
    refine ⟨?_, by simp, holds.toNat_pending⟩
    split
    · rw [holds.peek_eq, holds.buffer, holds.toNat_pending]
    · -- Nothing waits, and the source does not call `memmove`.
      rename_i nothing
      have none : queue.tail - queue.head = 0 := by
        rw [← holds.toNat_pending]
        simpa [BitVec.lt_def] using nothing
      simp [TxQueue.peek, none, holds.buffer]

theorem reserve (count : BitVec width) :
    (cells.reserve count).1 = (queue.reserve count.toNat).1 ∧
      (cells.reserve count).2.Holds (queue.reserve count.toNat).2 := by
  have large : count > capacity ↔ count.toNat > capacity.toNat := BitVec.lt_def
  have atTail : capacity - cells.tail ≥ count ↔ capacity.toNat - queue.tail ≥ count.toNat := by
    rw [ge_iff_le, BitVec.le_def, holds.toNat_room]
  have behind : capacity - cells.compact.tail ≥ count ↔
      capacity.toNat - queue.compact.tail ≥ count.toNat := by
    rw [ge_iff_le, BitVec.le_def, holds.compact.toNat_room]
  unfold QueueCells.reserve TxQueue.reserve
  simp only [large, atTail, behind]
  split_ifs
  · exact ⟨rfl, holds⟩
  · exact ⟨rfl, holds⟩
  · exact ⟨rfl, holds.compact⟩

/-- Writing keeps the cells and the queue in step. -/
theorem write (bytes : Bytes) : (cells.write bytes).Holds (queue.write bytes) := by
  refine ⟨?_, holds.head, holds.tail⟩
  simp only [QueueCells.write, TxQueue.write, writeSpan, holds.buffer, holds.tail, holds.toNat_room]

theorem commit (count : BitVec width) : (cells.commit count).Holds (queue.commit count.toNat) := by
  refine ⟨holds.buffer, holds.head, ?_⟩
  have bound := queue.tailLeCapacity
  have range := capacity.isLt
  have added : (if count < capacity - cells.tail then count else capacity - cells.tail).toNat =
      min count.toNat (capacity.toNat - queue.tail) := by
    rw [← holds.toNat_room]
    split <;> rename_i less <;> rw [BitVec.lt_def] at less <;> omega
  simp only [QueueCells.commit, TxQueue.commit]
  rw [BitVec.toNat_add, added, holds.tail]
  exact Nat.mod_eq_of_lt (by omega)

theorem consume (count : BitVec width) :
    (cells.consume count).Holds (queue.consume count.toNat) := by
  have order := queue.headLeTail
  have bound := queue.tailLeCapacity
  have range := capacity.isLt
  have taken : (if count < cells.tail - cells.head then count
      else cells.tail - cells.head).toNat = min count.toNat (queue.tail - queue.head) := by
    rw [← holds.toNat_pending]
    split <;> rename_i less <;> rw [BitVec.lt_def] at less <;> omega
  have moved : (cells.head + if count < cells.tail - cells.head then count
      else cells.tail - cells.head).toNat =
      queue.head + min count.toNat (queue.tail - queue.head) := by
    rw [BitVec.toNat_add, taken, holds.head]
    exact Nat.mod_eq_of_lt (by omega)
  have drained : (cells.head + if count < cells.tail - cells.head then count
      else cells.tail - cells.head) = cells.tail ↔
      queue.head + min count.toNat (queue.tail - queue.head) = queue.tail := by
    rw [← moved, ← holds.tail, BitVec.toNat_inj]
  simp only [QueueCells.consume, TxQueue.consume, drained]
  split
  · exact ⟨holds.buffer, by simp, by simp⟩
  · exact ⟨holds.buffer, moved, holds.tail⟩

theorem clear : cells.clear.Holds queue.clear :=
  ⟨holds.buffer, by simp [QueueCells.clear, TxQueue.clear],
    by simp [QueueCells.clear, TxQueue.clear]⟩

end

end Holds

/-- The indices stand where some queue has them. -/
def IsQueue (cells : QueueCells capacity) : Prop := ∃ queue, cells.Holds queue

/-- Whatever is asked of it, a queue is left. -/
theorem isQueue_step (cells : QueueCells capacity) (op : FifoOp UInt8 (BitVec width))
    (before : cells.IsQueue) : (cells.step op).2.IsQueue := by
  obtain ⟨queue, holds⟩ := before
  cases op with
  | reserve count => exact ⟨_, (holds.reserve count).2⟩
  | write bytes => exact ⟨_, holds.write bytes⟩
  | commit count => exact ⟨_, holds.commit count⟩
  | consume count => exact ⟨_, holds.consume count⟩
  | clear => exact ⟨_, holds.clear⟩
  | peek => exact ⟨queue, holds⟩

/-- Any run of operations leaves a queue. -/
theorem isQueue_run (capacity : BitVec width) (ops : List (FifoOp UInt8 (BitVec width))) :
    (run capacity ops).2.IsQueue :=
  runOps_invariant isQueue_step ops ⟨_, holds_initial capacity⟩

end QueueCells

/-! ## `TxQueue` is a bounded queue -/

/-- The waiting bytes are the committed items, there is room for what was granted, and
what was staged stands at the tail. -/
structure TxQueue.Models {capacity : Nat} (queue : TxQueue capacity)
    (fifo : Fifo UInt8 capacity) : Prop where
  waiting : queue.peek = fifo.items
  room : queue.tail + fifo.granted ≤ capacity
  staged : (queue.buffer.drop queue.tail).take fifo.staged.length = fifo.staged

namespace TxQueue.Models

variable {capacity : Nat} {queue : TxQueue capacity} {fifo : Fifo UInt8 capacity}

/-- The grant stands while the tail does not advance. -/
theorem retreat (models : queue.Models fifo) {next : TxQueue capacity}
    (back : next.tail ≤ queue.tail) : next.tail + fifo.granted ≤ capacity :=
  Nat.le_trans (Nat.add_le_add_right back _) models.room

end TxQueue.Models

/-- The cells hold a queue that models the abstract one. -/
def QueueCells.Models {width : Nat} {capacity : BitVec width} (cells : QueueCells capacity)
    (fifo : Fifo UInt8 capacity.toNat) : Prop :=
  ∃ queue, cells.Holds queue ∧ queue.Models fifo

namespace QueueCells

variable {width : Nat} {capacity : BitVec width}

theorem models_initial (capacity : BitVec width) :
    (initial capacity).Models (Fifo.empty UInt8 capacity.toNat) :=
  ⟨_, holds_initial capacity, TxQueue.peek_initial, Nat.zero_le _, by simp [Fifo.empty]⟩

/-- Each operation that the abstract queue allows is answered as it answers. -/
theorem follows {cells : QueueCells capacity} {fifo next : Fifo UInt8 capacity.toNat}
    {op : FifoOp UInt8 (BitVec width)} {answer : FifoAnswer UInt8} (models : cells.Models fifo)
    (stepped : fifo.step (op.map BitVec.toNat) = some (answer, next)) :
    (cells.step op).1 = answer ∧ (cells.step op).2.Models next := by
  obtain ⟨queue, holds, models⟩ := models
  cases op with
  | reserve count =>
    obtain ⟨answers, holds'⟩ := holds.reserve count
    have given := queue.reserve_iff count.toNat
    rw [models.waiting] at given
    simp only [FifoOp.map, Fifo.step] at stepped
    split at stepped <;> cases stepped
    · rename_i room
      have reserved := given.mpr room
      refine ⟨by rw [step, answers, reserved], _, holds', ?_, TxQueue.room_of_reserve reserved, ?_⟩
      · rw [TxQueue.peek_reserve, models.waiting]
      · simp
    · rename_i full
      have refused : (queue.reserve count.toNat).1 = false :=
        Bool.eq_false_iff.mpr fun reserved => full (given.mp reserved)
      refine ⟨by rw [step, answers, refused], _, holds', ?_,
        models.retreat (queue.tail_reserve_le _), ?_⟩
      · rw [TxQueue.peek_reserve, models.waiting]
      · simp
  | write bytes =>
    simp only [FifoOp.map, Fifo.step] at stepped
    split at stepped <;> cases stepped
    rename_i fits
    have room : queue.tail + bytes.length ≤ capacity.toNat :=
      Nat.le_trans (Nat.add_le_add_left fits _) models.room
    exact ⟨rfl, _, holds.write bytes, by rw [TxQueue.peek_write, models.waiting], models.room,
      queue.take_write room⟩
  | commit count =>
    simp only [FifoOp.map, Fifo.step] at stepped
    split at stepped <;> cases stepped
    rename_i written
    have granted := fifo.stagedFits
    have bound := models.room
    have room : queue.tail + count.toNat ≤ capacity.toNat := by omega
    have moved : (queue.commit count.toNat).tail = queue.tail + count.toNat := by
      simp only [TxQueue.commit]
      omega
    have committed : fifo.staged.take count.toNat =
        (queue.buffer.drop queue.tail).take count.toNat := by
      rw [← models.staged, List.take_take, Nat.min_eq_left written]
    have left : queue.tail + count.toNat + (fifo.granted - count.toNat) ≤ capacity.toNat := by
      omega
    refine ⟨rfl, _, holds.commit count, ?_, ?_, ?_⟩
    · rw [TxQueue.peek_commit queue room, models.waiting, ← committed]
    · rw [moved]
      exact left
    · rw [moved, ← List.drop_drop, List.length_drop, ← List.drop_take]
      exact congrArg _ models.staged
  | consume count =>
    cases stepped
    exact ⟨rfl, _, holds.consume count, by rw [TxQueue.peek_consume, models.waiting],
      models.retreat (queue.tail_consume_le _), by simp⟩
  | clear =>
    cases stepped
    exact ⟨rfl, _, holds.clear, TxQueue.peek_clear queue, models.retreat (Nat.zero_le _),
      by simp⟩
  | peek =>
    cases stepped
    exact ⟨by rw [step, holds.peek_eq, models.waiting], queue, holds, models⟩

/-- The queue's memory after a sequence of operations on a fresh one. -/
structure RefinesFifo (capacity : BitVec width) (ops : List (FifoOp UInt8 (BitVec width))) :
    Prop where
  /-- The indices are in range, whatever was committed and consumed. -/
  inRange : (run capacity ops).2.head ≤ (run capacity ops).2.tail ∧
    (run capacity ops).2.tail ≤ capacity
  /-- A writer that keeps to its room gets the answers of the abstract queue, and the
  waiting bytes are one stretch of the buffer. -/
  answers : ∀ answers fifo,
    (Fifo.empty UInt8 capacity.toNat).run (ops.map (FifoOp.map BitVec.toNat)) =
      some (answers, fifo) →
    (run capacity ops).1 = answers ∧
      (run capacity ops).2.peekSpan.read (run capacity ops).2.buffer = some fifo.items
  /-- Room is given exactly when the waiting bytes leave it. -/
  reserves : ∀ count, ((run capacity ops).2.reserve count).1 = true ↔
    (run capacity ops).2.pending.toNat + count.toNat ≤ capacity.toNat
  /-- Asking for room leaves the waiting bytes as they are. -/
  keeps : ∀ count given cells, (run capacity ops).2.reserve count = (given, cells) →
    cells.peekSpan.read cells.buffer =
      (run capacity ops).2.peekSpan.read (run capacity ops).2.buffer
  /-- The room given lies in the buffer, behind the waiting bytes. -/
  apart : ∀ count cells, (run capacity ops).2.reserve count = (true, cells) →
    count.toNat ≤ cells.writeSpan.size ∧
      cells.peekSpan.start + cells.peekSpan.size ≤ cells.writeSpan.start ∧
      cells.writeSpan.start + cells.writeSpan.size ≤ cells.buffer.length

/-- The queue refines a bounded FIFO, for every capacity and every sequence of operations. -/
theorem refines_fifo (capacity : BitVec width) (ops : List (FifoOp UInt8 (BitVec width))) :
    RefinesFifo capacity ops := by
  obtain ⟨queue, holds⟩ := isQueue_run capacity ops
  refine
    { inRange := ⟨holds.head_le_tail, holds.tail_le_capacity⟩
      answers := ?_
      reserves := ?_
      keeps := ?_
      apart := ?_ }
  · intro answers fifo allowed
    obtain ⟨same, last, holds, models⟩ :=
      Fifo.run_of_follows follows (models_initial capacity) allowed
    exact ⟨same, holds.read_peekSpan.trans (congrArg some models.waiting)⟩
  · intro count
    rw [(holds.reserve count).1, queue.reserve_iff, TxQueue.length_peek, pending,
      holds.toNat_pending]
    rfl
  · intro count given cells asked
    have holds' := (holds.reserve count).2
    rw [asked] at holds'
    rw [holds'.read_peekSpan, holds.read_peekSpan, TxQueue.peek_reserve]
  · intro count cells asked
    obtain ⟨granted, holds'⟩ := holds.reserve count
    rw [asked] at granted holds'
    have room := TxQueue.room_of_reserve granted.symm
    have order := (queue.reserve count.toNat).2.headLeTail
    have size : cells.buffer.length = capacity.toNat :=
      (congrArg List.length holds'.buffer).trans (queue.reserve count.toNat).2.bufferSize
    simp only [writeSpan, peekSpan, holds'.toNat_room, holds'.toNat_pending, holds'.head,
      holds'.tail, size]
    omega

-- A partly drained queue is compacted to make room at its tail.
example :
    ((Fifo.empty UInt8 4).run [.reserve 3, .write [1, 2, 3], .commit 3, .consume 2, .reserve 3,
      .write [4, 5], .commit 2, .peek]).map (·.1) =
    some [.room true, .done, .done, .done, .room true, .done, .done, .waiting [3, 4, 5]] := by
  decide

end QueueCells
end Mqtt
