import Mqtt.Client.Receive
import Mqtt.Client.Timers
import Mqtt.Wire.Encoding

/-!
# What queueing a packet does

A packet is queued whole or not at all, and nothing of the client but its queue
changes either way. The statements name the packet and the condition on the free
space; the queue's indices appear in none of them.
-/

namespace Mqtt

open Library

variable {cfg : Config}

/-- The bytes a reaction added to the transmit queue. -/
def Reaction.wire (reaction : Reaction cfg) : Bytes := (reaction.queued.map (·.bytes)).flatten

/-- The queue has room for `count` more bytes. -/
def Client.HasRoom (c : Client cfg) (count : Nat) : Prop :=
  c.tx.peek.length + count ≤ cfg.txBufferSize

instance (c : Client cfg) (count : Nat) : Decidable (c.HasRoom count) :=
  inferInstanceAs (Decidable (_ ≤ _))

/-- What `enqueue_sized` answers to a packet that finds no room. -/
def refusal (cfg : Config) (size : Nat) : Error :=
  if size > cfg.txBufferSize then .bufferTooSmall else .txQueueFull

theorem refusal_ne_ok (cfg : Config) (size : Nat) : refusal cfg size ≠ .ok := by
  unfold refusal
  split <;> simp

theorem packetSize_eq {remainingLength : Nat} (within : remainingLength ≤ kMaxRemainingLength) :
    packetSize remainingLength = 1 + vbiSize remainingLength + remainingLength := by
  have inRange : ¬ remainingLength > kMaxRemainingLength := by omega
  simp only [packetSize, vbiSize, if_neg inRange]

namespace Client

/-- With room the bytes are queued. -/
theorem enqueue_of_room {c : Client cfg} {bytes : Bytes} (room : c.HasRoom bytes.length) :
    ∃ tx, c.enqueue bytes = (.ok, { c with tx := tx }) ∧ tx.peek = c.tx.peek ++ bytes := by
  have reserved := (c.tx.reserve_iff bytes.length).mpr room
  refine ⟨_, by simp only [enqueue, if_pos reserved]; rfl, ?_⟩
  rw [TxQueue.peek_commit_write _ _ (TxQueue.room_of_reserve reserved), TxQueue.peek_reserve]

/-- Without room nothing is. -/
theorem enqueue_of_full {c : Client cfg} {bytes : Bytes} (full : ¬ c.HasRoom bytes.length) :
    ∃ tx, c.enqueue bytes = (.txQueueFull, { c with tx := tx }) ∧ tx.peek = c.tx.peek := by
  have refused : ¬ (c.tx.reserve bytes.length).1 = true := fun reserved =>
    full ((c.tx.reserve_iff bytes.length).mp reserved)
  exact ⟨_, by simp only [enqueue, if_neg refused]; rfl, TxQueue.peek_reserve _ _⟩

section Sized

variable {c : Client cfg} {encode : Nat → Result Nat × Bytes} {packet : Bytes} {size : Nat}

/-- With room the packet is encoded into the queue. -/
theorem enqueueSized_of_room (encodes : Encodes encode packet) (sized : packet.length = size)
    (room : c.HasRoom size) :
    ∃ tx, c.enqueueSized size encode = (.ok packet, { c with tx := tx }) ∧
      tx.peek = c.tx.peek ++ packet := by
  subst sized
  have fits : ¬ packet.length > cfg.txBufferSize := by
    unfold HasRoom at room
    omega
  have reserved := (c.tx.reserve_iff packet.length).mpr room
  have written := (encodes packet.length).1 (Nat.le_refl _)
  refine ⟨_, by simp only [enqueueSized, if_neg fits, if_pos reserved, written]; rfl, ?_⟩
  rw [TxQueue.peek_commit_write _ _ (TxQueue.room_of_reserve reserved), TxQueue.peek_reserve]

/-- A packet that finds no room is refused with a code that says whether it ever could. -/
theorem enqueueSized_refusal (encode : Nat → Result Nat × Bytes) (full : ¬ c.HasRoom size) :
    ∃ tx, c.enqueueSized size encode = (.error (refusal cfg size), { c with tx := tx }) ∧
      tx.peek = c.tx.peek := by
  by_cases large : size > cfg.txBufferSize
  · exact ⟨c.tx, by simp only [enqueueSized, refusal, if_pos large], rfl⟩
  · have refused : ¬ (c.tx.reserve size).1 = true := fun reserved =>
      full ((c.tx.reserve_iff size).mp reserved)
    exact ⟨_, by simp only [enqueueSized, refusal, if_neg large, if_neg refused]; rfl,
      TxQueue.peek_reserve _ _⟩

/-- Without room it is not. -/
theorem enqueueSized_of_full (encode : Nat → Result Nat × Bytes) (full : ¬ c.HasRoom size) :
    ∃ error tx, c.enqueueSized size encode = (.error error, { c with tx := tx }) ∧
      error ≠ .ok ∧ tx.peek = c.tx.peek := by
  obtain ⟨tx, same, peek⟩ := enqueueSized_refusal encode full
  exact ⟨_, tx, same, refusal_ne_ok cfg size, peek⟩

end Sized

/-! ## Acknowledgements and the two empty packets -/

/-- An acknowledgement needs four bytes. -/
theorem sendAck_of_room {c : Client cfg} (type : PacketType) {id : UInt16}
    (isAck : isAckType type = true) (nonzero : id ≠ 0) (room : c.HasRoom 4) :
    ∃ tx, c.sendAck type id = (.ok (ackPacket type id), { c with tx := tx }) ∧
      tx.peek = c.tx.peek ++ ackPacket type id :=
  enqueueSized_of_room (encodes_ack isAck nonzero) (length_ackPacket type id) room

/-- Without them it is not sent. -/
theorem sendAck_of_full {c : Client cfg} (type : PacketType) (id : UInt16) (full : ¬ c.HasRoom 4) :
    ∃ error tx, c.sendAck type id = (.error error, { c with tx := tx }) ∧ error ≠ .ok ∧
      tx.peek = c.tx.peek :=
  enqueueSized_of_full _ full

theorem enqueueEmpty_of_room {c : Client cfg} (type : PacketType)
    (isEmpty : type = .pingreq ∨ type = .disconnect) (room : c.HasRoom 2) :
    ∃ tx, c.enqueueSized (packetSize 0) (encodeEmpty · type) =
        (.ok (emptyPacket type), { c with tx := tx }) ∧
      tx.peek = c.tx.peek ++ emptyPacket type :=
  enqueueSized_of_room (encodes_empty isEmpty) (length_emptyPacket type) room

theorem enqueueEmpty_of_full {c : Client cfg} (type : PacketType) (full : ¬ c.HasRoom 2) :
    ∃ error tx, c.enqueueSized (packetSize 0) (encodeEmpty · type) =
        (.error error, { c with tx := tx }) ∧ error ≠ .ok ∧ tx.peek = c.tx.peek :=
  enqueueSized_of_full _ full

end Client
end Mqtt
