import Mqtt.Client.Machine
import Mqtt.Client.Transmit
import Mqtt.Library.PairedTables

/-!
# Clients that behave alike

Two clients behave alike when they agree on everything the code reads before it
writes it. Bytes that wait are compared, not the buffer that holds them; a slot that
is free, a stamp of a session that is over and a ping that is not outstanding are
not compared at all. Stamps may differ by a constant, which is how far apart the two
clocks are, and so may the counters that only grow.

`react_alike` is what one piece of code does with such a pair.
-/

namespace Mqtt

open Library

variable {cfg : Config}

/-- How far apart two clients' clocks and counters are, and whether the time of the
last arrival is one of the stamps they share. -/
structure Offset where
  clock : UInt32 := 0
  overflows : UInt32 := 0
  refusals : UInt32 := 0
  received : Prop := False

/-! ## Rows of the tables -/

/-- A slot in flight holds the same packet; a free one only has the same room. -/
structure OutboundSlot.Alike (d : UInt32) (slot other : OutboundSlot) : Prop where
  room : other.packet.length = slot.packet.length
  phase : other.phase = slot.phase
  packetId : slot.phase ≠ .free → other.packetId = slot.packetId
  packetLen : slot.phase ≠ .free → other.packetLen = slot.packetLen
  stored : slot.phase ≠ .free → other.stored = slot.stored
  stamp : slot.phase ≠ .free → other.lastSentMs = slot.lastSentMs + d

/-- The granted level is recorded and never read. -/
structure Subscription.Alike (s other : Subscription) : Prop where
  filter : other.filter = s.filter
  handler : other.handler = s.handler
  subId : other.subId = s.subId
  requestedQos : other.requestedQos = s.requestedQos
  needsResub : other.needsResub = s.needsResub

/-- So is the time a request was sent. -/
structure PendingAck.Alike (ack other : PendingAck) : Prop where
  subs : other.subs = ack.subs
  packetId : other.packetId = ack.packetId
  expected : other.expected = ack.expected

/-! ## Clients -/

/-- What two clients share that `connect()` does not set. -/
structure Client.AlikeTables (δ : Offset) (a b : Client cfg) : Prop where
  tx : b.tx.peek = a.tx.peek
  rx : b.rx = a.rx
  outbound : List.Forall₂ (OutboundSlot.Alike δ.clock) a.outbound b.outbound
  inboundIds : b.inboundIds = a.inboundIds
  subscriptions : List.Forall₂ Subscription.Alike a.subscriptions b.subscriptions
  pending : List.Forall₂ PendingAck.Alike a.pending b.pending
  state : b.state = a.state
  inStep : b.inStep = a.inStep
  overflows : b.inboundOverflowCount = a.inboundOverflowCount + δ.overflows
  refusals : b.txBackpressureCount = a.txBackpressureCount + δ.refusals
  nextPacketId : b.nextPacketId = a.nextPacketId
  nextSubId : b.nextSubId = a.nextSubId

/-- Two clients that behave alike. -/
structure Client.Alike (δ : Offset) (a b : Client cfg) : Prop extends Client.AlikeTables δ a b where
  connack : b.connack = a.connack
  lastError : b.lastError = a.lastError
  keepAliveMs : b.keepAliveMs = a.keepAliveMs
  cleanSession : b.cleanSession = a.cleanSession
  pingOutstanding : b.pingOutstanding = a.pingOutstanding
  pingSent : a.pingOutstanding = true → b.pingSentMs = a.pingSentMs + δ.clock
  lastSent : a.state ≠ .idle → b.lastSentMs = a.lastSentMs + δ.clock
  connectStarted : a.state ≠ .idle → b.connectStartedMs = a.connectStartedMs + δ.clock
  retransmitNow : a.state = .connected → b.retransmitNow = a.retransmitNow
  lastReceived : δ.received → b.lastReceivedMs = a.lastReceivedMs + δ.clock

/-- Two reactions that cannot be told apart. -/
structure Reaction.Alike (δ : Offset) (r s : Reaction cfg) : Prop where
  error : s.error = r.error
  queued : s.queued = r.queued
  callback : s.callback = r.callback
  packetId : s.packetId = r.packetId
  readClock : s.readClock = r.readClock
  client : r.client.Alike δ s.client

/-- The same piece of code with its clock reading moved. -/
def Label.shift (d : UInt32) : Label → Label
  | .connect opts now => .connect opts (now + d)
  | .publish topic payload qos retain now => .publish topic payload qos retain (now + d)
  | .subscribe subs handler now => .subscribe subs handler (now + d)
  | .unsubscribe filters now => .unsubscribe filters (now + d)
  | .transportConnect result now => .transportConnect result (now + d)
  | .deadline now => .deadline (now + d)
  | .send result written now => .send result written (now + d)
  | .recv result bytes now => .recv result bytes (now + d)
  | .handle header body now => .handle header body (now + d)
  | .keepAlive now => .keepAlive (now + d)
  | .resubscribe now => .resubscribe (now + d)
  | .retransmit now => .retransmit (now + d)
  | label => label

/-- A piece of code and what it was given, the clock apart. -/
def Label.timeless : Label → Label
  | .connect opts _ => .connect opts 0
  | .publish topic payload qos retain _ => .publish topic payload qos retain 0
  | .subscribe subs handler _ => .subscribe subs handler 0
  | .unsubscribe filters _ => .unsubscribe filters 0
  | .transportConnect result _ => .transportConnect result 0
  | .deadline _ => .deadline 0
  | .send result written _ => .send result written 0
  | .recv result bytes _ => .recv result bytes 0
  | .handle header body _ => .handle header body 0
  | .keepAlive _ => .keepAlive 0
  | .resubscribe _ => .resubscribe 0
  | .retransmit _ => .retransmit 0
  | label => label

/-- A piece of code without a clock reading has none after the move. -/
theorem Label.timeless_shift (label : Label) (d : UInt32) :
    (label.shift d).timeless = label.timeless := by
  cases label <;> rfl

/-- Elapsed time does not depend on where the clock started. -/
theorem elapsedMs_shift (now since d : UInt32) :
    elapsedMs (now + d) (since + d) = elapsedMs now since := by
  unfold elapsedMs
  grind

section Rows

variable {d : UInt32} {slot other : OutboundSlot}

/-- Slots that are released are alike. -/
theorem OutboundSlot.Alike.release (alike : slot.Alike d other) :
    slot.release.Alike d other.release :=
  ⟨alike.room, rfl, by simp [OutboundSlot.release], by simp [OutboundSlot.release],
    by simp [OutboundSlot.release], by simp [OutboundSlot.release]⟩

/-- Overwriting the front of two buffers keeps what they had in common. -/
theorem take_overwrite_congr {buffer other : Bytes} {count : Nat} (bytes : Bytes)
    (same : other.take count = buffer.take count) :
    (overwrite other bytes).take count = (overwrite buffer bytes).take count := by
  unfold overwrite
  rw [List.take_append, List.take_append]
  congr 1
  by_cases short : count ≤ bytes.length
  · simp [Nat.sub_eq_zero_of_le short]
  · have enough : bytes.length + (count - bytes.length) = count := by omega
    rw [List.take_drop, List.take_drop, enough, same]

/-- Writing over the front of a buffer keeps lengths equal. -/
theorem length_overwrite_eq {buffer other : Bytes} (bytes : Bytes)
    (same : other.length = buffer.length) :
    (overwrite other bytes).length = (overwrite buffer bytes).length := by
  simp [overwrite, same]

/-- The same bytes may be written into both buffers. -/
theorem OutboundSlot.Alike.overwritten (alike : slot.Alike d other) (bytes : Bytes) :
    OutboundSlot.Alike d { slot with packet := overwrite slot.packet bytes }
      { other with packet := overwrite other.packet bytes } :=
  { alike with
    room := length_overwrite_eq bytes alike.room
    stored := by
      intro inFlight
      have same := alike.stored inFlight
      unfold OutboundSlot.stored at same ⊢
      rw [alike.packetLen inFlight] at same ⊢
      exact take_overwrite_congr bytes same }

/-- A packet just written is all a slot in flight shows of its buffer. -/
theorem take_overwrite_self (buffer bytes : Bytes) {count : Nat} (within : count ≤ bytes.length) :
    (overwrite buffer bytes).take count = bytes.take count := by
  rw [overwrite, List.take_append_of_le_length within]

/-- The DUP bit may be set in both. -/
theorem OutboundSlot.Alike.markDup (alike : slot.Alike d other) (inFlight : slot.phase ≠ .free) :
    slot.markDup.Alike d other.markDup := by
  have length := alike.packetLen inFlight
  have same := alike.stored inFlight
  unfold OutboundSlot.stored at same
  rw [length] at same
  unfold OutboundSlot.markDup
  rw [length]
  by_cases nothing : slot.packetLen = 0
  · rw [if_pos nothing, if_pos nothing]
    exact alike
  rw [if_neg nothing, if_neg nothing]
  obtain ⟨count, isCount⟩ : ∃ count, slot.packetLen.toNat = count + 1 :=
    Nat.exists_eq_succ_of_ne_zero fun zero => nothing (UInt16.toNat_inj.mp zero)
  have room := alike.room
  cases isPacket : slot.packet with
  | nil =>
    obtain isOther : other.packet = [] := List.length_eq_zero_iff.mp (by rw [room, isPacket]; rfl)
    simp only [isOther]
    exact alike
  | cons first rest =>
    rw [isPacket] at room same
    cases isOther : other.packet with
    | nil => simp [isOther] at room
    | cons first' rest' =>
      rw [isOther] at room same
      rw [isCount, List.take_succ_cons, List.take_succ_cons] at same
      obtain ⟨rfl, sameRest⟩ := List.cons.inj same
      simp only
      split
      · refine { alike with
          room := by simpa using room, packetLen := fun _ => rfl, stored := fun _ => ?_ }
        simp only [OutboundSlot.stored, isCount, List.take_succ_cons, sameRest]
      · exact alike

end Rows

/-! ## Queueing -/

/-- The encoder refuses its arguments, or writes one packet. -/
def Definite (encode : Nat → Result Nat × Bytes) : Prop :=
  Refuses encode ∨ ∃ packet, Encodes encode packet

/-- Acknowledgements. -/
theorem definite_ack (type : PacketType) (id : UInt16) : Definite (encodeAck · type id) := by
  by_cases isAck : isAckType type = true
  · by_cases zero : id = 0
    · exact .inl ⟨.invalidArgument, fun _ => by simp [encodeAck, isAck, zero]⟩
    · exact .inr ⟨_, encodes_ack isAck zero⟩
  · exact .inl ⟨.invalidArgument, fun _ => by simp [encodeAck, isAck]⟩

/-- PINGREQ and DISCONNECT. -/
theorem definite_empty {type : PacketType} (isEmpty : type = .pingreq ∨ type = .disconnect) :
    Definite (encodeEmpty · type) :=
  .inr ⟨_, encodes_empty isEmpty⟩

/-- CONNECT. -/
theorem definite_connect (opts : ConnectOptions) : Definite (encodeConnect · opts) := by
  cases sized : connectRemainingLength opts with
  | error error => exact .inl ⟨error, fun _ => by simp only [encodeConnect, sized]⟩
  | ok size => exact .inr ⟨_, encodes_connect sized⟩

/-- PUBLISH. -/
theorem definite_publish (topic payload : Bytes) (qos : QoS) (retain : Bool) (id : UInt16) :
    Definite (encodePublish · topic payload qos retain false id) := by
  by_cases unnamed : qos ≠ .atMostOnce ∧ id = 0
  · exact .inl ⟨.invalidArgument, fun _ => by simp only [encodePublish, if_pos unnamed]⟩
  cases sized : publishRemainingLength topic payload.length qos with
  | error error => exact .inl ⟨error, fun _ => by simp [encodePublish, if_neg unnamed, sized]⟩
  | ok size =>
    exact .inr ⟨_, encodes_publish (fun tracked zero => unnamed ⟨tracked, zero⟩) (fun _ => rfl)
      sized⟩

/-- SUBSCRIBE. -/
theorem definite_subscribe (id : UInt16) (subs : List TopicSubscription) :
    Definite (encodeSubscribe · id subs) := by
  by_cases zero : id = 0
  · exact .inl ⟨.invalidArgument, fun _ => by simp only [encodeSubscribe, if_pos zero]⟩
  cases sized : subscribeRemainingLength subs with
  | error error =>
    exact .inl ⟨error, fun _ => by simp only [encodeSubscribe, if_neg zero, sized]⟩
  | ok size => exact .inr ⟨_, encodes_subscribe zero sized⟩

/-- UNSUBSCRIBE. -/
theorem definite_unsubscribe (id : UInt16) (filters : List Bytes) :
    Definite (encodeUnsubscribe · id filters) := by
  by_cases zero : id = 0
  · exact .inl ⟨.invalidArgument, fun _ => by simp only [encodeUnsubscribe, if_pos zero]⟩
  cases sized : unsubscribeRemainingLength filters with
  | error error =>
    exact .inl ⟨error, fun _ => by simp only [encodeUnsubscribe, if_neg zero, sized]⟩
  | ok size => exact .inr ⟨_, encodes_unsubscribe zero sized⟩

/-- A definite encoder that succeeds reports the length of what it wrote. -/
theorem Definite.of_ok {encode : Nat → Result Nat × Bytes} {size count : Nat}
    (definite : Definite encode) (ok : (encode size).1 = .ok count) :
    (encode size).2.length = count ∧ count ≤ size := by
  rcases definite with ⟨error, refuses⟩ | ⟨packet, encodes⟩
  · simp [refuses size] at ok
  · obtain ⟨isPacket, rfl, fits⟩ := encodes.of_ok (Prod.ext ok rfl)
    exact ⟨congrArg List.length isPacket, fits⟩

namespace Client

/-- What a sized packet comes to, by how many bytes wait. -/
def sizedResult (cfg : Config) (waiting size : Nat) (encode : Nat → Result Nat × Bytes) :
    Result Bytes :=
  if size > cfg.txBufferSize then .error .bufferTooSmall
  else if waiting + size ≤ cfg.txBufferSize then (encode size).1.map fun _ => (encode size).2
  else .error .txQueueFull

/-- The bytes a result adds to the queue. -/
def addedBytes : Result Bytes → Bytes
  | .ok bytes => bytes
  | .error _ => []

/-- What becomes of the queue depends on its content only. -/
theorem enqueueSized_eq {encode : Nat → Result Nat × Bytes} (definite : Definite encode)
    (c : Client cfg) (size : Nat) :
    ∃ tx, c.enqueueSized size encode =
        (sizedResult cfg c.tx.peek.length size encode, { c with tx := tx }) ∧
      tx.peek = c.tx.peek ++ addedBytes (sizedResult cfg c.tx.peek.length size encode) := by
  by_cases large : size > cfg.txBufferSize
  · exact ⟨c.tx, by simp only [enqueueSized, sizedResult, if_pos large],
      by simp [sizedResult, if_pos large, addedBytes]⟩
  by_cases room : c.tx.peek.length + size ≤ cfg.txBufferSize
  swap
  · have refused : ¬ (c.tx.reserve size).1 = true := fun reserved =>
      room ((c.tx.reserve_iff size).mp reserved)
    refine ⟨(c.tx.reserve size).2, ?_, ?_⟩
    · simp only [enqueueSized, sizedResult, if_neg large, if_neg room, if_neg refused]
    · simp only [sizedResult, if_neg large, if_neg room, addedBytes, TxQueue.peek_reserve,
        List.append_nil]
  have reserved := (c.tx.reserve_iff size).mpr room
  cases outcome : (encode size).1 with
  | error error =>
    refine ⟨(c.tx.reserve size).2.write (encode size).2, ?_, ?_⟩
    · simp only [enqueueSized, sizedResult, if_neg large, if_pos room, if_pos reserved, outcome,
        Except.map]
    · simp only [sizedResult, if_neg large, if_pos room, outcome, Except.map, addedBytes,
        TxQueue.peek_write, TxQueue.peek_reserve, List.append_nil]
  | ok count =>
    obtain ⟨rfl, fits⟩ := definite.of_ok outcome
    refine ⟨((c.tx.reserve size).2.write (encode size).2).commit (encode size).2.length, ?_, ?_⟩
    · simp only [enqueueSized, sizedResult, if_neg large, if_pos room, if_pos reserved, outcome,
        Except.map]
    · have atTail := TxQueue.room_of_reserve reserved
      simp only [sizedResult, if_neg large, if_pos room, outcome, Except.map, addedBytes]
      rw [TxQueue.peek_commit_write _ _ (by omega), TxQueue.peek_reserve]

section Queueing

variable {a b : Client cfg} (same : b.tx.peek = a.tx.peek)

include same

/-- Queues with the same content take or refuse a packet alike. -/
theorem enqueue_pair (bytes : Bytes) :
    ∃ result txA txB, a.enqueue bytes = (result, { a with tx := txA }) ∧
      b.enqueue bytes = (result, { b with tx := txB }) ∧ txB.peek = txA.peek := by
  by_cases room : a.HasRoom bytes.length
  · obtain ⟨txA, ranA, peekA⟩ := enqueue_of_room room
    obtain ⟨txB, ranB, peekB⟩ := @enqueue_of_room _ b bytes (by rwa [HasRoom, same])
    exact ⟨_, txA, txB, ranA, ranB, by rw [peekA, peekB, same]⟩
  · obtain ⟨txA, ranA, peekA⟩ := enqueue_of_full room
    obtain ⟨txB, ranB, peekB⟩ := @enqueue_of_full _ b bytes (by rwa [HasRoom, same])
    exact ⟨_, txA, txB, ranA, ranB, by rw [peekA, peekB, same]⟩

/-- The same for a packet encoded in place. -/
theorem enqueueSized_pair {encode : Nat → Result Nat × Bytes} (definite : Definite encode)
    (size : Nat) :
    ∃ result txA txB, a.enqueueSized size encode = (result, { a with tx := txA }) ∧
      b.enqueueSized size encode = (result, { b with tx := txB }) ∧ txB.peek = txA.peek := by
  obtain ⟨txA, ranA, peekA⟩ := enqueueSized_eq definite a size
  obtain ⟨txB, ranB, peekB⟩ := enqueueSized_eq definite b size
  rw [same] at ranB peekB
  exact ⟨_, txA, txB, ranA, ranB, peekB.trans peekA.symm⟩

end Queueing

/-! ## The tables -/

/-- Slots that are alike hold the same id, if any. -/
theorem slot_inUse {d : UInt32} {slot other : OutboundSlot} (related : slot.Alike d other)
    (id : UInt16) :
    (decide (other.phase ≠ .free) && decide (other.packetId = id)) =
      (decide (slot.phase ≠ .free) && decide (slot.packetId = id)) := by
  rw [related.phase]
  by_cases free : slot.phase = .free
  · simp [free]
  · rw [related.packetId free]

/-- Tables stay alike when every entry is flagged. -/
theorem flagged_alike {table paired : List Subscription}
    (rows : List.Forall₂ Subscription.Alike table paired) :
    List.Forall₂ Subscription.Alike (table.map fun s => { s with needsResub := true })
      (paired.map fun s => { s with needsResub := true }) :=
  map_paired rows fun _ _ related => { related with needsResub := rfl }

namespace AlikeTables

variable {δ : Offset} {a b : Client cfg} (alike : a.AlikeTables δ b)

include alike

/-- The same slot is free. -/
theorem freeOutboundSlot : b.freeOutboundSlot = a.freeOutboundSlot :=
  findIdx?_paired alike.outbound fun _ _ related => by rw [related.phase]

/-- An id is found in the same slot. -/
theorem findOutbound (id : UInt16) : b.findOutbound id = a.findOutbound id :=
  findIdx?_paired alike.outbound fun _ _ related => slot_inUse related id

/-- Slots at one index are alike. -/
theorem slotAt (index : Nat) : (a.slotAt index).Alike δ.clock (b.slotAt index) :=
  getD_paired alike.outbound index ⟨rfl, rfl, by simp, by simp, by simp, by simp⟩

/-- The same packet ids are in use. -/
theorem packetIdInUse : b.packetIdInUse = a.packetIdInUse := by
  funext id
  unfold Client.packetIdInUse
  congr 1
  · exact any_paired alike.outbound fun _ _ related => slot_inUse related id
  · exact any_paired alike.pending fun _ _ related => by rw [related.packetId]

/-- The same packet id comes next. -/
theorem allocPacketId :
    b.allocPacketId = (a.allocPacketId.1,
      { b with nextPacketId := a.allocPacketId.2.nextPacketId }) := by
  unfold Client.allocPacketId
  rw [alike.packetIdInUse, alike.nextPacketId]

/-- A filter is found at the same place. -/
theorem findSubscription (filter : Bytes) : b.findSubscription filter = a.findSubscription filter :=
  findIdx?_paired alike.subscriptions fun _ _ related => by rw [related.filter]

/-- An identity is found at the same place. -/
theorem findBySubId (sid : UInt16) : b.findBySubId sid = a.findBySubId sid :=
  findIdx?_paired alike.subscriptions fun _ _ related => by rw [related.subId]

/-- The same identity comes next. -/
theorem allocSubId :
    b.allocSubId = (a.allocSubId.1, { b with nextSubId := a.allocSubId.2.nextSubId }) := by
  have inUse : (fun sid => (b.findBySubId sid).isSome) = fun sid => (a.findBySubId sid).isSome :=
    funext fun sid => by rw [alike.findBySubId]
  unfold Client.allocSubId
  rw [inUse, alike.nextSubId]

/-- Both can await another acknowledgement, or neither. -/
theorem ackTableFull : b.ackTableFull = a.ackTableFull := by
  unfold Client.ackTableFull
  rw [alike.pending.length_eq]

/-- Both can remember another inbound id, or neither. -/
theorem inboundTableFull : b.inboundTableFull = a.inboundTableFull := by
  unfold Client.inboundTableFull
  rw [alike.inboundIds]

/-- A request needs as many new entries. -/
theorem newEntries (subs : List TopicSubscription) : b.newEntries subs = a.newEntries subs := by
  unfold Client.newEntries
  simp only [alike.findSubscription]

/-- A request is about the same identities. -/
theorem knownSubIds (filters : List Bytes) : b.knownSubIds filters = a.knownSubIds filters := by
  unfold Client.knownSubIds
  congr 1
  funext filter
  rcases @find?_paired _ _ _ _ _ (fun s : Subscription => s.filter = filter)
    (fun s : Subscription => s.filter = filter) alike.subscriptions
    fun _ _ related => by rw [related.filter] with ⟨noneA, noneB⟩ | ⟨s, other, related, inA, inB⟩
  · rw [noneA, noneB]
  · rw [inA, inB, Option.map_some, Option.map_some, related.subId]

/-- The same entries are next to be sent again. -/
theorem resubBatch : List.Forall₂ Subscription.Alike a.resubBatch b.resubBatch :=
  List.forall₂_take _ (filter_paired alike.subscriptions fun _ _ related => related.needsResub)

/-- The request that sends them is the same. -/
theorem resubRequest : b.resubRequest = a.resubRequest :=
  map_eq_paired alike.resubBatch fun _ _ related => by rw [related.filter, related.requestedQos]

end AlikeTables

end Client

end Mqtt
