import Mqtt.Session.Slots

/-!
# A full queue and a packet that is too large

`publish()`, `subscribe()` and `unsubscribe()` check their arguments and the client's
tables first and offer the transmit queue a packet last. `enqueue_sized` compares the
packet with the whole buffer before it asks for room, so `TxQueueFull` means that the
queue has to drain. The copy that `publish()` makes at QoS 1 and 2 goes through
`enqueue`, which does not: there a packet larger than the buffer is reported the same
way, if it fits a slot.
-/

namespace Mqtt

open Library

variable {cfg : Config}

/-- The calls that put a packet on the queue of a connected client. -/
def Label.isRequest : Label → Bool
  | .publish _ _ _ _ _ | .subscribe _ _ _ | .unsubscribe _ _ => true
  | _ => false

/-- A message that is kept for retransmission. -/
def Label.isTracked : Label → Bool
  | .publish _ _ qos _ _ => qos ≠ .atMostOnce
  | _ => false

/-- The size of the packet a call makes, if its arguments can be encoded. -/
def Label.packetLength : Label → Option Nat
  | .publish topic payload qos _ _ =>
    (publishRemainingLength topic payload.length qos).toOption.map packetSize
  | .subscribe subs _ _ => (subscribeRemainingLength subs).toOption.map packetSize
  | .unsubscribe filters _ => (unsubscribeRemainingLength filters).toOption.map packetSize
  | _ => none

namespace Client

variable {c : Client cfg} {label : Label} {size : Nat}

/-- The call passes every check and offers the queue a packet of this size. -/
inductive Offers (c : Client cfg) : Label → Nat → Prop where
  | untracked {topic payload : Bytes} {retain : Bool} {now : UInt32} {remaining : Nat}
      (up : c.state = .connected) (named : isValidTopicName topic = true)
      (short : topic.length ≤ cfg.maxTopicLen)
      (sized : publishRemainingLength topic payload.length .atMostOnce = .ok remaining) :
      Offers c (.publish topic payload .atMostOnce retain now) (packetSize remaining)
  | tracked {topic payload : Bytes} {qos : QoS} {retain : Bool} {now : UInt32}
    {remaining index : Nat}
      {slot : OutboundSlot} (up : c.state = .connected) (named : isValidTopicName topic = true)
      (short : topic.length ≤ cfg.maxTopicLen) (tracked : qos ≠ .atMostOnce)
      (slots : cfg.maxInflightOut ≠ 0) (found : c.freeOutboundSlot = some index)
      (here : c.outbound[index]? = some slot) (given : c.allocPacketId.1 ≠ 0)
      (sized : publishRemainingLength topic payload.length qos = .ok remaining)
      (stored : packetSize remaining ≤ slot.packet.length) :
      Offers c (.publish topic payload qos retain now) (packetSize remaining)
  | subscribe {subs : List TopicSubscription} {handler : Option Nat} {now : UInt32}
      {remaining : Nat} (up : c.state = .connected)
      (shape : ¬ (subs.isEmpty = true ∨ subs.length > cfg.maxTopicsPerRequest))
      (checked : checkFilters subs cfg.maxTopicLen = .ok) (awaitable : c.ackTableFull = false)
      (slots : c.subscriptions.length + c.newEntries subs ≤ cfg.maxSubscriptions)
      (sized : subscribeRemainingLength subs = .ok remaining) (given : c.allocPacketId.1 ≠ 0) :
      Offers c (.subscribe subs handler now) (packetSize remaining)
  | unsubscribe {filters : List Bytes} {now : UInt32} {remaining : Nat}
      (up : c.state = .connected)
      (shape : ¬ (filters.isEmpty = true ∨ filters.length > cfg.maxTopicsPerRequest))
      (awaitable : c.ackTableFull = false)
      (sized : unsubscribeRemainingLength filters = .ok remaining)
      (given : c.allocPacketId.1 ≠ 0) :
      Offers c (.unsubscribe filters now) (packetSize remaining)

/-- What the queue holds plays no part in what it is offered. -/
theorem Offers.with_tx (offers : c.Offers label size) (tx : TxQueue cfg.txBufferSize) :
    Offers { c with tx := tx } label size := by
  cases offers with
  | untracked up named short sized => exact .untracked up named short sized
  | tracked up named short tracked slots found here given sized stored =>
    exact .tracked up named short tracked slots found here given sized stored
  | subscribe up shape checked awaitable slots sized given =>
    exact .subscribe up shape checked awaitable slots sized given
  | unsubscribe up shape awaitable sized given =>
    exact .unsubscribe up shape awaitable sized given

theorem Offers.packetLength (offers : c.Offers label size) : label.packetLength = some size := by
  cases offers with
  | untracked _ _ _ sized => simp [Label.packetLength, sized, Except.toOption]
  | tracked _ _ _ _ _ _ _ _ sized => simp [Label.packetLength, sized, Except.toOption]
  | subscribe _ _ _ _ _ sized => simp [Label.packetLength, sized, Except.toOption]
  | unsubscribe _ _ _ sized => simp [Label.packetLength, sized, Except.toOption]

/-- A tracked message was encoded into a slot before it was offered. -/
theorem Offers.stored (offers : c.Offers label size) (sized : c.SlotsSized)
    (isTracked : label.isTracked = true) : size ≤ cfg.kPersistSize := by
  cases offers with
  | tracked _ _ _ _ _ _ here _ _ stored =>
    rwa [sized.buffers _ (List.mem_of_getElem? here)] at stored
  | _ => cases isTracked

/-- The call was accepted, and left one packet of this size on the queue. -/
def Accepts (c : Client cfg) (label : Label) (size : Nat) : Prop :=
  (c.react label).error = .ok ∧
    ∃ packet, (c.react label).queued = [packet] ∧ packet.bytes.length = size

/-- A queue with room takes what it is offered. -/
theorem Offers.accepted (offers : c.Offers label size) (room : c.HasRoom size) :
    c.Accepts label size := by
  unfold Accepts
  cases offers with
  | @untracked topic payload retain now remaining up named short sized =>
    obtain ⟨tx, -, same⟩ := c.publishUntracked_of_room retain sized room
    rw [react, c.publish_untracked payload retain now up named short, same]
    exact ⟨rfl, _, rfl, length_publishPacket sized⟩
  | @tracked topic payload qos retain now remaining index slot up named short tracked slots found
      here given sized stored =>
    have length : (publishPacket topic payload qos retain false c.allocPacketId.1).length =
        packetSize remaining := length_publishPacket sized
    obtain ⟨tx, -, same⟩ := c.allocPacketId.2.publishInto_of_room retain now tracked given here
      sized (length ▸ stored) (length ▸ room)
    rw [react, c.publish_tracked payload retain now up named short tracked slots found,
      if_neg given, same]
    exact ⟨rfl, _, rfl, length⟩
  | @subscribe subs handler now remaining up shape checked awaitable slots sized given =>
    obtain ⟨tx, -, same⟩ := c.subscribe_of_room handler now up shape checked awaitable slots
      sized given room
    rw [react, same]
    exact ⟨rfl, _, rfl, length_subscribePacket sized⟩
  | @unsubscribe filters now remaining up shape awaitable sized given =>
    obtain ⟨tx, sent, -⟩ := @enqueueSized_of_room cfg c.allocPacketId.2 _ _ _
      (encodes_unsubscribe given sized) (length_unsubscribePacket sized) room
    rw [react, c.unsubscribe_passes now up shape awaitable sized given, sendUnsubscribe, sent]
    exact ⟨rfl, _, rfl, length_unsubscribePacket sized⟩

/-- What a call is told when the queue has no room for its packet. -/
theorem Offers.refused (offers : c.Offers label size) (full : ¬ c.HasRoom size) :
    (c.react label).error = if label.isTracked then .txQueueFull else refusal cfg size := by
  cases offers with
  | @untracked topic payload retain now remaining up named short sized =>
    obtain ⟨tx, -, same⟩ := c.publishUntracked_of_full retain sized full
    rw [react, c.publish_untracked payload retain now up named short, same]
    rfl
  | @tracked topic payload qos retain now remaining index slot up named short tracked slots found
      here given sized stored =>
    have length : (publishPacket topic payload qos retain false c.allocPacketId.1).length =
        packetSize remaining := length_publishPacket sized
    obtain ⟨tx, _, -, -, same⟩ := c.allocPacketId.2.publishInto_of_full retain now tracked given
      here sized (length ▸ stored) (length ▸ full)
    rw [if_pos (by simpa [Label.isTracked] using tracked), react,
      c.publish_tracked payload retain now up named short tracked slots found, if_neg given, same]
    rfl
  | @subscribe subs handler now remaining up shape checked awaitable slots sized given =>
    obtain ⟨tx, sent, -⟩ := @enqueueSized_refusal cfg c.allocPacketId.2 _
      (encodeSubscribe · c.allocPacketId.1 subs) full
    rw [react, c.subscribe_passes handler now up shape checked awaitable slots sized given,
      sendSubscribe, sent]
    rfl
  | @unsubscribe filters now remaining up shape awaitable sized given =>
    obtain ⟨tx, sent, -⟩ := @enqueueSized_refusal cfg c.allocPacketId.2 _
      (encodeUnsubscribe · c.allocPacketId.1 filters) full
    rw [react, c.unsubscribe_passes now up shape awaitable sized given, sendUnsubscribe, sent]
    rfl

/-- A call that offers the queue nothing is not refused for want of room there. -/
theorem offers_or_refused (c : Client cfg) (isRequest : label.isRequest = true) :
    (∃ size, c.Offers label size) ∨ (c.react label).error ≠ .txQueueFull := by
  cases label with
  | publish topic payload qos retain now =>
    rcases c.publish_early topic payload qos retain now with
      ⟨error, n, outbound, _, other, _, same⟩ | ⟨up, named, short, size, sized, qosCase⟩
    · refine .inr ?_
      rw [react, same]
      exact other
    rcases qosCase with rfl | ⟨tracked, slots, given, index, slot, found, here, _, stored⟩
    · exact .inl ⟨_, .untracked up named short sized⟩
    · exact .inl ⟨_, .tracked up named short tracked slots found here given sized stored⟩
  | subscribe subs handler now =>
    rcases c.subscribe_early subs handler now with
      ⟨error, n, _, other, same⟩ | ⟨up, shape, checked, awaitable, slots, given, size, sized⟩
    · refine .inr ?_
      rw [react, same]
      exact other
    · exact .inl ⟨_, .subscribe up shape checked awaitable slots sized given⟩
  | unsubscribe filters now =>
    rcases c.unsubscribe_early filters now with
      ⟨error, n, _, other, same⟩ | ⟨up, shape, awaitable, given, size, sized⟩
    · refine .inr ?_
      rw [react, same]
      exact other
    · exact .inl ⟨_, .unsubscribe up shape awaitable sized given⟩
  | _ => cases isRequest

end Client

/-- `TxQueueFull` says that the call will be accepted once the queue has drained, and a
packet that never fits is reported with another code. -/
structure Client.FullMeansLater (c : Client cfg) (label : Label) : Prop where
  later : (c.react label).error = .txQueueFull →
    ∃ size, label.packetLength = some size ∧ size ≤ cfg.txBufferSize ∧
      ∀ tx : TxQueue cfg.txBufferSize, tx.peek = [] →
        ({ c with tx := tx } : Client cfg).Accepts label size
  never : ∀ size, label.packetLength = some size → cfg.txBufferSize < size →
    (c.react label).error ≠ .txQueueFull

/-- What a tracked call offers to the queue fits an empty one. -/
def Client.OffersFitting (c : Client cfg) (label : Label) : Prop :=
  label.isTracked = true → ∀ size, c.Offers label size → size ≤ cfg.txBufferSize

/-- Where a slot is no larger than the queue, that is true of every message. -/
theorem Client.SlotsSized.offersFitting {c : Client cfg} (sized : c.SlotsSized)
    (smaller : cfg.maxPersistedMsgSize ≤ cfg.txBufferSize) (label : Label) :
    c.OffersFitting label := by
  have positive := cfg.txHoldsConnect
  have persisted : cfg.kPersistSize ≤ cfg.txBufferSize := by
    unfold Config.kPersistSize atLeastOne
    split <;> omega
  exact fun isTracked size offers => (offers.stored sized isTracked).trans persisted

/-- A call that is told to wait for the queue has a packet that fits an empty one. -/
theorem Client.Offers.fits {c : Client cfg} {label : Label} {size : Nat}
    (offers : c.Offers label size) (fitting : c.OffersFitting label)
    (told : (c.react label).error = .txQueueFull) : size ≤ cfg.txBufferSize := by
  have full : ¬ c.HasRoom size := fun room => by
    rw [(offers.accepted room).1] at told
    cases told
  rw [offers.refused full] at told
  by_cases isTracked : label.isTracked = true
  · exact fitting isTracked size offers
  · by_contra large
    rw [if_neg isTracked, refusal, if_pos (Nat.lt_of_not_le large)] at told
    cases told

/-- `TxQueueFull` means that the call can be made again later, exactly if what a tracked
call offers to the queue fits an empty one. It always does where a slot is no larger. -/
theorem full_queue_drains {log : Log cfg} (history : History log) {label : Label}
    (isRequest : label.isRequest = true) :
    (log.state.FullMeansLater label ↔ log.state.OffersFitting label) ∧
    (cfg.maxPersistedMsgSize ≤ cfg.txBufferSize → log.state.FullMeansLater label) := by
  suffices exactly : log.state.FullMeansLater label ↔ log.state.OffersFitting label by
    exact ⟨exactly, fun smaller => exactly.mpr (history.slotsSized.offersFitting smaller label)⟩
  constructor
  · intro means isTracked size offers
    by_contra large
    have full : ¬ log.state.HasRoom size := by
      unfold Client.HasRoom
      omega
    refine means.never size offers.packetLength (Nat.lt_of_not_le large) ?_
    rw [offers.refused full, if_pos isTracked]
  intro fitting
  rcases log.state.offers_or_refused isRequest with ⟨size, offers⟩ | other
  swap
  · exact ⟨fun told => absurd told other, fun _ _ _ => other⟩
  constructor
  · intro told
    have fits := offers.fits fitting told
    refine ⟨size, offers.packetLength, fits, fun tx drained => (offers.with_tx tx).accepted ?_⟩
    rwa [Client.HasRoom, drained, List.length_nil, Nat.zero_add]
  · intro asked isSize large told
    obtain rfl : asked = size := Option.some.inj (isSize.symm.trans offers.packetLength)
    exact absurd (offers.fits fitting told) (Nat.not_le.mpr large)

namespace Backpressure

def options : ConnectOptions := { clientId := [97] }

def env : Env where
  opens := [.ok]
  sends := [(.ok, 15)]
  recvs := [(.ok, [0x20, 2, 0, 0])]

/-- Connect, and let application code run. -/
def application (next : Script) : Script := .connect options (.step next)

/-- Publish this many zero bytes. -/
def message (size : Nat) (qos : QoS) : Label := .publish [116] (List.replicate size 0) qos false 0

/-- A slot holds twice what the queue does. -/
def config : Config :=
  { Config.small with maxPersistedMsgSize := 32, persistedHoldsHeader := by decide }

end Backpressure

/-- Eleven bytes wait in a queue for 16, and a message of seven has to wait for them. -/
theorem full_queue_drains_later :
    let c := (World.exec .small Backpressure.env (Backpressure.application
      (.publish [116] (List.replicate 6 0) .atMostOnce false .done))).client
    (c.react (Backpressure.message 0 .atLeastOnce)).error = .txQueueFull ∧
      ∀ tx : TxQueue 16, tx.peek = [] →
        ({ c with tx := tx } : Client .small).Accepts (Backpressure.message 0 .atLeastOnce) 7 := by
  have full : ((World.exec .small Backpressure.env (Backpressure.application
      (.publish [116] (List.replicate 6 0) .atMostOnce false .done))).client.react
        (Backpressure.message 0 .atLeastOnce)).error = .txQueueFull := by decide +kernel
  obtain ⟨size, isSize, _, drains⟩ :=
    ((full_queue_drains (World.exec_history _ _ _) rfl).2 (by decide)).later full
  obtain rfl : 7 = size := Option.some.inj (Eq.trans (by decide +kernel) isSize)
  exact ⟨full, drains⟩

/-- The client is connected and its queue is empty. A QoS 1 message of 18 bytes is refused
with the code that asks for another try, though the queue holds 16. -/
theorem oversize_reported_full :
    let w := World.exec Backpressure.config Backpressure.env (Backpressure.application .done)
    History w.log ∧ w.client.state = .connected ∧ w.client.tx.peek = [] ∧
      (Backpressure.message 11 .atLeastOnce).packetLength = some 18 ∧
      Backpressure.config.txBufferSize = 16 ∧
      (w.client.react (Backpressure.message 11 .atLeastOnce)).error = .txQueueFull ∧
      ¬ w.client.FullMeansLater (Backpressure.message 11 .atLeastOnce) :=
  ⟨World.exec_history _ _ _, by decide +kernel, by decide +kernel, by decide +kernel, rfl,
    by decide +kernel, fun means =>
      means.never 18 (by decide +kernel) (by decide) (by decide +kernel)⟩

end Mqtt
