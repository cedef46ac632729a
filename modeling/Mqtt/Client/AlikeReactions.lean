import Mqtt.Client.Alike
import Mqtt.Client.TimerEffects

/-!
# What alike clients do

Every piece of code does the same with two clients that behave alike, and leaves them
alike. Where it reads a stamp, the stamp was written in the session that runs:
`Ready` says so of the pieces that do.
-/

namespace Mqtt

open Library

variable {cfg : Config}

/-- Reactions that differ in their clients only. -/
theorem Reaction.Alike.same {δ : Offset} {a b : Client cfg} {error : Error} {queued : List Queued}
    {callback : Option Callback} {packetId : Option UInt16} {readClock : Bool}
    (alike : a.Alike δ b) :
    Reaction.Alike δ ⟨error, queued, callback, packetId, readClock, a⟩
      ⟨error, queued, callback, packetId, readClock, b⟩ :=
  ⟨rfl, rfl, rfl, rfl, rfl, alike⟩

namespace Client

/-- The session that the piece of code reads stamps of is running. -/
def Ready (c : Client cfg) : Label → Prop
  | .transportConnect _ _ => c.state = .connecting
  | .deadline _ => c.state ≠ .idle
  | .keepAlive _ | .retransmit _ => c.state = .connected
  | _ => True

variable {δ : Offset} {a b : Client cfg}

/-- Tables of slots stay alike when every slot is released. -/
theorem released_alike {d : UInt32} {table paired : List OutboundSlot}
    (rows : List.Forall₂ (OutboundSlot.Alike d) table paired) :
    List.Forall₂ (OutboundSlot.Alike d) (table.map OutboundSlot.release)
      (paired.map OutboundSlot.release) :=
  map_paired rows fun _ _ related => related.release

/-- A `connect()` that succeeds leaves alike what was alike up to what it sets. -/
theorem started_alike {txA txB : TxQueue cfg.txBufferSize} (tables : a.AlikeTables δ b)
    (peek : txB.peek = txA.peek) (opts : ConnectOptions) (now : UInt32) :
    Alike δ
      { a with
        tx := txA, cleanSession := opts.cleanSession, keepAliveMs := opts.keepAliveS.toUInt32 * 1000
        connack := {}, lastError := .ok, connectStartedMs := now, lastSentMs := now
        lastReceivedMs := now, pingOutstanding := false, state := .connecting }
      { b with
        tx := txB, cleanSession := opts.cleanSession, keepAliveMs := opts.keepAliveS.toUInt32 * 1000
        connack := {}, lastError := .ok, connectStartedMs := now + δ.clock
        lastSentMs := now + δ.clock, lastReceivedMs := now + δ.clock, pingOutstanding := false
        state := .connecting } :=
  { tables with
    tx := peek, state := rfl, connack := rfl, lastError := rfl, keepAliveMs := rfl
    cleanSession := rfl, pingOutstanding := rfl, pingSent := nofun, lastSent := fun _ => rfl
    connectStarted := fun _ => rfl, retransmitNow := nofun, lastReceived := fun _ => rfl }

/-- A slot that a packet was just written into shows nothing else of its buffer. -/
theorem written_alike {d : UInt32} {slot other : OutboundSlot}
    (room : other.packet.length = slot.packet.length) (sameId : other.packetId = slot.packetId)
    (stamp : other.lastSentMs = slot.lastSentMs + d) (bytes : Bytes) (phase : Phase) :
    OutboundSlot.Alike d
      { slot with
        packet := overwrite slot.packet bytes, packetLen := UInt16.ofNat bytes.length
        phase := phase }
      { other with
        packet := overwrite other.packet bytes, packetLen := UInt16.ofNat bytes.length
        phase := phase } where
  room := length_overwrite_eq bytes room
  phase := rfl
  packetId _ := sameId
  packetLen _ := rfl
  stored _ := by
    have within : (UInt16.ofNat bytes.length).toNat ≤ bytes.length := by
      rw [UInt16.toNat_ofNat']
      exact Nat.mod_le _ _
    simp only [OutboundSlot.stored, take_overwrite_self _ _ within]
  stamp _ := stamp

/-- What was put into a slot is there. -/
theorem slotAt_setSlot {c : Client cfg} {index : Nat} (within : index < c.outbound.length)
    (slot : OutboundSlot) : (c.setSlot index slot).slotAt index = slot :=
  slotAt_of_getElem? (by simp [Client.setSlot, within])

/-- The same slots are due. -/
theorem retransmitDue_alike {d : UInt32} {slot other : OutboundSlot}
    (related : slot.Alike d other) (forced : Bool) (now : UInt32) :
    retransmitDue cfg forced (now + d) other = retransmitDue cfg forced now slot := by
  unfold retransmitDue
  rw [related.phase]
  by_cases free : slot.phase = .free
  · simp [free]
  · rw [related.stamp free, elapsedMs_shift]

section Small

variable (alike : a.Alike δ b)

include alike

/-- The transmit queues may change together. -/
theorem Alike.withTx {txA txB : TxQueue cfg.txBufferSize}
    (peek : txB.peek = txA.peek) : Alike δ { a with tx := txA } { b with tx := txB } :=
  { alike with tx := peek }

/-- Both calls fail with the same error. -/
theorem Alike.refuse (error : Error) : (a.refuse error).Alike δ (b.refuse error) :=
  .same alike

/-- Slots that are alike may be put in one place of both tables. -/
theorem Alike.setSlot (index : Nat) {slot other : OutboundSlot}
    (related : slot.Alike δ.clock other) : (a.setSlot index slot).Alike δ (b.setSlot index other) :=
  { alike with outbound := set_paired alike.outbound index related }

/-- The packet-id counters may be set together. -/
theorem Alike.withNextPacketId (id : UInt16) :
    Alike δ { a with nextPacketId := id } { b with nextPacketId := id } :=
  { alike with nextPacketId := rfl }

/-- Both count one answer that was left out. -/
theorem Alike.countBackpressure : a.countBackpressure.Alike δ b.countBackpressure :=
  { alike with
    refusals := by
      simp only [Client.countBackpressure, alike.refusals]
      grind }

end Small

/-- One slot of a retransmission pass. -/
theorem retransmitSlot_alike {r s : Reaction cfg} (related : r.Alike δ s) (forced : Bool)
    (now : UInt32) (index : Nat) :
    (retransmitSlot forced now r index).Alike δ
      (retransmitSlot forced (now + δ.clock) s index) := by
  have alike := related.client
  have slots := alike.slotAt index
  unfold retransmitSlot
  simp only [retransmitDue_alike slots]
  split_ifs with due
  swap
  · exact related
  have marked := slots.markDup (phase_of_due due)
  have inFlight : (r.client.slotAt index).markDup.phase ≠ .free := by
    rw [phase_markDup]
    exact phase_of_due due
  have set := alike.setSlot index marked
  rw [marked.stored inFlight]
  obtain ⟨result, txA, txB, ranA, ranB, peek⟩ :=
    enqueue_pair set.tx (r.client.slotAt index).markDup.stored
  rw [ranA, ranB]
  have next := set.withTx peek
  cases result with
  | ok =>
    refine { related with queued := by rw [related.queued], client := ?_ }
    exact next.setSlot index { marked with stamp := fun _ => rfl }
  | _ => exact { related with client := next }

section Reactions

variable (alike : a.Alike δ b)

include alike

/-! ## Calls -/

/-- What `connect()` clears before it builds the CONNECT. -/
theorem Alike.prepare (opts : ConnectOptions) : (a.prepare opts).Alike δ (b.prepare opts) := by
  have cleared : b.tx.clear.peek = a.tx.clear.peek := by simp
  unfold Client.prepare
  cases opts.cleanSession with
  | false => exact { alike with tx := cleared, rx := rfl }
  | true =>
    exact { alike with
      tx := cleared, rx := rfl, outbound := released_alike alike.outbound, inboundIds := rfl
      subscriptions := flagged_alike alike.subscriptions, pending := .nil, nextPacketId := rfl }

/-- `connect()` after its checks. -/
theorem Alike.beginConnect (opts : ConnectOptions) (now : UInt32) :
    (a.beginConnect opts now).Alike δ (b.beginConnect opts (now + δ.clock)) := by
  have prepared := alike.prepare opts
  unfold Client.beginConnect
  cases connectRemainingLength opts with
  | error error => exact alike.refuse error
  | ok size =>
    obtain ⟨result, txA, txB, ranA, ranB, peek⟩ :=
      enqueueSized_pair prepared.tx (definite_connect opts) (packetSize size)
    simp only [ranA, ranB]
    cases result with
    | error error => exact (prepared.withTx peek).refuse error
    | ok bytes =>
      exact .same (started_alike prepared.toAlikeTables peek opts now)

/-- `connect()`, each by its own clock. -/
theorem Alike.connect (opts : ConnectOptions) (now : UInt32) :
    (a.connect opts now).Alike δ (b.connect opts (now + δ.clock)) := by
  unfold Client.connect
  rw [alike.state]
  split_ifs
  all_goals first | exact alike.refuse _ | exact alike.beginConnect opts now

/-- The end of a session, without the notice. -/
theorem Alike.teardown (reason : Error) : (a.teardown reason).Alike δ (b.teardown reason) := by
  have cleared : b.tx.clear.peek = a.tx.clear.peek := by simp
  unfold Client.teardown
  rw [alike.cleanSession]
  exact { alike with
    tx := cleared, rx := rfl, pingOutstanding := rfl, state := rfl, lastError := rfl
    pending := .nil, subscriptions := flagged_alike alike.subscriptions
    outbound := by
      cases a.cleanSession with
      | false => exact alike.outbound
      | true => exact released_alike alike.outbound
    inboundIds := by rw [alike.inboundIds]
    pingSent := fun outstanding => by cases outstanding
    lastSent := fun busy => absurd rfl busy
    connectStarted := fun busy => absurd rfl busy
    retransmitNow := nofun }

/-- The end of a session. -/
theorem Alike.shutdown (reason : Error) : (a.shutdown reason).Alike δ (b.shutdown reason) :=
  ⟨rfl, rfl, by simp only [Client.shutdown, alike.state], rfl, rfl, alike.teardown reason⟩

/-- `disconnect()`, whichever way it ends. -/
theorem Alike.disconnect : a.disconnect.Alike δ b.disconnect := by
  unfold Client.disconnect
  rw [alike.state]
  split_ifs with idle up
  · exact alike.refuse _
  · obtain ⟨result, txA, txB, ranA, ranB, peek⟩ :=
      enqueueSized_pair alike.tx (definite_empty (.inr rfl)) (packetSize 0)
    simp only [ranA, ranB]
    cases result with
    | error error => exact (alike.withTx peek).shutdown .ok
    | ok bytes =>
      exact .same { alike with
        tx := peek, state := rfl, lastSent := fun _ => alike.lastSent idle
        connectStarted := fun _ => alike.connectStarted idle, retransmitNow := nofun }
  · exact alike.shutdown .ok

/-- A QoS 0 `publish()`. -/
theorem Alike.publishUntracked (topic payload : Bytes) (qos : QoS) (retain : Bool) :
    (a.publishUntracked topic payload qos retain).Alike δ
      (b.publishUntracked topic payload qos retain) := by
  unfold Client.publishUntracked
  cases publishRemainingLength topic payload.length qos with
  | error error => exact alike.refuse error
  | ok size =>
    obtain ⟨result, txA, txB, ranA, ranB, peek⟩ := enqueueSized_pair alike.tx
      (definite_publish topic payload qos retain 0) (packetSize size)
    simp only [ranA, ranB]
    cases result with
    | error error => exact (alike.withTx peek).refuse error
    | ok bytes => exact .same (alike.withTx peek)

/-- A `publish()` that has been given a slot and an id. -/
theorem Alike.publishInto (index : Nat) (id : UInt16)
    (topic payload : Bytes) (qos : QoS) (retain : Bool) (now : UInt32) :
    (a.publishInto index id topic payload qos retain now).Alike δ
      (b.publishInto index id topic payload qos retain (now + δ.clock)) := by
  have related := alike.slotAt index
  have definite := definite_publish topic payload qos retain id
  unfold Client.publishInto
  simp only [related.room]
  generalize isEncoded :
    encodePublish (a.slotAt index).packet.length topic payload qos retain false id = encoded
  obtain ⟨outcome, bytes⟩ := encoded
  have set := alike.setSlot index (related.overwritten bytes)
  cases outcome with
  | error error => exact set.refuse _
  | ok count =>
    obtain ⟨isCount, _⟩ := @Definite.of_ok _ _ count definite (congrArg Prod.fst isEncoded)
    obtain rfl : bytes.length = count := by rw [← isCount, isEncoded]
    simp only [take_overwrite_self _ _ (Nat.le_refl _), List.take_length]
    obtain ⟨result, txA, txB, ranA, ranB, peek⟩ := enqueue_pair set.tx bytes
    simp only [ranA, ranB]
    cases result with
    | ok =>
      exact .same ((set.withTx peek).setSlot index (@written_alike δ.clock
          { a.slotAt index with packetId := id, qos := qos, lastSentMs := now }
          { b.slotAt index with packetId := id, qos := qos, lastSentMs := now + δ.clock }
          related.room rfl rfl bytes _))
    | _ => exact (set.withTx peek).refuse _

/-- `publish()` at every QoS. -/
theorem Alike.publish (topic payload : Bytes) (qos : QoS) (retain : Bool) (now : UInt32) :
    (a.publish topic payload qos retain now).Alike δ
      (b.publish topic payload qos retain (now + δ.clock)) := by
  unfold Client.publish
  rw [alike.state, alike.freeOutboundSlot]
  split_ifs
  any_goals exact alike.refuse _
  · exact alike.publishUntracked topic payload qos retain
  · cases a.freeOutboundSlot with
    | none => exact alike.refuse _
    | some index =>
      rw [alike.allocPacketId]
      have allocated := alike.withNextPacketId a.allocPacketId.2.nextPacketId
      simp only
      split_ifs
      · exact allocated.refuse _
      · exact allocated.publishInto index _ topic payload qos retain now

/-! ### Requests -/

/-- One entry of a request gets the same identity in both tables. -/
theorem Alike.registerFilter (handler : Option Nat) (ids : List UInt16) (s : TopicSubscription) :
    (Client.registerFilter handler (a, ids) s).1.Alike δ
        (Client.registerFilter handler (b, ids) s).1 ∧
      (Client.registerFilter handler (b, ids) s).2 =
        (Client.registerFilter handler (a, ids) s).2 := by
  simp only [Client.registerFilter, alike.findSubscription]
  cases a.findSubscription s.filter with
  | some index =>
    refine ⟨{ alike with subscriptions := ?_ }, ?_⟩
    · exact modify_paired alike.subscriptions index fun _ _ related =>
        { related with requestedQos := rfl, handler := rfl, needsResub := rfl }
    · have related := getD_paired alike.subscriptions index
        (⟨rfl, rfl, rfl, rfl, rfl⟩ : Subscription.Alike { filter := [] } { filter := [] })
      simp only [related.subId]
  | none =>
    simp only [alike.allocSubId]
    refine ⟨{ alike with nextSubId := rfl, subscriptions := ?_ }, trivial⟩
    exact append_paired alike.subscriptions (.cons ⟨rfl, rfl, rfl, rfl, rfl⟩ .nil)

/-- A whole request gets the same identities. -/
theorem Alike.foldl_registerFilter (handler : Option Nat) (subs : List TopicSubscription)
    (ids : List UInt16) :
    (subs.foldl (Client.registerFilter handler) (a, ids)).1.Alike δ
        (subs.foldl (Client.registerFilter handler) (b, ids)).1 ∧
      (subs.foldl (Client.registerFilter handler) (b, ids)).2 =
        (subs.foldl (Client.registerFilter handler) (a, ids)).2 := by
  induction subs generalizing a b ids with
  | nil => exact ⟨alike, rfl⟩
  | cons s rest ih =>
    obtain ⟨next, same⟩ := alike.registerFilter handler ids s
    rw [List.foldl_cons, List.foldl_cons]
    generalize Client.registerFilter handler (a, ids) s = stateA at next same ⊢
    generalize Client.registerFilter handler (b, ids) s = stateB at next same ⊢
    obtain ⟨a', ids'⟩ := stateA
    obtain ⟨b', _⟩ := stateB
    obtain rfl := same
    exact ih next _

/-- A request that is awaited from now on. -/
theorem Alike.awaiting (subs : List UInt16) (id : UInt16) (expected : PacketType) (now : UInt32) :
    Alike δ
      { a with pending := a.pending ++
          [{ subs := subs, sentMs := now, packetId := id, expected := expected }] }
      { b with pending := b.pending ++
          [{ subs := subs, sentMs := now + δ.clock, packetId := id, expected := expected }] } :=
  { alike with pending := append_paired alike.pending (.cons ⟨rfl, rfl, rfl⟩ .nil) }

/-- A SUBSCRIBE that is queued is registered and awaited. -/
theorem Alike.sendSubscribe (id : UInt16) (size : Nat)
    (subs : List TopicSubscription) (handler : Option Nat) (now : UInt32) :
    (a.sendSubscribe id size subs handler now).Alike δ
      (b.sendSubscribe id size subs handler (now + δ.clock)) := by
  unfold Client.sendSubscribe
  obtain ⟨result, txA, txB, ranA, ranB, peek⟩ :=
    enqueueSized_pair alike.tx (definite_subscribe id subs) (packetSize size)
  simp only [ranA, ranB]
  cases result with
  | error error => exact (alike.withTx peek).refuse error
  | ok bytes =>
    obtain ⟨next, same⟩ := (alike.withTx peek).foldl_registerFilter handler subs []
    simp only [same]
    exact .same (next.awaiting _ id .suback now)

/-- `subscribe()`, each by its own clock. -/
theorem Alike.subscribe (subs : List TopicSubscription) (handler : Option Nat) (now : UInt32) :
    (a.subscribe subs handler now).Alike δ (b.subscribe subs handler (now + δ.clock)) := by
  unfold Client.subscribe
  rw [alike.state, alike.ackTableFull, alike.newEntries, alike.subscriptions.length_eq]
  split_ifs
  any_goals exact alike.refuse _
  cases subscribeRemainingLength subs with
  | error error => exact alike.refuse error
  | ok size =>
    rw [alike.allocPacketId]
    have allocated := alike.withNextPacketId a.allocPacketId.2.nextPacketId
    simp only
    split_ifs
    · exact allocated.refuse _
    · exact allocated.sendSubscribe _ size subs handler now

/-- An UNSUBSCRIBE that is queued is awaited. -/
theorem Alike.sendUnsubscribe (id : UInt16) (size : Nat) (filters : List Bytes) (now : UInt32) :
    (a.sendUnsubscribe id size filters now).Alike δ
      (b.sendUnsubscribe id size filters (now + δ.clock)) := by
  unfold Client.sendUnsubscribe
  obtain ⟨result, txA, txB, ranA, ranB, peek⟩ :=
    enqueueSized_pair alike.tx (definite_unsubscribe id filters) (packetSize size)
  simp only [ranA, ranB]
  have next := alike.withTx peek
  cases result with
  | error error => exact next.refuse error
  | ok bytes =>
    simp only [next.knownSubIds]
    exact .same (next.awaiting _ id .unsuback now)

/-- `unsubscribe()`, each by its own clock. -/
theorem Alike.unsubscribe (filters : List Bytes) (now : UInt32) :
    (a.unsubscribe filters now).Alike δ (b.unsubscribe filters (now + δ.clock)) := by
  unfold Client.unsubscribe
  rw [alike.state, alike.ackTableFull]
  split_ifs
  any_goals exact alike.refuse _
  cases unsubscribeRemainingLength filters with
  | error error => exact alike.refuse error
  | ok size =>
    rw [alike.allocPacketId]
    have allocated := alike.withNextPacketId a.allocPacketId.2.nextPacketId
    simp only
    split_ifs
    · exact allocated.refuse _
    · exact allocated.sendUnsubscribe _ size filters now

/-! ## Packets -/

/-- A CONNACK. The stamps it brings into use were set by `connect()`. -/
theorem Alike.handleConnack (body : Bytes) :
    (a.handleConnack body).Alike δ (b.handleConnack body) := by
  by_cases awaiting : a.state = .awaitingConnack
  swap
  · simp only [Client.handleConnack, if_pos awaiting, alike.state]
    exact alike.refuse _
  have expected : ¬ a.state ≠ .awaitingConnack := fun other => other awaiting
  simp only [Client.handleConnack, if_neg expected, if_neg (alike.state ▸ expected)]
  cases decodeConnack body with
  | error error => exact alike.refuse error
  | ok info =>
    have told : Alike δ { a with connack := info } { b with connack := info } :=
      { alike with connack := rfl }
    have up : Alike δ
        { a with
          connack := info, state := .connected, pingOutstanding := false, retransmitNow := true }
        { b with
          connack := info, state := .connected, pingOutstanding := false
          retransmitNow := true } :=
      { told with
        state := rfl, pingOutstanding := rfl, pingSent := fun outstanding => by cases outstanding
        lastSent := fun _ => alike.lastSent (by simp [awaiting])
        connectStarted := fun _ => alike.connectStarted (by simp [awaiting])
        retransmitNow := fun _ => rfl }
    simp only
    split_ifs
    · exact told.refuse _
    · exact .same up
    · exact .same { up with subscriptions := flagged_alike alike.subscriptions }

/-- An acknowledgement, and what becomes of the client by whether it was queued. -/
theorem Alike.sendAck (type : PacketType) (id : UInt16) :
    ∃ result txA txB, a.sendAck type id = (result, { a with tx := txA }) ∧
      b.sendAck type id = (result, { b with tx := txB }) ∧
      Alike δ { a with tx := txA } { b with tx := txB } := by
  obtain ⟨result, txA, txB, ranA, ranB, peek⟩ :=
    enqueueSized_pair alike.tx (definite_ack type id) (packetSize 2)
  exact ⟨result, txA, txB, ranA, ranB, alike.withTx peek⟩

/-- A QoS 2 PUBLISH, new or seen before. -/
theorem Alike.receiveExactlyOnce (m : Message) :
    (a.receiveExactlyOnce m).Alike δ (b.receiveExactlyOnce m) := by
  unfold Client.receiveExactlyOnce Client.inboundContains
  rw [alike.inboundIds, alike.inboundTableFull]
  obtain ⟨result, txA, txB, ranA, ranB, next⟩ := alike.sendAck .pubrec m.packetId
  simp only [ranA, ranB]
  split_ifs
  · cases result with
    | error error => exact .same next.countBackpressure
    | ok bytes => exact .same next
  · refine .same { alike with inboundIds := rfl, overflows := ?_ }
    simp only [alike.overflows]
    grind
  · cases result with
    | error error => exact .same next.countBackpressure
    | ok bytes =>
      exact .same { next with inboundIds := by rw [alike.inboundIds] }

/-- A PUBLISH at every QoS. -/
theorem Alike.handlePublish (header : FixedHeader) (body : Bytes) :
    (a.handlePublish header body).Alike δ (b.handlePublish header body) := by
  unfold Client.handlePublish
  rw [alike.state]
  split_ifs
  · exact alike.refuse _
  cases decodePublish header body with
  | error error => exact alike.refuse error
  | ok m =>
    simp only
    cases m.qos with
    | atMostOnce => exact .same alike
    | atLeastOnce =>
      obtain ⟨result, txA, txB, ranA, ranB, next⟩ := alike.sendAck .puback m.packetId
      simp only [ranA, ranB]
      cases result with
      | error error => exact .same next.countBackpressure
      | ok bytes => exact .same next
    | exactlyOnce => exact alike.receiveExactlyOnce m
    | outOfRange _ => exact alike.refuse _

/-- A PUBACK or a PUBCOMP. -/
theorem Alike.completeDelivery (body : Bytes) (awaited : Phase) :
    (a.completeDelivery body awaited).Alike δ (b.completeDelivery body awaited) := by
  unfold Client.completeDelivery
  cases decodePacketId body with
  | error error => exact alike.refuse error
  | ok id =>
    simp only [alike.findOutbound]
    cases a.findOutbound id with
    | none => exact .same alike
    | some index =>
      have related := alike.slotAt index
      simp only [related.phase]
      split_ifs
      · exact .same alike
      · exact .same (alike.setSlot index related.release)

/-- A PUBREL from the slot that stores it. -/
theorem Alike.sendPubrel (index : Nat) (now : UInt32) (inFlight : (a.slotAt index).phase ≠ .free) :
    (a.sendPubrel index now).Alike δ (b.sendPubrel index (now + δ.clock)) := by
  have related := alike.slotAt index
  unfold Client.sendPubrel
  simp only [related.stored inFlight]
  obtain ⟨result, txA, txB, ranA, ranB, peek⟩ := enqueue_pair alike.tx (a.slotAt index).stored
  simp only [ranA, ranB]
  have next := alike.withTx peek
  cases result with
  | ok =>
    exact .same (next.setSlot index { related with stamp := fun _ => rfl })
  | _ => exact .same next.countBackpressure

/-- A PUBREC: the first one stores the PUBREL, every one sends it. -/
theorem Alike.handlePubrec (body : Bytes) (now : UInt32) :
    (a.handlePubrec body now).Alike δ (b.handlePubrec body (now + δ.clock)) := by
  unfold Client.handlePubrec
  cases decodePacketId body with
  | error error => exact alike.refuse error
  | ok id =>
    simp only [alike.findOutbound]
    cases found : a.findOutbound id with
    | none => exact .same alike
    | some index =>
      obtain ⟨_, here, _⟩ := findOutbound_some found
      have within := (List.getElem?_eq_some_iff.mp here).1
      have related := alike.slotAt index
      have phase := related.phase
      by_cases first : (a.slotAt index).phase = .waitPubrec
      · simp only [if_pos first, if_pos (phase.trans first), related.room]
        generalize isEncoded : encodeAck (a.slotAt index).packet.length .pubrel id = encoded
        obtain ⟨outcome, bytes⟩ := encoded
        cases outcome with
        | error error => exact (alike.setSlot index (related.overwritten bytes)).refuse error
        | ok count =>
          obtain ⟨isCount, _⟩ := @Definite.of_ok _ _ count (definite_ack .pubrel id)
            (congrArg Prod.fst isEncoded)
          obtain rfl : bytes.length = count := by rw [← isCount, isEncoded]
          have inFlight : (a.slotAt index).phase ≠ .free := by simp [first]
          have sent := alike.setSlot index (written_alike related.room
            (related.packetId inFlight) (related.stamp inFlight) bytes .waitPubcomp)
          refine sent.sendPubrel index now ?_
          rw [slotAt_setSlot within]
          simp
      simp only [if_neg first, if_neg (phase ▸ first)]
      by_cases again : (a.slotAt index).phase = .waitPubcomp
      · simp only [if_pos again, if_pos (phase.trans again)]
        exact alike.sendPubrel index now (by simp [again])
      · simp only [if_neg again, if_neg (phase ▸ again)]
        exact .same alike

/-- A PUBREL. -/
theorem Alike.handlePubrel (body : Bytes) :
    (a.handlePubrel body).Alike δ (b.handlePubrel body) := by
  unfold Client.handlePubrel
  cases decodePacketId body with
  | error error => exact alike.refuse error
  | ok id =>
    obtain ⟨result, txA, txB, ranA, ranB, next⟩ := alike.sendAck .pubcomp id
    simp only [ranA, ranB]
    cases result with
    | error error => exact .same next.countBackpressure
    | ok bytes =>
      refine .same { next with inboundIds := ?_ }
      simp only [Client.inboundRemove, alike.inboundIds]

/-! ### Acknowledged requests -/

/-- A change to the entry with an identity. -/
theorem Alike.updateBySubId (sid : UInt16) {change change' : Subscription → Subscription}
    (changes : ∀ s other, s.Alike other → (change s).Alike (change' other)) :
    (a.updateBySubId sid change).Alike δ (b.updateBySubId sid change') := by
  unfold Client.updateBySubId
  rw [alike.findBySubId]
  cases a.findBySubId sid with
  | none => exact alike
  | some index =>
    exact { alike with subscriptions := modify_paired alike.subscriptions index changes }

/-- The entry with an identity is removed. -/
theorem Alike.eraseSubscription (sid : UInt16) :
    (a.eraseSubscription sid).Alike δ (b.eraseSubscription sid) :=
  { alike with
    subscriptions := eraseP_paired alike.subscriptions fun _ _ related => by rw [related.subId] }

/-- A request is no longer awaited. -/
theorem Alike.removePending (id : UInt16) (expected : PacketType) :
    (a.removePending id expected).Alike δ (b.removePending id expected) :=
  { alike with
    pending := eraseP_paired alike.pending fun _ _ related => by
      rw [related.packetId, related.expected] }

/-- Both await the same requests. -/
theorem Alike.findPending (id : UInt16) (expected : PacketType) :
    (a.findPending id expected = none ∧ b.findPending id expected = none) ∨
      ∃ ack other, ack.Alike other ∧ a.findPending id expected = some ack ∧
        b.findPending id expected = some other :=
  find?_paired alike.pending fun _ _ related => by rw [related.packetId, related.expected]

/-- A loop over a request's entries keeps clients alike if each round does. -/
theorem Alike.foldl {α : Type} {round : Client cfg → α → Client cfg}
    (rounds : ∀ (a b : Client cfg) x, a.Alike δ b → (round a x).Alike δ (round b x))
    (items : List α) : (items.foldl round a).Alike δ (items.foldl round b) := by
  induction items generalizing a b with
  | nil => exact alike
  | cons item rest ih => exact ih (rounds a b item alike)

/-- One code of a SUBACK. -/
theorem Alike.applyReturnCode (answer : UInt8 × UInt16) :
    (a.applyReturnCode answer).Alike δ (b.applyReturnCode answer) := by
  unfold Client.applyReturnCode
  split_ifs
  · exact alike.eraseSubscription answer.2
  · exact alike.updateBySubId answer.2 fun _ _ related => { related with needsResub := rfl }

/-- A SUBACK. -/
theorem Alike.handleSuback (body : Bytes) :
    (a.handleSuback body).Alike δ (b.handleSuback body) := by
  unfold Client.handleSuback
  cases decodeSuback body with
  | error error => exact alike.refuse error
  | ok v =>
    simp only
    rcases alike.findPending v.packetId .suback with
      ⟨noneA, noneB⟩ | ⟨ack, other, related, inA, inB⟩
    · rw [noneA, noneB]
      exact .same alike
    · simp only [inA, inB, related.subs]
      split_ifs
      · exact alike.refuse _
      · refine .same ?_
        exact (alike.foldl (fun _ _ answer next => next.applyReturnCode answer) _).removePending
          v.packetId .suback

/-- An UNSUBACK. -/
theorem Alike.handleUnsuback (body : Bytes) :
    (a.handleUnsuback body).Alike δ (b.handleUnsuback body) := by
  unfold Client.handleUnsuback
  cases decodePacketId body with
  | error error => exact alike.refuse error
  | ok id =>
    simp only
    rcases alike.findPending id .unsuback with ⟨noneA, noneB⟩ | ⟨ack, other, related, inA, inB⟩
    · rw [noneA, noneB]
      exact .same alike
    · simp only [inA, inB, related.subs]
      refine .same ?_
      exact (alike.foldl (fun _ _ sid next => next.eraseSubscription sid) _).removePending
        id .unsuback

/-- Every packet the broker can send. -/
theorem Alike.handlePacket (header : FixedHeader) (body : Bytes) (now : UInt32) :
    (a.handlePacket header body now).Alike δ (b.handlePacket header body (now + δ.clock)) := by
  unfold Client.handlePacket
  cases header.type with
  | connack => exact alike.handleConnack body
  | publish => exact alike.handlePublish header body
  | puback => exact alike.completeDelivery body .waitPuback
  | pubrec => exact alike.handlePubrec body now
  | pubrel => exact alike.handlePubrel body
  | pubcomp => exact alike.completeDelivery body .waitPubcomp
  | suback => exact alike.handleSuback body
  | unsuback => exact alike.handleUnsuback body
  | pingresp =>
    simp only [Client.handlePingresp]
    split_ifs
    · exact alike.refuse _
    · exact .same { alike with pingOutstanding := rfl, pingSent := nofun }
  | _ => exact alike.refuse _

/-! ## Timers -/

/-- The keep-alive timer reads stamps of the session that is up. -/
theorem Alike.pumpKeepAlive (now : UInt32) (up : a.state = .connected) :
    (a.pumpKeepAlive now).Alike δ (b.pumpKeepAlive (now + δ.clock)) := by
  have lastSent := alike.lastSent (by simp [up])
  unfold Client.pumpKeepAlive
  rw [alike.keepAliveMs, alike.pingOutstanding, lastSent, elapsedMs_shift]
  by_cases waiting : a.pingOutstanding = true
  · rw [alike.pingSent waiting, elapsedMs_shift]
    simp only [if_pos waiting]
    split_ifs <;> exact .same alike
  simp only [if_neg waiting]
  obtain ⟨result, txA, txB, ranA, ranB, peek⟩ :=
    enqueueSized_pair alike.tx (definite_empty (.inl rfl)) (packetSize 0)
  rw [ranA, ranB]
  split_ifs
  · exact .same alike
  · exact .same alike
  · cases result with
    | error error => exact .same (alike.withTx peek)
    | ok bytes =>
      exact .same { alike with tx := peek, pingOutstanding := rfl, pingSent := fun _ => rfl }

/-- A batch of filters is sent again. -/
theorem Alike.sendResubscribe (id : UInt16) (size : Nat) (now : UInt32) :
    (a.sendResubscribe id size now).Alike δ (b.sendResubscribe id size (now + δ.clock)) := by
  have ids : b.resubBatch.map (·.subId) = a.resubBatch.map (·.subId) :=
    map_eq_paired alike.resubBatch fun _ _ related => related.subId
  unfold Client.sendResubscribe
  obtain ⟨result, txA, txB, ranA, ranB, peek⟩ := enqueueSized_pair alike.tx
    (definite_subscribe id a.resubRequest) (packetSize size)
  simp only [alike.resubRequest, ids, ranA, ranB]
  have next := alike.withTx peek
  cases result with
  | error error => exact .same next
  | ok bytes =>
    have cleared := next.foldl (fun a b sid (alike : a.Alike δ b) =>
      @Alike.updateBySubId _ _ _ _ alike sid (fun s => { s with needsResub := false })
        (fun s => { s with needsResub := false }) fun _ _ related =>
          { related with needsResub := rfl })
      (a.resubBatch.map (·.subId))
    exact .same (cleared.awaiting _ id .suback now)

/-- The re-subscription. -/
theorem Alike.pumpResubscribe (now : UInt32) :
    (a.pumpResubscribe now).Alike δ (b.pumpResubscribe (now + δ.clock)) := by
  have empty : b.resubBatch.isEmpty = a.resubBatch.isEmpty := by
    rw [Bool.eq_iff_iff, List.isEmpty_iff_length_eq_zero, List.isEmpty_iff_length_eq_zero,
      alike.resubBatch.length_eq]
  unfold Client.pumpResubscribe
  rw [alike.ackTableFull, empty, alike.resubRequest]
  split_ifs
  · exact .same alike
  · exact .same alike
  cases subscribeRemainingLength a.resubRequest with
  | error error => exact .same alike
  | ok size =>
    rw [alike.allocPacketId]
    have allocated := alike.withNextPacketId a.allocPacketId.2.nextPacketId
    simp only
    split_ifs
    · exact .same allocated
    · exact allocated.sendResubscribe _ size now

/-- A retransmission pass over all slots. -/
theorem Alike.pumpRetransmit (now : UInt32) (up : a.state = .connected) :
    (a.pumpRetransmit now).Alike δ (b.pumpRetransmit (now + δ.clock)) := by
  have used : Alike δ { a with retransmitNow := false } { b with retransmitNow := false } :=
    { alike with retransmitNow := fun _ => rfl }
  unfold Client.pumpRetransmit
  rw [alike.retransmitNow up]
  simp only
  split_ifs
  · exact .same used
  generalize List.range cfg.maxInflightOut = indices
  have start : Reaction.Alike δ
      { readClock := true, client := { a with retransmitNow := false } : Reaction cfg }
      { readClock := true, client := { b with retransmitNow := false } } :=
    .same used
  -- One slot after the other.
  generalize ({ readClock := true, client := { a with retransmitNow := false } } : Reaction cfg) = r
    at start ⊢
  generalize ({ readClock := true, client := { b with retransmitNow := false } } : Reaction cfg) = s
    at start ⊢
  induction indices generalizing r s with
  | nil => exact start
  | cons index rest ih =>
    exact ih _ _ (retransmitSlot_alike start a.retransmitNow now index)

/-! ## Every piece of code -/

/-- Every piece of code, each by its own clock. -/
theorem react_alike (label : Label) (ready : a.Ready label) :
    (a.react label).Alike δ (b.react (label.shift δ.clock)) := by
  cases label with
  | connect opts now => exact alike.connect opts now
  | disconnect => exact alike.disconnect
  | publish topic payload qos retain now => exact alike.publish topic payload qos retain now
  | subscribe subs handler now => exact alike.subscribe subs handler now
  | unsubscribe filters now => exact alike.unsubscribe filters now
  | abort => exact alike.shutdown .transportClosed
  | shutdown reason => exact alike.shutdown reason
  | handle header body now => exact alike.handlePacket header body now
  | keepAlive now => exact alike.pumpKeepAlive now ready
  | resubscribe now => exact alike.pumpResubscribe now
  | retransmit now => exact alike.pumpRetransmit now ready
  | stepEnter => exact .same { alike with inStep := rfl }
  | stepLeave result => exact .same { alike with inStep := rfl }
  | stepRefused => exact .same alike
  | transportConnect result now =>
    simp only [react, Label.shift]
    split_ifs
    · exact .same { alike with
        state := rfl, lastSent := fun _ => rfl, retransmitNow := nofun
        connectStarted := fun _ => alike.connectStarted (by simp [show a.state = _ from ready]) }
    · exact .same alike
  | deadline now =>
    simp only [react, Label.shift, alike.connectStarted ready, elapsedMs_shift]
    exact .same alike
  | send result written now =>
    simp only [react, Label.shift]
    split_ifs
    · exact .same { alike with
        tx := by simp [alike.tx], lastSent := fun _ => rfl }
    · exact .same alike
  | recv result bytes now =>
    simp only [react, Label.shift]
    split_ifs
    · exact .same { alike with
        rx := by simp [alike.rx], lastReceived := fun _ => rfl }
    · exact .same alike
  | consume count =>
    exact .same { alike with rx := congrArg (List.drop count) alike.rx }
  | discard => exact .same { alike with rx := rfl }
  | onMessage subscription m => exact .same alike

end Reactions

end Client

end Mqtt
