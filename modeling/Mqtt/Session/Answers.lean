import Mqtt.Session.Arrivals
import Mqtt.Session.Indistinguishable
import Mqtt.Session.Outgoing

/-!
# What the client owes the broker

A packet of the broker calls for at most one answer: a QoS 1 message for its PUBACK, a
QoS 2 message for its PUBREC, a PUBREC for the PUBREL and a PUBREL for its PUBCOMP. The
client queues it before it looks at the next packet or leaves it out, and then one of its
two counters says so.
-/

namespace Mqtt

open Library Client

variable {cfg : Config}

/-! ## What a packet calls for -/

/-- The answer a message calls for, by type and packet id. -/
def Message.callsFor (m : Message) : Option (PacketType × UInt16) :=
  match m.qos with
  | .atLeastOnce => some (.puback, m.packetId)
  | .exactlyOnce => some (.pubrec, m.packetId)
  | _ => none

/-- The answer a packet calls for. A PUBREC is answered as long as its message is waiting
for one or for the PUBCOMP. -/
def Client.callsFor (c : Client cfg) (header : FixedHeader) (body : Bytes) :
    Option (PacketType × UInt16) :=
  match header.type with
  | .publish =>
    if c.state = .connected then (decodePublish header body).toOption.bind Message.callsFor
    else none
  | .pubrec => do
    let id ← (decodePacketId body).toOption
    let index ← c.findOutbound id
    if (c.slotAt index).phase = .waitPubrec ∨ (c.slotAt index).phase = .waitPubcomp then
      some (.pubrel, id)
    else none
  | .pubrel => (decodePacketId body).toOption.map fun id => (.pubcomp, id)
  | _ => none

/-- What becomes of an answer. -/
inductive Verdict where
  /-- It is queued. -/
  | given
  /-- It stays away because the message cannot be remembered. -/
  | untracked
  /-- It stays away because the queue has no room for it. -/
  | crowded
  deriving DecidableEq, Repr

instance (c : Client cfg) (count : Nat) : Decidable (c.HasRoom count) :=
  inferInstanceAs (Decidable (_ ≤ _))

/-- What becomes of this answer. Only a new QoS 2 message has to be remembered. -/
def Client.verdict (c : Client cfg) (answer : PacketType × UInt16) : Verdict :=
  if answer.1 = .pubrec ∧ answer.2 ∉ c.inboundIds ∧ c.inboundTableFull = true then .untracked
  else if c.HasRoom 4 then .given
  else .crowded

/-- The answer a packet is owed, and what becomes of it. -/
def Client.due (c : Client cfg) (header : FixedHeader) (body : Bytes) : Option (Bytes × Verdict) :=
  (c.callsFor header body).map fun answer => (ackPacket answer.1 answer.2, c.verdict answer)

namespace Library.Entry

/-- The answer an event owes. -/
def owes (event : Event cfg) : Option (Bytes × Verdict) :=
  match event.label with
  | .handle header body _ => event.before.due header body
  | _ => none

/-- The packets an event queues in answer to a packet. -/
def answers (event : Event cfg) : List Bytes :=
  match event.label with
  | .handle _ _ _ => event.reaction.queued.map (·.bytes)
  | _ => []

end Library.Entry

/-- The answers owed along a run that came to this. -/
def owed (trace : Trace cfg) (verdict : Verdict) : List Bytes :=
  ((trace.filterMap (·.owes)).filter (·.2 = verdict)).map (·.1)

/-- The client gives the answers it owes in order, and counts those it leaves out. -/
structure AnswersInOrder (trace : Trace cfg) (c : Client cfg) : Prop where
  given : trace.flatMap (·.answers) = owed trace .given
  untracked : c.inboundOverflowCount = UInt32.ofNat (owed trace .untracked).length
  crowded : c.txBackpressureCount = UInt32.ofNat (owed trace .crowded).length

/-! ## One packet -/

/-- A reaction pays what is due. -/
inductive Client.Pays (c : Client cfg) (reaction : Reaction cfg) :
    Option (Bytes × Verdict) → Prop where
  | nothing (quiet : reaction.queued = [])
      (counters : reaction.client.counters = c.counters) : c.Pays reaction none
  | given (packet : Bytes) (queued : reaction.queued.map (·.bytes) = [packet])
      (counters : reaction.client.counters = c.counters) : c.Pays reaction (some (packet, .given))
  | untracked (packet : Bytes) (quiet : reaction.queued = [])
      (counters : reaction.client.counters = (c.counters.1 + 1, c.counters.2)) :
      c.Pays reaction (some (packet, .untracked))
  | crowded (packet : Bytes) (quiet : reaction.queued = [])
      (counters : reaction.client.counters = (c.counters.1, c.counters.2 + 1)) :
      c.Pays reaction (some (packet, .crowded))

section Packets

variable {c : Client cfg} {header : FixedHeader} {body : Bytes}

theorem due_eq_none (silent : c.callsFor header body = none) : c.due header body = none := by
  rw [due, silent, Option.map_none]

/-- An answer for which nothing has to be remembered any more. -/
theorem due_eq {answer : PacketType × UInt16} (asks : c.callsFor header body = some answer)
    (remembered : answer.1 = .pubrec → answer.2 ∈ c.inboundIds ∨ c.inboundTableFull = false) :
    c.due header body =
      some (ackPacket answer.1 answer.2, if c.HasRoom 4 then .given else .crowded) := by
  rw [due, asks, Option.map_some, verdict, if_neg]
  rintro ⟨isPubrec, isNew, full⟩
  rcases remembered isPubrec with known | space
  · exact isNew known
  · simp [space] at full

theorem pays_receiveExactlyOnce {m : Message} (nonzero : m.packetId ≠ 0)
    (asks : c.callsFor header body = some (.pubrec, m.packetId)) :
    c.Pays (c.receiveExactlyOnce m) (c.due header body) := by
  unfold receiveExactlyOnce
  split_ifs with contains full
  · have known : m.packetId ∈ c.inboundIds := by simpa [inboundContains] using contains
    rw [due_eq asks fun _ => .inl known]
    by_cases room : c.HasRoom 4
    · obtain ⟨tx, sent, _⟩ := sendAck_of_room .pubrec rfl nonzero room
      rw [if_pos room, sent]
      exact .given _ rfl rfl
    · obtain ⟨error, tx, sent, _⟩ := sendAck_of_full .pubrec m.packetId room
      rw [if_neg room, sent]
      exact .crowded _ rfl rfl
  · have isNew : m.packetId ∉ c.inboundIds := by simpa [inboundContains] using contains
    rw [due, asks, Option.map_some, verdict, if_pos ⟨rfl, isNew, full⟩]
    exact .untracked _ rfl rfl
  · rw [due_eq asks fun _ => .inr (by simpa using full)]
    by_cases room : c.HasRoom 4
    · obtain ⟨tx, sent, _⟩ := sendAck_of_room .pubrec rfl nonzero room
      rw [if_pos room, sent]
      exact .given _ rfl rfl
    · obtain ⟨error, tx, sent, _⟩ := sendAck_of_full .pubrec m.packetId room
      rw [if_neg room, sent]
      exact .crowded _ rfl rfl

/-- A PUBLISH is answered with what it is due. -/
theorem pays_handlePublish (isPublish : header.type = .publish) :
    c.Pays (c.handlePublish header body) (c.due header body) := by
  have reads : ∀ {m}, c.state = .connected → decodePublish header body = .ok m →
      c.callsFor header body = m.callsFor := by
    intro m up decoded
    simp [Client.callsFor, isPublish, up, decoded, Except.toOption]
  rcases c.handlePublish_cases header body with
    ⟨error, same, why⟩ | ⟨up, m, decoded, ⟨level, same⟩ |
      ⟨level, nonzero, ⟨room, tx, _, same⟩ | ⟨full, tx, _, same⟩⟩ | ⟨level, nonzero, same⟩⟩ <;>
    rw [same]
  · have silent : c.callsFor header body = none := by
      by_cases up : c.state = .connected
      swap
      · simp [Client.callsFor, isPublish, up]
      cases decoded : decodePublish header body with
      | error error => simp [Client.callsFor, isPublish, decoded, Except.toOption]
      | ok m =>
        obtain ⟨excess, level⟩ := why up m decoded
        simp [reads up decoded, Message.callsFor, level]
    exact due_eq_none silent ▸ .nothing rfl rfl
  · rw [due_eq_none (by simp [reads up decoded, Message.callsFor, level])]
    exact .nothing rfl rfl
  · rw [@due_eq _ _ _ _ (.puback, m.packetId) (by simp [reads up decoded, Message.callsFor, level])
      (by simp), if_pos room]
    exact .given _ rfl rfl
  · rw [@due_eq _ _ _ _ (.puback, m.packetId) (by simp [reads up decoded, Message.callsFor, level])
      (by simp), if_neg full]
    exact .crowded _ rfl rfl
  · exact pays_receiveExactlyOnce nonzero (by simp [reads up decoded, Message.callsFor, level])

/-- So is a PUBREL. -/
theorem pays_handlePubrel (isPubrel : header.type = .pubrel) :
    c.Pays (c.handlePubrel body) (c.due header body) := by
  have asks : ∀ {id}, decodePacketId body = .ok id →
      c.callsFor header body = some (.pubcomp, id) := by
    intro id decoded
    simp [Client.callsFor, isPubrel, decoded, Except.toOption]
  rcases c.handlePubrel_cases body with
    ⟨error, decoded, same⟩ | ⟨id, decoded, room, tx, _, same⟩ | ⟨id, decoded, full, tx, _, same⟩ <;>
    rw [same]
  · rw [due_eq_none (by simp [Client.callsFor, isPubrel, decoded, Except.toOption])]
    exact .nothing rfl rfl
  · rw [due_eq (asks decoded) (by simp), if_pos room]
    exact .given _ rfl rfl
  · rw [due_eq (asks decoded) (by simp), if_neg full]
    exact .crowded _ rfl rfl

/-- The PUBREL a slot stores, given or not. -/
theorem pays_sendPubrel {before : Client cfg} {index : Nat} {id : UInt16} (now : UInt32)
    (asks : before.callsFor header body = some (.pubrel, id))
    (stored : (c.slotAt index).stored = ackPacket .pubrel id) (tx : before.tx = c.tx)
    (counters : before.counters = c.counters) :
    before.Pays (c.sendPubrel index now) (before.due header body) := by
  have sameRoom : before.HasRoom 4 ↔ c.HasRoom 4 := by simp only [HasRoom, tx]
  have sending := c.sendPubrel_cases index now
  rw [stored, length_ackPacket] at sending
  rw [due_eq asks (by simp)]
  rcases sending with ⟨room, _, _, sent⟩ | ⟨full, _, _, sent⟩
  · rw [sent, if_pos (sameRoom.mpr room)]
    exact .given _ rfl counters.symm
  · rw [sent, if_neg (mt sameRoom.mp full)]
    exact .crowded _ rfl (by rw [counters]; rfl)

/-- So is a PUBREC. -/
theorem pays_handlePubrec (isPubrec : header.type = .pubrec) (now : UInt32) (sized : c.SlotsSized)
    (releases : ∀ slot ∈ c.outbound, slot.phase = .waitPubcomp →
      slot.stored = ackPacket .pubrel slot.packetId) :
    c.Pays (c.handlePubrec body now) (c.due header body) := by
  have reads : ∀ {id index}, decodePacketId body = .ok id → c.findOutbound id = some index →
      c.callsFor header body = if (c.slotAt index).phase = .waitPubrec ∨
        (c.slotAt index).phase = .waitPubcomp then some (.pubrel, id) else none := by
    intro id index decoded found
    simp [Client.callsFor, isPubrec, decoded, found, Except.toOption]
  cases decoded : decodePacketId body with
  | error error =>
    rw [due_eq_none (by simp [Client.callsFor, isPubrec, decoded, Except.toOption])]
    simp only [handlePubrec, decoded]
    exact .nothing rfl rfl
  | ok id =>
    cases found : c.findOutbound id with
    | none =>
      rw [due_eq_none (by simp [Client.callsFor, isPubrec, decoded, found, Except.toOption])]
      simp only [handlePubrec, decoded, found]
      exact .nothing rfl rfl
    | some index =>
      obtain ⟨slot, here, isSlot, _, named⟩ := findOutbound_some found
      by_cases first : (c.slotAt index).phase = .waitPubrec
      · rw [c.handlePubrec_first now decoded found first (isSlot ▸ sized.four_le here)]
        refine pays_sendPubrel now ((reads decoded found).trans (if_pos (.inl first))) ?_
          rfl rfl
        have within := (List.getElem?_eq_some_iff.mp here).1
        have moved : (c.setSlot index (pubrelSlot (c.slotAt index) id)).slotAt index =
            pubrelSlot (c.slotAt index) id :=
          slotAt_of_getElem? (by simp [setSlot, within])
        rw [moved]
        exact stored_pubrelSlot _ id
      by_cases second : (c.slotAt index).phase = .waitPubcomp
      · simp only [handlePubrec, decoded, found, if_neg first, if_pos second]
        refine pays_sendPubrel now ((reads decoded found).trans (if_pos (.inr second))) ?_
          rfl rfl
        rw [isSlot, releases slot (List.mem_of_getElem? here) (isSlot ▸ second), named]
      · rw [due_eq_none (by simp [reads decoded found, first, second])]
        simp only [handlePubrec, decoded, found, if_neg first, if_neg second]
        exact .nothing rfl rfl

/-- The other packets call for nothing. -/
theorem pays_nothing (now : UInt32)
    (others : header.type ≠ .publish ∧ header.type ≠ .pubrec ∧ header.type ≠ .pubrel) :
    c.Pays (c.handlePacket header body now) (c.due header body) := by
  have completes : ∀ awaited, c.Pays (c.completeDelivery body awaited) none := by
    intro awaited
    rcases c.completeDelivery_cases body awaited with ⟨_, same⟩ | ⟨_, _, _, _, _, same⟩ <;>
      exact same ▸ .nothing rfl rfl
  rw [due_eq_none (by unfold Client.callsFor; split <;> simp_all)]
  unfold handlePacket
  cases type : header.type <;> simp only
  case publish => exact absurd type others.1
  case pubrec => exact absurd type others.2.1
  case pubrel => exact absurd type others.2.2
  case puback => exact completes .waitPuback
  case pubcomp => exact completes .waitPubcomp
  case connack =>
    rcases c.handleConnack_cases body with ⟨_, _, _, same⟩ | ⟨_, info, _, _, same⟩ <;> rw [same]
    · exact .nothing rfl rfl
    · refine .nothing rfl ?_
      simp only
      split <;> rfl
  case suback =>
    rcases c.handleSuback_cases body with ⟨_, same⟩ | ⟨v, ack, _, _, _, same⟩ <;> rw [same]
    · exact .nothing rfl rfl
    · obtain ⟨_, shape⟩ := foldl_applyReturnCode_shape (v.returnCodes.zip ack.subs) c
      rw [shape]
      exact .nothing rfl rfl
  case unsuback =>
    rcases c.handleUnsuback_cases body with ⟨_, same⟩ | ⟨_, ack, _, _, same⟩ <;> rw [same]
    · exact .nothing rfl rfl
    · obtain ⟨_, shape⟩ := foldl_eraseSubscription_shape ack.subs c
      rw [shape]
      exact .nothing rfl rfl
  case pingresp =>
    unfold handlePingresp
    split <;> exact .nothing rfl rfl
  all_goals exact .nothing rfl rfl

/-- Every packet is paid for. -/
theorem pays_handlePacket (header : FixedHeader) (body : Bytes) (now : UInt32)
    (sized : c.SlotsSized) (releases : ∀ slot ∈ c.outbound, slot.phase = .waitPubcomp →
      slot.stored = ackPacket .pubrel slot.packetId) :
    c.Pays (c.handlePacket header body now) (c.due header body) := by
  by_cases isPublish : header.type = .publish
  · simpa only [handlePacket, isPublish] using @pays_handlePublish _ c _ body isPublish
  by_cases isPubrec : header.type = .pubrec
  · simpa only [handlePacket, isPubrec] using
      @pays_handlePubrec _ c _ body isPubrec now sized releases
  by_cases isPubrel : header.type = .pubrel
  · simpa only [handlePacket, isPubrel] using @pays_handlePubrel _ c _ body isPubrel
  exact pays_nothing now ⟨isPublish, isPubrec, isPubrel⟩

end Packets

/-! ## Whole runs -/

/-- Other pieces of code leave the counters alone. -/
theorem Client.counters_of_not_handle (c : Client cfg) {label : Label}
    (other : label.isHandle = false) : (c.apply label).counters = c.counters := by
  cases label with
  | handle header body now => cases other
  | connect opts now =>
    have kept : (c.prepare opts).counters = c.counters := by
      unfold prepare
      split <;> rfl
    rcases c.connect_cases opts now with
      ⟨_, _, same⟩ | ⟨_, _, _, _, _, same⟩ | ⟨_, _, _, _, same⟩ <;> rw [apply, react, same]
    · rfl
    · exact kept
    · exact kept
  | disconnect =>
    rcases c.disconnect_cases with ⟨_, same⟩ | ⟨_, _, _, _, same⟩ | ⟨_, _, _, same⟩ <;>
      rw [apply, react, same]
    · rfl
    · rfl
    · simp only [shutdown, teardown]
      split <;> rfl
  | publish topic payload qos retain now =>
    rcases c.publish_cases topic payload qos retain now with
      ⟨_, _, _, _, _, _, _, same⟩ | ⟨_, _, _, _, _, same⟩ |
        ⟨_, _, _, _, _, _, _, _, _, _, _, _, _, _, _, _, _, same⟩ <;>
      rw [apply, react, same] <;> rfl
  | subscribe subs handler now =>
    rcases c.subscribe_cases subs handler now with
      ⟨_, _, _, _, _, same⟩ | ⟨_, _, _, _, _, _, _, tx, _, same⟩ <;> rw [apply, react, same]
    · rfl
    · obtain ⟨_, _, _, _, shape⟩ := c.subscribed_shape subs handler tx now
      rw [shape]
      rfl
  | unsubscribe filters now =>
    rcases c.unsubscribe_cases filters now with
      ⟨_, _, _, _, _, same⟩ | ⟨_, _, _, _, _, _, _, same⟩ <;> rw [apply, react, same] <;> rfl
  | abort | shutdown reason =>
    simp only [apply, react, abort, shutdown, teardown]
    split <;> rfl
  | keepAlive now =>
    rcases c.pumpKeepAlive_cases now with ⟨_, _, _, _, same⟩ | ⟨_, _, _, same⟩ <;>
      rw [apply, react, same] <;> rfl
  | resubscribe now =>
    rcases c.pumpResubscribe_cases now with ⟨_, _, _, same⟩ | ⟨_, _, _, _, tx, _, same⟩ <;>
      rw [apply, react, same]
    · rfl
    · obtain ⟨_, _, _, shape⟩ := c.resubscribed_shape tx now
      rw [shape]
      rfl
  | retransmit now =>
    obtain ⟨_, _, _, _, same, _⟩ := c.pumpRetransmit_cases now
    rw [apply, react, same]
    rfl
  | transportConnect result now | send result written now | recv result bytes now =>
    simp only [apply, react]
    split <;> rfl
  | _ => rfl

theorem owed_snoc (trace : Trace cfg) (event : Event cfg) (verdict : Verdict) :
    owed (trace ++ [event]) verdict =
      owed trace verdict ++ (event.owes.toList.filter (·.2 = verdict)).map (·.1) := by
  cases isDue : event.owes <;> simp [owed, List.filterMap_append, isDue]

/-- A step that pays what it owes keeps the order. -/
theorem AnswersInOrder.step {trace : Trace cfg} {event : Event cfg}
    (ordered : AnswersInOrder trace event.before)
    (given : event.answers = (event.owes.toList.filter (·.2 = .given)).map (·.1))
    (counters : event.reaction.client.counters =
      (event.before.counters.1 + UInt32.ofNat (event.owes.toList.filter (·.2 = .untracked)).length,
        event.before.counters.2 +
          UInt32.ofNat (event.owes.toList.filter (·.2 = .crowded)).length)) :
    AnswersInOrder (trace ++ [event]) event.reaction.client := by
  obtain ⟨untracked, crowded⟩ := Prod.mk.inj counters
  refine ⟨?_, ?_, ?_⟩ <;> rw [owed_snoc]
  · simp only [List.flatMap_append, List.flatMap_singleton, ordered.given, given]
  · rw [untracked, Client.counters, ordered.untracked]
    simp [UInt32.ofNat_add]
  · rw [crowded, Client.counters, ordered.crowded]
    simp [UInt32.ofNat_add]

theorem History.answersInOrder {log : Log cfg} (history : History log) :
    AnswersInOrder log.trace log.state := by
  refine history.invariant (fun log : Log cfg => AnswersInOrder log.trace log.state)
    (fun log label prior _ ordered => ?_) ⟨rfl, rfl, rfl⟩
  cases label with
  | handle header body now =>
    have pays := pays_handlePacket header body now prior.slotsSized
      (History.slots (slotRule_pubrel cfg) prior)
    refine @AnswersInOrder.step _ _ ⟨log.state, .handle header body now⟩ ordered ?_ ?_ <;>
      simp only [Entry.answers, Entry.owes, Entry.reaction, react]
    all_goals
      generalize log.state.due header body = due at pays
      cases pays <;> simp_all
  | _ =>
    refine ordered.step rfl ?_
    rw [Entry.reaction]
    exact (Client.counters_of_not_handle _ rfl).trans (by simp [Entry.owes])

/-- In every run the client answers the broker's packets one by one and in the order they
came, leaves an answer out only when the message cannot be remembered or the queue has no
room, and its two counters say how often. Nothing else it queues acknowledges. -/
theorem answers_in_order (cfg : Config) (env : Env) (application : Script) :
    AnswersInOrder (World.exec cfg env application).trace
        (World.exec cfg env application).client ∧
      ∀ event ∈ (World.exec cfg env application).trace, event.label.isHandle = false →
        ∀ packet ∈ event.reaction.queued, ∀ header body,
          readPacket packet.bytes = some (header, body) →
            header.type ∉ [.puback, .pubrec, .pubcomp] := by
  have history := World.exec_history cfg env application
  refine ⟨history.answersInOrder, fun event member other packet queued header body reads => ?_⟩
  obtain ⟨before, after, split⟩ := List.append_of_mem member
  obtain ⟨earlier, reached, _, isBefore, _⟩ := history.cut split
  obtain ⟨c, label⟩ := event
  obtain rfl : c = earlier.state := isBefore
  obtain ⟨type, isType, leads⟩ := reached.queued_leads queued
  rw [leads.readPacket_type reads]
  revert type
  cases label with
  | handle header body now => cases other
  | _ => simp [Label.queues]

end Mqtt
