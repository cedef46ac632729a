import Mqtt.Client.Transmit

/-!
# What a packet does

One statement per packet handler, naming every case with its condition and the
whole resulting reaction. Later proofs case on these and never unfold a handler.
-/

namespace Mqtt

variable {cfg : Config}

/-! ## What the decoders report -/

section Decoders

variable {body : Bytes} {error : Error}

theorem decodePacketId_error (failed : decodePacketId body = .error error) :
    error = .malformedPacket ∨ error = .protocolViolation := by
  unfold decodePacketId at failed
  split at failed
  · split_ifs at failed
    injection failed with same
    exact .inr same.symm
  · injection failed with same
    exact .inl same.symm

theorem decodeConnack_error (failed : decodeConnack body = .error error) :
    error = .malformedPacket ∨ error = .protocolViolation := by
  unfold decodeConnack at failed
  split at failed
  · split_ifs at failed <;> (injection failed with same; exact .inr same.symm)
  · injection failed with same
    exact .inl same.symm

theorem decodeSuback_error (failed : decodeSuback body = .error error) :
    error = .malformedPacket ∨ error = .protocolViolation := by
  unfold decodeSuback at failed
  split at failed
  · split_ifs at failed <;> (injection failed with same; exact .inr same.symm)
  · injection failed with same
    exact .inl same.symm

theorem readString_error (failed : readString body = .error error) : error = .malformedPacket := by
  unfold readString at failed
  split at failed
  · simp only at failed
    split_ifs at failed <;> (injection failed with same; exact same.symm)
  · injection failed with same
    exact same.symm

/-- Why a PUBLISH body is refused. -/
theorem decodePublish_error {header : FixedHeader}
    (failed : decodePublish header body = .error error) :
    error = .malformedPacket ∨ error = .protocolViolation := by
  unfold decodePublish at failed
  split at failed
  · rename_i unread
    injection failed with same
    exact .inl (readString_error (same ▸ unread))
  · simp only at failed
    split_ifs at failed
    · injection failed with same
      exact .inr same.symm
    · split at failed
      · split_ifs at failed
        injection failed with same
        exact .inr same.symm
      · injection failed with same
        exact .inl same.symm
    · injection failed with same
      exact .inr same.symm

end Decoders

namespace Client

variable (c : Client cfg)

/-- What a QoS 2 message does: a known id is acknowledged again, a new one is
acknowledged, remembered and delivered, and one that cannot be tracked or
acknowledged changes nothing but a counter. -/
theorem receiveExactlyOnce_cases (m : Message) (nonzero : m.packetId ≠ 0) :
    (m.packetId ∈ c.inboundIds ∧ c.HasRoom 4 ∧ ∃ tx,
      tx.peek = c.tx.peek ++ ackPacket .pubrec m.packetId ∧
      c.receiveExactlyOnce m =
        { queued := [{ bytes := ackPacket .pubrec m.packetId }], client := { c with tx := tx } }) ∨
    (m.packetId ∉ c.inboundIds ∧ c.inboundTableFull = false ∧ c.HasRoom 4 ∧ ∃ tx,
      tx.peek = c.tx.peek ++ ackPacket .pubrec m.packetId ∧
      c.receiveExactlyOnce m =
        { queued := [{ bytes := ackPacket .pubrec m.packetId }]
          callback := some (.dispatch m)
          client := { c with tx := tx, inboundIds := c.inboundIds ++ [m.packetId] } }) ∨
    ((¬ c.HasRoom 4 ∨ (m.packetId ∉ c.inboundIds ∧ c.inboundTableFull = true)) ∧
      ∃ tx overflows refusals, tx.peek = c.tx.peek ∧
      c.receiveExactlyOnce m =
        { client := { c with tx := tx, inboundOverflowCount := overflows,
                             txBackpressureCount := refusals } }) := by
  by_cases known : m.packetId ∈ c.inboundIds
  · have contains : c.inboundContains m.packetId = true := by
      simpa [inboundContains] using known
    by_cases room : c.HasRoom 4
    · obtain ⟨tx, sent, peek⟩ := sendAck_of_room .pubrec rfl nonzero room
      refine .inl ⟨known, room, tx, peek, ?_⟩
      simp only [receiveExactlyOnce, if_pos contains, sent]
    · obtain ⟨error, tx, sent, _, peek⟩ := sendAck_of_full .pubrec m.packetId room
      refine .inr (.inr ⟨.inl room, tx, c.inboundOverflowCount,
        c.txBackpressureCount + 1, peek, ?_⟩)
      simp only [receiveExactlyOnce, if_pos contains, sent, countBackpressure]
  · have missing : ¬ c.inboundContains m.packetId = true := by
      simpa [inboundContains] using known
    by_cases full : c.inboundTableFull = true
    · refine .inr (.inr ⟨.inr ⟨known, full⟩, c.tx, c.inboundOverflowCount + 1,
        c.txBackpressureCount, rfl, ?_⟩)
      simp only [receiveExactlyOnce, if_neg missing, if_pos full]
    · by_cases room : c.HasRoom 4
      · obtain ⟨tx, sent, peek⟩ := sendAck_of_room .pubrec rfl nonzero room
        refine .inr (.inl ⟨known, by simpa using full, room, tx, peek, ?_⟩)
        simp only [receiveExactlyOnce, if_neg missing, if_neg full, sent]
      · obtain ⟨error, tx, sent, _, peek⟩ := sendAck_of_full .pubrec m.packetId room
        refine .inr (.inr ⟨.inl room, tx, c.inboundOverflowCount,
        c.txBackpressureCount + 1, peek, ?_⟩)
        simp only [receiveExactlyOnce, if_neg missing, if_neg full, sent, countBackpressure]

/-- PUBREL: the id is forgotten exactly when the PUBCOMP could be queued. -/
theorem handlePubrel_cases (body : Bytes) :
    (∃ error, decodePacketId body = .error error ∧ c.handlePubrel body = c.refuse error) ∨
    (∃ id, decodePacketId body = .ok id ∧ c.HasRoom 4 ∧ ∃ tx,
      tx.peek = c.tx.peek ++ ackPacket .pubcomp id ∧
      c.handlePubrel body =
        { queued := [{ bytes := ackPacket .pubcomp id }]
          client := { c with tx := tx, inboundIds := c.inboundIds.erase id } }) ∨
    (∃ id, decodePacketId body = .ok id ∧ ¬ c.HasRoom 4 ∧ ∃ tx, tx.peek = c.tx.peek ∧
      c.handlePubrel body =
        { client := { c with tx := tx, txBackpressureCount := c.txBackpressureCount + 1 } }) := by
  cases decoded : decodePacketId body with
  | error error => exact .inl ⟨error, rfl, by simp only [handlePubrel, decoded]⟩
  | ok id =>
    by_cases room : c.HasRoom 4
    · obtain ⟨tx, sent, peek⟩ :=
        sendAck_of_room .pubcomp rfl (decodePacketId_nonzero decoded) room
      refine .inr (.inl ⟨id, rfl, room, tx, peek, ?_⟩)
      simp only [handlePubrel, decoded, sent, inboundRemove]
    · obtain ⟨error, tx, sent, _, peek⟩ := sendAck_of_full .pubcomp id room
      refine .inr (.inr ⟨id, rfl, room, tx, peek, ?_⟩)
      simp only [handlePubrel, decoded, sent, countBackpressure]

/-- A slot's stored PUBREL goes out if there is room for it. -/
theorem sendPubrel_cases (index : Nat) (now : UInt32) :
    (c.HasRoom (c.slotAt index).stored.length ∧ ∃ tx,
      tx.peek = c.tx.peek ++ (c.slotAt index).stored ∧
      c.sendPubrel index now =
        { queued := [{ slot := some index, bytes := (c.slotAt index).stored }]
          readClock := true
          client := { c with
            tx := tx
            outbound := c.outbound.set index
              { c.slotAt index with lastSentMs := now } } }) ∨
    (¬ c.HasRoom (c.slotAt index).stored.length ∧ ∃ tx, tx.peek = c.tx.peek ∧
      c.sendPubrel index now =
        { client := { c with tx := tx, txBackpressureCount := c.txBackpressureCount + 1 } }) := by
  by_cases room : c.HasRoom (c.slotAt index).stored.length
  · obtain ⟨tx, sent, peek⟩ := enqueue_of_room room
    exact .inl ⟨room, tx, peek, by simp only [sendPubrel, sent, setSlot]⟩
  · obtain ⟨tx, sent, peek⟩ := enqueue_of_full room
    exact .inr ⟨room, tx, peek, by simp only [sendPubrel, sent, countBackpressure]⟩

/-- What an inbound PUBLISH does. -/
theorem handlePublish_cases (header : FixedHeader) (body : Bytes) :
    (∃ error, c.handlePublish header body = c.refuse error ∧
      (c.state = .connected → ∀ m, decodePublish header body = .ok m →
        ∃ excess, m.qos = .outOfRange excess)) ∨
    (c.state = .connected ∧ ∃ m, decodePublish header body = .ok m ∧
      (m.qos = .atMostOnce ∧
        c.handlePublish header body = { callback := some (.dispatch m), client := c } ∨
      m.qos = .atLeastOnce ∧ m.packetId ≠ 0 ∧
        ((c.HasRoom 4 ∧ ∃ tx, tx.peek = c.tx.peek ++ ackPacket .puback m.packetId ∧
          c.handlePublish header body =
            { queued := [{ bytes := ackPacket .puback m.packetId }]
              callback := some (.dispatch m)
              client := { c with tx := tx } }) ∨
        (¬ c.HasRoom 4 ∧ ∃ tx, tx.peek = c.tx.peek ∧
          c.handlePublish header body =
            { client := { c with tx := tx,
                                 txBackpressureCount := c.txBackpressureCount + 1 } })) ∨
      m.qos = .exactlyOnce ∧ m.packetId ≠ 0 ∧
        c.handlePublish header body = c.receiveExactlyOnce m)) := by
  by_cases up : c.state = .connected
  swap
  · exact .inl ⟨.protocolViolation, by simp only [handlePublish, if_pos up],
      fun connected => absurd connected up⟩
  have notDown : ¬ c.state ≠ .connected := fun down => down up
  cases decoded : decodePublish header body with
  | error error =>
    exact .inl ⟨error, by simp only [handlePublish, if_neg notDown, decoded],
      fun _ m impossible => by cases impossible⟩
  | ok m =>
    have identified := (decodePublish_ok decoded).2
    cases level : m.qos with
    | outOfRange excess =>
      refine .inl ⟨.protocolViolation,
        by simp only [handlePublish, if_neg notDown, decoded, level], ?_⟩
      intro _ other same
      injection same with same
      exact ⟨excess, same ▸ level⟩
    | atMostOnce =>
      refine .inr ⟨up, m, rfl, .inl ⟨level, ?_⟩⟩
      simp only [handlePublish, if_neg notDown, decoded, level]
    | atLeastOnce =>
      have nonzero := identified (by simp [level])
      refine .inr ⟨up, m, rfl, .inr (.inl ⟨level, nonzero, ?_⟩)⟩
      by_cases room : c.HasRoom 4
      · obtain ⟨tx, sent, peek⟩ := sendAck_of_room .puback rfl nonzero room
        refine .inl ⟨room, tx, peek, ?_⟩
        simp only [handlePublish, if_neg notDown, decoded, level, sent]
      · obtain ⟨error, tx, sent, _, peek⟩ := sendAck_of_full .puback m.packetId room
        refine .inr ⟨room, tx, peek, ?_⟩
        simp only [handlePublish, if_neg notDown, decoded, level, sent, countBackpressure]
    | exactlyOnce =>
      refine .inr ⟨up, m, rfl, .inr (.inr ⟨level, identified (by simp [level]), ?_⟩)⟩
      simp only [handlePublish, if_neg notDown, decoded, level]

/-! ## Acknowledgements of our own packets -/

/-- The slot found is in use under that id. -/
theorem findOutbound_some {c : Client cfg} {id : UInt16} {index : Nat}
    (found : c.findOutbound id = some index) :
    ∃ slot, c.outbound[index]? = some slot ∧ c.slotAt index = slot ∧ slot.phase ≠ .free ∧
      slot.packetId = id := by
  unfold findOutbound at found
  rw [List.findIdx?_eq_some_iff_getElem] at found
  obtain ⟨within, matched, _⟩ := found
  have both : c.outbound[index].phase ≠ .free ∧ c.outbound[index].packetId = id := by
    simpa using matched
  refine ⟨c.outbound[index], List.getElem?_eq_getElem within, ?_, both.1, both.2⟩
  simp [slotAt, List.getD, List.getElem?_eq_getElem within]

theorem slotAt_of_getElem? {c : Client cfg} {index : Nat} {slot : OutboundSlot}
    (here : c.outbound[index]? = some slot) : c.slotAt index = slot := by
  simp [slotAt, List.getD, here]

/-- Writing into a buffer keeps its size. -/
theorem length_overwrite {buffer bytes : Bytes} (fits : bytes.length ≤ buffer.length) :
    (overwrite buffer bytes).length = buffer.length := by
  simp only [overwrite, List.length_append, List.length_drop]
  omega

/-- The bytes written are at the front. -/
theorem take_overwrite (buffer bytes : Bytes) :
    (overwrite buffer bytes).take bytes.length = bytes := by
  simp [overwrite]

/-- PUBACK and PUBCOMP release a slot in the phase that waits for them, and are
ignored otherwise. -/
theorem completeDelivery_cases (body : Bytes) (awaited : Phase) :
    (∃ error, c.completeDelivery body awaited = { error := error, client := c }) ∨
    (∃ id index, decodePacketId body = .ok id ∧ c.findOutbound id = some index ∧
      (c.slotAt index).phase = awaited ∧
      c.completeDelivery body awaited =
        { callback := some (.onDelivery id)
          client := c.setSlot index (c.slotAt index).release }) := by
  cases decoded : decodePacketId body with
  | error error => exact .inl ⟨error, by simp only [completeDelivery, decoded, refuse]⟩
  | ok id =>
    cases found : c.findOutbound id with
    | none => exact .inl ⟨.ok, by simp only [completeDelivery, decoded, found]⟩
    | some index =>
      by_cases waiting : (c.slotAt index).phase ≠ awaited
      · exact .inl ⟨.ok, by simp only [completeDelivery, decoded, found, if_pos waiting]⟩
      · refine .inr ⟨id, index, rfl, found, by simpa using waiting, ?_⟩
        simp only [completeDelivery, decoded, found, if_neg waiting]

/-- The slot after its PUBREC: it stores the PUBREL from here on. -/
def pubrelSlot (slot : OutboundSlot) (id : UInt16) : OutboundSlot :=
  { slot with
    packet := overwrite slot.packet (ackPacket .pubrel id)
    packetLen := 4
    phase := .waitPubcomp }

theorem stored_pubrelSlot (slot : OutboundSlot) (id : UInt16) :
    (pubrelSlot slot id).stored = ackPacket .pubrel id := by
  have whole := take_overwrite slot.packet (ackPacket .pubrel id)
  rw [length_ackPacket] at whole
  exact whole

/-- The first PUBREC of a message whose slot can hold the PUBREL. -/
theorem handlePubrec_first {body : Bytes} {id : UInt16} {index : Nat} (now : UInt32)
    (decoded : decodePacketId body = .ok id) (found : c.findOutbound id = some index)
    (first : (c.slotAt index).phase = .waitPubrec) (fits : 4 ≤ (c.slotAt index).packet.length) :
    c.handlePubrec body now =
      (c.setSlot index (pubrelSlot (c.slotAt index) id)).sendPubrel index now := by
  have encodes := @encodes_ack .pubrel id rfl (decodePacketId_nonzero decoded)
  have written := (encodes (c.slotAt index).packet.length).1 (by rwa [length_ackPacket])
  simp only [length_ackPacket] at written
  simp only [handlePubrec, decoded, found, if_pos first, written, pubrelSlot]
  rfl

/-- PUBREC moves a slot on to its PUBREL, repeats the PUBREL of a slot that is
there already, and is ignored otherwise. -/
theorem handlePubrec_cases (body : Bytes) (now : UInt32) :
    (∃ error, (∀ id, decodePacketId body = .ok id → error = .ok) ∧
      c.handlePubrec body now = { error := error, client := c }) ∨
    (∃ id index, decodePacketId body = .ok id ∧ c.findOutbound id = some index ∧
      (c.slotAt index).phase = .waitPubrec ∧
      ((∃ error packet, (c.slotAt index).packet.length < 4 ∧ c.handlePubrec body now =
          (c.setSlot index { c.slotAt index with packet := packet }).refuse error) ∨
        (4 ≤ (c.slotAt index).packet.length ∧ c.handlePubrec body now =
          (c.setSlot index (pubrelSlot (c.slotAt index) id)).sendPubrel index now))) ∨
    (∃ id index, decodePacketId body = .ok id ∧ c.findOutbound id = some index ∧
      (c.slotAt index).phase = .waitPubcomp ∧
      c.handlePubrec body now = c.sendPubrel index now) := by
  cases decoded : decodePacketId body with
  | error error =>
    exact .inl ⟨error, by simp, by simp only [handlePubrec, decoded, refuse]⟩
  | ok id =>
    cases found : c.findOutbound id with
    | none => exact .inl ⟨.ok, by simp, by simp only [handlePubrec, decoded, found]⟩
    | some index =>
      by_cases first : (c.slotAt index).phase = .waitPubrec
      · refine .inr (.inl ⟨id, index, rfl, found, first, ?_⟩)
        by_cases fits : 4 ≤ (c.slotAt index).packet.length
        · exact .inr ⟨fits, c.handlePubrec_first now decoded found first fits⟩
        · have encodes := @encodes_ack .pubrel id rfl (decodePacketId_nonzero decoded)
          obtain ⟨part, _, short⟩ := (encodes (c.slotAt index).packet.length).2
            (by rw [length_ackPacket]; omega)
          simp only at short
          refine .inl ⟨.bufferTooSmall, overwrite (c.slotAt index).packet part, by omega, ?_⟩
          simp only [handlePubrec, decoded, found, if_pos first, short]
      · by_cases second : (c.slotAt index).phase = .waitPubcomp
        · refine .inr (.inr ⟨id, index, rfl, found, second, ?_⟩)
          simp only [handlePubrec, decoded, found, if_neg first, if_pos second]
        · exact .inl ⟨.ok, by simp, by
            simp only [handlePubrec, decoded, found, if_neg first, if_neg second]⟩

/-- A SUBACK is refused or ignored, or applied and retired. -/
theorem handleSuback_cases (body : Bytes) :
    (∃ error, c.handleSuback body = { error := error, client := c }) ∨
    (∃ v ack, decodeSuback body = .ok v ∧ c.findPending v.packetId .suback = some ack ∧
      v.returnCodes.length = ack.subs.length ∧
      c.handleSuback body =
        { callback := some (.onSuback v.packetId v.returnCodes)
          client := ((v.returnCodes.zip ack.subs).foldl applyReturnCode c).removePending
            v.packetId .suback }) := by
  cases decoded : decodeSuback body with
  | error error => exact .inl ⟨error, by simp only [handleSuback, decoded, refuse]⟩
  | ok v =>
    cases found : c.findPending v.packetId .suback with
    | none => exact .inl ⟨.ok, by simp only [handleSuback, decoded, found]⟩
    | some ack =>
      by_cases mismatch : v.returnCodes.length ≠ ack.subs.length
      · exact .inl ⟨.protocolViolation, by
          simp only [handleSuback, decoded, found, if_pos mismatch, refuse]⟩
      · refine .inr ⟨v, ack, rfl, found, by simpa using mismatch, ?_⟩
        simp only [handleSuback, decoded, found, if_neg mismatch]

/-- An UNSUBACK is refused or ignored, or applied and retired. -/
theorem handleUnsuback_cases (body : Bytes) :
    (∃ error, c.handleUnsuback body = { error := error, client := c }) ∨
    (∃ id ack, decodePacketId body = .ok id ∧ c.findPending id .unsuback = some ack ∧
      c.handleUnsuback body =
        { client := (ack.subs.foldl eraseSubscription c).removePending id .unsuback }) := by
  cases decoded : decodePacketId body with
  | error error => exact .inl ⟨error, by simp only [handleUnsuback, decoded, refuse]⟩
  | ok id =>
    cases found : c.findPending id .unsuback with
    | none => exact .inl ⟨.ok, by simp only [handleUnsuback, decoded, found]⟩
    | some ack => exact .inr ⟨id, ack, rfl, found, by simp only [handleUnsuback, decoded, found]⟩

/-- The client once the broker accepted the CONNECT. -/
def established (info : ConnackInfo) : Client cfg :=
  { c with connack := info, state := .connected, pingOutstanding := false,
           retransmitNow := true }

/-- A CONNACK is refused, or establishes the session. -/
theorem handleConnack_cases (body : Bytes) :
    (∃ error connack, error ≠ .ok ∧
      c.handleConnack body = { error := error, client := { c with connack := connack } }) ∨
    (c.state = .awaitingConnack ∧ ∃ info, decodeConnack body = .ok info ∧
      info.code = .accepted ∧
      c.handleConnack body =
        { callback := some (.onConnect info)
          client := if info.sessionPresent then c.established info
            else (c.established info).markAllForResub }) := by
  by_cases awaiting : c.state = .awaitingConnack
  swap
  · exact .inl ⟨.protocolViolation, c.connack, by simp,
      by simp only [handleConnack, if_pos awaiting, refuse]⟩
  have expected : ¬ c.state ≠ .awaitingConnack := fun other => other awaiting
  cases decoded : decodeConnack body with
  | error error =>
    have bad : error ≠ .ok := by rcases decodeConnack_error decoded with rfl | rfl <;> simp
    refine .inl ⟨error, c.connack, bad, ?_⟩
    simp only [handleConnack, if_neg expected, decoded, refuse]
  | ok info =>
    by_cases refused : info.code ≠ .accepted
    · exact .inl ⟨.connectionRefused, info, by simp,
        by simp only [handleConnack, if_neg expected, decoded, if_pos refused, refuse]⟩
    · refine .inr ⟨awaiting, info, rfl, by simpa using refused, ?_⟩
      simp only [handleConnack, if_neg expected, decoded, if_neg refused, established]

/-! ## All packets together -/

/-- Applying return codes changes the table only. -/
theorem foldl_applyReturnCode_shape (answers : List (UInt8 × UInt16)) (c : Client cfg) :
    ∃ subscriptions, answers.foldl applyReturnCode c =
      { c with subscriptions := subscriptions } := by
  induction answers generalizing c with
  | nil => exact ⟨c.subscriptions, rfl⟩
  | cons answer rest ih =>
    obtain ⟨first, step⟩ : ∃ subscriptions, c.applyReturnCode answer =
        { c with subscriptions := subscriptions } := by
      unfold applyReturnCode updateBySubId
      split
      · exact ⟨_, rfl⟩
      · split
        · exact ⟨c.subscriptions, rfl⟩
        · exact ⟨_, rfl⟩
    obtain ⟨last, run⟩ := ih { c with subscriptions := first }
    exact ⟨last, by rw [List.foldl_cons, step, run]⟩

theorem foldl_eraseSubscription_shape (ids : List UInt16) (c : Client cfg) :
    ∃ subscriptions, ids.foldl eraseSubscription c =
      { c with subscriptions := subscriptions } := by
  induction ids generalizing c with
  | nil => exact ⟨c.subscriptions, rfl⟩
  | cons sid rest ih =>
    obtain ⟨last, run⟩ := ih (c.eraseSubscription sid)
    exact ⟨last, by rw [List.foldl_cons, run]; rfl⟩

/-- Everything the client does with one packet, and when. -/
inductive Outcome (header : FixedHeader) (body : Bytes) (now : UInt32) : Reaction cfg → Prop where
  /-- The packet is refused or ignored. -/
  | declined (error : Error) : Outcome header body now { error := error, client := c }
  /-- A CONNACK that does not establish the session. -/
  | rejected (error : Error) (connack : ConnackInfo) (isConnack : header.type = .connack)
      (failed : error ≠ .ok) :
      Outcome header body now { error := error, client := { c with connack := connack } }
  /-- A CONNACK that does. -/
  | accepted (info : ConnackInfo) (isConnack : header.type = .connack)
      (awaiting : c.state = .awaitingConnack) (decoded : decodeConnack body = .ok info) :
      Outcome header body now
        { callback := some (.onConnect info)
          client := if info.sessionPresent then c.established info
            else (c.established info).markAllForResub }
  /-- There is no room for the answer, or none for the id in the table. -/
  | dropped (tx : TxQueue cfg.txBufferSize) (overflows refusals : UInt32)
      (peek : tx.peek = c.tx.peek) :
      Outcome header body now
        { client := { c with tx := tx, inboundOverflowCount := overflows,
                             txBackpressureCount := refusals } }
  /-- A QoS 0 message. -/
  | delivered (m : Message) (isPublish : header.type = .publish) (up : c.state = .connected)
      (decoded : decodePublish header body = .ok m) (level : m.qos = .atMostOnce) :
      Outcome header body now { callback := some (.dispatch m), client := c }
  /-- A QoS 1 message. -/
  | acknowledged (m : Message) (tx : TxQueue cfg.txBufferSize) (isPublish : header.type = .publish)
      (up : c.state = .connected) (decoded : decodePublish header body = .ok m)
      (level : m.qos = .atLeastOnce) (nonzero : m.packetId ≠ 0) (room : c.HasRoom 4)
      (peek : tx.peek = c.tx.peek ++ ackPacket .puback m.packetId) :
      Outcome header body now
        { queued := [{ bytes := ackPacket .puback m.packetId }]
          callback := some (.dispatch m)
          client := { c with tx := tx } }
  /-- A QoS 2 message seen for the first time. -/
  | recorded (m : Message) (tx : TxQueue cfg.txBufferSize) (isPublish : header.type = .publish)
      (up : c.state = .connected) (decoded : decodePublish header body = .ok m)
      (level : m.qos = .exactlyOnce) (nonzero : m.packetId ≠ 0) (room : c.HasRoom 4)
      (isNew : m.packetId ∉ c.inboundIds) (space : c.inboundTableFull = false)
      (peek : tx.peek = c.tx.peek ++ ackPacket .pubrec m.packetId) :
      Outcome header body now
        { queued := [{ bytes := ackPacket .pubrec m.packetId }]
          callback := some (.dispatch m)
          client := { c with tx := tx, inboundIds := c.inboundIds ++ [m.packetId] } }
  /-- A QoS 2 message seen before. -/
  | recognized (m : Message) (tx : TxQueue cfg.txBufferSize) (isPublish : header.type = .publish)
      (up : c.state = .connected) (decoded : decodePublish header body = .ok m)
      (level : m.qos = .exactlyOnce) (nonzero : m.packetId ≠ 0) (room : c.HasRoom 4)
      (known : m.packetId ∈ c.inboundIds)
      (peek : tx.peek = c.tx.peek ++ ackPacket .pubrec m.packetId) :
      Outcome header body now
        { queued := [{ bytes := ackPacket .pubrec m.packetId }], client := { c with tx := tx } }
  /-- A PUBREL. -/
  | released (id : UInt16) (tx : TxQueue cfg.txBufferSize) (isPubrel : header.type = .pubrel)
      (decoded : decodePacketId body = .ok id) (room : c.HasRoom 4)
      (peek : tx.peek = c.tx.peek ++ ackPacket .pubcomp id) :
      Outcome header body now
        { queued := [{ bytes := ackPacket .pubcomp id }]
          client := { c with tx := tx, inboundIds := c.inboundIds.erase id } }
  /-- The last acknowledgement of a message. -/
  | completed (id : UInt16) (index : Nat) (slot : OutboundSlot)
      (awaited : (header.type = .puback ∧ slot.phase = .waitPuback) ∨
        (header.type = .pubcomp ∧ slot.phase = .waitPubcomp))
      (decoded : decodePacketId body = .ok id) (here : c.outbound[index]? = some slot)
      (named : slot.packetId = id) :
      Outcome header body now
        { callback := some (.onDelivery id)
          client := { c with outbound := c.outbound.set index slot.release } }
  /-- The first PUBREC of a message whose slot cannot hold the PUBREL. -/
  | spoiled (id : UInt16) (index : Nat) (slot : OutboundSlot) (error : Error) (packet : Bytes)
      (isPubrec : header.type = .pubrec) (decoded : decodePacketId body = .ok id)
      (here : c.outbound[index]? = some slot) (short : slot.packet.length < 4) :
      Outcome header body now
        { error := error
          client := { c with outbound := c.outbound.set index { slot with packet := packet } } }
  /-- The first PUBREC of a message. -/
  | advanced (id : UInt16) (index : Nat) (slot : OutboundSlot) (tx : TxQueue cfg.txBufferSize)
      (isPubrec : header.type = .pubrec) (decoded : decodePacketId body = .ok id)
      (here : c.outbound[index]? = some slot) (named : slot.packetId = id)
      (waiting : slot.phase = .waitPubrec) (room : c.HasRoom 4)
      (peek : tx.peek = c.tx.peek ++ ackPacket .pubrel id) :
      Outcome header body now
        { queued := [{ slot := some index, bytes := ackPacket .pubrel id }]
          readClock := true
          client := { c with
            tx := tx
            outbound := c.outbound.set index { pubrelSlot slot id with lastSentMs := now } } }
  /-- The first PUBREC of a message, with no room for the PUBREL. -/
  | stalled (id : UInt16) (index : Nat) (slot : OutboundSlot) (tx : TxQueue cfg.txBufferSize)
      (refusals : UInt32) (isPubrec : header.type = .pubrec)
      (decoded : decodePacketId body = .ok id) (here : c.outbound[index]? = some slot)
      (named : slot.packetId = id) (waiting : slot.phase = .waitPubrec) (full : ¬ c.HasRoom 4)
      (peek : tx.peek = c.tx.peek) :
      Outcome header body now
        { client := { c with
            tx := tx
            outbound := c.outbound.set index (pubrelSlot slot id)
            txBackpressureCount := refusals } }
  /-- A further PUBREC. -/
  | repeated (id : UInt16) (index : Nat) (slot : OutboundSlot) (tx : TxQueue cfg.txBufferSize)
      (isPubrec : header.type = .pubrec) (decoded : decodePacketId body = .ok id)
      (here : c.outbound[index]? = some slot) (named : slot.packetId = id)
      (waiting : slot.phase = .waitPubcomp) (room : c.HasRoom slot.stored.length)
      (peek : tx.peek = c.tx.peek ++ slot.stored) :
      Outcome header body now
        { queued := [{ slot := some index, bytes := slot.stored }]
          readClock := true
          client := { c with
            tx := tx
            outbound := c.outbound.set index { slot with lastSentMs := now } } }
  /-- A SUBACK that was waited for. -/
  | answered (v : SubackView) (ack : PendingAck) (table : List Subscription)
      (isSuback : header.type = .suback) (decoded : decodeSuback body = .ok v)
      (found : c.findPending v.packetId .suback = some ack)
      (counted : v.returnCodes.length = ack.subs.length)
      (run : (v.returnCodes.zip ack.subs).foldl applyReturnCode c =
        { c with subscriptions := table }) :
      Outcome header body now
        { callback := some (.onSuback v.packetId v.returnCodes)
          client := { c with
            subscriptions := table
            pending := c.pending.eraseP fun a => a.packetId = v.packetId && a.expected = .suback } }
  /-- An UNSUBACK that was waited for. -/
  | withdrawn (id : UInt16) (ack : PendingAck) (table : List Subscription)
      (isUnsuback : header.type = .unsuback) (decoded : decodePacketId body = .ok id)
      (found : c.findPending id .unsuback = some ack)
      (run : ack.subs.foldl eraseSubscription c = { c with subscriptions := table }) :
      Outcome header body now
        { client := { c with
            subscriptions := table
            pending := c.pending.eraseP fun a => a.packetId = id && a.expected = .unsuback } }
  /-- A PINGRESP. -/
  | ponged (isPingresp : header.type = .pingresp) :
      Outcome header body now { client := { c with pingOutstanding := false } }

section Outcomes

variable {header : FixedHeader} {now : UInt32}

/-- What a CONNACK does. -/
theorem handleConnack_outcome (body : Bytes) (isConnack : header.type = .connack) :
    c.Outcome header body now (c.handleConnack body) := by
  rcases c.handleConnack_cases body with ⟨error, connack, failed, same⟩ |
    ⟨awaiting, info, ok, _, same⟩
  · exact same ▸ .rejected error connack isConnack failed
  · exact same ▸ .accepted info isConnack awaiting ok

/-- What a PUBLISH does. -/
theorem handlePublish_outcome (body : Bytes) (isPublish : header.type = .publish) :
    c.Outcome header body now (c.handlePublish header body) := by
  rcases c.handlePublish_cases header body with
    ⟨error, same, _⟩ | ⟨up, m, decoded, ⟨level, same⟩ |
      ⟨level, nonzero, ⟨room, tx, peek, same⟩ | ⟨_, tx, peek, same⟩⟩ | ⟨level, nonzero, same⟩⟩
  · exact same ▸ .declined error
  · exact same ▸ .delivered m isPublish up decoded level
  · exact same ▸ .acknowledged m tx isPublish up decoded level nonzero room peek
  · exact same ▸ .dropped tx c.inboundOverflowCount _ peek
  · rw [same]
    rcases c.receiveExactlyOnce_cases m nonzero with
      ⟨known, room, tx, peek, same⟩ | ⟨isNew, space, room, tx, peek, same⟩ |
        ⟨_, tx, overflows, refusals, peek, same⟩
    · exact same ▸ .recognized m tx isPublish up decoded level nonzero room known peek
    · exact same ▸ .recorded m tx isPublish up decoded level nonzero room isNew space peek
    · exact same ▸ .dropped tx overflows refusals peek

/-- What a PUBREL does. -/
theorem handlePubrel_outcome (body : Bytes) (isPubrel : header.type = .pubrel) :
    c.Outcome header body now (c.handlePubrel body) := by
  rcases c.handlePubrel_cases body with
    ⟨error, _, same⟩ | ⟨id, decoded, room, tx, peek, same⟩ | ⟨_, _, _, tx, peek, same⟩
  · exact same ▸ .declined error
  · exact same ▸ .released id tx isPubrel decoded room peek
  · exact same ▸ .dropped tx c.inboundOverflowCount _ peek

/-- What a PUBACK or PUBCOMP does. -/
theorem completeDelivery_outcome (body : Bytes) {awaited : Phase}
    (pair : (header.type = .puback ∧ awaited = .waitPuback) ∨
      (header.type = .pubcomp ∧ awaited = .waitPubcomp)) :
    c.Outcome header body now (c.completeDelivery body awaited) := by
  rcases c.completeDelivery_cases body awaited with
    ⟨error, same⟩ | ⟨id, index, decoded, found, phase, same⟩
  · exact same ▸ .declined error
  · obtain ⟨slot, here, isSlot, _, named⟩ := findOutbound_some found
    rw [isSlot] at phase same
    exact same ▸ .completed id index slot (phase ▸ pair) decoded here named

/-- What a PUBREC does. -/
theorem handlePubrec_outcome (body : Bytes) (isPubrec : header.type = .pubrec) :
    c.Outcome header body now (c.handlePubrec body now) := by
  rcases c.handlePubrec_cases body now with
    ⟨error, _, same⟩ | ⟨id, index, decoded, found, first, outcome⟩ |
      ⟨id, index, decoded, found, again, same⟩
  · exact same ▸ .declined error
  · obtain ⟨slot, here, isSlot, _, named⟩ := findOutbound_some found
    rw [isSlot] at first outcome
    rcases outcome with ⟨error, packet, short, same⟩ | ⟨_, same⟩
    · exact same ▸ .spoiled id index slot error packet isPubrec decoded here short
    have within := (List.getElem?_eq_some_iff.mp here).1
    have stored : (c.setSlot index (pubrelSlot slot id)).slotAt index = pubrelSlot slot id :=
      slotAt_of_getElem? (by simp [setSlot, within])
    have sending := (c.setSlot index (pubrelSlot slot id)).sendPubrel_cases index now
    rw [stored, stored_pubrelSlot, length_ackPacket] at sending
    rw [same]
    rcases sending with ⟨room, tx, peek, sent⟩ | ⟨full, tx, peek, sent⟩
    · simp only [setSlot, List.set_set] at sent
      exact sent ▸ .advanced id index slot tx isPubrec decoded here named first room peek
    · exact sent ▸ .stalled id index slot tx _ isPubrec decoded here named first full peek
  · obtain ⟨slot, here, isSlot, _, named⟩ := findOutbound_some found
    have sending := c.sendPubrel_cases index now
    rw [isSlot] at again sending
    rw [same]
    rcases sending with ⟨room, tx, peek, sent⟩ | ⟨_, tx, peek, sent⟩
    · exact sent ▸ .repeated id index slot tx isPubrec decoded here named again room peek
    · exact sent ▸ .dropped tx c.inboundOverflowCount _ peek

/-- What a SUBACK does. -/
theorem handleSuback_outcome (body : Bytes) (isSuback : header.type = .suback) :
    c.Outcome header body now (c.handleSuback body) := by
  rcases c.handleSuback_cases body with ⟨error, same⟩ | ⟨v, ack, decoded, found, counted, same⟩
  · exact same ▸ .declined error
  · obtain ⟨table, run⟩ := foldl_applyReturnCode_shape (v.returnCodes.zip ack.subs) c
    rw [run] at same
    exact same ▸ .answered v ack table isSuback decoded found counted run

/-- What an UNSUBACK does. -/
theorem handleUnsuback_outcome (body : Bytes) (isUnsuback : header.type = .unsuback) :
    c.Outcome header body now (c.handleUnsuback body) := by
  rcases c.handleUnsuback_cases body with ⟨error, same⟩ | ⟨id, ack, decoded, found, same⟩
  · exact same ▸ .declined error
  · obtain ⟨table, run⟩ := foldl_eraseSubscription_shape ack.subs c
    rw [run] at same
    exact same ▸ .withdrawn id ack table isUnsuback decoded found run

theorem handlePingresp_outcome (body : Bytes) (isPingresp : header.type = .pingresp) :
    c.Outcome header body now (c.handlePingresp body) := by
  unfold handlePingresp
  split
  · exact .declined .malformedPacket
  · exact .ponged isPingresp

end Outcomes

/-- What one packet does. -/
theorem handlePacket_cases (header : FixedHeader) (body : Bytes) (now : UInt32) :
    ∃ reaction, c.handlePacket header body now = reaction ∧
      c.Outcome header body now reaction := by
  refine ⟨_, rfl, ?_⟩
  unfold handlePacket
  cases type : header.type <;> simp only
  case connack => exact c.handleConnack_outcome body type
  case publish => exact c.handlePublish_outcome body type
  case puback => exact c.completeDelivery_outcome body (.inl ⟨type, rfl⟩)
  case pubrec => exact c.handlePubrec_outcome body type
  case pubrel => exact c.handlePubrel_outcome body type
  case pubcomp => exact c.completeDelivery_outcome body (.inr ⟨type, rfl⟩)
  case suback => exact c.handleSuback_outcome body type
  case unsuback => exact c.handleUnsuback_outcome body type
  case pingresp => exact c.handlePingresp_outcome body type
  all_goals exact .declined .protocolViolation

/-- A reaction that stays within the connection: it leaves the receive buffer,
the session's kind and its end alone, and what it queues is what it adds to the
waiting bytes. -/
structure Within (c : Client cfg) (reaction : Reaction cfg) : Prop where
  rx : reaction.client.rx = c.rx
  inStep : reaction.client.inStep = c.inStep
  lastError : reaction.client.lastError = c.lastError
  cleanSession : reaction.client.cleanSession = c.cleanSession
  state : reaction.client.state = c.state ∨
    (c.state = .awaitingConnack ∧ reaction.client.state = .connected)
  wire : reaction.client.tx.peek = c.tx.peek ++ reaction.wire

theorem within_same {c : Client cfg} {reaction : Reaction cfg} (unchanged : reaction.client = c)
    (quiet : reaction.queued = []) : c.Within reaction := by
  constructor <;> simp [unchanged, quiet, Reaction.wire]

/-- Every packet's reaction stays within the connection. -/
theorem handlePacket_within (header : FixedHeader) (body : Bytes) (now : UInt32) :
    c.Within (c.handlePacket header body now) := by
  obtain ⟨reaction, handled, outcome⟩ := c.handlePacket_cases header body now
  rw [handled]
  cases outcome with
  | accepted info _ awaiting _ =>
    constructor <;> (try split) <;>
      simp [Reaction.wire, markAllForResub, established, awaiting]
  | _ => constructor <;> simp [Reaction.wire, *]

/-! ## Which packets end by invoking a handler -/

/-- If the reaction invokes a handler, nothing went wrong, and the handler is not
the one told of the end of a session. -/
def Amicable (reaction : Reaction cfg) : Prop :=
  reaction.callback = none ∨
    reaction.error = .ok ∧ ∀ reason, reaction.callback ≠ some (.onDisconnect reason)

theorem sendPubrel_error (index : Nat) (now : UInt32) : (c.sendPubrel index now).error = .ok := by
  rcases c.sendPubrel_cases index now with ⟨_, _, _, same⟩ | ⟨_, _, _, same⟩ <;> rw [same]

theorem amicable_handlePacket (header : FixedHeader) (body : Bytes) (now : UInt32) :
    Amicable (c.handlePacket header body now) := by
  obtain ⟨reaction, handled, outcome⟩ := c.handlePacket_cases header body now
  rw [handled]
  cases outcome <;> simp [Amicable]

/-- A packet whose handling ends by invoking a handler was processed without an
error. -/
theorem handlePacket_callback {header : FixedHeader} {body : Bytes} {now : UInt32}
    {callback : Callback} (runs : (c.handlePacket header body now).callback = some callback) :
    (c.handlePacket header body now).error = .ok := by
  rcases c.amicable_handlePacket header body now with none | ⟨fine, _⟩
  · simp [none] at runs
  · exact fine

/-- A message is dispatched while the session is up. -/
theorem handlePacket_dispatch {header : FixedHeader} {body : Bytes} {now : UInt32} {m : Message}
    (runs : (c.handlePacket header body now).callback = some (.dispatch m)) :
    c.state = .connected ∧ (c.handlePacket header body now).client.state = .connected := by
  obtain ⟨reaction, handled, outcome⟩ := c.handlePacket_cases header body now
  rw [handled] at runs ⊢
  cases outcome with
  | delivered _ _ up | acknowledged _ _ _ up | recorded _ _ _ up => exact ⟨up, up⟩
  | _ => cases runs

/-- Only a PUBLISH is dispatched. -/
theorem isPublish_of_dispatch {header : FixedHeader} {body : Bytes} {now : UInt32} {m : Message}
    (runs : (c.handlePacket header body now).callback = some (.dispatch m)) :
    header.type = .publish := by
  obtain ⟨reaction, handled, outcome⟩ := c.handlePacket_cases header body now
  rw [handled] at runs
  cases outcome with
  | delivered _ isPublish | acknowledged _ _ isPublish | recorded _ _ isPublish => exact isPublish
  | _ => cases runs

end Client
end Mqtt
