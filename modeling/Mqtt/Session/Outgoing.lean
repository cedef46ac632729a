import Mqtt.Session.Slots

/-!
# Which packets each piece of code queues

A packet's type stands in the first nibble of its first byte. Each label queues
packets of a few types only, also when it copies them from a slot's buffer.
-/

namespace Mqtt

open Library Client

variable {cfg : Config} {bytes : Bytes} {size : Nat} {packet : Queued}

/-- The bytes start as a packet of this type does. -/
def Leads (type : PacketType) (bytes : Bytes) : Prop :=
  ∀ first ∈ bytes.head?, (first >>> 4) &&& 0x0F = type.toNibble

theorem nibble_publish : ∀ (dup retain : Bool) (bits : Fin 256),
    let base : UInt8 := if dup then 0x30 ||| 0x08 else 0x30
    let base := base ||| ((UInt8.ofNat bits &&& 0x03) <<< 1)
    ((if retain then base ||| 0x01 else base) >>> 4) &&& 0x0F = 3 := by decide +kernel

/-- The type is in the first nibble. -/
theorem nibble_toByte (header : FixedHeader) :
    (header.toByte >>> 4) &&& 0x0F = header.type.toNibble := by
  obtain ⟨type, dup, qos, retain, length⟩ := header
  by_cases isPublish : type = .publish
  · subst isPublish
    have table := nibble_publish dup retain ⟨qos.toByte.toNat, qos.toByte.toNat_lt⟩
    simp only [UInt8.ofNat_toNat] at table
    exact table
  · simp only [FixedHeader.toByte, if_neg isPublish]
    cases type <;> decide

theorem nibble_dup : ∀ byte : Fin 256,
    ((UInt8.ofNat byte.val ||| 0x08) >>> 4) &&& (0x0F : UInt8) =
      (UInt8.ofNat byte.val >>> 4) &&& (0x0F : UInt8) := by
  decide +kernel

theorem ofNibble_toNibble (type : PacketType) : PacketType.ofNibble type.toNibble = some type := by
  cases type <;> rfl

theorem fromByte_type {byte : UInt8} {header : FixedHeader}
    (parsed : FixedHeader.fromByte byte = .ok header) :
    PacketType.ofNibble ((byte >>> 4) &&& 0x0F) = some header.type := by
  cases isType : PacketType.ofNibble ((byte >>> 4) &&& 0x0F) with
  | none =>
    simp only [FixedHeader.fromByte, isType] at parsed
    split_ifs at parsed
  | some type =>
    simp only [FixedHeader.fromByte, isType] at parsed
    split_ifs at parsed <;> cases parsed <;> rfl

/-- If the bytes read as a packet, it is of the type they lead with. -/
theorem Leads.type {type : PacketType} (leads : Leads type bytes) {p : PacketPeek}
    (peeked : peekHeader bytes = .ok p) : p.header.type = type := by
  cases bytes with
  | nil => cases peeked
  | cons first rest =>
    simp only [peekHeader] at peeked
    split at peeked
    · cases peeked
    · rename_i header parsed
      split at peeked
      · cases peeked
      · cases peeked
        have nibble := fromByte_type parsed
        rw [leads first rfl, ofNibble_toNibble] at nibble
        exact (Option.some.inj nibble).symm

/-- What leads as a type is read as it. -/
theorem Leads.readPacket_type {type : PacketType} {body : Bytes} {header : FixedHeader}
    (leads : Leads type bytes) (isPacket : readPacket bytes = some (header, body)) :
    header.type = type := by
  simp only [readPacket] at isPacket
  split at isPacket
  · cases isPacket
  · cases isPacket
    exact leads.type (by assumption)

theorem leads_packetOf (header : FixedHeader) (body : Bytes) :
    Leads header.type (packetOf header body) := by
  rintro first ⟨⟩
  exact nibble_toByte _

theorem Leads.take {type : PacketType} (leads : Leads type bytes) (count : Nat) :
    Leads type (bytes.take count) := by
  intro first front
  rw [List.head?_take] at front
  split at front
  · cases front
  · exact leads first front

theorem leads_overwrite {type : PacketType} {buffer : Bytes} (leads : Leads type bytes)
    (filled : bytes ≠ []) : Leads type (overwrite buffer bytes) := by
  cases bytes with
  | nil => exact absurd rfl filled
  | cons first rest => exact leads

/-- A slot that waits for PUBACK or PUBREC stores a PUBLISH. -/
theorem slotRule_publish (cfg : Config) :
    SlotRule cfg fun slot =>
      slot.phase = .waitPuback ∨ slot.phase = .waitPubrec → Leads .publish slot.stored where
  initial := by simp
  stamped _ _ holds := holds
  scribbled _ _ _ isFree _ := by simp [isFree]
  filled slot topic payload qos retain id now _ _ _ _ _ _ :=
    (leads_overwrite (leads_packetOf { type := .publish, dup := false, qos := qos, retain := retain }
      (publishBody topic payload qos id)) (by simp [packetOf, frame, fixedHeaderBytes])).take _
  advanced _ _ _ _ := by simp [pubrelSlot]
  marked slot holds _ := by
    rw [phase_markDup]
    intro waiting
    rcases markDup_cases slot with same | ⟨first, rest, _, isPacket, isPublish, same⟩
    · rw [same]
      exact holds waiting
    · rw [same]
      refine Leads.take (fun byte front => ?_) _
      obtain rfl : (first ||| 0x08) = byte := by simpa using front
      have nibble := nibble_dup ⟨first.toNat, first.toNat_lt⟩
      simp only [UInt8.ofNat_toNat] at nibble
      rw [nibble, isPublish]
  released slot _ := by simp [OutboundSlot.release]

/-- The types of packet a label can queue. -/
def Label.queues : Label → List PacketType
  | .connect _ _ => [.connect]
  | .disconnect => [.disconnect]
  | .publish _ _ _ _ _ => [.publish]
  | .subscribe _ _ _ | .resubscribe _ => [.subscribe]
  | .unsubscribe _ _ => [.unsubscribe]
  | .keepAlive _ => [.pingreq]
  | .retransmit _ => [.publish, .pubrel]
  | .handle header _ _ =>
    match header.type with
    | .publish => [.puback, .pubrec]
    | .pubrec => [.pubrel]
    | .pubrel => [.pubcomp]
    | _ => []
  | _ => []

/-- What a slot in flight stores. -/
theorem leads_stored {slot : OutboundSlot} (inFlight : slot.phase ≠ .free)
    (publish : slot.phase = .waitPuback ∨ slot.phase = .waitPubrec → Leads .publish slot.stored)
    (pubrel : slot.phase = .waitPubcomp → slot.stored = ackPacket .pubrel slot.packetId) :
    Leads .publish slot.stored ∨ Leads .pubrel slot.stored := by
  cases phase : slot.phase with
  | free => exact absurd phase inFlight
  | waitPuback => exact .inl (publish (.inl phase))
  | waitPubrec => exact .inl (publish (.inr phase))
  | waitPubcomp =>
    rw [pubrel phase]
    exact .inr (leads_packetOf { type := .pubrel } _)

theorem leads_ackPacket (type : PacketType) (id : UInt16) : Leads type (ackPacket type id) :=
  leads_packetOf { type := type } _

/-- A packet of one of these types, as the encoders write it. -/
def Framed (types : List PacketType) (bytes : Bytes) : Prop :=
  ∃ header body, header.type ∈ types ∧ header.Sendable ∧ body.length ≤ kMaxRemainingLength ∧
    bytes = packetOf header body

/-- A frame leads as one of its types. -/
theorem Framed.leads {types : List PacketType} (framed : Framed types bytes) :
    ∃ type ∈ types, Leads type bytes := by
  obtain ⟨header, body, isType, _, _, rfl⟩ := framed
  exact ⟨header.type, isType, leads_packetOf header body⟩

theorem framed_ackPacket {types : List PacketType} {type : PacketType} (member : type ∈ types)
    (sendable : ({ type := type } : FixedHeader).Sendable) (id : UInt16) :
    Framed types (ackPacket type id) :=
  ⟨{ type := type }, u16Bytes id, member, sendable, by rw [length_u16Bytes]; decide, rfl⟩

theorem framed_emptyPacket {types : List PacketType} {type : PacketType} (member : type ∈ types)
    (sendable : ({ type := type } : FixedHeader).Sendable) : Framed types (emptyPacket type) :=
  ⟨{ type := type }, [], member, sendable, by decide, rfl⟩

/-- A PUBLISH is one frame. -/
theorem framed_publishPacket {topic payload : Bytes} {qos : QoS}
    (sized : publishRemainingLength topic payload.length qos = .ok size) (retain dup : Bool)
    (id : UInt16) : Framed [.publish] (publishPacket topic payload qos retain dup id) := by
  obtain ⟨_, _, valid, _, within, _⟩ := publishRemainingLength_ok sized
  refine ⟨{ type := .publish, dup := dup, qos := qos, retain := retain }, _, by simp,
    ⟨by simp, by simpa using valid⟩, ?_, rfl⟩
  rw [length_publishBody sized]
  exact within

theorem framed_subscribePacket {subs : List TopicSubscription}
    (sized : subscribeRemainingLength subs = .ok size) (id : UInt16) :
    Framed [.subscribe] (subscribePacket id subs) := by
  refine ⟨{ type := .subscribe }, _, by simp, by decide, ?_, rfl⟩
  rw [length_subscribeBody sized]
  exact (subscribeRemainingLength_ok sized).2.1

theorem framed_unsubscribePacket {filters : List Bytes}
    (sized : unsubscribeRemainingLength filters = .ok size) (id : UInt16) :
    Framed [.unsubscribe] (unsubscribePacket id filters) := by
  refine ⟨{ type := .unsubscribe }, _, by simp, by decide, ?_, rfl⟩
  rw [length_unsubscribeBody sized]
  exact (unsubscribeRemainingLength_ok sized).2.1

/-- A CONNECT is one frame. -/
theorem framed_connectPacket {opts : ConnectOptions}
    (sized : connectRemainingLength opts = .ok size) : Framed [.connect] (connectPacket opts) := by
  obtain ⟨_, _, _, _, within, announced⟩ := connectRemainingLength_ok sized
  exact ⟨{ type := .connect }, _, by simp, by decide, announced ▸ within, rfl⟩

/-- Where a queued packet comes from: an encoder, or the buffer of a slot in flight,
of which everything is known that is known of all slots. -/
inductive Origin (label : Label) (bytes : Bytes) (cfg : Config) : Prop where
  | encoded (framed : Framed label.queues bytes)
  | stored (slot : OutboundSlot) (rules : ∀ P, SlotRule cfg P → P slot)
      (inFlight : slot.phase ≠ .free) (isStored : bytes = slot.stored)
      (permitted : (∃ now, label = .retransmit now) ∨
        (slot.phase = .waitPubcomp ∧ PacketType.pubrel ∈ label.queues))

/-- A packet is answered by packets of the types that belong to it. -/
theorem handle_origin {c : Client cfg} {header : FixedHeader} {body : Bytes} {now : UInt32}
    (rules : ∀ slot ∈ c.outbound, ∀ P, SlotRule cfg P → P slot)
    (member : packet ∈ (c.react (.handle header body now)).queued) :
    Origin (.handle header body now) packet.bytes cfg := by
  obtain ⟨reaction, handled, outcome⟩ := c.handlePacket_cases header body now
  rw [show c.react (.handle header body now) = reaction from handled] at member
  cases outcome with
  | acknowledged m tx isPublish | recorded m tx isPublish | recognized m tx isPublish =>
    rw [List.mem_singleton.mp member]
    exact .encoded (framed_ackPacket (by simp [Label.queues, isPublish]) (by decide) _)
  | released id tx isPubrel =>
    rw [List.mem_singleton.mp member]
    exact .encoded (framed_ackPacket (by simp [Label.queues, isPubrel]) (by decide) _)
  | advanced id index slot tx isPubrec =>
    rw [List.mem_singleton.mp member]
    exact .encoded (framed_ackPacket (by simp [Label.queues, isPubrec]) (by decide) _)
  | repeated id index slot tx isPubrec _ here _ waiting =>
    exact .stored slot (rules slot (List.mem_of_getElem? here)) (by simp [waiting])
      (by rw [List.mem_singleton.mp member])
      (.inr ⟨waiting, by simp [Label.queues, isPubrec]⟩)
  | _ => cases member

/-- Where every queued packet comes from. -/
theorem origin_of_queued {c : Client cfg}
    (rules : ∀ slot ∈ c.outbound, ∀ P, SlotRule cfg P → P slot) {label : Label}
    (member : packet ∈ (c.react label).queued) : Origin label packet.bytes cfg := by
  cases label with
  | connect opts now =>
    rcases c.connect_cases opts now with
      ⟨_, _, same⟩ | ⟨_, _, _, _, _, same⟩ | ⟨_, ⟨_, fits⟩, _, _, same⟩
    · simp [react, same, refuse] at member
    · simp [react, same, refuse] at member
    · obtain rfl : packet = _ := by simpa [react, same] using member
      exact .encoded (framed_connectPacket fits)
  | disconnect =>
    rcases c.disconnect_cases with ⟨_, same⟩ | ⟨_, _, _, _, same⟩ | ⟨_, _, _, same⟩
    · simp [react, same, refuse] at member
    · obtain rfl : packet = _ := by simpa [react, same] using member
      exact .encoded (framed_emptyPacket (by simp [Label.queues]) (by decide))
    · simp [react, same, shutdown] at member
  | publish topic payload qos retain now =>
    rcases c.publish_cases topic payload qos retain now with
      ⟨_, _, _, _, _, _, _, same⟩ | ⟨_, _, ⟨_, fits⟩, _, _, same⟩ |
        ⟨_, _, ⟨_, fits⟩, _, _, id, _, _, _, _, _, _, _, isPacket, _, _, _, same⟩
    · simp [react, same, refuse] at member
    · obtain rfl : packet = _ := by simpa [react, same] using member
      exact .encoded (framed_publishPacket fits _ _ _)
    · obtain rfl : packet = _ := by simpa [react, same] using member
      subst isPacket
      exact .encoded (framed_publishPacket fits _ _ _)
  | subscribe subs handler now =>
    rcases c.subscribe_cases subs handler now with
      ⟨_, _, _, _, _, same⟩ | ⟨_, _, _, _, _, _, ⟨_, fits⟩, _, _, same⟩
    · simp [react, same, refuse] at member
    · obtain rfl : packet = _ := by simpa [react, same] using member
      exact .encoded (framed_subscribePacket fits _)
  | unsubscribe filters now =>
    rcases c.unsubscribe_cases filters now with
      ⟨_, _, _, _, _, same⟩ | ⟨_, _, _, _, ⟨_, fits⟩, _, _, same⟩
    · simp [react, same, refuse] at member
    · obtain rfl : packet = _ := by simpa [react, same] using member
      exact .encoded (framed_unsubscribePacket fits _)
  | keepAlive now =>
    rcases c.pumpKeepAlive_cases now with ⟨_, _, _, _, same⟩ | ⟨_, _, _, same⟩
    · simp [react, same] at member
    · obtain rfl : packet = _ := by simpa [react, same] using member
      exact .encoded (framed_emptyPacket (by simp [Label.queues]) (by decide))
  | resubscribe now =>
    rcases c.pumpResubscribe_cases now with ⟨_, _, _, same⟩ | ⟨_, _, _, ⟨_, fits⟩, _, _, same⟩
    · simp [react, same] at member
    · obtain rfl : packet = _ := by simpa [react, same] using member
      exact .encoded (framed_subscribePacket fits _)
  | retransmit now =>
    obtain ⟨_, _, _, _, same, _, pass⟩ := c.pumpRetransmit_cases now
    rw [show c.react (.retransmit now) = _ from same] at member
    obtain ⟨index, slot, _, here, due, rfl, _⟩ := pass.due packet member
    have inTable := List.mem_of_getElem? here
    have inFlight := phase_of_due due
    exact .stored slot.markDup
      (fun P rule => rule.marked slot (rules slot inTable P rule) inFlight)
      (by rwa [phase_markDup]) rfl (.inl ⟨now, rfl⟩)
  | handle header body now => exact handle_origin rules member
  | transportConnect result now =>
    simp only [react] at member
    split at member <;> simp at member
  | send result written now =>
    simp only [react] at member
    split at member <;> simp at member
  | recv result bytes now =>
    simp only [react] at member
    split at member <;> simp at member
  | _ => simp [react, abort, shutdown] at member

theorem History.origin {log : Log cfg} (history : History log) {label : Label}
    (member : packet ∈ (log.state.react label).queued) : Origin label packet.bytes cfg :=
  origin_of_queued (fun slot inTable _ rule => history.slots rule slot inTable) member

/-- Every packet is of a type its label queues. -/
theorem History.queued_leads {log : Log cfg} (history : History log)
    {label : Label} (member : packet ∈ (log.state.react label).queued) :
    ∃ type ∈ label.queues, Leads type packet.bytes := by
  cases history.origin member with
  | encoded framed => exact framed.leads
  | stored slot rules inFlight isStored permitted =>
    have pubrel := rules _ (slotRule_pubrel cfg)
    rw [isStored]
    rcases permitted with ⟨now, rfl⟩ | ⟨waiting, queues⟩
    · rcases leads_stored inFlight (rules _ (slotRule_publish cfg)) pubrel with leads | leads
      · exact ⟨.publish, by simp [Label.queues], leads⟩
      · exact ⟨.pubrel, by simp [Label.queues], leads⟩
    · rw [pubrel waiting]
      exact ⟨.pubrel, queues, leads_ackPacket _ _⟩

end Mqtt
