import Mqtt.Session.InboundIds

/-!
# The outbound slots

Every way a piece of client code can change the table of outbound messages, in
one statement, and what the table always looks like.
-/

namespace Mqtt

open Library

variable {cfg : Config}

namespace Client

variable (c : Client cfg)

/-- The table has its configured size, and every buffer too. -/
structure SlotsSized (c : Client cfg) : Prop where
  count : c.outbound.length = cfg.maxInflightOut
  buffers : ∀ slot ∈ c.outbound, slot.packet.length = cfg.kPersistSize

theorem SlotsSized.four_le {c : Client cfg} (sized : c.SlotsSized) {index : Nat}
    {slot : OutboundSlot} (here : c.outbound[index]? = some slot) : 4 ≤ slot.packet.length := by
  have within := (List.getElem?_eq_some_iff.mp here).1
  rw [sized.buffers slot (List.mem_of_getElem? here)]
  exact cfg.four_le_kPersistSize (by have := sized.count; omega)

/-- A reaction that leaves the slots alone and reports no delivery. -/
structure Aloof (reaction : Reaction cfg) : Prop where
  same : reaction.client.outbound = c.outbound
  untracked : ∀ packet ∈ reaction.queued, packet.slot = none
  unreported : ∀ id, reaction.callback ≠ some (.onDelivery id)

/-- Every way a piece of code can affect the slots. -/
inductive OutboundEffect (label : Label) : Prop where
  | kept (aloof : c.Aloof (c.react label))
  /-- A `publish()` that failed may have written into a free slot's buffer. -/
  | scribbled (index : Nat) (slot : OutboundSlot) (packet : Bytes)
      (here : c.outbound[index]? = some slot) (isFree : slot.phase = .free)
      (sameLength : packet.length = slot.packet.length)
      (changed : (c.apply label).outbound = c.outbound.set index { slot with packet := packet })
      (quiet : (c.react label).queued = []) (silent : (c.react label).callback = none)
  /-- A `publish()` that succeeded. -/
  | filled (topic payload : Bytes) (qos : QoS) (retain : Bool) (now : UInt32) (index : Nat)
      (slot : OutboundSlot) (id : UInt16) (packet : Bytes)
      (isPublish : label = .publish topic payload qos retain now) (up : c.state = .connected)
      (tracked : qos ≠ .atMostOnce)
      (sized : ∃ size, publishRemainingLength topic payload.length qos = .ok size)
      (here : c.outbound[index]? = some slot) (isFree : slot.phase = .free)
      (allocated : c.allocPacketId.1 = id) (nonzero : id ≠ 0)
      (isPacket : packet = publishPacket topic payload qos retain false id)
      (fits : packet.length ≤ slot.packet.length)
      (changed : (c.apply label).outbound =
        c.outbound.set index (filledSlot slot packet qos id now))
      (queued : (c.react label).queued = [{ slot := some index, bytes := packet }])
      (returned : (c.react label).packetId = some id)
      (silent : (c.react label).callback = none)
  /-- The first PUBREC of a message. -/
  | advanced (header : FixedHeader) (body : Bytes) (now : UInt32) (id : UInt16) (index : Nat)
      (slot : OutboundSlot) (isHandle : label = .handle header body now)
      (isPubrec : header.type = .pubrec) (decoded : decodePacketId body = .ok id)
      (here : c.outbound[index]? = some slot) (named : slot.packetId = id)
      (waiting : slot.phase = .waitPubrec)
      (outcome : (c.HasRoom 4 ∧
          (c.apply label).outbound =
            c.outbound.set index { pubrelSlot slot id with lastSentMs := now } ∧
          (c.react label).queued = [{ slot := some index, bytes := ackPacket .pubrel id }]) ∨
        (¬ c.HasRoom 4 ∧ (c.apply label).outbound = c.outbound.set index (pubrelSlot slot id) ∧
          (c.react label).queued = []))
      (silent : (c.react label).callback = none)
  /-- A further PUBREC: the PUBREL goes out again. -/
  | repeated (header : FixedHeader) (body : Bytes) (now : UInt32) (id : UInt16) (index : Nat)
      (slot : OutboundSlot) (isHandle : label = .handle header body now)
      (isPubrec : header.type = .pubrec) (decoded : decodePacketId body = .ok id)
      (here : c.outbound[index]? = some slot) (named : slot.packetId = id)
      (waiting : slot.phase = .waitPubcomp)
      (outcome : (c.HasRoom slot.stored.length ∧
          (c.apply label).outbound = c.outbound.set index { slot with lastSentMs := now } ∧
          (c.react label).queued = [{ slot := some index, bytes := slot.stored }]) ∨
        (¬ c.HasRoom slot.stored.length ∧ (c.apply label).outbound = c.outbound ∧
          (c.react label).queued = []))
      (silent : (c.react label).callback = none)
  /-- The last acknowledgement of a message. -/
  | completed (header : FixedHeader) (body : Bytes) (now : UInt32) (id : UInt16) (index : Nat)
      (slot : OutboundSlot) (isHandle : label = .handle header body now)
      (awaited : (header.type = .puback ∧ slot.phase = .waitPuback) ∨
        (header.type = .pubcomp ∧ slot.phase = .waitPubcomp))
      (decoded : decodePacketId body = .ok id)
      (here : c.outbound[index]? = some slot) (named : slot.packetId = id)
      (changed : (c.apply label).outbound = c.outbound.set index slot.release)
      (quiet : (c.react label).queued = [])
      (reported : (c.react label).callback = some (.onDelivery id))
  /-- A retransmission pass. -/
  | passed (now : UInt32) (isPass : label = .retransmit now)
      (pass : Pass cfg c.retransmitNow now (List.range cfg.maxInflightOut) c.outbound
        (c.apply label).outbound (c.react label).queued)
      (silent : (c.react label).callback = none)
  /-- The session is discarded. -/
  | discarded (discards : c.Discards label)
      (changed : (c.apply label).outbound = c.outbound.map OutboundSlot.release)
      (untracked : ∀ packet ∈ (c.react label).queued, packet.slot = none)
      (unreported : ∀ id, (c.react label).callback ≠ some (.onDelivery id))

/-! ## Packets -/

/-- What a packet does to the slots. -/
theorem handle_outboundEffect (header : FixedHeader) (body : Bytes) (now : UInt32)
    (sized : c.SlotsSized) : c.OutboundEffect (.handle header body now) := by
  obtain ⟨reaction, handled, outcome⟩ := c.handlePacket_cases header body now
  have reacts : c.react (.handle header body now) = reaction := handled
  have becomes : c.apply (.handle header body now) = reaction.client := congrArg _ handled
  cases outcome with
  | completed id index slot awaited decoded here named =>
    refine .completed header body now id index slot rfl awaited decoded here named ?_ ?_ ?_ <;>
      simp [reacts, becomes]
  | spoiled id index slot error packet _ _ here short =>
    have fits := sized.four_le here
    omega
  | advanced id index slot tx isPubrec decoded here named waiting room =>
    refine .advanced header body now id index slot rfl isPubrec decoded here named waiting
      (.inl ⟨room, ?_, ?_⟩) ?_ <;> simp [reacts, becomes]
  | stalled id index slot tx refusals isPubrec decoded here named waiting full =>
    refine .advanced header body now id index slot rfl isPubrec decoded here named waiting
      (.inr ⟨full, ?_, ?_⟩) ?_ <;> simp [reacts, becomes]
  | repeated id index slot tx isPubrec decoded here named waiting room =>
    refine .repeated header body now id index slot rfl isPubrec decoded here named waiting
      (.inl ⟨room, ?_, ?_⟩) ?_ <;> simp [reacts, becomes]
  | accepted info =>
    refine .kept ⟨?_, by simp [reacts], by simp [reacts]⟩
    rw [reacts]
    simp only
    split <;> rfl
  | _ => exact .kept (by rw [reacts]; exact ⟨rfl, by simp, by simp⟩)

/-! ## Calls and timers -/

/-- What a publish does to them. -/
theorem publish_outboundEffect (topic payload : Bytes) (qos : QoS) (retain : Bool)
    (now : UInt32) : c.OutboundEffect (.publish topic payload qos retain now) := by
  have called : c.react (.publish topic payload qos retain now) =
      c.publish topic payload qos retain now := rfl
  rcases c.publish_cases topic payload qos retain now with
    ⟨_, tx, n, outbound, _, _, scribbled, same⟩ | ⟨_, _, _, _, _, same⟩ |
      ⟨up, tracked, fitting, index, slot, id, tx, packet, _, here, isFree, allocated, nonzero,
        isPacket, fits, _, _, same⟩
  · rcases scribbled with unchanged | ⟨index, slot, packet, here, isFree, sameLength, changed⟩
    · exact .kept (by rw [called, same]; exact ⟨unchanged, by simp [refuse], by simp [refuse]⟩)
    · exact .scribbled index slot packet here isFree sameLength
        (by simp [apply, called, same, refuse, changed]) (by simp [called, same, refuse])
        (by simp [called, same, refuse])
  · exact .kept (by rw [called, same]; exact ⟨rfl, by simp, by simp⟩)
  · refine .filled topic payload qos retain now index slot id packet rfl up tracked fitting here
      isFree allocated nonzero isPacket fits ?_ ?_ ?_ ?_
    all_goals simp [apply, called, same]

theorem teardown_outbound (reason : Error) :
    (c.teardown reason).outbound =
      if c.cleanSession then c.outbound.map OutboundSlot.release else c.outbound := rfl

theorem prepare_outbound (opts : ConnectOptions) :
    (c.prepare opts).outbound =
      if opts.cleanSession then c.outbound.map OutboundSlot.release else c.outbound := by
  unfold prepare
  split <;> rfl

/-- What a new connection does to them. -/
theorem connect_outboundEffect (opts : ConnectOptions) (now : UInt32) :
    c.OutboundEffect (.connect opts now) := by
  have called : c.react (.connect opts now) = c.connect opts now := rfl
  have prepared := c.prepare_outbound opts
  rcases c.connect_cases opts now with
    ⟨_, _, same⟩ | ⟨_, _, _, _, _, same⟩ | ⟨_, _, _, _, same⟩
  · exact .kept (by rw [called, same]; exact ⟨rfl, by simp [refuse], by simp [refuse]⟩)
  all_goals
    by_cases clean : opts.cleanSession = true
    · rw [if_pos clean] at prepared
      refine .discarded (.inl ⟨opts, now, rfl, clean⟩) ?_ ?_ ?_ <;>
        simp [apply, called, same, refuse, opened, prepared]
    · rw [if_neg clean] at prepared
      refine .kept ⟨?_, ?_, ?_⟩ <;> simp [called, same, refuse, opened, prepared]

theorem shutdown_outboundEffect {label : Label} (reason : Error) (tx : TxQueue cfg.txBufferSize)
    (ends : label = .disconnect ∨ label = .abort ∨ ∃ reason, label = .shutdown reason)
    (called : c.react label = shutdown { c with tx := tx } reason) : c.OutboundEffect label := by
  have unreported : ∀ id, (c.react label).callback ≠ some (.onDelivery id) := by
    intro id
    rw [called]
    simp only [shutdown]
    split <;> simp
  by_cases clean : c.cleanSession = true
  · exact .discarded (.inr ⟨clean, ends⟩)
      (by simp [apply, called, shutdown, teardown_outbound, clean])
      (by simp [called, shutdown]) unreported
  · exact .kept ⟨by simp [called, shutdown, teardown_outbound, clean],
      by simp [called, shutdown], unreported⟩

/-- What a retransmission does to them. -/
theorem retransmit_outboundEffect (now : UInt32) : c.OutboundEffect (.retransmit now) := by
  obtain ⟨tx, outbound, copies, readClock, same, _, pass⟩ := c.pumpRetransmit_cases now
  have called : c.react (.retransmit now) = c.pumpRetransmit now := rfl
  rw [same] at called
  exact .passed now rfl (by simpa [apply, called] using pass) (by simp [called])

/-- What any piece of code does to the slots. -/
theorem apply_outboundEffect (sized : c.SlotsSized) (label : Label) : c.OutboundEffect label := by
  cases label with
  | handle header body now => exact c.handle_outboundEffect header body now sized
  | publish topic payload qos retain now => exact c.publish_outboundEffect topic payload qos retain now
  | connect opts now => exact c.connect_outboundEffect opts now
  | retransmit now => exact c.retransmit_outboundEffect now
  | abort => exact c.shutdown_outboundEffect _ c.tx (.inr (.inl rfl)) rfl
  | shutdown reason => exact c.shutdown_outboundEffect reason c.tx (.inr (.inr ⟨reason, rfl⟩)) rfl
  | disconnect =>
    rcases c.disconnect_cases with ⟨_, same⟩ | ⟨_, _, _, _, same⟩ | ⟨_, _, tx, same⟩
    · exact .kept (by
        simp only [react]
        rw [same]
        exact ⟨rfl, by simp [refuse], by simp [refuse]⟩)
    · exact .kept (by simp only [react]; rw [same]; exact ⟨rfl, by simp, by simp⟩)
    · exact c.shutdown_outboundEffect .ok tx (.inl rfl) same
  | subscribe subs handler now =>
    rcases c.subscribe_cases subs handler now with
      ⟨_, _, _, _, _, same⟩ | ⟨_, _, _, _, _, _, _, tx, _, same⟩
    · exact .kept (by
        simp only [react]
        rw [same]
        exact ⟨rfl, by simp [refuse], by simp [refuse]⟩)
    · obtain ⟨_, _, _, _, shape⟩ := c.subscribed_shape subs handler tx now
      exact .kept (by simp only [react]; rw [same, shape]; exact ⟨rfl, by simp, by simp⟩)
  | unsubscribe filters now =>
    rcases c.unsubscribe_cases filters now with
      ⟨_, _, _, _, _, same⟩ | ⟨_, _, _, _, _, tx, _, same⟩
    · exact .kept (by
        simp only [react]
        rw [same]
        exact ⟨rfl, by simp [refuse], by simp [refuse]⟩)
    · exact .kept (by simp only [react]; rw [same]; exact ⟨rfl, by simp, by simp⟩)
  | keepAlive now =>
    rcases c.pumpKeepAlive_cases now with ⟨_, _, _, _, same⟩ | ⟨_, _, _, same⟩ <;>
      exact .kept (by simp only [react]; rw [same]; exact ⟨rfl, by simp, by simp⟩)
  | resubscribe now =>
    rcases c.pumpResubscribe_cases now with ⟨_, _, _, same⟩ | ⟨_, _, _, _, tx, _, same⟩
    · exact .kept (by simp only [react]; rw [same]; exact ⟨rfl, by simp, by simp⟩)
    · obtain ⟨_, _, _, shape⟩ := c.resubscribed_shape tx now
      exact .kept (by simp only [react]; rw [same, shape]; exact ⟨rfl, by simp, by simp⟩)
  | transportConnect result now =>
    refine .kept ?_
    simp only [react]
    split <;> exact ⟨rfl, by simp, by simp⟩
  | send result written now =>
    refine .kept ?_
    simp only [react]
    split <;> exact ⟨rfl, by simp, by simp⟩
  | recv result bytes now =>
    refine .kept ?_
    simp only [react]
    split <;> exact ⟨rfl, by simp, by simp⟩
  | _ => exact .kept ⟨rfl, by simp [react], by simp [react]⟩

end Client

/-! ## Facts about every slot -/

open Client

/-- A property of slots that every change of a slot keeps. -/
structure SlotRule (cfg : Config) (P : OutboundSlot → Prop) : Prop where
  initial : P { packet := List.replicate cfg.kPersistSize 0 }
  stamped : ∀ slot now, P slot → P { slot with lastSentMs := now }
  scribbled : ∀ slot packet, P slot → slot.phase = .free →
    packet.length = slot.packet.length → P { slot with packet := packet }
  filled : ∀ slot topic payload qos retain id now, P slot → qos ≠ .atMostOnce →
    (∃ size, publishRemainingLength topic payload.length qos = .ok size) → id ≠ 0 →
    (publishPacket topic payload qos retain false id).length ≤ slot.packet.length →
    P (filledSlot slot (publishPacket topic payload qos retain false id) qos id now)
  advanced : ∀ slot, P slot → slot.phase = .waitPubrec → 4 ≤ slot.packet.length →
    P (pubrelSlot slot slot.packetId)
  marked : ∀ slot, P slot → slot.phase ≠ .free → P slot.markDup
  released : ∀ slot, P slot → P slot.release

theorem forall_mem_set {P : OutboundSlot → Prop} {slots : List OutboundSlot} {index : Nat}
    {changed : OutboundSlot} (all : ∀ slot ∈ slots, P slot) (holds : P changed) :
    ∀ slot ∈ slots.set index changed, P slot := by
  intro slot member
  rcases List.mem_or_eq_of_mem_set member with before | rfl
  · exact all slot before
  · exact holds

/-- One piece of code keeps such a property. -/
theorem SlotRule.step {P : OutboundSlot → Prop} (rule : SlotRule cfg P) {c : Client cfg}
    (sized : c.SlotsSized) (label : Label) (all : ∀ slot ∈ c.outbound, P slot) :
    ∀ slot ∈ (c.apply label).outbound, P slot := by
  have at_ : ∀ {index slot}, c.outbound[index]? = some slot → P slot :=
    fun here => all _ (List.mem_of_getElem? here)
  cases c.apply_outboundEffect sized label with
  | kept aloof => exact fun slot member => all slot (aloof.same ▸ member)
  | scribbled index slot packet here isFree sameLength changed =>
    rw [changed]
    exact forall_mem_set all (rule.scribbled slot packet (at_ here) isFree sameLength)
  | filled topic payload qos retain now index slot id packet _ _ tracked fitting here _ _ nonzero
      isPacket fits changed =>
    subst isPacket
    rw [changed]
    exact forall_mem_set all (rule.filled slot topic payload qos retain id now (at_ here)
      tracked fitting nonzero fits)
  | advanced _ _ now id index slot _ _ _ here named waiting outcome =>
    subst named
    have moved := rule.advanced slot (at_ here) waiting (sized.four_le here)
    rcases outcome with ⟨_, changed, _⟩ | ⟨_, changed, _⟩ <;> rw [changed]
    · exact forall_mem_set all (rule.stamped _ now moved)
    · exact forall_mem_set all moved
  | repeated _ _ now id index slot _ _ _ here _ _ outcome =>
    rcases outcome with ⟨_, changed, _⟩ | ⟨_, changed, _⟩ <;> rw [changed]
    · exact forall_mem_set all (rule.stamped slot now (at_ here))
    · exact all
  | completed _ _ _ _ index slot _ _ _ here _ changed =>
    rw [changed]
    exact forall_mem_set all (rule.released slot (at_ here))
  | passed now _ pass =>
    intro slot member
    obtain ⟨index, within, rfl⟩ := List.getElem_of_mem member
    have inBefore : index < c.outbound.length := pass.length ▸ within
    obtain ⟨refreshed, found, outcome⟩ := pass.slots index _ (List.getElem?_eq_getElem inBefore)
    have isRefreshed : (c.apply label).outbound[index] = refreshed := by
      rw [List.getElem?_eq_getElem within] at found
      exact Option.some.inj found
    have before : P c.outbound[index] := all _ (List.getElem_mem inBefore)
    rw [isRefreshed]
    rcases outcome with rfl | ⟨_, due, rfl | ⟨rfl, _⟩⟩
    · exact before
    · exact rule.marked _ before (phase_of_due due)
    · exact rule.stamped _ now (rule.marked _ before (phase_of_due due))
  | discarded _ changed =>
    rw [changed]
    intro slot member
    obtain ⟨before, was, rfl⟩ := List.mem_map.mp member
    exact rule.released before (all before was)

/-- What a `publish()` stores is what it queues, if it fits the slot's length
field. -/
theorem stored_filledSlot {slot : OutboundSlot} {packet : Bytes} {qos : QoS} {id : UInt16}
    {now : UInt32} (fits : packet.length < 65536) :
    (filledSlot slot packet qos id now).stored = packet := by
  have whole := take_overwrite slot.packet packet
  simp only [filledSlot, OutboundSlot.stored, UInt16.toNat_ofNat']
  rwa [Nat.mod_eq_of_lt fits]

/-- The buffers keep their size. -/
theorem slotRule_buffer (cfg : Config) :
    SlotRule cfg fun slot => slot.packet.length = cfg.kPersistSize where
  initial := by simp
  stamped _ _ sized := sized
  scribbled _ _ sized _ same := same.trans sized
  filled _ _ _ _ _ _ _ sized _ _ _ fits := (length_overwrite fits).trans sized
  advanced _ sized _ fits := (length_overwrite (by rwa [length_ackPacket])).trans sized
  marked slot sized _ := (length_markDup slot).trans sized
  released _ sized := sized

theorem length_outbound_apply {c : Client cfg} (sized : c.SlotsSized) (label : Label) :
    (c.apply label).outbound.length = c.outbound.length := by
  cases c.apply_outboundEffect sized label with
  | kept aloof => exact congrArg List.length aloof.same
  | scribbled _ _ _ _ _ _ changed => rw [changed, List.length_set]
  | filled _ _ _ _ _ _ _ _ _ _ _ _ _ _ _ _ _ _ _ changed => rw [changed, List.length_set]
  | advanced _ _ _ _ _ _ _ _ _ _ _ _ outcome =>
    rcases outcome with ⟨_, changed, _⟩ | ⟨_, changed, _⟩ <;> rw [changed, List.length_set]
  | repeated _ _ _ _ _ _ _ _ _ _ _ _ outcome =>
    rcases outcome with ⟨_, changed, _⟩ | ⟨_, changed, _⟩ <;> rw [changed]
    rw [List.length_set]
  | completed _ _ _ _ _ _ _ _ _ _ _ changed => rw [changed, List.length_set]
  | passed _ _ pass => exact pass.length
  | discarded _ changed => rw [changed, List.length_map]

/-- In every history the table has its configured size. -/
theorem History.slotsSized {log : Log cfg} (history : History log) : log.state.SlotsSized := by
  refine Logged.Reaches.invariant (fun log => log.state.SlotsSized)
    (fun log label _ sized => ⟨?_, ?_⟩) history ⟨by simp [Client.initial], ?_⟩
  · exact (length_outbound_apply sized label).trans sized.count
  · exact (slotRule_buffer cfg).step sized label sized.buffers
  · intro slot member
    simp only [Client.initial, List.mem_replicate] at member
    simp [member.2]

/-- In every history such a property holds of every slot. -/
theorem History.slots {P : OutboundSlot → Prop} (rule : SlotRule cfg P) {log : Log cfg}
    (history : History log) : ∀ slot ∈ log.state.outbound, P slot := by
  refine history.invariant (fun log => ∀ slot ∈ log.state.outbound, P slot)
    (fun log label prior _ all => rule.step prior.slotsSized label all) ?_
  intro slot member
  simp only [Client.initial, List.mem_replicate] at member
  exact member.2 ▸ rule.initial

theorem head_ackPacket (type : PacketType) (id : UInt16) :
    (ackPacket type id).head? = some (FixedHeader.toByte { type := type }) := rfl

/-- The mark is for a PUBLISH; a stored PUBREL has none to set. -/
theorem markDup_of_pubrel {slot : OutboundSlot} {id : UInt16}
    (holds : slot.stored = ackPacket .pubrel id) : slot.markDup = slot := by
  rcases markDup_cases slot with same | ⟨first, rest, filled, isPacket, isPublish, _⟩
  · exact same
  · exfalso
    have positive : 0 < slot.packetLen.toNat := by
      have := UInt16.toNat_inj.not.mpr filled
      simp at this
      omega
    have front := congrArg List.head? holds
    rw [head_ackPacket, OutboundSlot.stored, isPacket, List.head?_take, if_neg (by omega)] at front
    simp only [List.head?_cons, Option.some.injEq] at front
    rw [front] at isPublish
    exact absurd isPublish (by decide)

/-- A slot that waits for PUBCOMP stores the PUBREL of its message. -/
theorem slotRule_pubrel (cfg : Config) :
    SlotRule cfg fun slot =>
      slot.phase = .waitPubcomp → slot.stored = ackPacket .pubrel slot.packetId where
  initial := by simp
  stamped _ _ holds := holds
  scribbled _ _ _ isFree _ := by simp [isFree]
  filled _ _ _ qos _ _ _ _ _ _ _ _ := by
    simp only [filledSlot]
    split <;> simp
  advanced slot _ _ _ _ := stored_pubrelSlot slot slot.packetId
  marked slot holds _ := by
    intro waiting
    rcases markDup_cases slot with same | ⟨_, _, _, _, _, same⟩
    · rw [same] at waiting ⊢
      exact holds waiting
    · have wasWaiting : slot.phase = .waitPubcomp := by simpa [same] using waiting
      rw [markDup_of_pubrel (holds wasWaiting)]
      exact holds wasWaiting
  released slot _ := by simp [OutboundSlot.release]

end Mqtt
