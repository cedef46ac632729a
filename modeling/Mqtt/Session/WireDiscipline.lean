import Mqtt.Session.PacketIds
import Mqtt.Session.Stored

/-!
# What goes out for one message

From the `publish()` that accepts it to the acknowledgement that ends it, a
message has one slot. `Holding` follows that slot: it carries the message, and it
waits for PUBCOMP exactly from the first PUBREC on.
-/

namespace Mqtt

open Library

variable {cfg : Config} {after : OutboundSlot} {label : Label}

/-- A message that `publish()` accepted above QoS 0, with the id it returned. -/
structure Posting where
  topic : Bytes
  payload : Bytes
  qos : QoS
  retain : Bool
  id : UInt16

namespace Posting

/-- Its PUBLISH. -/
def packet (m : Posting) (dup : Bool) : Bytes :=
  publishPacket m.topic m.payload m.qos m.retain dup m.id

/-- The slot carries it. -/
def In (m : Posting) (slot : OutboundSlot) : Prop :=
  Carries m.topic m.payload m.qos m.retain m.id slot

end Posting

/-- The event is the `publish()` that accepted the message. -/
def Library.Entry.Posts (event : Event cfg) (m : Posting) : Prop :=
  (∃ now, event.label = .publish m.topic m.payload m.qos m.retain now) ∧ m.qos ≠ .atMostOnce ∧
    event.reaction.error = .ok ∧ event.reaction.packetId = some m.id

/-- The event processes an acknowledgement of this kind for this id. -/
def Library.Entry.Acks (type : PacketType) (id : UInt16) (event : Event cfg) : Prop :=
  ∃ header body now, event.label = .handle header body now ∧ header.type = type ∧
    decodePacketId body = .ok id

/-- A PUBREC for the message has been processed. -/
def Received (m : Posting) (events : Trace cfg) : Prop := ∃ event ∈ events, event.Acks .pubrec m.id

/-- Acknowledgements that a message in this state does not wait for. -/
def Posting.Unawaited (m : Posting) (received : Prop) (type : PacketType) : Prop :=
  (m.qos = .atLeastOnce ∧ (type = .pubrec ∨ type = .pubcomp)) ∨
    (m.qos = .exactlyOnce ∧ (type = .puback ∨ (type = .pubcomp ∧ ¬ received)))

/-- What an event may do about a message that is in flight before it. -/
structure Disciplined (m : Posting) (index : Nat) (since : Trace cfg)
    (event : Event cfg) : Prop where
  /-- A copy is the PUBLISH with DUP set, and from the PUBREC on only the PUBREL. -/
  copies : ∀ packet ∈ event.reaction.queued, packet.slot = some index →
    (packet.bytes = m.packet true ∧
        ¬ (m.qos = .exactlyOnce ∧ Received m (since ++ [event]))) ∨
      (packet.bytes = ackPacket .pubrel m.id ∧ m.qos = .exactlyOnce ∧
        Received m (since ++ [event]))
  /-- Its delivery is reported by the acknowledgement that ends it. -/
  reported : event.reaction.callback = some (.onDelivery m.id) →
    ¬ (event.before.apply event.label).InFlight index ∧
      ((m.qos = .atLeastOnce ∧ event.Acks .puback m.id) ∨
        (m.qos = .exactlyOnce ∧ event.Acks .pubcomp m.id ∧ Received m since))
  /-- Its slot is not freed under another message's report. -/
  freed : ¬ (event.before.apply event.label).InFlight index →
    ∀ id, event.reaction.callback = some (.onDelivery id) → id = m.id
  /-- Acknowledgements of the wrong kind change nothing. -/
  ignored : ∀ type, event.Acks type m.id → m.Unawaited (Received m since) type →
    event.before.apply event.label = event.before ∧ event.reaction.queued = [] ∧
      event.reaction.callback = none

/-- Every message goes out under this discipline while it is in flight. -/
def WireDisciplined (trace : Trace cfg) : Prop :=
  ∀ before post after m, trace = before ++ post :: after → post.Posts m →
    ∃ index, post.reaction.queued = [{ slot := some index, bytes := m.packet false }] ∧
      (post.before.apply post.label).InFlight index ∧
      ∀ since event rest, after = since ++ event :: rest →
        (∀ earlier ∈ since, (earlier.before.apply earlier.label).InFlight index) →
        Disciplined m index since event

/-! ## Why it holds -/

open Client

/-- The slot at `index` holds the message, and waits for PUBCOMP once a PUBREC came. -/
structure Holding (m : Posting) (index : Nat) (since : Trace cfg) (c : Client cfg)
    (slot : OutboundSlot) : Prop where
  here : c.outbound[index]? = some slot
  carries : m.In slot
  moved : slot.phase = .waitPubcomp ↔ m.qos = .exactlyOnce ∧ Received m since

section Step

variable {m : Posting} {index : Nat} {since : Trace cfg} {c : Client cfg} {slot : OutboundSlot}

theorem received_snoc {event : Event cfg} :
    Received m (since ++ [event]) ↔ Received m since ∨ event.Acks .pubrec m.id := by
  simp [Received, or_and_right, exists_or]

section

variable (holding : Holding m index since c slot)

include holding

theorem Holding.found (ids : c.IdsApart) : c.findOutbound m.id = some index := by
  rw [← holding.carries.named]
  exact ids.findOutbound holding.here holding.carries.inFlight

theorem Holding.slotAt : c.slotAt index = slot :=
  slotAt_of_getElem? holding.here

/-- At QoS 1 the slot waits for PUBACK throughout. -/
theorem Holding.phase_atLeastOnce (level : m.qos = .atLeastOnce) : slot.phase = .waitPuback := by
  cases holding.carries with
  | publish _ _ _ phase => simpa [firstPhase, level] using phase
  | pubrel _ _ _ exactlyOnce => simp [level] at exactlyOnce

theorem Holding.phase_exactlyOnce (level : m.qos = .exactlyOnce) :
    (slot.phase = .waitPubrec ∧ ¬ Received m since) ∨
      (slot.phase = .waitPubcomp ∧ Received m since) := by
  cases holding.carries with
  | publish _ _ _ phase =>
    have waits : slot.phase = .waitPubrec := by simpa [firstPhase, level] using phase
    refine .inl ⟨waits, fun received => ?_⟩
    have := holding.moved.mpr ⟨level, received⟩
    simp [waits] at this
  | pubrel _ _ phase _ => exact .inr ⟨phase, (holding.moved.mp phase).2⟩

theorem Holding.valid (waits : slot.phase ≠ .waitPuback)
    (valid : m.qos = .atLeastOnce ∨ m.qos = .exactlyOnce) : m.qos = .exactlyOnce := by
  rcases valid with level | level
  · exact absurd (holding.phase_atLeastOnce level) waits
  · exact level

/-- Acknowledgements the slot does not wait for leave the client alone. -/
theorem Holding.ignores (ids : c.IdsApart)
    {header : FixedHeader} {body : Bytes} (now : UInt32) (decoded : decodePacketId body = .ok m.id)
    (unawaited : m.Unawaited (Received m since) header.type) :
    c.react (.handle header body now) = { client := c } := by
  have found := holding.found ids
  have stored := holding.slotAt
  rcases unawaited with ⟨level, type | type⟩ | ⟨level, type | ⟨type, early⟩⟩
  · have phase := holding.phase_atLeastOnce level
    simp [react, handlePacket, type, handlePubrec, decoded, found, stored, phase]
  · have phase := holding.phase_atLeastOnce level
    simp [react, handlePacket, type, handlePubcomp, completeDelivery, decoded, found, stored, phase]
  · rcases holding.phase_exactlyOnce level with ⟨phase, _⟩ | ⟨phase, _⟩ <;>
      simp [react, handlePacket, type, handlePuback, completeDelivery, decoded, found, stored, phase]
  · rcases holding.phase_exactlyOnce level with ⟨phase, _⟩ | ⟨_, received⟩
    · simp [react, handlePacket, type, handlePubcomp, completeDelivery, decoded, found, stored,
        phase]
    · exact absurd received early

end

/-- Sending a slot's PUBREL leaves its phase alone. -/
theorem phase_sendPubrel {now : UInt32} (here : c.outbound[index]? = some slot)
    (there : (c.sendPubrel index now).client.outbound[index]? = some after) :
    after.phase = slot.phase := by
  have stored := slotAt_of_getElem? here
  rcases c.sendPubrel_cases index now with ⟨_, _, _, sent⟩ | ⟨_, _, _, sent⟩
  · rw [sent, stored] at there
    rcases getElem?_set_cases there with ⟨_, rfl⟩ | ⟨different, _⟩
    · rfl
    · exact absurd rfl different
  · rw [sent] at there
    obtain rfl : slot = after := Option.some.inj (here.symm.trans there)
    rfl

/-- A PUBREC leaves a QoS 2 message waiting for PUBCOMP. -/
theorem Holding.pubrec (holding : Holding m index since c slot) (ids : c.IdsApart)
    (sized : c.SlotsSized) (level : m.qos = .exactlyOnce) {header : FixedHeader} {body : Bytes}
    {now : UInt32} (isPubrec : header.type = .pubrec) (decoded : decodePacketId body = .ok m.id)
    (there : (c.apply (.handle header body now)).outbound[index]? = some after) :
    after.phase = .waitPubcomp := by
  have found := holding.found ids
  have stored := holding.slotAt
  have within := (List.getElem?_eq_some_iff.mp holding.here).1
  have handled : c.react (.handle header body now) = c.handlePubrec body now := by
    simp [react, handlePacket, isPubrec]
  rw [apply, handled] at there
  rcases holding.phase_exactlyOnce level with ⟨phase, _⟩ | ⟨phase, _⟩
  · rw [c.handlePubrec_first now decoded found (by rw [stored, phase])
      (by rw [stored]; exact sized.four_le holding.here), stored] at there
    have moved : (c.setSlot index (pubrelSlot slot m.id)).outbound[index]? =
        some (pubrelSlot slot m.id) := by simp [setSlot, within]
    exact phase_sendPubrel moved there
  · have again : c.handlePubrec body now = c.sendPubrel index now := by
      simp [handlePubrec, decoded, found, stored, phase]
    rw [again] at there
    exact (phase_sendPubrel holding.here there).trans phase

/-- Nothing else moves a slot on. -/
theorem phase_of_fate (here : c.outbound[index]? = some slot)
    (flies : slot.phase ≠ .free) (fate : c.SlotFate label index after)
    (noPubrec : ¬ Entry.Acks .pubrec slot.packetId ⟨c, label⟩) : after.phase = slot.phase := by
  have same : ∀ {other}, c.outbound[index]? = some other → other = slot :=
    fun there => Option.some.inj (there.symm.trans here)
  cases fate with
  | untouched there => rw [same there]
  | filled _ _ _ _ _ other _ _ _ _ _ _ there isFree => exact absurd (same there ▸ isFree) flies
  | advanced header body now other isHandle isPubrec decoded there =>
    exact absurd ⟨header, body, now, isHandle, isPubrec, same there ▸ decoded⟩ noPubrec
  | repeated _ _ _ other _ _ there _ isAfter => rw [isAfter, same there]
  | marked _ other _ there _ isAfter => rw [isAfter, phase_markDup, same there]
  | copied _ other _ there _ isAfter =>
    rw [isAfter]
    exact (phase_markDup other).trans (by rw [same there])

/-- A slot that carries a message goes on carrying it. -/
theorem carries_of_fate (here : c.outbound[index]? = some slot) (carries : m.In slot)
    (valid : m.qos = .atLeastOnce ∨ m.qos = .exactlyOnce) (fate : c.SlotFate label index after) :
    m.In after := by
  have same : ∀ {other}, c.outbound[index]? = some other → other = slot :=
    fun there => Option.some.inj (there.symm.trans here)
  cases fate with
  | untouched there => rwa [same there]
  | filled _ _ _ _ _ other _ _ _ _ _ _ there isFree =>
    exact absurd (same there ▸ isFree) carries.inFlight
  | advanced _ _ now other _ _ _ there waiting outcome =>
    obtain rfl := same there
    have moved := carries.advanced valid waiting
    rw [carries.named] at outcome
    rcases outcome with ⟨rfl, _⟩ | ⟨_, rfl, _⟩
    · exact moved.stamped now
    · exact moved
  | repeated _ _ now other _ _ there _ isAfter =>
    rw [isAfter, same there]
    exact carries.stamped now
  | marked _ other _ there _ isAfter =>
    rw [isAfter, same there]
    exact carries.marked
  | copied now other _ there _ isAfter =>
    rw [isAfter, same there]
    exact carries.marked.stamped now

/-- While the slot is in flight it keeps holding the message. -/
theorem Holding.step (holding : Holding m index since c slot) (ids : c.IdsApart)
    (sized : c.SlotsSized) (valid : m.qos = .atLeastOnce ∨ m.qos = .exactlyOnce)
    (there : (c.apply label).outbound[index]? = some after) (flies : after.phase ≠ .free) :
    Holding m index (since ++ [⟨c, label⟩]) (c.apply label) after := by
  have fate := slot_cases sized there flies
  have carries := carries_of_fate holding.here holding.carries valid fate
  refine ⟨there, carries, ?_⟩
  rcases valid with level | level
  · refine ⟨fun phase => ?_, fun received => by simp [level] at received⟩
    cases carries with
    | publish _ _ _ first => simp [firstPhase, level, phase] at first
    | pubrel _ _ _ exactlyOnce => simp [level] at exactlyOnce
  · rw [received_snoc]
    by_cases acks : Entry.Acks .pubrec m.id ⟨c, label⟩
    · obtain ⟨header, body, now, rfl, isPubrec, decoded⟩ := acks
      exact ⟨fun _ => ⟨level, .inr ⟨header, body, now, rfl, isPubrec, decoded⟩⟩,
        fun _ => holding.pubrec ids sized level isPubrec decoded there⟩
    · have phase := phase_of_fate holding.here holding.carries.inFlight fate
        (by rwa [holding.carries.named])
      rw [phase, holding.moved]
      simp [acks]

/-! ## One event -/

/-- A copy of a slot that holds the message. -/
theorem Holding.copy (holding : Holding m index since c slot) :
    (slot.markDup.stored = m.packet true ∧ ¬ (m.qos = .exactlyOnce ∧ Received m since)) ∨
      (slot.markDup.stored = ackPacket .pubrel m.id ∧ m.qos = .exactlyOnce ∧ Received m since) := by
  cases holding.carries with
  | publish dup _ _ phase stored =>
    refine .inl ⟨stored_markDup_publish stored, fun moved => ?_⟩
    have waits := holding.moved.mpr moved
    rw [phase] at waits
    unfold firstPhase at waits
    split at waits <;> cases waits
  | pubrel _ _ phase exactlyOnce stored =>
    rw [markDup_of_pubrel stored]
    exact .inr ⟨stored, holding.moved.mp phase⟩

theorem Holding.copies (holding : Holding m index since c slot) (sized : c.SlotsSized)
    (valid : m.qos = .atLeastOnce ∨ m.qos = .exactlyOnce) {packet : Queued}
    (member : packet ∈ (c.react label).queued) (tagged : packet.slot = some index) :
    (packet.bytes = m.packet true ∧
        ¬ (m.qos = .exactlyOnce ∧ Received m (since ++ [⟨c, label⟩]))) ∨
      (packet.bytes = ackPacket .pubrel m.id ∧ m.qos = .exactlyOnce ∧
        Received m (since ++ [⟨c, label⟩])) := by
  have same : ∀ {other}, c.outbound[index]? = some other → other = slot :=
    fun there => Option.some.inj (there.symm.trans holding.here)
  cases c.apply_outboundEffect sized label with
  | kept aloof => simp [aloof.untracked packet member] at tagged
  | scribbled _ _ _ _ _ _ _ quiet => simp [quiet] at member
  | filled _ _ _ _ _ other _ _ _ _ _ _ _ there isFree _ _ _ _ _ queued =>
    rw [queued, List.mem_singleton] at member
    obtain rfl : other = index := by simpa [member] using tagged
    exact absurd (same there ▸ isFree) holding.carries.inFlight
  | advanced header body now id other _ isHandle isPubrec decoded there named waiting outcome =>
    rcases outcome with ⟨_, _, queued⟩ | ⟨_, _, quiet⟩
    · rw [queued, List.mem_singleton] at member
      obtain rfl : other = index := by simpa [member] using tagged
      obtain rfl := same there
      obtain rfl : id = m.id := named.symm.trans holding.carries.named
      refine .inr ⟨by rw [member], holding.valid (by simp [waiting]) valid, ?_⟩
      exact received_snoc.mpr (.inr ⟨header, body, now, isHandle, isPubrec, decoded⟩)
    · simp [quiet] at member
  | repeated _ _ _ _ other _ _ _ _ there _ waiting outcome =>
    rcases outcome with ⟨_, _, queued⟩ | ⟨_, _, quiet⟩
    · rw [queued, List.mem_singleton] at member
      obtain rfl : other = index := by simpa [member] using tagged
      obtain rfl := same there
      obtain ⟨level, received⟩ := holding.moved.mp waiting
      refine .inr ⟨?_, level, received_snoc.mpr (.inl received)⟩
      rw [member]
      cases holding.carries with
      | publish _ _ _ phase => simp [waiting, firstPhase, level] at phase
      | pubrel _ _ _ _ stored => exact stored
    · simp [quiet] at member
  | completed _ _ _ _ _ _ _ _ _ _ _ _ quiet => simp [quiet] at member
  | passed now isPass pass =>
    obtain ⟨other, otherSlot, _, there, _, rfl, _⟩ := pass.due packet member
    obtain rfl : other = index := by simpa [copyOf] using tagged
    obtain rfl := same there
    have noPubrec : ¬ Entry.Acks .pubrec m.id ⟨c, label⟩ := by
      rintro ⟨_, _, _, isHandle, _⟩
      rw [show label = .retransmit now from isPass] at isHandle
      cases isHandle
    simpa [received_snoc, noPubrec, copyOf] using holding.copy
  | discarded _ _ untracked => simp [untracked packet member] at tagged

/-- What a delivery report says about the slot it frees. -/
theorem report_cases (sized : c.SlotsSized) {id : UInt16}
    (reports : (c.react label).callback = some (.onDelivery id)) :
    ∃ header body now other otherSlot, label = .handle header body now ∧
      ((header.type = .puback ∧ otherSlot.phase = .waitPuback) ∨
        (header.type = .pubcomp ∧ otherSlot.phase = .waitPubcomp)) ∧
      decodePacketId body = .ok id ∧ c.outbound[other]? = some otherSlot ∧
      otherSlot.packetId = id ∧
      (c.apply label).outbound = c.outbound.set other otherSlot.release := by
  cases c.apply_outboundEffect sized label with
  | kept aloof => exact absurd reports (aloof.unreported id)
  | completed header body now answered other otherSlot isHandle awaited decoded there named changed
      _ reported =>
    obtain rfl : answered = id := by simpa [reported] using reports
    exact ⟨header, body, now, other, otherSlot, isHandle, awaited, decoded, there, named, changed⟩
  | discarded _ _ _ unreported => exact absurd reports (unreported id)
  | scribbled _ _ _ _ _ _ _ _ silent => simp [silent] at reports
  | filled _ _ _ _ _ _ _ _ _ _ _ _ _ _ _ _ _ _ _ _ _ _ silent => simp [silent] at reports
  | advanced _ _ _ _ _ _ _ _ _ _ _ _ _ silent => simp [silent] at reports
  | repeated _ _ _ _ _ _ _ _ _ _ _ _ _ silent => simp [silent] at reports
  | passed _ _ _ silent => simp [silent] at reports

theorem not_inFlight_of_release {slots : List OutboundSlot} {other : OutboundSlot}
    (changed : c.outbound = slots.set index other.release) (within : index < slots.length) :
    ¬ c.InFlight index := by
  rintro ⟨after, there, flies⟩
  rw [changed, List.getElem?_set_self within] at there
  obtain rfl := Option.some.inj there
  exact flies rfl

theorem Holding.disciplined (holding : Holding m index since c slot) (ids : c.IdsApart)
    (sized : c.SlotsSized) (valid : m.qos = .atLeastOnce ∨ m.qos = .exactlyOnce) (label : Label) :
    Disciplined m index since ⟨c, label⟩ where
  copies _ member tagged := holding.copies sized valid member tagged
  reported := by
    intro reports
    obtain ⟨header, body, now, other, otherSlot, isHandle, awaited, decoded, there, named,
      changed⟩ := report_cases sized reports
    have flies : otherSlot.phase ≠ .free := by rcases awaited with ⟨_, p⟩ | ⟨_, p⟩ <;> simp [p]
    obtain rfl : other = index := ids.slots there holding.here flies holding.carries.inFlight
      (named.trans holding.carries.named.symm)
    obtain rfl : otherSlot = slot := Option.some.inj (there.symm.trans holding.here)
    refine ⟨not_inFlight_of_release changed (List.getElem?_eq_some_iff.mp there).1, ?_⟩
    rcases awaited with ⟨type, phase⟩ | ⟨type, phase⟩
    · refine .inl ⟨?_, header, body, now, isHandle, type, decoded⟩
      rcases valid with level | level
      · exact level
      · rcases holding.phase_exactlyOnce level with ⟨p, _⟩ | ⟨p, _⟩ <;> simp [p] at phase
    · obtain ⟨level, received⟩ := holding.moved.mp phase
      exact .inr ⟨level, ⟨header, body, now, isHandle, type, decoded⟩, received⟩
  freed := by
    intro landed id reports
    obtain ⟨_, _, _, other, otherSlot, _, _, _, there, named, changed⟩ := report_cases sized reports
    by_cases same : other = index
    · subst same
      obtain rfl : otherSlot = slot := Option.some.inj (there.symm.trans holding.here)
      exact named.symm.trans holding.carries.named
    · refine absurd ⟨slot, ?_, holding.carries.inFlight⟩ landed
      rw [changed, List.getElem?_set_ne same]
      exact holding.here
  ignored := by
    rintro type ⟨header, body, now, isHandle, rfl, decoded⟩ unawaited
    obtain rfl : label = .handle header body now := isHandle
    have quiet := holding.ignores ids now decoded unawaited
    simp [apply, Entry.reaction, quiet]

end Step

/-- What the `publish()` that accepts a message does. -/
theorem Library.Entry.Posts.cases {event : Event cfg} {m : Posting}
    (posts : event.Posts m) (short : event.publishesShort = true) :
    (m.qos = .atLeastOnce ∨ m.qos = .exactlyOnce) ∧
    ∃ index slot, event.reaction.queued = [{ slot := some index, bytes := m.packet false }] ∧
      Holding m index [] (event.before.apply event.label) slot := by
  obtain ⟨c, label⟩ := event
  obtain ⟨⟨now, isPublish⟩, tracked, fine, returned⟩ := posts
  obtain rfl : label = .publish m.topic m.payload m.qos m.retain now := isPublish
  have called : c.react (.publish m.topic m.payload m.qos m.retain now) =
      c.publish m.topic m.payload m.qos m.retain now := rfl
  rcases c.publish_cases m.topic m.payload m.qos m.retain now with
    ⟨_, _, _, _, bad, _, _, same⟩ | ⟨_, untracked, _⟩ |
      ⟨_, _, ⟨size, isSize⟩, index, slot, id, _, packet, _, here, _, _, _, isPacket, fits, _, _, same⟩
  · exact absurd (by simpa [Entry.reaction, called, same, refuse] using fine) bad
  · exact absurd untracked tracked
  · obtain rfl : id = m.id := by simpa [Entry.reaction, called, same] using returned
    have valid := tracked_cases tracked (publishRemainingLength_ok isSize).2.2.1
    have within := (List.getElem?_eq_some_iff.mp here).1
    have short := length_of_publishesShort short tracked fine m.id
    subst isPacket
    refine ⟨valid, index, filledSlot slot (m.packet false) m.qos m.id now,
      by simp [Entry.reaction, called, same, Posting.packet], ?_, carries_filled now short, ?_⟩
    · simp only [apply, called, same]
      exact List.getElem?_set_self within
    · have waits : ∀ qos, firstPhase qos ≠ .waitPubcomp := by
        intro qos
        unfold firstPhase
        split <;> simp
      exact ⟨fun phase => absurd phase (waits m.qos), fun moved => by simp [Received] at moved⟩

/-- In every run every message goes out under the discipline. -/
theorem wire_disciplined (cfg : Config) (small : cfg.maxPersistedMsgSize ≤ 65535) (env : Env)
    (application : Script) : WireDisciplined (World.exec cfg env application).trace := by
  intro before post after m split posts
  obtain ⟨start, reached, rfl, here, permitted, onward⟩ :=
    (World.exec_history cfg env application).cut split
  obtain ⟨postBefore, label⟩ := post
  obtain rfl : postBefore = start.state := here
  obtain ⟨valid, index, first, queued, holding⟩ := 
    posts.cases (publishesShort_of_config small reached.slotsSized label)
  refine ⟨index, queued, ⟨first, holding.here, holding.carries.inFlight⟩, ?_⟩
  rintro since event rest rfl flying
  obtain ⟨finish, stretch, finishTrace, eventBefore, _⟩ :=
    @Logged.Reaches.cut _ _ _ _ _ _ onward since rest event (split.trans (by simp))
  have arrived : ∀ {log}, Logged.Reaches Client.apply Permitted
      (start.perform Client.apply label) log → History log :=
    (Logged.Reaches.step reached permitted).trans
  obtain ⟨since', sinceTrace, slot, holds⟩ : ∃ since',
      finish.trace = (start.perform Client.apply label).trace ++ since' ∧
        ∃ slot, Holding m index since' finish.state slot := by
    refine Logged.Reaches.invariant_of
      (fun event : Event cfg => (event.before.apply event.label).InFlight index)
      (fun log => ∃ since', log.trace = (start.perform Client.apply label).trace ++ since' ∧
        ∃ slot, Holding m index since' log.state slot)
      (fun log label prior _ flies inv => ?_) stretch finishTrace flying
      ⟨[], by simp, first, holding⟩
    obtain ⟨since', same, slot, holds⟩ := inv
    obtain ⟨next, there, airborne⟩ := flies
    exact ⟨since' ++ [⟨log.state, label⟩], by simp [same], next,
      holds.step (arrived prior).idsApart (arrived prior).slotsSized valid there airborne⟩
  obtain rfl : since' = since := List.append_cancel_left (sinceTrace.symm.trans finishTrace)
  obtain ⟨eventState, eventLabel⟩ := event
  obtain rfl : eventState = finish.state := eventBefore
  exact holds.disciplined (arrived stretch).idsApart (arrived stretch).slotsSized valid eventLabel

/-! ## A QoS 2 message across a reconnect -/

namespace WireDiscipline

/-- Publish a QoS 2 message, lose the connection, connect again and go on. -/
def application : Script :=
  .connect Retransmission.options (.step (.publish [116] [] .exactlyOnce false
    (.step (.connect Retransmission.options (.step (.step .done))))))

/-- The PUBREC comes twice on the second connection, and then the PUBCOMP. -/
def env : Env where
  opens := [.ok, .ok]
  sends := [(.ok, 15), (.ok, 7), (.ok, 15), (.ok, 7)]
  recvs := [(.ok, [0x20, 2, 0, 0]), (.wouldBlock, []), (.transportClosed, []),
    (.ok, [0x20, 2, 1, 0]), (.wouldBlock, []), (.ok, [0x50, 2, 0, 1, 0x50, 2, 0, 1, 0x70, 2, 0, 1])]

def run : World .small := World.exec .small env application

end WireDiscipline

theorem wire_disciplined_reconnect :
    WireDisciplined WireDiscipline.run.trace ∧
      (((WireDiscipline.run.trace.flatMap (·.reaction.queued)).filter (·.slot = some 0)).map
        (·.bytes)) =
        [publishPacket [116] [] .exactlyOnce false false 1,
          publishPacket [116] [] .exactlyOnce false true 1,
          ackPacket .pubrel 1, ackPacket .pubrel 1] :=
  ⟨wire_disciplined .small (by decide) WireDiscipline.env WireDiscipline.application,
    by decide +kernel⟩

end Mqtt
