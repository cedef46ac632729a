import Mqtt.Session.Slots

/-!
# What happened to one slot

`OutboundEffect` describes a change of the whole table. `SlotFate` reads it from
the side of one slot that is in flight afterwards: where it came from, and which
packets were queued for it.
-/

namespace Mqtt

open Library

variable {cfg : Config} {index : Nat} {label : Label}

namespace Client

variable (c : Client cfg)

/-- Nothing was queued for the slot. -/
def Untagged (label : Label) (index : Nat) : Prop :=
  ∀ packet ∈ (c.react label).queued, packet.slot ≠ some index

/-- How a slot in flight came to be what it is after a label. -/
inductive SlotFate (label : Label) (index : Nat) (after : OutboundSlot) : Prop where
  | untouched (here : c.outbound[index]? = some after) (untagged : c.Untagged label index)
  /-- A `publish()` put its message there. -/
  | filled (topic payload : Bytes) (qos : QoS) (retain : Bool) (now : UInt32)
      (slot : OutboundSlot) (id : UInt16)
      (isPublish : label = .publish topic payload qos retain now) (up : c.state = .connected)
      (tracked : qos ≠ .atMostOnce)
      (allocated : c.allocPacketId.1 = id)
      (fits : (publishPacket topic payload qos retain false id).length ≤ slot.packet.length)
      (here : c.outbound[index]? = some slot) (isFree : slot.phase = .free)
      (isAfter : after = filledSlot slot (publishPacket topic payload qos retain false id) qos id now)
      (queued : (c.react label).queued =
        [{ slot := some index, bytes := publishPacket topic payload qos retain false id }])
      (returned : (c.react label).packetId = some id)
  /-- The first PUBREC of its message put the PUBREL there. -/
  | advanced (header : FixedHeader) (body : Bytes) (now : UInt32) (slot : OutboundSlot)
      (isHandle : label = .handle header body now) (isPubrec : header.type = .pubrec)
      (decoded : decodePacketId body = .ok slot.packetId)
      (here : c.outbound[index]? = some slot) (waiting : slot.phase = .waitPubrec)
      (outcome :
        (after = { pubrelSlot slot slot.packetId with lastSentMs := now } ∧
          (c.react label).queued =
            [{ slot := some index, bytes := ackPacket .pubrel slot.packetId }]) ∨
        (¬ c.HasRoom 4 ∧ after = pubrelSlot slot slot.packetId ∧ (c.react label).queued = []))
  /-- A further PUBREC queued the PUBREL again. -/
  | repeated (header : FixedHeader) (body : Bytes) (now : UInt32) (slot : OutboundSlot)
      (isHandle : label = .handle header body now) (isPubrec : header.type = .pubrec)
      (here : c.outbound[index]? = some slot) (waiting : slot.phase = .waitPubcomp)
      (isAfter : after = { slot with lastSentMs := now })
      (queued : (c.react label).queued = [{ slot := some index, bytes := slot.stored }])
  /-- A retransmission pass marked it, but had no room for the copy. -/
  | marked (now : UInt32) (slot : OutboundSlot) (isPass : label = .retransmit now)
      (here : c.outbound[index]? = some slot)
      (due : retransmitDue cfg c.retransmitNow now slot = true)
      (isAfter : after = slot.markDup) (untagged : c.Untagged label index)
  /-- A retransmission pass queued a copy. -/
  | copied (now : UInt32) (slot : OutboundSlot) (isPass : label = .retransmit now)
      (here : c.outbound[index]? = some slot)
      (due : retransmitDue cfg c.retransmitNow now slot = true)
      (isAfter : after = { slot.markDup with lastSentMs := now })
      (copy : copyOf index slot ∈ (c.react label).queued)
      (only : ∀ packet ∈ (c.react label).queued, packet.slot = some index →
        packet = copyOf index slot)

variable {c}

theorem untagged_of_untracked
    (untracked : ∀ packet ∈ (c.react label).queued, packet.slot = none) : c.Untagged label index :=
  fun packet member => by simp [untracked packet member]

theorem untagged_of_queued {other : Nat} {bytes : Bytes}
    (queued : (c.react label).queued = [{ slot := some other, bytes := bytes }])
    (different : other ≠ index) : c.Untagged label index := by
  intro packet member
  rw [queued, List.mem_singleton] at member
  simp [member, different]

theorem untagged_of_quiet (quiet : (c.react label).queued = []) : c.Untagged label index := by
  intro packet member
  simp [quiet] at member

/-- The slot at `index` of a table in which one slot was replaced. -/
theorem getElem?_set_cases {slots : List OutboundSlot} {other : Nat}
    {changed after : OutboundSlot} (there : (slots.set other changed)[index]? = some after) :
    (other = index ∧ after = changed) ∨ (other ≠ index ∧ slots[index]? = some after) := by
  by_cases same : other = index
  · subst same
    have within := (List.getElem?_eq_some_iff.mp there).1
    rw [List.length_set] at within
    rw [List.getElem?_set_self within] at there
    exact .inl ⟨rfl, (Option.some.inj there).symm⟩
  · exact .inr ⟨same, by rwa [List.getElem?_set_ne same] at there⟩

/-- The slots of a pass. -/
theorem slotFate_of_pass {now : UInt32} {after : OutboundSlot}
    (pass : Pass cfg c.retransmitNow now (List.range cfg.maxInflightOut) c.outbound
      (c.apply (.retransmit now)).outbound (c.react (.retransmit now)).queued)
    (there : (c.apply (.retransmit now)).outbound[index]? = some after) :
    c.SlotFate (.retransmit now) index after := by
  have within := (List.getElem?_eq_some_iff.mp there).1
  obtain ⟨slot, here⟩ : ∃ slot, c.outbound[index]? = some slot :=
    ⟨_, List.getElem?_eq_getElem (pass.length ▸ within)⟩
  obtain ⟨refreshed, found, outcome⟩ := pass.slots index slot here
  obtain rfl : after = refreshed := Option.some.inj (there.symm.trans found)
  have copyHere : ∀ packet ∈ (c.react (.retransmit now)).queued, packet.slot = some index →
      packet = copyOf index slot ∧ retransmitDue cfg c.retransmitNow now slot = true ∧
        after = { slot.markDup with lastSentMs := now } := by
    intro packet member tagged
    obtain ⟨other, otherSlot, _, otherHere, due, rfl, stamped⟩ := pass.due packet member
    obtain rfl : other = index := by simpa [copyOf] using tagged
    obtain rfl : slot = otherSlot := Option.some.inj (here.symm.trans otherHere)
    exact ⟨rfl, due, Option.some.inj (there.symm.trans stamped)⟩
  by_cases tagged : ∃ packet ∈ (c.react (.retransmit now)).queued, packet.slot = some index
  · obtain ⟨packet, member, isTag⟩ := tagged
    obtain ⟨rfl, due, isAfter⟩ := copyHere packet member isTag
    exact .copied now slot rfl here due isAfter member fun other among tag =>
      (copyHere other among tag).1
  · have untagged : c.Untagged (.retransmit now) index :=
      fun packet member isTag => tagged ⟨packet, member, isTag⟩
    rcases outcome with rfl | ⟨_, due, rfl | ⟨_, copy⟩⟩
    · exact .untouched here untagged
    · exact .marked now slot rfl here due rfl untagged
    · exact absurd rfl (untagged _ copy)

theorem slot_cases (sized : c.SlotsSized) {after : OutboundSlot}
    (there : (c.apply label).outbound[index]? = some after) (inFlight : after.phase ≠ .free) :
    c.SlotFate label index after := by
  cases c.apply_outboundEffect sized label with
  | kept aloof =>
    exact .untouched (by rwa [← aloof.same]) (untagged_of_untracked aloof.untracked)
  | scribbled other slot packet here isFree sameLength changed quiet silent =>
    rw [changed] at there
    rcases getElem?_set_cases there with ⟨_, rfl⟩ | ⟨_, same⟩
    · exact absurd isFree inFlight
    · exact .untouched same (untagged_of_quiet quiet)
  | filled topic payload qos retain now other slot id packet isPublish up tracked fitting here
      isFree allocated nonzero isPacket fits changed queued returned silent =>
    subst isPacket
    rw [changed] at there
    rcases getElem?_set_cases there with ⟨rfl, rfl⟩ | ⟨different, same⟩
    · exact .filled topic payload qos retain now slot id isPublish up tracked allocated fits here
        isFree rfl queued returned
    · exact .untouched same (untagged_of_queued queued different)
  | advanced header body now id other slot isHandle isPubrec decoded here named waiting outcome =>
    subst named
    rcases outcome with ⟨_, changed, queued⟩ | ⟨full, changed, quiet⟩ <;>
      rw [changed] at there <;>
      rcases getElem?_set_cases there with ⟨rfl, rfl⟩ | ⟨different, same⟩
    · exact .advanced header body now slot isHandle isPubrec decoded here waiting
        (.inl ⟨rfl, queued⟩)
    · exact .untouched same (untagged_of_queued queued different)
    · exact .advanced header body now slot isHandle isPubrec decoded here waiting
        (.inr ⟨full, rfl, quiet⟩)
    · exact .untouched same (untagged_of_quiet quiet)
  | repeated header body now id other slot isHandle isPubrec _ here named waiting outcome =>
    rcases outcome with ⟨_, changed, queued⟩ | ⟨_, changed, quiet⟩ <;> rw [changed] at there
    · rcases getElem?_set_cases there with ⟨rfl, rfl⟩ | ⟨different, same⟩
      · exact .repeated header body now slot isHandle isPubrec here waiting rfl queued
      · exact .untouched same (untagged_of_queued queued different)
    · exact .untouched there (untagged_of_quiet quiet)
  | completed _ _ _ _ other slot _ _ _ _ _ changed quiet =>
    rw [changed] at there
    rcases getElem?_set_cases there with ⟨_, rfl⟩ | ⟨_, same⟩
    · exact absurd rfl inFlight
    · exact .untouched same (untagged_of_quiet quiet)
  | passed now isPass pass =>
    subst isPass
    exact slotFate_of_pass pass there
  | discarded _ changed =>
    rw [changed, List.getElem?_map] at there
    obtain ⟨slot, _, rfl⟩ := Option.map_eq_some_iff.mp there
    exact absurd rfl inFlight

end Client

/-! ## Messages a slot can measure -/

/-- A tracked message that was accepted has a PUBLISH of at most 65535 bytes, which is what
a slot can record. -/
def Library.Entry.publishesShort (event : Event cfg) : Bool :=
  match event.label with
  | .publish topic payload qos retain _ =>
    qos = .atMostOnce || event.reaction.error ≠ .ok ||
      (publishPacket topic payload qos retain false 0).length < 65536
  | _ => true

/-- Every tracked message that was accepted is short enough for its slot's record. -/
abbrev PublishesShort (trace : Trace cfg) : Prop := ∀ event ∈ trace, event.publishesShort = true

/-- The packet id has two bytes, whatever it is. -/
theorem length_publishPacket_id (topic payload : Bytes) (qos : QoS) (retain dup : Bool)
    (first second : UInt16) :
    (publishPacket topic payload qos retain dup first).length =
      (publishPacket topic payload qos retain dup second).length := by
  have same : (publishBody topic payload qos first).length =
      (publishBody topic payload qos second).length := by
    unfold publishBody
    split <;> simp
  simp [publishPacket, packetOf, frame, fixedHeaderBytes, same]

section Short

variable {c : Client cfg} {topic payload : Bytes} {qos : QoS} {retain : Bool} {now : UInt32}

theorem length_of_publishesShort
    (short : Entry.publishesShort ⟨c, .publish topic payload qos retain now⟩ = true)
    (tracked : qos ≠ .atMostOnce) (ok : (c.publish topic payload qos retain now).error = .ok)
    (id : UInt16) : (publishPacket topic payload qos retain false id).length < 65536 := by
  simp only [Entry.publishesShort, tracked, decide_false, Bool.false_or, Entry.reaction,
    Client.react,
    ok, ne_eq, not_true_eq_false, decide_eq_true_eq] at short
  rwa [length_publishPacket_id topic payload qos retain false id 0]

/-- A `publish()` that queues its packet returns Ok. -/
theorem publish_ok_of_queued {packet : Queued}
    (queued : (c.publish topic payload qos retain now).queued = [packet]) :
    (c.publish topic payload qos retain now).error = .ok := by
  rcases c.publish_cases topic payload qos retain now with
    ⟨_, _, _, _, _, _, _, same⟩ | ⟨_, _, _, _, _, same⟩ |
      ⟨_, _, _, _, _, _, _, _, _, _, _, _, _, _, _, _, _, same⟩ <;> rw [same] at queued ⊢
  simp [Client.refuse] at queued

/-- Where a slot's buffer has at most 65535 bytes, no longer message is accepted. -/
theorem publishesShort_of_config (small : cfg.maxPersistedMsgSize ≤ 65535)
    (sized : c.SlotsSized) (label : Label) : Entry.publishesShort ⟨c, label⟩ = true := by
  cases label with
  | publish topic payload qos retain now =>
    simp only [Entry.publishesShort, Bool.or_eq_true, decide_eq_true_eq, ne_eq]
    rcases c.publish_cases topic payload qos retain now with
      ⟨_, _, _, _, bad, _, _, same⟩ | ⟨_, untracked, _⟩ |
        ⟨_, _, _, index, slot, id, _, _, _, here, _, _, _, rfl, fits, _⟩
    · refine .inl (.inr ?_)
      rw [Entry.reaction, Client.react, same]
      exact bad
    · exact .inl (.inl untracked)
    · refine .inr ?_
      have bound := Config.kPersistSize_le small
      have buffer := sized.buffers slot (List.mem_of_getElem? here)
      rw [length_publishPacket_id topic payload qos retain false id 0] at fits
      omega
  | _ => rfl

end Short

theorem History.publishesShort {log : Log cfg} (history : History log)
    (small : cfg.maxPersistedMsgSize ≤ 65535) : PublishesShort log.trace := by
  intro event member
  obtain ⟨before, after, split⟩ := List.append_of_mem member
  obtain ⟨earlier, reached, _, here, _⟩ := history.cut split
  obtain ⟨c, label⟩ := event
  obtain rfl : c = earlier.state := here
  exact publishesShort_of_config small reached.slotsSized label

end Mqtt
