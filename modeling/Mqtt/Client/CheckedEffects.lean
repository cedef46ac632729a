import Mqtt.Client.Alike
import Mqtt.Client.Checked
import Mqtt.Client.PacketEffects
import Mqtt.Client.TimerEffects

/-!
# No read is out of range

Each checked piece of code agrees with the piece it checks: it does not fail, and does
the same. What that takes of the client is that the table of outbound messages has its
size and that no slot's length field reaches beyond its buffer.
-/

namespace Mqtt.Checked

open Library

variable {cfg : Config} {c : Client cfg}

/-- What the reads rely on. -/
structure Sound (c : Client cfg) : Prop where
  count : c.outbound.length = cfg.maxInflightOut
  lengths : ∀ slot ∈ c.outbound, slot.packetLen.toNat ≤ slot.packet.length

/-! ## Outbound slots -/

section Slots

theorem freeOutboundSlot_eq (sound : Sound c) : freeOutboundSlot c = some c.freeOutboundSlot := by
  unfold freeOutboundSlot
  rw [← sound.count]
  exact scan_whole _ _

/-- The search never leaves the table. -/
theorem findOutbound_eq (sound : Sound c) (id : UInt16) :
    findOutbound c id = some (c.findOutbound id) := by
  unfold findOutbound
  rw [← sound.count]
  exact scan_whole _ _

/-- The stored packet is within its buffer. -/
theorem stored_eq {slot : OutboundSlot} (within : slot.packetLen.toNat ≤ slot.packet.length) :
    stored slot = some slot.stored := by
  simp [stored, Span.read, within, OutboundSlot.stored]

theorem markDup_eq {slot : OutboundSlot} (within : slot.packetLen.toNat ≤ slot.packet.length) :
    markDup slot = some slot.markDup := by
  unfold markDup OutboundSlot.markDup
  by_cases nothing : slot.packetLen = 0
  · rw [if_pos nothing, if_pos nothing]
  rw [if_neg nothing, if_neg nothing]
  cases isPacket : slot.packet with
  | nil =>
    rw [isPacket, List.length_nil, Nat.le_zero] at within
    exact absurd (UInt16.toNat_inj.mp within) nothing
  | cons first rest =>
    simp only [List.getElem?_cons_zero, Option.bind_eq_bind, Option.bind_some,
      List.set_cons_zero]
    split <;> rfl

end Slots

/-! ## Packet handlers -/

section Handlers

variable {body : Span} {held : Bytes}

theorem handleConnack_eq (here : body.read c.rx = some held) :
    handleConnack c body = some (c.handleConnack held) := by
  unfold handleConnack Client.handleConnack
  rw [decodeConnack_eq here]
  split
  · rfl
  · simp only [Option.bind_eq_bind, Option.bind_some]
    cases Mqtt.decodeConnack held with
    | error error => rfl
    | ok info =>
      simp only
      split <;> rfl

/-- Where a PUBLISH is handed to the subscriptions, its message is still in the receive
buffer. -/
theorem handlePublish_eq (header : FixedHeader) (here : body.read c.rx = some held) :
    ∃ message, handlePublish c header body = some ⟨c.handlePublish header held, message⟩ ∧
      ∀ m, (c.handlePublish header held).callback = some (.dispatch m) →
        ∃ view, message = some view ∧ view.read c.rx = some m := by
  have shown := decodePublish_shows header here
  unfold handlePublish Client.handlePublish
  split
  · exact ⟨none, rfl, fun _ isDispatch => by cases isDispatch⟩
  cases decoded : Mqtt.decodePublish header held with
  | error error =>
    rw [decoded] at shown
    rw [show decodePublish c.rx header body = _ from shown]
    exact ⟨none, rfl, fun _ isDispatch => by cases isDispatch⟩
  | ok m =>
    rw [decoded] at shown
    obtain ⟨view, isView, reads⟩ := shown
    simp only [isView, Option.bind_eq_bind, Option.bind_some, reads]
    cases m.qos with
    | atMostOnce =>
      refine ⟨some view, rfl, fun m' isDispatch => ⟨view, rfl, ?_⟩⟩
      cases isDispatch
      exact reads
    | atLeastOnce =>
      simp only
      cases c.sendAck .puback m.packetId with
      | mk result c' =>
        cases result with
        | error error => exact ⟨none, rfl, fun _ isDispatch => by cases isDispatch⟩
        | ok bytes =>
          refine ⟨some view, rfl, fun m' isDispatch => ⟨view, rfl, ?_⟩⟩
          cases isDispatch
          exact reads
    | exactlyOnce =>
      refine ⟨some view, rfl, fun m' isDispatch => ⟨view, rfl, ?_⟩⟩
      simp only [Client.receiveExactlyOnce] at isDispatch
      split at isDispatch
      · split at isDispatch <;> cases isDispatch
      split at isDispatch
      · cases isDispatch
      split at isDispatch
      · cases isDispatch
      · cases isDispatch
        exact reads
    | outOfRange _ => exact ⟨none, rfl, fun _ isDispatch => by cases isDispatch⟩

/-- Completing a delivery never leaves an array. -/
theorem completeDelivery_eq (sound : Sound c) (here : body.read c.rx = some held)
    (awaited : Phase) :
    completeDelivery c body awaited = some (c.completeDelivery held awaited) := by
  unfold completeDelivery Client.completeDelivery
  rw [decodePacketId_eq here]
  simp only [Option.bind_eq_bind, Option.bind_some]
  cases Mqtt.decodePacketId held with
  | error error => rfl
  | ok id =>
    simp only [findOutbound_eq sound, Option.bind_some]
    cases found : c.findOutbound id with
    | none => rfl
    | some index =>
      obtain ⟨slot, at_, rfl, _⟩ := Client.findOutbound_some found
      simp only [at_, Option.bind_some]
      split <;> rfl

theorem sendPubrel_eq {index : Nat} {slot : OutboundSlot} (at_ : c.outbound[index]? = some slot)
    (within : slot.packetLen.toNat ≤ slot.packet.length) (now : UInt32) :
    sendPubrel c index now = some (c.sendPubrel index now) := by
  unfold sendPubrel Client.sendPubrel
  rw [at_, Client.slotAt_of_getElem? at_]
  simp only [Option.bind_eq_bind, Option.bind_some, stored_eq within]
  split <;> simp_all

/-- Nor does a PUBREC. -/
theorem handlePubrec_eq (sound : Sound c) (here : body.read c.rx = some held) (now : UInt32) :
    handlePubrec c body now = some (c.handlePubrec held now) := by
  unfold handlePubrec Client.handlePubrec
  rw [decodePacketId_eq here]
  simp only [Option.bind_eq_bind, Option.bind_some]
  cases Mqtt.decodePacketId held with
  | error error => rfl
  | ok id =>
    simp only [findOutbound_eq sound, Option.bind_some]
    cases found : c.findOutbound id with
    | none => rfl
    | some index =>
      obtain ⟨slot, at_, rfl, _⟩ := Client.findOutbound_some found
      simp only [at_, Option.bind_some]
      split
      · cases encoded : (encodeAck (c.slotAt index).packet.length .pubrel id).1 with
        | error error => rfl
        | ok count =>
          -- The PUBREL just written is all the length field names.
          obtain ⟨written, _⟩ := (definite_ack .pubrel id).of_ok encoded
          refine sendPubrel_eq
            (List.getElem?_set_self (List.getElem?_eq_some_iff.mp at_).1) ?_ now
          simp only [overwrite, List.length_append, UInt16.toNat_ofNat']
          exact Nat.le_trans (Nat.mod_le _ _) (by omega)
      · split
        · exact sendPubrel_eq at_ (sound.lengths _ (List.mem_of_getElem? at_)) now
        · rfl

theorem handlePubrel_eq (here : body.read c.rx = some held) :
    handlePubrel c body = some (c.handlePubrel held) := by
  unfold handlePubrel Client.handlePubrel
  rw [decodePacketId_eq here]
  simp only [Option.bind_eq_bind, Option.bind_some]
  cases Mqtt.decodePacketId held with
  | error error => rfl
  | ok id =>
    simp only
    generalize c.sendAck .pubcomp id = sent
    obtain ⟨result, c'⟩ := sent
    cases result <;> rfl

theorem findPending_eq (c : Client cfg) (id : UInt16) (expected : PacketType) :
    c.findPending id expected = (findPending c id expected).bind (c.pending[·]?) := by
  unfold Client.findPending findPending
  cases found : c.pending.findIdx? fun a => a.packetId = id && a.expected = expected with
  | none => exact List.find?_eq_none.mpr (by simpa using found)
  | some position =>
    obtain ⟨within, wanted, earlier⟩ := List.findIdx?_eq_some_iff_getElem.mp found
    rw [Option.bind_some, List.getElem?_eq_getElem within]
    exact List.find?_eq_some_iff_getElem.mpr
      ⟨wanted, position, within, rfl, fun j before => by
        simpa only [Bool.not_eq_true', Bool.not_eq_true] using earlier j before⟩

theorem removePending_eq {position : Nat} {id : UInt16} {expected : PacketType}
    (found : findPending c id expected = some position) :
    removePending c position = some (c.removePending id expected) := by
  unfold findPending at found
  have within := (List.findIdx?_eq_some_iff_getElem.mp found).1
  rw [removePending, if_pos within, Client.removePending, List.eraseP_eq_eraseIdx, found]

/-- A walk that finds its row every time is a fold. -/
theorem walkSubs_eq {Row : Type} {rows : List Row} {step : Client cfg → Row → Client cfg}
    {position : Nat} {ack : PendingAck} {change : Nat → UInt16 → Client cfg → Option (Client cfg)}
    {rx : Bytes} (keeps : ∀ c row, (step c row).rx = c.rx ∧ (step c row).pending = c.pending)
    (changes : ∀ index row (c : Client cfg), rows[index]? = some row → c.rx = rx →
      ∃ sid, ack.subs[index]? = some sid ∧ change index sid c = some (step c row))
    {index left : Nat} (whole : index + left = rows.length) (c : Client cfg) (sameRx : c.rx = rx)
    (at_ : c.pending[position]? = some ack) :
    walkSubs position change index left c = some ((rows.drop index).foldl step c) := by
  induction left generalizing index c with
  | zero =>
    rw [walkSubs, List.drop_of_length_le (by omega)]
    rfl
  | succ left ih =>
    have inside : index < rows.length := by omega
    obtain ⟨sid, isSid, changed⟩ :=
      changes index rows[index] c (List.getElem?_eq_getElem inside) sameRx
    obtain ⟨sameRx', samePending⟩ := keeps c rows[index]
    rw [walkSubs, at_, List.drop_eq_getElem_cons inside, List.foldl_cons]
    simp only [Option.bind_eq_bind, Option.bind_some, isSid, changed]
    exact ih (by omega) _ (sameRx'.trans sameRx) (samePending ▸ at_)

theorem applyReturnCode_keeps (c : Client cfg) (answer : UInt8 × UInt16) :
    (c.applyReturnCode answer).rx = c.rx ∧ (c.applyReturnCode answer).pending = c.pending := by
  obtain ⟨_, shape⟩ := Client.foldl_applyReturnCode_shape [answer] c
  rw [List.foldl_cons, List.foldl_nil] at shape
  rw [shape]
  exact ⟨rfl, rfl⟩

/-- Nor does a SUBACK. -/
theorem handleSuback_eq (here : body.read c.rx = some held) :
    handleSuback c body = some (c.handleSuback held) := by
  have shown := decodeSuback_shows here
  unfold handleSuback Client.handleSuback
  cases decoded : Mqtt.decodeSuback held with
  | error error =>
    rw [decoded] at shown
    rw [show decodeSuback c.rx body = _ from shown]
    rfl
  | ok v =>
    rw [decoded] at shown
    obtain ⟨⟨packetId, codes⟩, isView, reads⟩ := shown
    obtain ⟨returnCodes, readCodes, isAnswer⟩ := Option.bind_eq_some_iff.mp reads
    obtain rfl := Option.some.inj isAnswer
    have length : returnCodes.length = codes.size := Span.length_of_read readCodes
    simp only [isView, Option.bind_eq_bind, Option.bind_some]
    rw [findPending_eq]
    cases found : findPending c packetId .suback with
    | none => rfl
    | some position =>
      have within := (List.findIdx?_eq_some_iff_getElem.mp found).1
      have at_ := List.getElem?_eq_getElem within
      simp only [Option.bind_some, at_]
      by_cases count : codes.size ≠ c.pending[position].subs.length
      · rw [if_pos count, if_pos (by omega)]
      rw [if_neg count, if_neg (by omega)]
      rw [not_not] at count
      have paired : (returnCodes.zip c.pending[position].subs).length = codes.size := by
        rw [List.length_zip]
        omega
      have changes : ∀ index row (c' : Client cfg),
          (returnCodes.zip c.pending[position].subs)[index]? = some row → c'.rx = c.rx →
          ∃ sid, c.pending[position].subs[index]? = some sid ∧
            ((codes.get c'.rx index).bind fun code =>
              some (c'.applyReturnCode (code, sid))) = some (c'.applyReturnCode row) := by
        intro index row c' isRow sameRx
        obtain ⟨isCode, isSid⟩ := List.getElem?_zip_eq_some.mp isRow
        exact ⟨row.2, isSid, by rw [sameRx, Span.get_of_read readCodes, isCode]; rfl⟩
      rw [walkSubs_eq applyReturnCode_keeps changes ((Nat.zero_add _).trans paired.symm) c rfl
        at_, List.drop_zero, Option.bind_some]
      obtain ⟨table, shape⟩ :=
        Client.foldl_applyReturnCode_shape (returnCodes.zip c.pending[position].subs) c
      rw [shape, @removePending_eq cfg { c with subscriptions := table } _ _ _ found,
        Option.bind_some]
      simp only [Client.removePending, readCodes, Option.bind_some]

theorem handleUnsuback_eq (here : body.read c.rx = some held) :
    handleUnsuback c body = some (c.handleUnsuback held) := by
  unfold handleUnsuback Client.handleUnsuback
  rw [decodePacketId_eq here]
  simp only [Option.bind_eq_bind, Option.bind_some]
  cases Mqtt.decodePacketId held with
  | error error => rfl
  | ok id =>
    simp only
    rw [findPending_eq]
    cases found : findPending c id .unsuback with
    | none => rfl
    | some position =>
      have within := (List.findIdx?_eq_some_iff_getElem.mp found).1
      have at_ := List.getElem?_eq_getElem within
      simp only [Option.bind_some, at_]
      rw [@walkSubs_eq cfg _ c.pending[position].subs Client.eraseSubscription position _ _ c.rx
        (fun _ _ => ⟨rfl, rfl⟩) (fun _ row _ isRow _ => ⟨row, isRow, rfl⟩) 0 _
        (Nat.zero_add _) c rfl at_, List.drop_zero, Option.bind_some]
      obtain ⟨table, shape⟩ :=
        Client.foldl_eraseSubscription_shape c.pending[position].subs c
      rw [shape, @removePending_eq cfg { c with subscriptions := table } _ _ _ found]
      rfl

/-- All packets together. -/
theorem handlePacket_eq (sound : Sound c) (header : FixedHeader)
    (here : body.read c.rx = some held) (now : UInt32) :
    ∃ message, handlePacket c header body now = some ⟨c.handlePacket header held now, message⟩ ∧
      ∀ m, (c.handlePacket header held now).callback = some (.dispatch m) →
        ∃ view, message = some view ∧ view.read c.rx = some m := by
  by_cases isPublish : header.type = .publish
  · unfold handlePacket Client.handlePacket
    rw [isPublish]
    exact handlePublish_eq header here
  refine ⟨none, ?_, fun m runs => absurd (Client.isPublish_of_dispatch _ runs) isPublish⟩
  unfold handlePacket Client.handlePacket
  cases type : header.type with
  | publish => exact absurd type isPublish
  | connack => simp only [handleConnack_eq here, Option.bind_eq_bind, Option.bind_some]
  | puback =>
    simp only [completeDelivery_eq sound here, Option.bind_eq_bind, Option.bind_some,
      Client.handlePuback]
  | pubrec => simp only [handlePubrec_eq sound here, Option.bind_eq_bind, Option.bind_some]
  | pubrel => simp only [handlePubrel_eq here, Option.bind_eq_bind, Option.bind_some]
  | pubcomp =>
    simp only [completeDelivery_eq sound here, Option.bind_eq_bind, Option.bind_some,
      Client.handlePubcomp]
  | suback => simp only [handleSuback_eq here, Option.bind_eq_bind, Option.bind_some]
  | unsuback => simp only [handleUnsuback_eq here, Option.bind_eq_bind, Option.bind_some]
  | pingresp =>
    have length := Span.length_of_read here
    cases held with
    | nil =>
      have empty : body.size = 0 := length.symm
      simp only [empty]
      rfl
    | cons first rest =>
      have some_ : body.size ≠ 0 := by
        rw [← length]
        exact Nat.succ_ne_zero _
      simp only [if_pos some_]
      rfl
  | _ => rfl

end Handlers

/-! ## Publishing and retransmission -/

/-- Nor does a message put into its slot. -/
theorem publishInto_eq {index : Nat} {slot : OutboundSlot} (at_ : c.outbound[index]? = some slot)
    (id : UInt16) (topic payload : Bytes) (qos : QoS) (retain : Bool) (now : UInt32) :
    publishInto c index id topic payload qos retain now =
      some (c.publishInto index id topic payload qos retain now) := by
  unfold publishInto Client.publishInto
  rw [at_, Client.slotAt_of_getElem? at_]
  simp only [Option.bind_eq_bind, Option.bind_some]
  cases encoded : (encodePublish slot.packet.length topic payload qos retain false id).1 with
  | error error => rfl
  | ok count =>
    obtain ⟨written, _⟩ := (definite_publish topic payload qos retain id).of_ok encoded
    have within : 0 + count ≤ (overwrite slot.packet
        (encodePublish slot.packet.length topic payload qos retain false id).2).length := by
      simp only [overwrite, List.length_append]
      omega
    simp only [Span.read, if_pos within, List.drop_zero, Option.bind_some]
    generalize Client.enqueue _ _ = sent
    obtain ⟨result, c'⟩ := sent
    cases result <;> rfl

/-- Nor does a publish. -/
theorem publish_eq (sound : Sound c) (topic payload : Bytes) (qos : QoS) (retain : Bool)
    (now : UInt32) :
    publish c topic payload qos retain now = some (c.publish topic payload qos retain now) := by
  unfold publish Client.publish
  rw [freeOutboundSlot_eq sound]
  simp only [Option.bind_eq_bind, Option.bind_some]
  cases found : c.freeOutboundSlot with
  | none => split_ifs <;> rfl
  | some index =>
    obtain ⟨slot, at_, _⟩ := Client.freeOutboundSlot_some found
    have agrees := @publishInto_eq cfg c.allocPacketId.2 index slot at_ c.allocPacketId.1 topic
      payload qos retain now
    simp only [agrees]
    split_ifs <;> rfl

theorem Sound.setSlot (sound : Sound c) {slot : OutboundSlot}
    (within : slot.packetLen.toNat ≤ slot.packet.length) (index : Nat)
    (tx : TxQueue cfg.txBufferSize) : Sound { c.setSlot index slot with tx := tx } where
  count := (List.length_set ..).trans sound.count
  lengths := by
    intro other member
    rcases List.mem_or_eq_of_mem_set member with before | rfl
    · exact sound.lengths other before
    · exact within

theorem retransmitSlot_eq {reaction : Reaction cfg} (sound : Sound reaction.client)
    (forced : Bool) (now : UInt32) {index : Nat} (within : index < cfg.maxInflightOut) :
    retransmitSlot forced now reaction index =
        some (Client.retransmitSlot forced now reaction index) ∧
      Sound (Client.retransmitSlot forced now reaction index).client := by
  rw [← sound.count] at within
  have at_ := List.getElem?_eq_getElem within
  generalize reaction.client.outbound[index] = slot at at_
  have fits := sound.lengths slot (List.mem_of_getElem? at_)
  unfold retransmitSlot Client.retransmitSlot
  simp only [at_, Client.slotAt_of_getElem? at_, Option.bind_eq_bind, Option.bind_some]
  split
  swap
  · exact ⟨rfl, sound⟩
  have marked : slot.markDup.packetLen.toNat ≤ slot.markDup.packet.length := by
    rwa [packetLen_markDup, length_markDup]
  simp only [markDup_eq fits, stored_eq marked, Option.bind_some]
  by_cases room : (reaction.client.setSlot index slot.markDup).HasRoom slot.markDup.stored.length
  · obtain ⟨tx, sent, _⟩ := Client.enqueue_of_room room
    rw [sent]
    exact ⟨rfl, @Sound.setSlot _ _ (sound.setSlot marked index tx)
      { slot.markDup with lastSentMs := now } marked index tx⟩
  · obtain ⟨tx, sent, _⟩ := Client.enqueue_of_full room
    rw [sent]
    exact ⟨rfl, sound.setSlot marked index tx⟩

/-- Nor does a retransmission. -/
theorem pumpRetransmit_eq (sound : Sound c) (now : UInt32) :
    pumpRetransmit c now = some (c.pumpRetransmit now) := by
  unfold pumpRetransmit Client.pumpRetransmit
  simp only
  split
  · rfl
  have loop : ∀ (indices : List Nat) (reaction : Reaction cfg), Sound reaction.client →
      (∀ index ∈ indices, index < cfg.maxInflightOut) →
      indices.foldlM (retransmitSlot c.retransmitNow now) reaction =
        some (indices.foldl (Client.retransmitSlot c.retransmitNow now) reaction) := by
    intro indices
    induction indices with
    | nil => exact fun _ _ _ => rfl
    | cons index rest ih =>
      intro reaction sound inside
      obtain ⟨agrees, kept⟩ := retransmitSlot_eq sound c.retransmitNow now
        (inside index List.mem_cons_self)
      rw [List.foldlM_cons, agrees, List.foldl_cons]
      exact ih _ kept fun other member =>
        inside other (List.mem_cons_of_mem _ member)
  exact loop _ _ ⟨sound.count, sound.lengths⟩ fun _ member => List.mem_range.mp member

end Mqtt.Checked
