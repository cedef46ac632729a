import Mqtt.Session.RetransmitOrder
import Mqtt.Wire.RoundTrip

/-!
# The length of a retransmission

A slot records the length of its packet in sixteen bits, while the size of its buffer
is a constant nothing bounds. A message of up to 65535 bytes is recorded and repeated
whole. A longer one is recorded modulo 65536, and what is repeated is its front.
-/

namespace Mqtt

open Library Client

variable {cfg : Config}

/-! ## The contract -/

/-- The PUBLISH that the last `publish()` into the slot queued. -/
def original (index : Nat) (trace : Trace cfg) : Option Bytes :=
  trace.foldl (fun last event =>
    if event.Fills index then event.reaction.queued.head?.map (·.bytes) else last) none

/-- Every tracked message is recorded with the length it was encoded to, and every copy
is as long as the packet it repeats. -/
structure CopiesWhole (trace : Trace cfg) : Prop where
  recorded : ∀ before event after topic payload qos retain now,
    trace = before ++ event :: after → event.label = .publish topic payload qos retain now →
    qos ≠ .atMostOnce → event.reaction.error = .ok →
    ∃ (id : UInt16) (index : Nat) (slot : OutboundSlot), event.reaction.packetId = some id ∧
      event.reaction.client.outbound[index]? = some slot ∧ slot.phase ≠ .free ∧
      slot.packetId = id ∧
      (encodePublish cfg.kPersistSize topic payload qos retain false id).1 =
        .ok slot.packetLen.toNat
  repeated : ∀ before event after now copy,
    trace = before ++ event :: after → event.label = .retransmit now →
    copy ∈ event.reaction.queued → ∃ (index : Nat) (slot : OutboundSlot), copy.slot = some index ∧
      event.before.outbound[index]? = some slot ∧
      -- A slot that waits for PUBCOMP repeats its PUBREL.
      if slot.phase = .waitPubcomp then copy.bytes = ackPacket .pubrel slot.packetId
      else ∃ packet, original index before = some packet ∧ copy.bytes.length = packet.length

/-! ## Why it holds -/

theorem original_snoc (index : Nat) (trace : Trace cfg) (event : Event cfg) :
    original index (trace ++ [event]) =
      if event.Fills index then event.reaction.queued.head?.map (·.bytes)
      else original index trace := by
  simp only [original, List.foldl_append, List.foldl_cons, List.foldl_nil]

/-- Slots that still wait for the answer to their PUBLISH record its length. -/
def Measured (log : Log cfg) : Prop :=
  ∀ index slot, log.state.outbound[index]? = some slot → slot.phase ≠ .free →
    slot.phase ≠ .waitPubcomp → ∃ packet, original index log.trace = some packet ∧
      slot.packetLen.toNat = packet.length ∧ packet.length ≤ slot.packet.length

theorem not_fills_of_untagged {c : Client cfg} {label : Label} {index : Nat}
    (untagged : c.Untagged label index) : ¬ Entry.Fills index ⟨c, label⟩ := fun fills =>
  Bool.false_ne_true ((queuesFor_of_untagged untagged).symm.trans fills.2)

theorem not_fills_of_pass {c : Client cfg} {index : Nat} (now : UInt32) :
    ¬ Entry.Fills index ⟨c, .retransmit now⟩ := fun fills => by cases fills.1

theorem Measured.step {log : Log cfg} {label : Label} (measured : Measured log)
    (sized : log.state.SlotsSized) (short : Entry.publishesShort ⟨log.state, label⟩ = true) :
    Measured (log.perform Client.apply label) := by
  intro index after there inFlight waiting
  rw [Logged.perform_trace, original_snoc]
  cases slot_cases sized there inFlight with
  | untouched here untagged =>
    rw [if_neg (not_fills_of_untagged untagged)]
    exact measured index after here inFlight waiting
  | filled topic payload qos retain now slot id isPublish up tracked allocated fits here isFree
      isAfter queued =>
    subst isPublish isAfter
    have fills : Entry.Fills index ⟨log.state, .publish topic payload qos retain now⟩ :=
      ⟨rfl, queuesFor_of_mem (queued ▸ List.mem_singleton_self _) rfl⟩
    have bound := length_of_publishesShort short tracked (publish_ok_of_queued queued) id
    refine ⟨publishPacket topic payload qos retain false id, ?_, ?_, ?_⟩
    · rw [if_pos fills]
      simp [Entry.reaction, queued]
    · simp only [filledSlot, UInt16.toNat_ofNat']
      exact Nat.mod_eq_of_lt bound
    · simpa only [filledSlot, length_overwrite fits] using fits
  | advanced header body now slot isHandle isPubrec decoded here was outcome =>
    rcases outcome with ⟨rfl, _⟩ | ⟨_, rfl, _⟩ <;> exact absurd rfl waiting
  | repeated header body now slot isHandle isPubrec here was isAfter queued =>
    subst isAfter
    exact absurd was waiting
  | marked now slot isPass here due isAfter =>
    subst isPass isAfter
    rw [if_neg (not_fills_of_pass now), packetLen_markDup, length_markDup]
    exact measured index slot here (by simpa using inFlight) (by simpa using waiting)
  | copied now slot isPass here due isAfter =>
    subst isPass isAfter
    simp only [if_neg (not_fills_of_pass now), packetLen_markDup, length_markDup]
    exact measured index slot here (by simpa using inFlight) (by simpa using waiting)

theorem History.measured {log : Log cfg} (history : History log)
    (short : PublishesShort log.trace) : Measured log := by
  refine Logged.Reaches.invariant_of
    (fun event : Event cfg => event.publishesShort = true) Measured
    (fun log label prior _ meets measured => measured.step (History.slotsSized prior) meets) history
    rfl short ?_
  intro index slot here inFlight
  obtain rfl := List.eq_of_mem_replicate (List.mem_of_getElem? here)
  exact absurd rfl inFlight

/-- What a tracked `publish()` that succeeds records. -/
theorem recorded_of_publish {c : Client cfg} (sized : c.SlotsSized) {topic payload : Bytes}
    {qos : QoS} {retain : Bool} {now : UInt32} (tracked : qos ≠ .atMostOnce)
    (short : Entry.publishesShort ⟨c, .publish topic payload qos retain now⟩ = true)
    (ok : (c.publish topic payload qos retain now).error = .ok) :
    ∃ (id : UInt16) (index : Nat) (slot : OutboundSlot),
      (c.publish topic payload qos retain now).packetId = some id ∧
      (c.publish topic payload qos retain now).client.outbound[index]? = some slot ∧
      slot.phase ≠ .free ∧ slot.packetId = id ∧
      (encodePublish cfg.kPersistSize topic payload qos retain false id).1 =
        .ok slot.packetLen.toNat := by
  rcases c.publish_cases topic payload qos retain now with
    ⟨error, _, _, _, bad, _, _, same⟩ | ⟨_, untracked, _⟩ |
      ⟨_, _, ⟨size, isSize⟩, index, slot, id, tx, packet, _, here, _, _, nonzero, rfl, fits, _, _,
        same⟩
  · rw [same] at ok
    exact absurd ok bad
  · exact absurd untracked tracked
  · have bound := length_of_publishesShort short tracked ok id
    rw [sized.buffers slot (List.mem_of_getElem? here)] at fits
    have written := (@encodes_publish topic payload qos retain false id size (fun _ => nonzero)
      (fun untracked => absurd untracked tracked) isSize cfg.kPersistSize).1 fits
    have within := (List.getElem?_eq_some_iff.mp here).1
    refine ⟨id, index, _, by rw [same], by rw [same]; exact List.getElem?_set_self within, ?_, rfl, ?_⟩
    · unfold filledSlot
      split <;> simp
    · simp only [written, filledSlot, UInt16.toNat_ofNat']
      rw [Nat.mod_eq_of_lt bound]

/-- Short messages are recorded and repeated whole. -/
theorem History.copiesWhole {log : Log cfg} (history : History log)
    (short : PublishesShort log.trace) : CopiesWhole log.trace where
  recorded before event after topic payload qos retain now split isPublish tracked ok := by
    obtain ⟨log, reached, rfl, here, _⟩ := history.cut split
    have meets := short event (by rw [split]; simp)
    obtain ⟨state, label⟩ := event
    obtain rfl : state = log.state := here
    obtain rfl : label = _ := isPublish
    exact recorded_of_publish reached.slotsSized tracked meets ok
  repeated before event after now copy split isPass member := by
    obtain ⟨log, reached, rfl, here, _⟩ := history.cut split
    obtain ⟨state, label⟩ := event
    obtain rfl : state = log.state := here
    obtain rfl : label = .retransmit now := isPass
    have measured := reached.measured fun event inside => short event (by
      rw [split]
      exact List.mem_append_left _ inside)
    obtain ⟨_, _, _, _, same, _, pass⟩ := log.state.pumpRetransmit_cases now
    have queued : Entry.reaction ⟨log.state, .retransmit now⟩ = _ := same
    rw [queued] at member
    obtain ⟨index, slot, _, there, due, rfl, _⟩ := pass.due copy member
    refine ⟨index, slot, rfl, there, ?_⟩
    split
    case isTrue waiting =>
      have holds := History.slots (slotRule_pubrel cfg) reached slot (List.mem_of_getElem? there)
        waiting
      show slot.markDup.stored = _
      rw [markDup_of_pubrel holds, holds]
    case isFalse waiting =>
      obtain ⟨packet, isOriginal, length, fits⟩ :=
        measured index slot there (phase_of_due due) waiting
      refine ⟨packet, isOriginal, ?_⟩
      show (slot.markDup.packet.take slot.markDup.packetLen.toNat).length = _
      rw [List.length_take, length_markDup, packetLen_markDup, length, Nat.min_eq_left fits]

/-- A length that is recorded right is below 65536. -/
theorem CopiesWhole.short {trace : Trace cfg} (whole : CopiesWhole trace) :
    PublishesShort trace := by
  intro event member
  obtain ⟨before, after, split⟩ := List.append_of_mem member
  obtain ⟨c, label⟩ := event
  cases label with
  | publish topic payload qos retain now =>
    simp only [Entry.publishesShort, Bool.or_eq_true, decide_eq_true_eq, ne_eq]
    by_contra long
    simp only [not_or, not_not] at long
    obtain ⟨⟨tracked, ok⟩, long⟩ := long
    obtain ⟨id, index, slot, _, _, _, _, counted⟩ :=
      whole.recorded before _ after topic payload qos retain now split rfl tracked ok
    obtain ⟨_, _, _, _, isPacket, length⟩ := encodePublish_ok (Prod.ext counted rfl)
    have small := slot.packetLen.toNat_lt
    rw [length_publishPacket_id topic payload qos retain false 0 id] at long
    rw [isPacket] at length
    omega
  | _ => rfl

/-- The tracked messages of a run are recorded and repeated whole exactly if those that
were accepted encode to at most 65535 bytes each, which they do where a slot holds no more. -/
theorem copies_whole (cfg : Config) (env : Env) (application : Script) :
    (CopiesWhole (World.exec cfg env application).trace ↔
      PublishesShort (World.exec cfg env application).trace) ∧
    (cfg.maxPersistedMsgSize ≤ 65535 → CopiesWhole (World.exec cfg env application).trace) := by
  have history := World.exec_history cfg env application
  refine ⟨⟨CopiesWhole.short, history.copiesWhole⟩, fun small => history.copiesWhole ?_⟩
  exact history.publishesShort small

/-! ## A message longer than the length field -/

namespace WholeCopies

/-- Slots that hold more than sixteen bits can count. -/
def config : Config :=
  { Config.default with
    txBufferSize := 70000
    maxInflightOut := 1
    maxPersistedMsgSize := 70000
    txHoldsConnect := by decide
    persistedHoldsHeader := by decide }

def env : Env where
  opens := [.ok]
  sends := [(.ok, 15)]
  recvs := [(.ok, [0x20, 2, 0, 0])]

def options : ConnectOptions := { clientId := [97], keepAliveS := 0 }

/-- Up to the CONNACK. -/
def opened : World config := World.exec config env (.connect options (.step .done))

def application (payload : Bytes) : Script :=
  .connect options (.step (.publish [97] payload .atLeastOnce false .done))

def run (payload : Bytes) : World config := World.exec config env (application payload)

theorem run_trace (payload : Bytes) : (run payload).trace =
    opened.trace ++ [⟨opened.client, .publish [97] payload .atLeastOnce false 0⟩] := rfl

/-- The message goes out, and its slot records nine bytes. -/
theorem publish_recorded {payload : Bytes} (long : payload.length = 65536) :
    ∃ slot, slot.packetLen = 9 ∧ (opened.client.publish [97] payload .atLeastOnce false 0).error = .ok ∧
      (opened.client.publish [97] payload .atLeastOnce false 0).client.outbound = [slot] := by
  have sized : publishRemainingLength [97] payload.length .atLeastOnce = .ok 65541 := by
    rw [long]
    decide
  obtain ⟨slot, here⟩ : ∃ slot, opened.client.outbound = [slot] := by
    have count : opened.client.outbound.length = 1 :=
      (World.exec_history config env (.connect options (.step .done))).slotsSized.count
    exact List.length_eq_one_iff.mp count
  have buffer : slot.packet.length = 70000 :=
    (World.exec_history config env (.connect options (.step .done))).slotsSized.buffers slot
      (by show slot ∈ opened.client.outbound; simp [here])
  have length := @length_publishPacket [97] payload .atLeastOnce false false 1 65541 sized
  have length : (publishPacket [97] payload .atLeastOnce false false 1).length = 65545 := length
  have tracked := opened.client.publish_tracked payload false 0 (by decide +kernel)
    (show isValidTopicName [97] = true by decide) (by decide)
    (show QoS.atLeastOnce ≠ .atMostOnce by decide) (by decide)
    (show opened.client.freeOutboundSlot = some 0 by decide +kernel)
  have given : opened.client.allocPacketId.1 = 1 := by decide +kernel
  have empty : opened.client.allocPacketId.2.tx.peek = [] := by decide +kernel
  rw [given, if_neg (by decide)] at tracked
  obtain ⟨tx, _, filled⟩ := opened.client.allocPacketId.2.publishInto_of_room false 0
    (show QoS.atLeastOnce ≠ .atMostOnce by decide) (show (1 : UInt16) ≠ 0 by decide)
    (show opened.client.outbound[0]? = some slot by rw [here]; rfl) sized
    (by rw [length, buffer]; decide)
    (by rw [Client.HasRoom, length, empty]; decide)
  rw [tracked, filled]
  refine ⟨_, ?_, rfl, show opened.client.outbound.set 0 _ = _ by rw [here]; rfl⟩
  simp only [filledSlot, length]
  decide

theorem not_copiesWhole {payload : Bytes} (long : payload.length = 65536) :
    ¬ CopiesWhole (run payload).trace := by
  intro whole
  obtain ⟨slot, short, ok, one⟩ := publish_recorded long
  obtain ⟨id, index, found, _, here, _, _, counted⟩ := whole.recorded _ _ [] _ _ _ _ _
    (run_trace _) rfl (by decide) ok
  have here : [slot][index]? = some found := one ▸ here
  have same : found = slot := List.mem_singleton.mp (List.mem_of_getElem? here)
  obtain ⟨remaining, sized, _, _, isPacket, length⟩ := encodePublish_ok (Prod.ext counted rfl)
  rw [same, short, isPacket, length_publishPacket sized] at length
  rw [long] at sized
  obtain rfl : remaining = 65541 := Except.ok.inj (sized.symm.trans (by decide))
  exact absurd length (by decide)

end WholeCopies

/-- A slot that could hold more records three bytes of payload right. -/
theorem copies_whole_short : CopiesWhole (WholeCopies.run [1, 2, 3]).trace := by
  refine (copies_whole WholeCopies.config WholeCopies.env
    (WholeCopies.application [1, 2, 3])).1.mpr fun event member => ?_
  rcases List.mem_append.mp (WholeCopies.run_trace [1, 2, 3] ▸ member) with early | last
  · exact (show PublishesShort WholeCopies.opened.trace by decide +kernel) event early
  · obtain rfl := List.mem_singleton.mp last
    simp only [Entry.publishesShort, Bool.or_eq_true]
    exact .inr (by decide)

/-- A message of 65545 bytes is accepted and recorded as one of nine. -/
theorem long_message_cut : ¬ CopiesWhole (WholeCopies.run (List.replicate 65536 0)).trace :=
  WholeCopies.not_copiesWhole List.length_replicate

end Mqtt
