import Mqtt.Session.SlotFate

/-!
# What a slot stores

A slot in flight stores the PUBLISH of its message, with or without the mark of a
repetition, until the PUBREC of a QoS 2 message replaces it by the PUBREL. The
stored packet is whole as long as the slot's sixteen-bit length can express it.
-/

namespace Mqtt

open Library Client

variable {cfg : Config}

/-! ## The mark of a repetition -/

/-- The first byte of a PUBLISH. -/
def publishByte (dup retain : Bool) (qos : UInt8) : UInt8 :=
  let base : UInt8 := if dup then 0x30 ||| 0x08 else 0x30
  let base := base ||| ((qos &&& 0x03) <<< 1)
  if retain then base ||| 0x01 else base

theorem publishByte_mark : ∀ (dup retain : Bool) (qos : Fin 256),
    publishByte dup retain (UInt8.ofNat qos) ||| 0x08 = publishByte true retain (UInt8.ofNat qos) := by
  decide +kernel

theorem publishByte_nibble : ∀ (dup retain : Bool) (qos : Fin 256),
    (publishByte dup retain (UInt8.ofNat qos) >>> 4) &&& 0x0F = PacketType.publish.toNibble := by
  decide +kernel

/-- A PUBLISH is its first byte and what follows, which the mark does not touch. -/
theorem publishPacket_eq (topic payload : Bytes) (qos : QoS) (retain dup : Bool) (id : UInt16) :
    publishPacket topic payload qos retain dup id =
      publishByte dup retain qos.toByte ::
        (vbiLoop kMaxVbiBytes (publishBody topic payload qos id).length ++
          publishBody topic payload qos id) := rfl

/-- Marking sets one bit of a stored PUBLISH. -/
theorem stored_markDup {slot : OutboundSlot} {first : UInt8} {rest : Bytes}
    (stored : slot.stored = first :: rest)
    (isPublish : (first >>> 4) &&& 0x0F = PacketType.publish.toNibble) :
    slot.markDup.stored = (first ||| 0x08) :: rest := by
  obtain ⟨count, isCount⟩ : ∃ count, slot.packetLen.toNat = count + 1 := by
    cases length : slot.packetLen.toNat with
    | zero => simp [OutboundSlot.stored, length] at stored
    | succ count => exact ⟨count, rfl⟩
  cases isPacket : slot.packet with
  | nil => simp [OutboundSlot.stored, isPacket] at stored
  | cons front behind =>
    simp only [OutboundSlot.stored, isPacket, isCount, List.take_succ_cons, List.cons.injEq]
      at stored
    obtain ⟨rfl, rfl⟩ := stored
    have filled : slot.packetLen ≠ 0 := fun zero => by simp [zero] at isCount
    simp [OutboundSlot.stored, OutboundSlot.markDup, filled, isPacket, isPublish, isCount]

/-- Marking a stored PUBLISH sets its DUP bit. -/
theorem stored_markDup_publish {slot : OutboundSlot} {topic payload : Bytes} {qos : QoS}
    {retain dup : Bool} {id : UInt16}
    (stored : slot.stored = publishPacket topic payload qos retain dup id) :
    slot.markDup.stored = publishPacket topic payload qos retain true id := by
  have mark := publishByte_mark dup retain ⟨qos.toByte.toNat, qos.toByte.toNat_lt⟩
  have nibble := publishByte_nibble dup retain ⟨qos.toByte.toNat, qos.toByte.toNat_lt⟩
  simp only [UInt8.ofNat_toNat] at mark nibble
  rw [publishPacket_eq] at stored ⊢
  rw [stored_markDup stored nibble, mark]

/-! ## The message of a slot -/

/-- The phase a message of this level starts in. -/
def firstPhase (qos : QoS) : Phase := if qos = .atLeastOnce then .waitPuback else .waitPubrec

/-- The slot carries this message: its PUBLISH, or at QoS 2 the PUBREL that follows
it. -/
inductive Carries (topic payload : Bytes) (qos : QoS) (retain : Bool) (id : UInt16)
    (slot : OutboundSlot) : Prop where
  | publish (dup : Bool) (named : slot.packetId = id) (level : slot.qos = qos)
      (phase : slot.phase = firstPhase qos)
      (stored : slot.stored = publishPacket topic payload qos retain dup id)
  | pubrel (named : slot.packetId = id) (level : slot.qos = qos)
      (phase : slot.phase = .waitPubcomp) (exactlyOnce : qos = .exactlyOnce)
      (stored : slot.stored = ackPacket .pubrel id)

section Moves

variable {topic payload : Bytes} {qos : QoS} {retain : Bool} {id : UInt16} {slot : OutboundSlot}

theorem Carries.named (carries : Carries topic payload qos retain id slot) :
    slot.packetId = id := by
  cases carries with
  | publish _ named => exact named
  | pubrel named => exact named

theorem Carries.inFlight (carries : Carries topic payload qos retain id slot) :
    slot.phase ≠ .free := by
  intro isFree
  cases carries with
  | publish _ _ _ phase =>
    rw [isFree] at phase
    unfold firstPhase at phase
    split at phase <;> cases phase
  | pubrel _ _ phase => simp [isFree] at phase

/-- A slot that is filled carries its message. -/
theorem carries_filled (now : UInt32)
    (short : (publishPacket topic payload qos retain false id).length < 65536) :
    Carries topic payload qos retain id
      (filledSlot slot (publishPacket topic payload qos retain false id) qos id now) :=
  .publish false rfl rfl rfl (stored_filledSlot short)

theorem Carries.stamped (carries : Carries topic payload qos retain id slot) (now : UInt32) :
    Carries topic payload qos retain id { slot with lastSentMs := now } := by
  cases carries with
  | publish dup named level phase stored => exact .publish dup named level phase stored
  | pubrel named level phase exactlyOnce stored => exact .pubrel named level phase exactlyOnce stored

theorem qos_markDup (slot : OutboundSlot) : slot.markDup.qos = slot.qos := by
  rcases markDup_cases slot with same | ⟨first, rest, _, _, _, same⟩ <;> rw [same]

/-- Marked as a duplicate it still does. -/
theorem Carries.marked (carries : Carries topic payload qos retain id slot) :
    Carries topic payload qos retain id slot.markDup := by
  cases carries with
  | publish dup named level phase stored =>
    exact .publish true (by simpa using named) (by rw [qos_markDup, level]) (by simpa using phase)
      (stored_markDup_publish stored)
  | pubrel named level phase exactlyOnce stored =>
    rw [markDup_of_pubrel stored]
    exact .pubrel named level phase exactlyOnce stored

/-- A slot that waits for PUBREC carries a QoS 2 message. -/
theorem Carries.advanced (carries : Carries topic payload qos retain id slot)
    (valid : qos = .atLeastOnce ∨ qos = .exactlyOnce) (waiting : slot.phase = .waitPubrec) :
    Carries topic payload qos retain id (pubrelSlot slot id) := by
  cases carries with
  | pubrel _ _ phase => simp [phase] at waiting
  | publish dup named level phase stored =>
    have exactlyOnce : qos = .exactlyOnce := by
      rcases valid with rfl | same
      · simp [waiting, firstPhase] at phase
      · exact same
    exact .pubrel named level rfl exactlyOnce (stored_pubrelSlot slot id)

end Moves

/-- The levels a tracked message can have. -/
theorem tracked_cases {qos : QoS} (tracked : qos ≠ .atMostOnce) (valid : validQos qos = true) :
    qos = .atLeastOnce ∨ qos = .exactlyOnce := by
  cases qos with
  | atMostOnce => exact absurd rfl tracked
  | atLeastOnce => exact .inl rfl
  | exactlyOnce => exact .inr rfl
  | outOfRange excess => simp [validQos_outOfRange] at valid

/-- A slot in flight carries a message that can be sent. -/
def OutboundSlot.IsSound (slot : OutboundSlot) : Prop :=
  slot.phase ≠ .free → slot.packetId ≠ 0 ∧ ∃ topic payload retain,
    (∃ size, publishRemainingLength topic payload.length slot.qos = .ok size) ∧
      (slot.qos = .atLeastOnce ∨ slot.qos = .exactlyOnce) ∧
      Carries topic payload slot.qos retain slot.packetId slot

theorem slotRule_sound (small : cfg.maxPersistedMsgSize ≤ 65535) :
    SlotRule cfg fun slot => slot.packet.length = cfg.kPersistSize ∧ slot.IsSound where
  initial := ⟨by simp, by simp [OutboundSlot.IsSound]⟩
  stamped slot now holds := by
    refine ⟨holds.1, fun inFlight => ?_⟩
    obtain ⟨nonzero, topic, payload, retain, sized, valid, carries⟩ := holds.2 inFlight
    exact ⟨nonzero, topic, payload, retain, sized, valid, carries.stamped now⟩
  scribbled slot packet holds isFree same :=
    ⟨same.trans holds.1, by simp [OutboundSlot.IsSound, isFree]⟩
  filled slot topic payload qos retain id now holds tracked sized nonzero fits := by
    refine ⟨(length_overwrite fits).trans holds.1, fun _ => ⟨nonzero, topic, payload, retain, ?_⟩⟩
    have bound := Config.kPersistSize_le small
    have short : (publishPacket topic payload qos retain false id).length < 65536 := by
      have buffer := holds.1
      omega
    obtain ⟨size, isSize⟩ := sized
    exact ⟨⟨size, isSize⟩, tracked_cases tracked (publishRemainingLength_ok isSize).2.2.1,
      carries_filled now short⟩
  advanced slot holds waiting fits := by
    refine ⟨(length_overwrite (by rwa [length_ackPacket])).trans holds.1, fun _ => ?_⟩
    obtain ⟨nonzero, topic, payload, retain, sized, valid, carries⟩ := holds.2 (by simp [waiting])
    exact ⟨nonzero, topic, payload, retain, sized, valid, carries.advanced valid waiting⟩
  marked slot holds inFlight := by
    refine ⟨(length_markDup slot).trans holds.1, fun _ => ?_⟩
    obtain ⟨nonzero, topic, payload, retain, sized, valid, carries⟩ := holds.2 inFlight
    rw [packetId_markDup, qos_markDup]
    exact ⟨nonzero, topic, payload, retain, sized, valid, carries.marked⟩
  released slot holds := ⟨holds.1, by simp [OutboundSlot.IsSound, OutboundSlot.release]⟩

end Mqtt
