import Mqtt.Library.CheckedReads
import Mqtt.Wire.Codec

/-!
# Decoding in place

The decoders as the source runs them: on a stretch of the receive buffer, with every
byte read by its position. Each says the same as the decoder over the bytes of the
stretch, and reads nothing outside it.
-/

namespace Mqtt.Checked

open Library

/-! ## Decoders -/

/-- The loop of `vbi_decode`. -/
def vbiDecodeLoop (rx : Bytes) (input : Span) : Nat → Nat → Nat → Nat → Option (Result VbiDecode)
  | 0, _, _, _ => some (.error .malformedPacket)
  | left + 1, taken, value, multiplier =>
    if taken ≥ input.size then some (.error .incomplete)
    else do
      let byte ← input.get rx taken
      let value := value + (byte &&& 0x7F).toNat * multiplier
      if byte &&& 0x80 = 0 then
        if taken + 1 ≠ vbiSize value then some (.error .malformedPacket)
        else some (.ok { value := value, bytes := taken + 1 })
      else vbiDecodeLoop rx input left (taken + 1) value (multiplier * 128)

def peekHeader (rx : Bytes) (input : Span) : Option (Result PacketPeek) :=
  if input.size = 0 then some (.error .incomplete)
  else do
    match FixedHeader.fromByte (← input.get rx 0) with
    | .error error => some (.error error)
    | .ok header =>
      match ← vbiDecodeLoop rx (input.skip 1) kMaxVbiBytes 0 0 1 with
      | .error error => some (.error error)
      | .ok vbi => some (.ok
          { header := { header with remainingLength := vbi.value }
            headerBytes := 1 + vbi.bytes
            totalBytes := 1 + vbi.bytes + vbi.value })

def decodeConnack (rx : Bytes) (body : Span) : Option (Result ConnackInfo) :=
  if body.size ≠ 2 then some (.error .malformedPacket)
  else do
    let flags ← body.get rx 0
    let code ← body.get rx 1
    if flags &&& 0xFE ≠ 0 then some (.error .protocolViolation)
    else if code > 5 then some (.error .protocolViolation)
    else if flags &&& 0x01 ≠ 0 ∧ code ≠ 0 then some (.error .protocolViolation)
    else some (.ok { code := ConnackCode.ofByte code, sessionPresent := flags &&& 0x01 ≠ 0 })

/-- A length-prefixed string, and what is left. -/
def readString (rx : Bytes) (body : Span) : Option (Result (Span × Span)) :=
  if body.size < 2 then some (.error .malformedPacket)
  else do
    let high ← body.get rx 0
    let low ← body.get rx 1
    let length := (u16Value high low).toNat
    if length = 0 then some (.ok (body.part 2 0, body.skip 2))
    else if body.size - 2 < length then some (.error .malformedPacket)
    else do
      let text ← (body.part 2 length).read rx
      if !isValidMqttString text then some (.error .malformedPacket)
      else some (.ok (body.part 2 length, body.skip (2 + length)))

/-- A received message: its topic and its payload are still in the receive buffer. -/
structure MessageView where
  topic : Span
  payload : Span
  qos : QoS := .atMostOnce
  retain : Bool := false
  dup : Bool := false
  packetId : UInt16 := 0

/-- What the message says, read from the buffer as it is now. -/
def MessageView.read (view : MessageView) (rx : Bytes) : Option Message := do
  let topic ← view.topic.read rx
  let payload ← view.payload.read rx
  some { topic := topic, payload := payload, qos := view.qos, retain := view.retain,
         dup := view.dup, packetId := view.packetId }

def decodePublish (rx : Bytes) (header : FixedHeader) (body : Span) :
    Option (Result MessageView) := do
  match ← readString rx body with
  | .error error => some (.error error)
  | .ok (topic, rest) =>
    if topic.size = 0 then some (.error .protocolViolation)
    else
      let message : MessageView :=
        { topic := topic, payload := rest, qos := header.qos, retain := header.retain,
          dup := header.dup }
      if header.qos ≠ .atMostOnce then
        if rest.size < 2 then some (.error .malformedPacket)
        else do
          let high ← rest.get rx 0
          let low ← rest.get rx 1
          if u16Value high low = 0 then some (.error .protocolViolation)
          else some (.ok { message with packetId := u16Value high low, payload := rest.skip 2 })
      else if header.dup then some (.error .protocolViolation)
      else some (.ok message)

def decodePacketId (rx : Bytes) (body : Span) : Option (Result UInt16) :=
  if body.size ≠ 2 then some (.error .malformedPacket)
  else do
    let high ← body.get rx 0
    let low ← body.get rx 1
    if u16Value high low = 0 then some (.error .protocolViolation)
    else some (.ok (u16Value high low))

/-- A decoded SUBACK: its return codes are still in the receive buffer. -/
def decodeSuback (rx : Bytes) (body : Span) : Option (Result (UInt16 × Span)) :=
  if body.size < 3 then some (.error .malformedPacket)
  else do
    let high ← body.get rx 0
    let low ← body.get rx 1
    if u16Value high low = 0 then some (.error .protocolViolation)
    else do
      let codes ← (body.skip 2).read rx
      if codes.any fun c => c > 2 && c ≠ kSubackFailure then some (.error .protocolViolation)
      else some (.ok (u16Value high low, body.skip 2))

/-! ## They stay inside -/

section Inside

variable {rx held : Bytes} {body : Span}

theorem vbiDecodeLoop_eq (here : body.read rx = some held) (left taken value multiplier : Nat) :
    vbiDecodeLoop rx body left taken value multiplier =
      some (Mqtt.vbiDecodeLoop left taken value multiplier (held.drop taken)) := by
  have length := Span.length_of_read here
  induction left generalizing taken value multiplier with
  | zero => rfl
  | succ left ih =>
    rw [vbiDecodeLoop, Span.get_of_read here]
    by_cases ended : taken ≥ body.size
    · rw [if_pos ended, List.drop_of_length_le (by omega)]
      rfl
    · have inside : taken < held.length := by omega
      rw [if_neg ended, List.getElem?_eq_getElem inside, List.drop_eq_getElem_cons inside,
        Mqtt.vbiDecodeLoop]
      simp only [Option.bind_eq_bind, Option.bind_some, ih]
      split
      · split <;> rfl
      · rfl

/-- The header is read within the span. -/
theorem peekHeader_eq (here : body.read rx = some held) :
    peekHeader rx body = some (Mqtt.peekHeader held) := by
  have length := Span.length_of_read here
  cases held with
  | nil =>
    have empty : body.size = 0 := length.symm
    rw [peekHeader, if_pos empty]
    rfl
  | cons first rest =>
    rw [List.length_cons] at length
    have rest' := @Span.read_skip _ _ _ _ here 1 (by omega)
    rw [peekHeader, if_neg (by omega), Span.get_of_read here, vbiDecodeLoop_eq rest',
      Mqtt.peekHeader, vbiDecode]
    simp only [List.getElem?_cons_zero, Option.bind_eq_bind, Option.bind_some, List.drop_zero,
      List.drop_succ_cons]
    cases FixedHeader.fromByte first with
    | error error => rfl
    | ok header =>
      simp only
      cases Mqtt.vbiDecodeLoop kMaxVbiBytes 0 0 1 rest <;> rfl

/-- A packet is its header and the bytes it announces. -/
theorem totalBytes_eq {p : PacketPeek} (peeked : Mqtt.peekHeader held = .ok p) :
    p.totalBytes = p.headerBytes + p.header.remainingLength := by
  cases held with
  | nil => cases peeked
  | cons first rest =>
    simp only [Mqtt.peekHeader] at peeked
    split at peeked
    · cases peeked
    split at peeked <;> cases peeked
    rfl

theorem decodeConnack_eq (here : body.read rx = some held) :
    decodeConnack rx body = some (Mqtt.decodeConnack held) := by
  have length := Span.length_of_read here
  simp only [decodeConnack, Span.get_of_read here]
  rcases held with _ | ⟨flags, _ | ⟨code, _ | ⟨more, rest⟩⟩⟩
  case cons.cons.nil =>
    rw [if_neg (by simp [← length])]
    simp only [List.getElem?_cons_zero, List.getElem?_cons_succ, Option.bind_eq_bind,
      Option.bind_some, Mqtt.decodeConnack]
    split_ifs <;> rfl
  all_goals
    rw [if_pos (by simp [← length])]
    rfl

/-- So is a packet id. -/
theorem decodePacketId_eq (here : body.read rx = some held) :
    decodePacketId rx body = some (Mqtt.decodePacketId held) := by
  have length := Span.length_of_read here
  simp only [decodePacketId, Span.get_of_read here]
  rcases held with _ | ⟨high, _ | ⟨low, _ | ⟨more, rest⟩⟩⟩
  case cons.cons.nil =>
    rw [if_neg (by simp [← length])]
    simp only [List.getElem?_cons_zero, List.getElem?_cons_succ, Option.bind_eq_bind,
      Option.bind_some, Mqtt.decodePacketId]
    split_ifs <;> rfl
  all_goals
    rw [if_pos (by simp [← length])]
    rfl

/-- A decoder that leaves its result in the buffer found what the other one copied. -/
def Shows {View Value : Type} (read : View → Option Value) (found : Option (Result View)) :
    Result Value → Prop
  | .error error => found = some (.error error)
  | .ok value => ∃ view, found = some (.ok view) ∧ read view = some value

/-- So is a string, and it is shown by a span of the same buffer. -/
theorem readString_shows (here : body.read rx = some held) :
    Shows (fun (view : Span × Span) => do some (← view.1.read rx, ← view.2.read rx))
      (readString rx body) (Mqtt.readString held) := by
  have length := Span.length_of_read here
  rcases held with _ | ⟨high, _ | ⟨low, rest⟩⟩
  · exact if_pos (by simp [← length])
  · exact if_pos (by simp [← length])
  rw [List.length_cons, List.length_cons] at length
  rw [readString, if_neg (by omega), Span.get_of_read here, Span.get_of_read here]
  simp only [List.getElem?_cons_zero, List.getElem?_cons_succ, Option.bind_eq_bind,
    Option.bind_some, Mqtt.readString]
  have behind := @Span.read_skip _ _ _ _ here 2 (by omega)
  by_cases empty : (u16Value high low).toNat = 0
  · rw [if_pos empty, if_pos empty]
    refine ⟨_, rfl, ?_⟩
    simp only [behind, @Span.read_part _ _ _ _ here 2 0 (by omega)]
    rfl
  rw [if_neg empty, if_neg empty]
  by_cases short : rest.length < (u16Value high low).toNat
  · rw [if_pos (by omega), if_pos short]
    rfl
  have text := @Span.read_part _ _ _ _ here 2 (u16Value high low).toNat (by omega)
  have after := @Span.read_skip _ _ _ _ here (2 + (u16Value high low).toNat) (by omega)
  rw [if_neg (by omega), if_neg short, text, Option.bind_some]
  simp only [List.drop_succ_cons, List.drop_zero]
  split
  · rfl
  · refine ⟨_, rfl, ?_⟩
    simp only [text, after]
    simp [Nat.add_comm 2]

/-- A message is shown by spans of the buffer. -/
theorem decodePublish_shows (header : FixedHeader) (here : body.read rx = some held) :
    Shows (fun view : MessageView => view.read rx) (decodePublish rx header body)
      (Mqtt.decodePublish header held) := by
  have text := readString_shows here
  unfold decodePublish Mqtt.decodePublish
  cases found : Mqtt.readString held with
  | error error =>
    rw [found] at text
    rw [show readString rx body = _ from text]
    rfl
  | ok result =>
    rw [found] at text
    obtain ⟨⟨topic, after⟩, isFound, shown⟩ := text
    obtain ⟨_, _⟩ := result
    simp only [Option.bind_eq_bind, Option.bind_eq_some_iff, Option.some.injEq,
      Prod.mk.injEq] at shown
    obtain ⟨name, readName, rest, readRest, rfl, rfl⟩ := shown
    have nameLength := Span.length_of_read readName
    have restLength := Span.length_of_read readRest
    simp only [isFound, Option.bind_eq_bind, Option.bind_some]
    by_cases empty : topic.size = 0
    · rw [if_pos empty, if_pos (by simpa using nameLength.trans empty)]
      rfl
    have named : ¬ name.isEmpty = true := by
      rwa [List.isEmpty_iff_length_eq_zero, nameLength]
    rw [if_neg empty, if_neg named]
    split
    · rcases rest with _ | ⟨high, _ | ⟨low, payload⟩⟩
      · exact if_pos (by simp [← restLength])
      · exact if_pos (by simp [← restLength])
      rw [List.length_cons, List.length_cons] at restLength
      rw [if_neg (by omega), Span.get_of_read readRest, Span.get_of_read readRest]
      simp only [List.getElem?_cons_zero, List.getElem?_cons_succ, Option.bind_some]
      split
      · rfl
      · refine ⟨_, rfl, ?_⟩
        simp [MessageView.read, readName, @Span.read_skip _ _ _ _ readRest 2 (by omega)]
    · split
      · rfl
      · exact ⟨_, rfl, by simp [MessageView.read, readName, readRest]⟩

/-- So are the return codes. -/
theorem decodeSuback_shows (here : body.read rx = some held) :
    Shows (fun view : UInt16 × Span => do
        some { packetId := view.1, returnCodes := ← view.2.read rx })
      (decodeSuback rx body) (Mqtt.decodeSuback held) := by
  have length := Span.length_of_read here
  rcases held with _ | ⟨high, _ | ⟨low, _ | ⟨code, codes⟩⟩⟩
  · exact if_pos (by simp [← length])
  · exact if_pos (by simp [← length])
  · exact if_pos (by simp [← length])
  simp only [List.length_cons] at length
  have behind := @Span.read_skip _ _ _ _ here 2 (by omega)
  rw [decodeSuback, if_neg (by omega), Span.get_of_read here, Span.get_of_read here]
  simp only [List.getElem?_cons_zero, List.getElem?_cons_succ, Option.bind_eq_bind,
    Option.bind_some, Mqtt.decodeSuback, behind, List.drop_succ_cons, List.drop_zero]
  split
  · rfl
  · split
    · rfl
    · exact ⟨_, rfl, by simp [behind]⟩

end Inside

end Mqtt.Checked
