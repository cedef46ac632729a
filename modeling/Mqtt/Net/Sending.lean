import Mqtt.Library.Handshake
import Mqtt.Net.Link
import Mqtt.Session.InboundIds
import Mqtt.Session.Outgoing

/-!
# A broker that sends QoS 2 messages

A broker that keeps the session runs the QoS 2 handshake as its sender: it
offers a message under a free packet id, repeats the PUBLISH until it hears
PUBREC, then the PUBREL until it hears PUBCOMP, and only then uses the id again.
It may repeat itself and send anything else at any time. Here is the broker, and
what the client makes of each of its packets.
-/

namespace Mqtt

open Library Library.Handshake

/-- What a packet of the broker stands for. -/
inductive Errand where
  | message (id : UInt16) (number : Nat)
  | release (id : UInt16)
  | other
  deriving DecidableEq, Repr

/-- The acknowledgement a packet carries, if it is PUBREC or PUBCOMP. -/
def readAck (bytes : Bytes) : Option (UInt16 × Round) :=
  match readPacket bytes with
  | none => none
  | some (header, body) =>
    match header.type, decodePacketId body with
    | .pubrec, .ok id => some (id, .first)
    | .pubcomp, .ok id => some (id, .second)
    | _, _ => none

/-- The packet is what it stands for. -/
def Sent.IsErrand (sent : Sent Errand) : Prop :=
  match sent.tag with
  | .message id _ =>
    sent.packet.header.type = .publish ∧
      ∃ m, decodePublish sent.packet.header sent.packet.body = .ok m ∧ m.qos = .exactlyOnce ∧
        m.packetId = id
  | .release id => sent.packet.header.type = .pubrel ∧ decodePacketId sent.packet.body = .ok id
  | .other =>
    sent.packet.header.type ≠ .pubrel ∧
      (sent.packet.header.type = .publish → sent.packet.header.qos ≠ .exactlyOnce)

/-- The broker's side of the session. -/
structure Sending where
  stage : UInt16 → Stage Nat
  next : Nat

namespace Sending

def set (s : Sending) (id : UInt16) (stage : Stage Nat) : Sending :=
  { s with stage := Function.update s.stage id stage }

/-- A PUBREL for this id. -/
def Releasing (id : UInt16) (sent : Sent Errand) : Prop := sent.tag = .release id ∧ sent.IsErrand

/-- A PUBLISH of this message. -/
def Offering (id : UInt16) (number : Nat) (sent : Sent Errand) : Prop :=
  sent.tag = .message id number ∧ sent.IsErrand

/-- Anything else. -/
def Unrelated (sent : List (Sent Errand)) : Prop :=
  ∀ packet ∈ sent, packet.tag = .other ∧ packet.IsErrand

/-- How it takes a packet. -/
inductive Takes : Sending → Posted → Sending → List (Sent Errand) → Prop where
  | accepted (s : Sending) (posted : Posted) (id : UInt16) (number : Nat) (answer : Sent Errand)
      (reads : readAck posted.packet.bytes = some (id, .first))
      (waiting : s.stage id = .offered number) (releasing : Releasing id answer) :
      Takes s posted (s.set id (.released number)) [answer]
  | acceptedAgain (s : Sending) (posted : Posted) (id : UInt16) (number : Nat)
      (answer : List (Sent Errand)) (reads : readAck posted.packet.bytes = some (id, .first))
      (waiting : s.stage id = .released number)
      (releasing : answer = [] ∨ ∃ sent, answer = [sent] ∧ Releasing id sent) :
      Takes s posted s answer
  | completed (s : Sending) (posted : Posted) (id : UInt16) (number : Nat)
      (reads : readAck posted.packet.bytes = some (id, .second))
      (waiting : s.stage id = .released number) : Takes s posted (s.set id .idle) []
  | ignored (s : Sending) (posted : Posted) (id : UInt16) (round : Round)
      (reads : readAck posted.packet.bytes = some (id, round))
      (unexpected : s.stage id = .idle ∨ ∃ number, s.stage id = .offered number ∧ round = .second) :
      Takes s posted s []
  | other (s : Sending) (posted : Posted) (answer : List (Sent Errand))
      (reads : readAck posted.packet.bytes = none) (unrelated : Unrelated answer) :
      Takes s posted s answer

/-- What it sends of its own accord. -/
inductive Offers : Sending → Sending → List (Sent Errand) → Prop where
  | offer (s : Sending) (id : UInt16) (sent : Sent Errand) (idle : s.stage id = .idle)
      (offering : Offering id s.next sent) :
      Offers s { s.set id (.offered s.next) with next := s.next + 1 } [sent]
  | offerAgain (s : Sending) (id : UInt16) (number : Nat) (sent : Sent Errand)
      (waiting : s.stage id = .offered number) (offering : Offering id number sent) :
      Offers s s [sent]
  | releaseAgain (s : Sending) (id : UInt16) (number : Nat) (sent : Sent Errand)
      (waiting : s.stage id = .released number) (releasing : Releasing id sent) :
      Offers s s [sent]
  | other (s : Sending) (sent : List (Sent Errand)) (unrelated : Unrelated sent) : Offers s s sent

/-- A broker that keeps the session. -/
def broker : Broker Errand where
  State := Sending
  initial := ⟨fun _ => .idle, 0⟩
  Takes := Takes
  Offers := Offers

end Sending

/-- The message whose PUBLISH was handled, if that dispatched it. -/
def Handled.dispatched (handled : Handled Errand) : Option (UInt16 × Nat) :=
  match handled.sent.tag, handled.callback with
  | .message id number, some (.dispatch _) => some (id, number)
  | _, _ => none

/-- The message whose PUBLISH was handled, if that was answered with its PUBREC. -/
def Handled.acknowledged (handled : Handled Errand) : Option (UInt16 × Nat) :=
  match handled.sent.tag with
  | .message id number =>
    if handled.queued.any fun packet => readAck packet.bytes = some (id, .first) then
      some (id, number)
    else none
  | _ => none

variable {cfg : Config}

/-- Every message is dispatched at most once, and none is acknowledged without:
neither by the PUBREC the client queues for it nor in the eyes of the broker. -/
structure ExactlyOnce (net : Net cfg Sending.broker) : Prop where
  once : (net.handled.filterMap Handled.dispatched).Nodup
  acknowledged : ∀ message ∈ net.handled.filterMap Handled.acknowledged,
    message ∈ net.handled.filterMap Handled.dispatched
  released : ∀ id number, Sending.stage net.state id = .released number →
    (id, number) ∈ net.handled.filterMap Handled.dispatched

/-! ## Acknowledgements on the wire -/

theorem readAck_pubrec {id : UInt16} (nonzero : id ≠ 0) :
    readAck (ackPacket .pubrec id) = some (id, .first) := by
  simp only [readAck, readPacket_ackPacket (show ({ type := .pubrec } : FixedHeader).Sendable
    by decide),
    decodePacketId_u16Bytes nonzero]

theorem readAck_pubcomp {id : UInt16} (nonzero : id ≠ 0) :
    readAck (ackPacket .pubcomp id) = some (id, .second) := by
  simp only [readAck, readPacket_ackPacket (show ({ type := .pubcomp } : FixedHeader).Sendable
    by decide),
    decodePacketId_u16Bytes nonzero]

/-- Other packets are not read as acknowledgements. -/
theorem readAck_of_leads {type : PacketType} {bytes : Bytes} (leads : Leads type bytes)
    (notPubrec : type ≠ .pubrec) (notPubcomp : type ≠ .pubcomp) : readAck bytes = none := by
  unfold readAck
  cases isPacket : readPacket bytes with
  | none => rfl
  | some packet =>
    obtain ⟨header, body⟩ := packet
    have isType : header.type = type := leads.readPacket_type isPacket
    rw [← isType] at notPubrec notPubcomp
    simp only
    split <;> simp_all

/-! ## What the client does with a packet -/

namespace Client

variable {c : Client cfg} {header : FixedHeader} {body : Bytes}

/-- A QoS 2 message is put off, recognized or delivered. -/
theorem message_cases {m : Message} (now : UInt32) (isPublish : header.type = .publish)
    (decoded : decodePublish header body = .ok m) (level : m.qos = .exactlyOnce) :
    let reaction := c.react (.handle header body now)
    (reaction.queued = [] ∧ reaction.callback = none ∧
      reaction.client.inboundIds = c.inboundIds) ∨
    (m.packetId ≠ 0 ∧ reaction.queued = [{ bytes := ackPacket .pubrec m.packetId }] ∧
      ((m.packetId ∈ c.inboundIds ∧ reaction.callback = none ∧
          reaction.client.inboundIds = c.inboundIds) ∨
        (m.packetId ∉ c.inboundIds ∧ reaction.callback = some (.dispatch m) ∧
          reaction.client.inboundIds = c.inboundIds ++ [m.packetId]))) := by
  have handled : c.react (.handle header body now) = c.handlePublish header body := by
    simp [react, handlePacket, isPublish]
  rw [handled]
  rcases c.handlePublish_cases header body with
    ⟨_, same, _⟩ | ⟨_, m', decoded', ⟨level', _⟩ | ⟨level', _⟩ | ⟨_, nonzero, same⟩⟩
  · exact .inl (by simp [same, refuse])
  all_goals
    obtain rfl : m = m' := Except.ok.inj (decoded.symm.trans decoded')
  · simp [level] at level'
  · simp [level] at level'
  · rw [same]
    rcases c.receiveExactlyOnce_cases m nonzero with
      ⟨known, _, _, _, outcome⟩ | ⟨unknown, _, _, _, _, outcome⟩ | ⟨_, _, _, _, _, outcome⟩
    · exact .inr ⟨nonzero, by simp [outcome], .inl (by simp [outcome, known])⟩
    · exact .inr ⟨nonzero, by simp [outcome], .inr (by simp [outcome, unknown])⟩
    · exact .inl (by simp [outcome])

/-- A release is put off or answered. -/
theorem release_cases {id : UInt16} (now : UInt32) (isPubrel : header.type = .pubrel)
    (decoded : decodePacketId body = .ok id) : let reaction := c.react (.handle header body now)
    (reaction.queued = [] ∧ reaction.client.inboundIds = c.inboundIds) ∨
    (id ≠ 0 ∧ reaction.queued = [{ bytes := ackPacket .pubcomp id }] ∧
      reaction.client.inboundIds = c.inboundIds.erase id) := by
  have handled : c.react (.handle header body now) = c.handlePubrel body := by
    simp [react, handlePacket, isPubrel]
  rw [handled]
  rcases c.handlePubrel_cases body with
    ⟨_, decoded', _⟩ | ⟨id', decoded', _, _, _, same⟩ | ⟨_, _, _, _, _, same⟩
  · cases decoded.symm.trans decoded'
  · obtain rfl : id = id' := Except.ok.inj (decoded.symm.trans decoded')
    exact .inr ⟨decodePacketId_nonzero decoded, by simp [same]⟩
  · exact .inl (by simp [same])

end Client

/-- The label has no part in a handshake the client receives. -/
def Label.standsAside : Label → Prop
  | .handle header _ _ =>
    header.type ≠ .pubrel ∧ (header.type = .publish → header.qos ≠ .exactlyOnce)
  | _ => True

/-- A message of another level is acknowledged by PUBACK at most. -/
theorem Client.puback_of_publish {c : Client cfg} {header : FixedHeader} {body : Bytes}
    (level : header.qos ≠ .exactlyOnce) {packet : Queued}
    (member : packet ∈ (c.handlePublish header body).queued) : Leads .puback packet.bytes := by
  rcases c.handlePublish_cases header body with
    ⟨_, same, _⟩ | ⟨_, m, decoded, ⟨_, same⟩ |
      ⟨_, _, ⟨_, _, _, same⟩ | ⟨_, _, _, same⟩⟩ | ⟨level', _, _⟩⟩
  · simp [same, refuse] at member
  · simp [same] at member
  · obtain rfl : packet = _ := by simpa [same] using member
    exact leads_ackPacket _ _
  · simp [same] at member
  · exact absurd ((decodePublish_ok decoded).1.symm.trans level') level

/-- Such a label acknowledges nothing. -/
theorem History.readAck_aside {log : Log cfg} (history : History log)
    {label : Label} (aside : label.standsAside) {packet : Queued}
    (member : packet ∈ (log.state.react label).queued) : readAck packet.bytes = none := by
  obtain ⟨type, isType, leads⟩ := history.queued_leads member
  cases label
  case handle header body now =>
    by_cases isPublish : header.type = .publish
    · have handled : log.state.react (.handle header body now) =
          log.state.handlePublish header body := by
        simp [Client.react, Client.handlePacket, isPublish]
      rw [handled] at member
      exact readAck_of_leads (Client.puback_of_publish (aside.2 isPublish) member) (by simp)
        (by simp)
    · refine readAck_of_leads leads ?_ ?_ <;>
        cases isHeader : header.type <;> simp_all [Label.queues, Label.standsAside]
  all_goals
    refine readAck_of_leads leads ?_ ?_ <;>
      rintro rfl <;> simp [Label.queues] at isType

/-- Such a label leaves the table alone, as long as sessions are kept. -/
theorem TableAgrees.aside {log : Log cfg} (agrees : TableAgrees log)
    {label : Label} (aside : label.standsAside) (keeps : label.KeepsSession) :
    (log.state.apply label).inboundIds = log.state.inboundIds := by
  cases log.state.apply_inboundEffect label with
  | kept same => exact same
  | delivered k _ _ _ delivery =>
    obtain ⟨m, received, level, _⟩ := ((delivery k).mpr rfl).receivesQos2.exists
    obtain ⟨header, body, now, rfl, isPublish, decoded⟩ := Label.received_eq_some received
    exact absurd ((decodePublish_ok decoded).1.symm.trans level) (aside.2 isPublish)
  | released k _ _ release =>
    obtain ⟨header, body, now, rfl, isPubrel, _⟩ := (release k).mpr rfl
    exact absurd isPubrel aside.1
  | discarded discards emptied =>
    rcases discards with ⟨opts, now, isConnect, clean⟩ | ⟨clean, _⟩
    · exact absurd clean (by simp [keeps opts now isConnect])
    · rw [emptied, (agrees.clean clean).2]

end Mqtt
