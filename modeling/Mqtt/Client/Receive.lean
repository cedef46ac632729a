import Mqtt.Client.Calls

/-!
# Packet handlers

What the client does with one complete inbound packet, up to the handler it
ends by invoking. In the source every application callback stands in tail
position of its packet handler, so a packet handler is an update of the client
followed by at most one callback.
-/

namespace Mqtt

namespace Client

variable {cfg : Config}

/-- Queue an acknowledgement. -/
def sendAck (c : Client cfg) (type : PacketType) (id : UInt16) : Result Bytes × Client cfg :=
  c.enqueueSized (packetSize 2) (encodeAck · type id)

def countBackpressure (c : Client cfg) : Client cfg :=
  { c with txBackpressureCount := c.txBackpressureCount + 1 }

def handleConnack (c : Client cfg) (body : Bytes) : Reaction cfg :=
  if c.state ≠ .awaitingConnack then c.refuse .protocolViolation
  else
    match decodeConnack body with
    | .error error => c.refuse error
    | .ok info =>
      let c := { c with connack := info }
      if info.code ≠ .accepted then c.refuse .connectionRefused
      else
        let c := { c with state := .connected, pingOutstanding := false, retransmitNow := true }
        { callback := some (.onConnect info)
          client := if info.sessionPresent then c else c.markAllForResub }

/-- An inbound QoS 2 message: acknowledged and delivered once, and remembered
until its PUBREL. -/
def receiveExactlyOnce (c : Client cfg) (m : Message) : Reaction cfg :=
  if c.inboundContains m.packetId then
    match c.sendAck .pubrec m.packetId with
    | (.error _, c) => { client := c.countBackpressure }
    | (.ok bytes, c) => { queued := [{ bytes := bytes }], client := c }
  else if c.inboundTableFull then
    { client := { c with inboundOverflowCount := c.inboundOverflowCount + 1 } }
  else
    match c.sendAck .pubrec m.packetId with
    | (.error _, c) => { client := c.countBackpressure }
    | (.ok bytes, c) =>
      { queued := [{ bytes := bytes }]
        callback := some (.dispatch m)
        client := { c with inboundIds := c.inboundIds ++ [m.packetId] } }

def handlePublish (c : Client cfg) (h : FixedHeader) (body : Bytes) : Reaction cfg :=
  if c.state ≠ .connected then c.refuse .protocolViolation
  else
    match decodePublish h body with
    | .error error => c.refuse error
    | .ok m =>
      match m.qos with
      | .atMostOnce => { callback := some (.dispatch m), client := c }
      | .atLeastOnce =>
        match c.sendAck .puback m.packetId with
        | (.error _, c) => { client := c.countBackpressure }
        | (.ok bytes, c) =>
          { queued := [{ bytes := bytes }], callback := some (.dispatch m), client := c }
      | .exactlyOnce => c.receiveExactlyOnce m
      | .outOfRange _ => c.refuse .protocolViolation

/-- PUBACK and PUBCOMP: the last acknowledgement of a message, honoured only in
the phase that waits for it. -/
def completeDelivery (c : Client cfg) (body : Bytes) (awaited : Phase) : Reaction cfg :=
  match decodePacketId body with
  | .error error => c.refuse error
  | .ok id =>
    match c.findOutbound id with
    | none => { client := c }
    | some index =>
      if (c.slotAt index).phase ≠ awaited then { client := c }
      else
        { callback := some (.onDelivery id)
          client := c.setSlot index (c.slotAt index).release }

def handlePuback (c : Client cfg) (body : Bytes) : Reaction cfg :=
  c.completeDelivery body .waitPuback

def handlePubcomp (c : Client cfg) (body : Bytes) : Reaction cfg :=
  c.completeDelivery body .waitPubcomp

/-- Put a slot's stored PUBREL on the queue. The clock is stamped only when it
went out; otherwise the slot keeps it for a retransmission. -/
def sendPubrel (c : Client cfg) (index : Nat) (now : UInt32) : Reaction cfg :=
  let slot := c.slotAt index
  match c.enqueue slot.stored with
  | (.ok, c) =>
    { queued := [{ slot := some index, bytes := slot.stored }]
      readClock := true
      client := c.setSlot index { slot with lastSentMs := now } }
  | (_, c) => { client := c.countBackpressure }

def handlePubrec (c : Client cfg) (body : Bytes) (now : UInt32) : Reaction cfg :=
  match decodePacketId body with
  | .error error => c.refuse error
  | .ok id =>
    match c.findOutbound id with
    | none => { client := c }
    | some index =>
      let slot := c.slotAt index
      if slot.phase = .waitPubrec then
        -- The PUBREL overwrites the PUBLISH in the slot's buffer.
        let encoded := encodeAck slot.packet.length .pubrel id
        let slot := { slot with packet := overwrite slot.packet encoded.2 }
        match encoded.1 with
        | .error error => (c.setSlot index slot).refuse error
        | .ok count =>
          (c.setSlot index
            { slot with packetLen := UInt16.ofNat count, phase := .waitPubcomp }).sendPubrel
            index now
      else if slot.phase = .waitPubcomp then c.sendPubrel index now
      else { client := c }

def handlePubrel (c : Client cfg) (body : Bytes) : Reaction cfg :=
  match decodePacketId body with
  | .error error => c.refuse error
  | .ok id =>
    match c.sendAck .pubcomp id with
    | (.error _, c) => { client := c.countBackpressure }
    | (.ok bytes, c) => { queued := [{ bytes := bytes }], client := c.inboundRemove id }

/-- Apply one SUBACK return code to the subscription it is about. -/
def applyReturnCode (c : Client cfg) (answer : UInt8 × UInt16) : Client cfg :=
  if answer.1 = kSubackFailure then c.eraseSubscription answer.2
  else c.updateBySubId answer.2 fun s => { s with grantedQos := answer.1, needsResub := false }

def handleSuback (c : Client cfg) (body : Bytes) : Reaction cfg :=
  match decodeSuback body with
  | .error error => c.refuse error
  | .ok v =>
    match c.findPending v.packetId .suback with
    | none => { client := c }
    | some ack =>
      if v.returnCodes.length ≠ ack.subs.length then c.refuse .protocolViolation
      else
        { callback := some (.onSuback v.packetId v.returnCodes)
          client := ((v.returnCodes.zip ack.subs).foldl applyReturnCode c).removePending
            v.packetId .suback }

def handleUnsuback (c : Client cfg) (body : Bytes) : Reaction cfg :=
  match decodePacketId body with
  | .error error => c.refuse error
  | .ok id =>
    match c.findPending id .unsuback with
    | none => { client := c }
    | some ack => { client := (ack.subs.foldl eraseSubscription c).removePending id .unsuback }

def handlePingresp (c : Client cfg) (body : Bytes) : Reaction cfg :=
  if !body.isEmpty then c.refuse .malformedPacket
  else { client := { c with pingOutstanding := false } }

/-- Hand one complete packet to the handler for its type. -/
def handlePacket (c : Client cfg) (h : FixedHeader) (body : Bytes) (now : UInt32) : Reaction cfg :=
  match h.type with
  | .connack => c.handleConnack body
  | .publish => c.handlePublish h body
  | .puback => c.handlePuback body
  | .pubrec => c.handlePubrec body now
  | .pubrel => c.handlePubrel body
  | .pubcomp => c.handlePubcomp body
  | .suback => c.handleSuback body
  | .unsuback => c.handleUnsuback body
  | .pingresp => c.handlePingresp body
  | .connect | .subscribe | .unsubscribe | .pingreq | .disconnect | .reserved =>
    c.refuse .protocolViolation

end Client
end Mqtt
