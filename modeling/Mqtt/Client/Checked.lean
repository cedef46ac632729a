import Mqtt.Client.Machine
import Mqtt.Wire.Views

/-!
# The client with its reads checked

The pieces of client code that read a table or the receive buffer by position, with
every such read made against the table as it is at that moment: one that is out of
range makes the piece fail. Walks over a whole table stay walks.
-/

namespace Mqtt.Checked

open Library

variable {cfg : Config}

/-! ## Outbound slots -/

def freeOutboundSlot (c : Client cfg) : Option (Option Nat) :=
  scan c.outbound (fun slot => slot.phase = .free) 0 cfg.maxInflightOut

def findOutbound (c : Client cfg) (id : UInt16) : Option (Option Nat) :=
  scan c.outbound (fun slot => slot.phase ≠ .free && slot.packetId = id) 0 cfg.maxInflightOut

/-- The bytes of the slot's buffer that its length field names. -/
def stored (slot : OutboundSlot) : Option Bytes := Span.read ⟨0, slot.packetLen.toNat⟩ slot.packet

def markDup (slot : OutboundSlot) : Option OutboundSlot :=
  if slot.packetLen = 0 then some slot
  else do
    let first : UInt8 ← slot.packet[0]?
    if (first >>> 4) &&& 0x0F = PacketType.publish.toNibble then
      some { slot with packet := slot.packet.set 0 (first ||| 0x08) }
    else some slot

/-! ## Packet handlers -/

def handleConnack (c : Client cfg) (body : Span) : Option (Reaction cfg) :=
  if c.state ≠ .awaitingConnack then some (c.refuse .protocolViolation)
  else do
    match ← decodeConnack c.rx body with
    | .error error => some (c.refuse error)
    | .ok info =>
      let c := { c with connack := info }
      if info.code ≠ .accepted then some (c.refuse .connectionRefused)
      else
        let c := { c with state := .connected, pingOutstanding := false, retransmitNow := true }
        some
          { callback := some (.onConnect info)
            client := if info.sessionPresent then c else c.markAllForResub }

/-- What a packet handler did, and the message it hands over if it ends so. -/
structure Handled (cfg : Config) where
  reaction : Reaction cfg
  message : Option MessageView := none

def handlePublish (c : Client cfg) (h : FixedHeader) (body : Span) : Option (Handled cfg) :=
  if c.state ≠ .connected then some { reaction := c.refuse .protocolViolation }
  else do
    match ← decodePublish c.rx h body with
    | .error error => some { reaction := c.refuse error }
    | .ok view =>
      let m ← view.read c.rx
      match m.qos with
      | .atMostOnce =>
        some { reaction := { callback := some (.dispatch m), client := c }, message := some view }
      | .atLeastOnce =>
        match c.sendAck .puback m.packetId with
        | (.error _, c) => some { reaction := { client := c.countBackpressure } }
        | (.ok bytes, c) =>
          some
            { reaction :=
                { queued := [{ bytes := bytes }], callback := some (.dispatch m), client := c }
              message := some view }
      | .exactlyOnce => some { reaction := c.receiveExactlyOnce m, message := some view }
      | .outOfRange _ => some { reaction := c.refuse .protocolViolation }

def completeDelivery (c : Client cfg) (body : Span) (awaited : Phase) : Option (Reaction cfg) := do
  match ← decodePacketId c.rx body with
  | .error error => some (c.refuse error)
  | .ok id =>
    match ← findOutbound c id with
    | none => some { client := c }
    | some index =>
      let slot ← c.outbound[index]?
      if slot.phase ≠ awaited then some { client := c }
      else some { callback := some (.onDelivery id), client := c.setSlot index slot.release }

def sendPubrel (c : Client cfg) (index : Nat) (now : UInt32) : Option (Reaction cfg) := do
  let slot ← c.outbound[index]?
  let bytes ← stored slot
  match c.enqueue bytes with
  | (.ok, c) =>
    some
      { queued := [{ slot := some index, bytes := bytes }]
        readClock := true
        client := c.setSlot index { slot with lastSentMs := now } }
  | (_, c) => some { client := c.countBackpressure }

def handlePubrec (c : Client cfg) (body : Span) (now : UInt32) : Option (Reaction cfg) := do
  match ← decodePacketId c.rx body with
  | .error error => some (c.refuse error)
  | .ok id =>
    match ← findOutbound c id with
    | none => some { client := c }
    | some index =>
      let slot ← c.outbound[index]?
      if slot.phase = .waitPubrec then
        let encoded := encodeAck slot.packet.length .pubrel id
        let slot := { slot with packet := overwrite slot.packet encoded.2 }
        match encoded.1 with
        | .error error => some ((c.setSlot index slot).refuse error)
        | .ok count =>
          sendPubrel
            (c.setSlot index { slot with packetLen := UInt16.ofNat count, phase := .waitPubcomp })
            index now
      else if slot.phase = .waitPubcomp then sendPubrel c index now
      else some { client := c }

def handlePubrel (c : Client cfg) (body : Span) : Option (Reaction cfg) := do
  match ← decodePacketId c.rx body with
  | .error error => some (c.refuse error)
  | .ok id =>
    match c.sendAck .pubcomp id with
    | (.error _, c) => some { client := c.countBackpressure }
    | (.ok bytes, c) => some { queued := [{ bytes := bytes }], client := c.inboundRemove id }

/-- The request at a position of the table of pending acknowledgements. -/
def findPending (c : Client cfg) (id : UInt16) (expected : PacketType) : Option Nat :=
  c.pending.findIdx? fun a => a.packetId = id && a.expected = expected

/-- Walk over the subscriptions a request covers, `left` of them from `index` on. The
request is looked up at its position every time. -/
def walkSubs (position : Nat) (change : Nat → UInt16 → Client cfg → Option (Client cfg)) :
    Nat → Nat → Client cfg → Option (Client cfg)
  | _, 0, c => some c
  | index, left + 1, c => do
    let ack ← c.pending[position]?
    let sid ← ack.subs[index]?
    walkSubs position change (index + 1) left (← change index sid c)

/-- Retire the request at a position. -/
def removePending (c : Client cfg) (position : Nat) : Option (Client cfg) :=
  if position < c.pending.length then some { c with pending := c.pending.eraseIdx position }
  else none

def handleSuback (c : Client cfg) (body : Span) : Option (Reaction cfg) := do
  match ← decodeSuback c.rx body with
  | .error error => some (c.refuse error)
  | .ok (packetId, codes) =>
    match findPending c packetId .suback with
    | none => some { client := c }
    | some position =>
      let ack ← c.pending[position]?
      if codes.size ≠ ack.subs.length then some (c.refuse .protocolViolation)
      else
        let c ← walkSubs position
          (fun index sid c => do some (c.applyReturnCode (← codes.get c.rx index, sid)))
          0 codes.size c
        let c ← removePending c position
        some { callback := some (.onSuback packetId (← codes.read c.rx)), client := c }

def handleUnsuback (c : Client cfg) (body : Span) : Option (Reaction cfg) := do
  match ← decodePacketId c.rx body with
  | .error error => some (c.refuse error)
  | .ok id =>
    match findPending c id .unsuback with
    | none => some { client := c }
    | some position =>
      let ack ← c.pending[position]?
      let c ← walkSubs position (fun _ sid c => some (c.eraseSubscription sid)) 0 ack.subs.length c
      some { client := ← removePending c position }

def handlePacket (c : Client cfg) (h : FixedHeader) (body : Span) (now : UInt32) :
    Option (Handled cfg) :=
  match h.type with
  | .connack => do some { reaction := ← handleConnack c body }
  | .publish => handlePublish c h body
  | .puback => do some { reaction := ← completeDelivery c body .waitPuback }
  | .pubrec => do some { reaction := ← handlePubrec c body now }
  | .pubrel => do some { reaction := ← handlePubrel c body }
  | .pubcomp => do some { reaction := ← completeDelivery c body .waitPubcomp }
  | .suback => do some { reaction := ← handleSuback c body }
  | .unsuback => do some { reaction := ← handleUnsuback c body }
  | .pingresp =>
    if body.size ≠ 0 then some { reaction := c.refuse .malformedPacket }
    else some { reaction := { client := { c with pingOutstanding := false } } }
  | .connect | .subscribe | .unsubscribe | .pingreq | .disconnect | .reserved =>
    some { reaction := c.refuse .protocolViolation }

/-! ## Publishing and retransmission -/

def publishInto (c : Client cfg) (index : Nat) (id : UInt16) (topic payload : Bytes) (qos : QoS)
    (retain : Bool) (now : UInt32) : Option (Reaction cfg) := do
  let slot ← c.outbound[index]?
  let encoded := encodePublish slot.packet.length topic payload qos retain false id
  let slot := { slot with packet := overwrite slot.packet encoded.2 }
  let c := c.setSlot index slot
  match encoded.1 with
  | .error error => some (c.refuse (if error = .bufferTooSmall then .payloadTooLarge else error))
  | .ok count =>
    let bytes ← Span.read ⟨0, count⟩ slot.packet
    match c.enqueue bytes with
    | (.ok, c) =>
      some
        { queued := [{ slot := some index, bytes := bytes }]
          packetId := some id
          readClock := true
          client := c.setSlot index
            { slot with
              packetId := id
              packetLen := UInt16.ofNat count
              qos := qos
              phase := if qos = .atLeastOnce then .waitPuback else .waitPubrec
              lastSentMs := now } }
    | (error, c) => some (c.refuse error)

def publish (c : Client cfg) (topic payload : Bytes) (qos : QoS) (retain : Bool) (now : UInt32) :
    Option (Reaction cfg) :=
  if c.state ≠ .connected then some (c.refuse .notConnected)
  else if !isValidTopicName topic then some (c.refuse .invalidArgument)
  else if topic.length > cfg.maxTopicLen then some (c.refuse .topicTooLong)
  else if qos = .atMostOnce then some (c.publishUntracked topic payload qos retain)
  else if cfg.maxInflightOut = 0 then some (c.refuse .notSupported)
  else do
    match ← freeOutboundSlot c with
    | none => some (c.refuse .noInflightSlot)
    | some index =>
      let (id, c) := c.allocPacketId
      if id = 0 then some (c.refuse .noInflightSlot)
      else publishInto c index id topic payload qos retain now

def retransmitSlot (forced : Bool) (now : UInt32) (reaction : Reaction cfg) (index : Nat) :
    Option (Reaction cfg) := do
  let c := reaction.client
  let slot ← c.outbound[index]?
  if Client.retransmitDue cfg forced now slot then
    let slot ← markDup slot
    let c := c.setSlot index slot
    let bytes ← stored slot
    match c.enqueue bytes with
    | (.ok, c) =>
      some
        { reaction with
          queued := reaction.queued ++ [{ slot := some index, bytes := bytes }]
          client := c.setSlot index { slot with lastSentMs := now } }
    | (_, c) => some { reaction with client := c }
  else some reaction

def pumpRetransmit (c : Client cfg) (now : UInt32) : Option (Reaction cfg) :=
  let forced := c.retransmitNow
  let c := { c with retransmitNow := false }
  if cfg.retryIntervalMs = 0 ∧ !forced then some { client := c }
  else
    (List.range cfg.maxInflightOut).foldlM (retransmitSlot forced now)
      { readClock := true, client := c }

end Mqtt.Checked
