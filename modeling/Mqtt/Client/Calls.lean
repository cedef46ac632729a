import Mqtt.Client.State

/-!
# Application calls

The calls an application makes on the client, each up to the point where it
would run a handler. None of these runs one, so each is a function from the
state before the call to a `Reaction`. The clock is read at most once per call;
`readClock` says whether it was.
-/

namespace Mqtt

/-- A handler the client is about to invoke, with its arguments. -/
inductive Callback where
  | onConnect (info : ConnackInfo)
  | dispatch (message : Message)
  | onDelivery (id : UInt16)
  | onSuback (id : UInt16) (returnCodes : Bytes)
  | onDisconnect (reason : Error)
  deriving DecidableEq, Repr

/-- A packet put on the transmit queue, with the outbound slot it was copied
from when there is one. -/
structure Queued where
  slot : Option Nat := none
  bytes : Bytes
  deriving DecidableEq, Repr

/-- What one uninterrupted piece of client code did. -/
structure Reaction (cfg : Config) where
  error : Error := .ok
  queued : List Queued := []
  callback : Option Callback := none
  packetId : Option UInt16 := none
  readClock : Bool := false
  client : Client cfg

/-- Total size of a packet with this remaining length. -/
def packetSize (remainingLength : Nat) : Nat :=
  let vbiSizeC :=
    if remainingLength < 128 then 1
    else if remainingLength < 16384 then 2
    else if remainingLength < 2097152 then 3
    else 4
  1 + vbiSizeC + remainingLength

namespace Client

variable {cfg : Config}

/-- Report an error and leave the client as given. -/
def refuse (c : Client cfg) (error : Error) : Reaction cfg := { error := error, client := c }

/-- Copy a whole packet onto the queue. -/
def enqueue (c : Client cfg) (bytes : Bytes) : Error × Client cfg :=
  let reserved := c.tx.reserve bytes.length
  if reserved.1 then
    (.ok, { c with tx := (reserved.2.write bytes).commit bytes.length })
  else (.txQueueFull, { c with tx := reserved.2 })

/-- Reserve `size` bytes and let `encode` write straight into the queue; the
value is the packet that was committed. -/
def enqueueSized (c : Client cfg) (size : Nat) (encode : Nat → Result Nat × Bytes) :
    Result Bytes × Client cfg :=
  if size > cfg.txBufferSize then (.error .bufferTooSmall, c)
  else
    let reserved := c.tx.reserve size
    if reserved.1 then
      let encoded := encode size
      match encoded.1 with
      | .error error => (.error error, { c with tx := reserved.2.write encoded.2 })
      | .ok count =>
        (.ok encoded.2, { c with tx := (reserved.2.write encoded.2).commit count })
    else (.error .txQueueFull, { c with tx := reserved.2 })

/-- The client with its buffers emptied for a new connection, and without the
session the options discard. -/
def prepare (c : Client cfg) (opts : ConnectOptions) : Client cfg :=
  let cleared := { c with tx := c.tx.clear, rx := [] }
  if opts.cleanSession then cleared.resetSessionState else cleared

/-- The part of `connect` after the options passed their checks: size the CONNECT,
empty the buffers, serialize it, and start the handshake. -/
def beginConnect (c : Client cfg) (opts : ConnectOptions) (now : UInt32) : Reaction cfg :=
  match connectRemainingLength opts with
  | .error error => c.refuse error
  | .ok remainingLength =>
    match (c.prepare opts).enqueueSized (packetSize remainingLength) (encodeConnect · opts) with
    | (.error error, c) => c.refuse error
    | (.ok bytes, c) =>
      { queued := [{ bytes := bytes }]
        readClock := true
        client :=
          { c with
            cleanSession := opts.cleanSession
            keepAliveMs := opts.keepAliveS.toUInt32 * 1000
            connack := {}
            lastError := .ok
            connectStartedMs := now
            lastSentMs := now
            lastReceivedMs := now
            pingOutstanding := false
            state := .connecting } }

/-- Begin connecting. The CONNECT packet is serialized at once. -/
def connect (c : Client cfg) (opts : ConnectOptions) (now : UInt32) : Reaction cfg :=
  if c.state ≠ .idle then c.refuse .alreadyConnected
  else if opts.clientId.length > cfg.maxClientIdLen then c.refuse .invalidArgument
  else if opts.username.length > cfg.maxUsernameLen then c.refuse .invalidArgument
  else if opts.password.length > cfg.maxPasswordLen then c.refuse .invalidArgument
  else if opts.will.valid ∧ !isValidTopicName opts.will.topic then c.refuse .invalidArgument
  else if opts.clientId.isEmpty ∧ !opts.cleanSession then c.refuse .invalidArgument
  else c.beginConnect opts now

/-- End the session, and notify if there was one. -/
def shutdown (c : Client cfg) (reason : Error) : Reaction cfg where
  error := reason
  callback := if c.state ≠ .idle then some (.onDisconnect reason) else none
  client := c.teardown reason

/-- Queue a DISCONNECT and close once it has gone out. When none can be queued
this is a hard close. -/
def disconnect (c : Client cfg) : Reaction cfg :=
  if c.state = .idle then c.refuse .notConnected
  else if c.state = .connected then
    match c.enqueueSized (packetSize 0) (encodeEmpty · .disconnect) with
    | (.error _, c) => c.shutdown .ok
    | (.ok bytes, c) =>
      { queued := [{ bytes := bytes }], client := { c with state := .disconnecting } }
  else c.shutdown .ok

/-- Drop the connection without a DISCONNECT. -/
def abort (c : Client cfg) : Reaction cfg := c.shutdown .transportClosed

/-- QoS 0: straight into the transmit queue. -/
def publishUntracked (c : Client cfg) (topic payload : Bytes) (qos : QoS) (retain : Bool) :
    Reaction cfg :=
  match publishRemainingLength topic payload.length qos with
  | .error error => c.refuse error
  | .ok remainingLength =>
    match c.enqueueSized (packetSize remainingLength)
        (encodePublish · topic payload qos retain false 0) with
    | (.error error, c) => c.refuse error
    | (.ok bytes, c) => { queued := [{ bytes := bytes }], client := c }

/-- QoS > 0, with the slot and the id it gets: serialize into the slot's
retransmission buffer, queue a copy, and only then mark the slot in use. -/
def publishInto (c : Client cfg) (index : Nat) (id : UInt16) (topic payload : Bytes) (qos : QoS)
    (retain : Bool) (now : UInt32) : Reaction cfg :=
  let slot := c.slotAt index
  let encoded := encodePublish slot.packet.length topic payload qos retain false id
  let slot := { slot with packet := overwrite slot.packet encoded.2 }
  let c := c.setSlot index slot
  match encoded.1 with
  | .error error => c.refuse (if error = .bufferTooSmall then .payloadTooLarge else error)
  | .ok count =>
    match c.enqueue (slot.packet.take count) with
    | (.ok, c) =>
      { queued := [{ slot := some index, bytes := slot.packet.take count }]
        packetId := some id
        readClock := true
        client := c.setSlot index
          { slot with
            packetId := id
            packetLen := UInt16.ofNat count
            qos := qos
            phase := if qos = .atLeastOnce then .waitPuback else .waitPubrec
            lastSentMs := now } }
    | (error, c) => c.refuse error

/-- Publish a message. -/
def publish (c : Client cfg) (topic payload : Bytes) (qos : QoS) (retain : Bool)
    (now : UInt32) : Reaction cfg :=
  if c.state ≠ .connected then c.refuse .notConnected
  else if !isValidTopicName topic then c.refuse .invalidArgument
  else if topic.length > cfg.maxTopicLen then c.refuse .topicTooLong
  else if qos = .atMostOnce then c.publishUntracked topic payload qos retain
  else if cfg.maxInflightOut = 0 then c.refuse .notSupported
  else
    match c.freeOutboundSlot with
    | none => c.refuse .noInflightSlot
    | some index =>
      let (id, c) := c.allocPacketId
      if id = 0 then c.refuse .noInflightSlot
      else c.publishInto index id topic payload qos retain now

/-- Register one requested filter: refresh the entry it has, or add one. The
accumulator carries the identities the acknowledgement will name. -/
def registerFilter (handler : Option Nat) (state : Client cfg × List UInt16)
    (s : TopicSubscription) : Client cfg × List UInt16 :=
  let (c, subs) := state
  match c.findSubscription s.filter with
  | some index =>
    ({ c with
       subscriptions := c.subscriptions.modify index fun existing =>
         { existing with requestedQos := s.qos, handler := handler, needsResub := false } },
     subs ++ [(c.subscriptions.getD index { filter := [] }).subId])
  | none =>
    let (sid, c) := c.allocSubId
    ({ c with
       subscriptions := c.subscriptions ++
         [{ filter := s.filter, handler := handler, subId := sid, requestedQos := s.qos,
            grantedQos := 0, needsResub := false }] },
     subs ++ [sid])

/-- The per-filter validation of a SUBSCRIBE; `ok` when every filter passes. -/
def checkFilters : List TopicSubscription → Nat → Error
  | [], _ => .ok
  | s :: rest, maxTopicLen =>
    if !isValidFilter s.filter then .invalidArgument
    else if s.filter.length > maxTopicLen then .topicTooLong
    else checkFilters rest maxTopicLen

/-- How many entries the request would add, each filter counted on its own. -/
def newEntries (c : Client cfg) (subs : List TopicSubscription) : Nat :=
  subs.countP fun s => (c.findSubscription s.filter).isNone

/-- Queue the SUBSCRIBE and, once it is queued, register its filters. -/
def sendSubscribe (c : Client cfg) (id : UInt16) (remainingLength : Nat)
    (subs : List TopicSubscription) (handler : Option Nat) (now : UInt32) : Reaction cfg :=
  match c.enqueueSized (packetSize remainingLength) (encodeSubscribe · id subs) with
  | (.error error, c) => c.refuse error
  | (.ok bytes, c) =>
    let (c, ids) := subs.foldl (registerFilter handler) (c, [])
    { queued := [{ bytes := bytes }]
      packetId := some id
      readClock := true
      client := { c with
        pending := c.pending ++
          [{ subs := ids, sentMs := now, packetId := id, expected := .suback }] } }

/-- Subscribe to several filters in one packet. -/
def subscribe (c : Client cfg) (subs : List TopicSubscription) (handler : Option Nat)
    (now : UInt32) : Reaction cfg :=
  if c.state ≠ .connected then c.refuse .notConnected
  else if subs.isEmpty ∨ subs.length > cfg.maxTopicsPerRequest then c.refuse .invalidArgument
  else if checkFilters subs cfg.maxTopicLen ≠ .ok then
    c.refuse (checkFilters subs cfg.maxTopicLen)
  else if c.ackTableFull then c.refuse .noPendingAckSlot
  else if c.subscriptions.length + c.newEntries subs > cfg.maxSubscriptions then
    c.refuse .noSubscriptionSlot
  else
    match subscribeRemainingLength subs with
    | .error error => c.refuse error
    | .ok remainingLength =>
      let (id, c) := c.allocPacketId
      if id = 0 then c.refuse .noPendingAckSlot
      else c.sendSubscribe id remainingLength subs handler now

/-- The identities of the filters that are in the table. -/
def knownSubIds (c : Client cfg) (filters : List Bytes) : List UInt16 :=
  filters.filterMap fun f => (c.subscriptions.find? fun s => s.filter = f).map (·.subId)

/-- Queue the UNSUBSCRIBE and remember which entries its acknowledgement ends. -/
def sendUnsubscribe (c : Client cfg) (id : UInt16) (remainingLength : Nat)
    (filters : List Bytes) (now : UInt32) : Reaction cfg :=
  match c.enqueueSized (packetSize remainingLength) (encodeUnsubscribe · id filters) with
  | (.error error, c) => c.refuse error
  | (.ok bytes, c) =>
    { queued := [{ bytes := bytes }]
      packetId := some id
      readClock := true
      client := { c with
        pending := c.pending ++
          [{ subs := c.knownSubIds filters, sentMs := now, packetId := id,
             expected := .unsuback }] } }

/-- Unsubscribe from several filters. The entries are removed on UNSUBACK. -/
def unsubscribe (c : Client cfg) (filters : List Bytes) (now : UInt32) : Reaction cfg :=
  if c.state ≠ .connected then c.refuse .notConnected
  else if filters.isEmpty ∨ filters.length > cfg.maxTopicsPerRequest then
    c.refuse .invalidArgument
  else if c.ackTableFull then c.refuse .noPendingAckSlot
  else
    match unsubscribeRemainingLength filters with
    | .error error => c.refuse error
    | .ok remainingLength =>
      let (id, c) := c.allocPacketId
      if id = 0 then c.refuse .noPendingAckSlot
      else c.sendUnsubscribe id remainingLength filters now

end Client
end Mqtt
