import Mqtt.Client.Config
import Mqtt.Client.TxQueue
import Mqtt.Wire.Codec

/-!
# The client's state and its tables

The receive buffer is modelled by the bytes it holds: the first `rx_len_` bytes
of the source's array, whose other bytes are never read. A slot's buffer is
modelled whole, because a failed encode overwrites it. The single residual slot
that storage keeps when `max_inflight_out` is zero is unreachable and left out.
-/

namespace Mqtt

/-- Connection lifecycle. -/
inductive State where
  | idle
  | connecting
  | awaitingConnack
  | connected
  | disconnecting
  deriving DecidableEq, Repr

/-- How far an outbound QoS > 0 message has come. -/
inductive Phase where
  | free
  | waitPuback
  | waitPubrec
  | waitPubcomp
  deriving DecidableEq, Repr

/-- One outbound QoS > 0 message and the bytes to retransmit for it. -/
structure OutboundSlot where
  packet : Bytes
  packetId : UInt16 := 0
  packetLen : UInt16 := 0
  lastSentMs : UInt32 := 0
  qos : QoS := .atMostOnce
  phase : Phase := .free
  deriving DecidableEq, Repr

/-- The bytes a retransmission puts on the queue. -/
def OutboundSlot.stored (slot : OutboundSlot) : Bytes := slot.packet.take slot.packetLen.toNat

/-- One remembered filter. A handler is the identity of a bound delegate. -/
structure Subscription where
  filter : Bytes
  handler : Option Nat := none
  subId : UInt16 := 0
  requestedQos : QoS := .atMostOnce
  grantedQos : UInt8 := 0
  needsResub : Bool := false
  deriving DecidableEq, Repr

/-- A SUBSCRIBE or UNSUBSCRIBE awaiting its acknowledgement, with the ids of the
subscriptions it covers in wire order. -/
structure PendingAck where
  subs : List UInt16 := []
  sentMs : UInt32 := 0
  packetId : UInt16 := 0
  expected : PacketType := .reserved
  deriving DecidableEq, Repr

/-- Everything the client remembers. -/
structure Client (cfg : Config) where
  tx : TxQueue cfg.txBufferSize
  rx : Bytes
  outbound : List OutboundSlot
  inboundIds : List UInt16
  subscriptions : List Subscription
  pending : List PendingAck
  connack : ConnackInfo
  state : State
  lastError : Error
  inStep : Bool
  keepAliveMs : UInt32
  lastSentMs : UInt32
  lastReceivedMs : UInt32
  pingSentMs : UInt32
  connectStartedMs : UInt32
  inboundOverflowCount : UInt32
  txBackpressureCount : UInt32
  nextPacketId : UInt16
  nextSubId : UInt16
  pingOutstanding : Bool
  cleanSession : Bool
  retransmitNow : Bool

/-- Wrap-safe elapsed time. -/
def elapsedMs (now since : UInt32) : UInt32 := now - since

/-- Overwrite the front of a buffer. -/
def overwrite (buffer bytes : Bytes) : Bytes := bytes ++ buffer.drop bytes.length

namespace Client

variable {cfg : Config}

/-- The client as constructed. -/
def initial (cfg : Config) : Client cfg where
  tx := TxQueue.initial cfg.txBufferSize
  rx := []
  outbound := List.replicate cfg.maxInflightOut
    { packet := List.replicate cfg.kPersistSize 0 }
  inboundIds := []
  subscriptions := []
  pending := []
  connack := {}
  state := .idle
  lastError := .ok
  inStep := false
  keepAliveMs := 0
  lastSentMs := 0
  lastReceivedMs := 0
  pingSentMs := 0
  connectStartedMs := 0
  inboundOverflowCount := 0
  txBackpressureCount := 0
  nextPacketId := 0
  nextSubId := 0
  pingOutstanding := false
  cleanSession := true
  retransmitNow := false

/-! ## Capacity tests -/

def ackTableFull (c : Client cfg) : Bool := c.pending.length ≥ cfg.maxPendingAcks

def inboundTableFull (c : Client cfg) : Bool := c.inboundIds.length ≥ cfg.maxInflightIn

/-! ## Outbound slots -/

/-- Index of the first free slot. -/
def freeOutboundSlot (c : Client cfg) : Option Nat :=
  c.outbound.findIdx? fun slot => slot.phase = .free

/-- Index of the slot in flight under this packet id. -/
def findOutbound (c : Client cfg) (id : UInt16) : Option Nat :=
  c.outbound.findIdx? fun slot => slot.phase ≠ .free && slot.packetId = id

/-- The slot at an index the two searches returned. -/
def slotAt (c : Client cfg) (index : Nat) : OutboundSlot :=
  c.outbound.getD index { packet := [] }

def setSlot (c : Client cfg) (index : Nat) (slot : OutboundSlot) : Client cfg :=
  { c with outbound := c.outbound.set index slot }

end Client

/-- Give a slot back. Its buffer keeps its bytes. -/
def OutboundSlot.release (slot : OutboundSlot) : OutboundSlot :=
  { slot with phase := .free, packetId := 0, packetLen := 0 }

/-- Set the DUP flag on a stored PUBLISH; other packets have no such flag. -/
def OutboundSlot.markDup (slot : OutboundSlot) : OutboundSlot :=
  if slot.packetLen = 0 then slot
  else
    match slot.packet with
    | [] => slot
    | first :: rest =>
      if (first >>> 4) &&& 0x0F = PacketType.publish.toNibble then
        { slot with packet := (first ||| 0x08) :: rest }
      else slot

namespace Client

variable {cfg : Config}

/-! ## Inbound ids -/

def inboundContains (c : Client cfg) (id : UInt16) : Bool := c.inboundIds.contains id

/-- Forget one id, if it is there. -/
def inboundRemove (c : Client cfg) (id : UInt16) : Client cfg :=
  { c with inboundIds := c.inboundIds.erase id }

/-! ## Subscriptions and pending acknowledgements -/

/-- Index of the entry for this filter. -/
def findSubscription (c : Client cfg) (filter : Bytes) : Option Nat :=
  c.subscriptions.findIdx? fun s => s.filter = filter

/-- Index of the entry with this identity. -/
def findBySubId (c : Client cfg) (sid : UInt16) : Option Nat :=
  c.subscriptions.findIdx? fun s => s.subId = sid

/-- Change the entry with this identity, if it is still there. -/
def updateBySubId (c : Client cfg) (sid : UInt16) (change : Subscription → Subscription) :
    Client cfg :=
  match c.findBySubId sid with
  | none => c
  | some index => { c with subscriptions := c.subscriptions.modify index change }

/-- Drop the entry with this identity, if it is still there. -/
def eraseSubscription (c : Client cfg) (sid : UInt16) : Client cfg :=
  { c with subscriptions := c.subscriptions.eraseP fun s => s.subId = sid }

/-- The request this acknowledgement answers. -/
def findPending (c : Client cfg) (id : UInt16) (expected : PacketType) : Option PendingAck :=
  c.pending.find? fun a => a.packetId = id && a.expected = expected

/-- Retire the request `findPending` returned, which is the first that matches. -/
def removePending (c : Client cfg) (id : UInt16) (expected : PacketType) : Client cfg :=
  { c with pending := c.pending.eraseP fun a => a.packetId = id && a.expected = expected }

end Client

/-! ## Identifier allocation

Both allocators walk the sixteen-bit space from the last value handed out,
skipping zero and whatever is live, for at most one full trip. -/

/-- The value after `id`, skipping zero. -/
def nextId (id : UInt16) : UInt16 := if id = 65535 then 1 else id + 1

/-- The allocators' loop: the value handed out, or zero, and the new position. -/
def allocLoop (inUse : UInt16 → Bool) : Nat → UInt16 → UInt16 × UInt16
  | 0, position => (0, position)
  | tries + 1, position =>
    if !inUse (nextId position) then (nextId position, nextId position)
    else allocLoop inUse tries (nextId position)

namespace Client

variable {cfg : Config}

def packetIdInUse (c : Client cfg) (id : UInt16) : Bool :=
  c.outbound.any (fun slot => slot.phase ≠ .free && slot.packetId = id) ||
    c.pending.any fun a => a.packetId = id

/-- Next free packet id; zero if every id is taken. -/
def allocPacketId (c : Client cfg) : UInt16 × Client cfg :=
  let found := allocLoop c.packetIdInUse 65535 c.nextPacketId
  (found.1, { c with nextPacketId := found.2 })

/-- Next free subscription id; zero if every id is taken. -/
def allocSubId (c : Client cfg) : UInt16 × Client cfg :=
  let found := allocLoop (fun sid => (c.findBySubId sid).isSome) 65535 c.nextSubId
  (found.1, { c with nextSubId := found.2 })

/-! ## Session state -/

/-- Mark every remembered filter as unknown to the broker. -/
def markAllForResub (c : Client cfg) : Client cfg :=
  { c with subscriptions := c.subscriptions.map fun s => { s with needsResub := true } }

/-- Drop the in-flight state of a session the broker is told to discard. The
subscription table is kept: it records what the application asked for. -/
def resetSessionState (c : Client cfg) : Client cfg :=
  { c.markAllForResub with
    outbound := c.outbound.map OutboundSlot.release
    inboundIds := []
    pending := []
    nextPacketId := 0 }

/-- What `shutdown` does to the client before it notifies. -/
def teardown (c : Client cfg) (reason : Error) : Client cfg :=
  { c.markAllForResub with
    tx := c.tx.clear
    rx := []
    pingOutstanding := false
    state := .idle
    lastError := reason
    pending := []
    outbound := if c.cleanSession then c.outbound.map OutboundSlot.release else c.outbound
    inboundIds := if c.cleanSession then [] else c.inboundIds }

end Client
end Mqtt
