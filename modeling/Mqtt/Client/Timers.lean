import Mqtt.Client.Calls

/-!
# Timers

Keep-alive, automatic re-subscription and retransmission, as one pass of
`step()` runs them while the session is up. None of them runs a handler.
-/

namespace Mqtt

namespace Client

variable {cfg : Config}

def pumpKeepAlive (c : Client cfg) (now : UInt32) : Reaction cfg :=
  if c.keepAliveMs = 0 then { client := c }
  else if c.pingOutstanding then
    if elapsedMs now c.pingSentMs > c.keepAliveMs then
      { error := .keepAliveTimeout, readClock := true, client := c }
    else { readClock := true, client := c }
  else if elapsedMs now c.lastSentMs < c.keepAliveMs - c.keepAliveMs / 4 then
    { readClock := true, client := c }
  else
    match c.enqueueSized (packetSize 0) (encodeEmpty · .pingreq) with
    | (.error _, c) => { readClock := true, client := c }
    | (.ok bytes, c) =>
      { queued := [{ bytes := bytes }]
        readClock := true
        client := { c with pingOutstanding := true, pingSentMs := now } }

/-- The subscriptions one pass re-sends. -/
def resubBatch (c : Client cfg) : List Subscription :=
  (c.subscriptions.filter (·.needsResub)).take cfg.maxTopicsPerRequest

/-- The request that re-sends them. -/
def resubRequest (c : Client cfg) : List TopicSubscription :=
  c.resubBatch.map fun s => { filter := s.filter, qos := s.requestedQos }

/-- Queue the SUBSCRIBE of a batch and, once it is queued, clear its flags. -/
def sendResubscribe (c : Client cfg) (id : UInt16) (remainingLength : Nat) (now : UInt32) :
    Reaction cfg :=
  let ids := c.resubBatch.map (·.subId)
  match c.enqueueSized (packetSize remainingLength) (encodeSubscribe · id c.resubRequest) with
  | (.error _, c) => { client := c }
  | (.ok bytes, c) =>
    let c := ids.foldl
      (fun c sid => c.updateBySubId sid fun s => { s with needsResub := false }) c
    { queued := [{ bytes := bytes }]
      readClock := true
      client := { c with
        pending := c.pending ++
          [{ subs := ids, sentMs := now, packetId := id, expected := .suback }] } }

/-- Re-send subscriptions the broker has no record of, one batch per pass. -/
def pumpResubscribe (c : Client cfg) (now : UInt32) : Reaction cfg :=
  if c.ackTableFull then { client := c }
  else if c.resubBatch.isEmpty then { client := c }
  else
    match subscribeRemainingLength c.resubRequest with
    | .error _ => { client := c }
    | .ok remainingLength =>
      let (id, c) := c.allocPacketId
      if id = 0 then { client := c } else c.sendResubscribe id remainingLength now

/-- Whether this pass copies the slot's packet onto the queue again. -/
def retransmitDue (cfg : Config) (forced : Bool) (now : UInt32) (slot : OutboundSlot) : Bool :=
  slot.phase ≠ .free &&
    (forced || (cfg.retryIntervalMs ≠ 0 &&
      !(elapsedMs now slot.lastSentMs < cfg.retryIntervalMs)))

/-- One slot of the retransmission loop. -/
def retransmitSlot (forced : Bool) (now : UInt32) (reaction : Reaction cfg) (index : Nat) :
    Reaction cfg :=
  let c := reaction.client
  if retransmitDue cfg forced now (c.slotAt index) then
    let slot := (c.slotAt index).markDup
    let c := c.setSlot index slot
    match c.enqueue slot.stored with
    | (.ok, c) =>
      { reaction with
        queued := reaction.queued ++ [{ slot := some index, bytes := slot.stored }]
        client := c.setSlot index { slot with lastSentMs := now } }
    | (_, c) => { reaction with client := c }
  else reaction

/-- Copy packets that are due onto the queue again. A pass forced by a CONNACK
takes every slot in flight, and the request for it is used up. -/
def pumpRetransmit (c : Client cfg) (now : UInt32) : Reaction cfg :=
  let forced := c.retransmitNow
  let c := { c with retransmitNow := false }
  if cfg.retryIntervalMs = 0 ∧ !forced then { client := c }
  else
    (List.range cfg.maxInflightOut).foldl (retransmitSlot forced now)
      { readClock := true, client := c }

end Client
end Mqtt
