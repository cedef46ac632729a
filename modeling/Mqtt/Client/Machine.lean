import Mqtt.Client.Receive
import Mqtt.Client.Timers

/-!
# The client as a labelled machine

`Label` names every uninterrupted piece of client code: a call, a transport
operation, one packet, one timer. `react` runs it, up to the handler it ends by
invoking. Between two labels the client
is at a point where the environment acts: a handler runs, the transport answers,
or the application decides what to call next.
-/

namespace Mqtt

/-- One uninterrupted piece of client code, with what the environment supplied
to it. `now` is what the clock would read there. `onMessage` is the invocation
of one message handler: that of a subscription, by table position, or the
fallback. `shutdown` is the one `step()` makes. -/
inductive Label where
  | connect (opts : ConnectOptions) (now : UInt32)
  | disconnect
  | publish (topic payload : Bytes) (qos : QoS) (retain : Bool) (now : UInt32)
  | subscribe (subs : List TopicSubscription) (handler : Option Nat) (now : UInt32)
  | unsubscribe (filters : List Bytes) (now : UInt32)
  | abort
  | shutdown (reason : Error)
  | stepEnter
  | stepLeave (result : Error)
  | stepRefused
  | transportConnect (result : Error) (now : UInt32)
  | deadline (now : UInt32)
  | send (result : Error) (written : Nat) (now : UInt32)
  | recv (result : Error) (bytes : Bytes) (now : UInt32)
  | handle (header : FixedHeader) (body : Bytes) (now : UInt32)
  | consume (count : Nat)
  | discard
  | keepAlive (now : UInt32)
  | resubscribe (now : UInt32)
  | retransmit (now : UInt32)
  | onMessage (subscription : Option Nat) (message : Message)
  deriving DecidableEq, Repr

namespace Client

variable {cfg : Config}

/-- Run one piece of client code. -/
def react (c : Client cfg) : Label → Reaction cfg
  | .connect opts now => c.connect opts now
  | .disconnect => c.disconnect
  | .publish topic payload qos retain now => c.publish topic payload qos retain now
  | .subscribe subs handler now => c.subscribe subs handler now
  | .unsubscribe filters now => c.unsubscribe filters now
  | .abort => c.abort
  | .shutdown reason => c.shutdown reason
  | .stepEnter => { client := { c with inStep := true } }
  | .stepLeave result => { error := result, client := { c with inStep := false } }
  | .stepRefused => { error := .reentrant, client := c }
  | .transportConnect result now =>
    if result = .ok then
      { readClock := true, client := { c with state := .awaitingConnack, lastSentMs := now } }
    else { error := result, client := c }
  | .deadline now =>
    { error := if elapsedMs now c.connectStartedMs > cfg.connectTimeoutMs then .connectTimeout
        else .ok
      readClock := true
      client := c }
  | .send result written now =>
    if result = .ok ∧ written ≠ 0 then
      { readClock := true, client := { c with tx := c.tx.consume written, lastSentMs := now } }
    else { error := result, client := c }
  | .recv result bytes now =>
    if result = .ok ∧ bytes ≠ [] then
      { readClock := true, client := { c with rx := c.rx ++ bytes, lastReceivedMs := now } }
    else { error := result, client := c }
  | .handle header body now => c.handlePacket header body now
  | .consume count => { client := { c with rx := c.rx.drop count } }
  | .discard => { client := { c with rx := [] } }
  | .keepAlive now => c.pumpKeepAlive now
  | .resubscribe now => c.pumpResubscribe now
  | .retransmit now => c.pumpRetransmit now
  | .onMessage _ _ => { client := c }

/-- The client after a piece of its code. -/
def apply (c : Client cfg) (label : Label) : Client cfg := (c.react label).client

end Client
end Mqtt
