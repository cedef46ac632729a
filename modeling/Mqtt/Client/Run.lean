import Mqtt.Client.Machine
import Mqtt.Library.LoggedMachine

/-!
# Whole runs

`World` is the client with its history and everything the environment is going
to answer: clock readings, transport results, and what the application's
handlers do. The functions here are the control flow of the source around the
labelled pieces, in the source's order.

A `Script` is one complete run of application code: the calls it makes on the
client, in order. A call that can end the session carries the run of the
`on_disconnect` handler it would trigger. Every finite behaviour of an
application is a script, so a statement about all scripts is one about all
applications.
-/

namespace Mqtt

open Library

/-- A run of application code on the client. -/
inductive Script where
  | done
  | connect (opts : ConnectOptions) (next : Script)
  | disconnect (onEnd next : Script)
  | abort (onEnd next : Script)
  | publish (topic payload : Bytes) (qos : QoS) (retain : Bool) (next : Script)
  | subscribe (subs : List TopicSubscription) (handler : Option Nat) (next : Script)
  | unsubscribe (filters : List Bytes) (next : Script)
  | step (next : Script)

namespace Script

/-- The actions the source documents for message handlers: everything but
`subscribe()` and `unsubscribe()`, which would mutate the table being walked. -/
def documented : Script → Bool
  | .done => true
  | .connect _ next => next.documented
  | .disconnect onEnd next => onEnd.documented && next.documented
  | .abort onEnd next => onEnd.documented && next.documented
  | .publish _ _ _ _ next => next.documented
  | .subscribe _ _ _ => false
  | .unsubscribe _ _ => false
  | .step next => next.documented

end Script

/-- What a message handler may do. -/
abbrev MessageScript := { script : Script // script.documented = true }

/-- Everything the environment answers, in order. A transport that has nothing
more to say would block, a clock with no reading left repeats its last one, and
a handler with no run left does nothing. -/
structure Env where
  clock : List UInt32 := []
  latest : UInt32 := 0
  opens : List Error := []
  sends : List (Error × Nat) := []
  recvs : List (Error × Bytes) := []
  messageScripts : List MessageScript := []
  scripts : List Script := []

namespace Env

/-- What `Clock::now_ms` reads next. -/
def now (env : Env) : UInt32 := env.clock.headD env.latest

/-- The environment after a clock reading. -/
def tick (env : Env) : Env := { env with clock := env.clock.tail, latest := env.now }

end Env

/-- A client at the point where it runs a labelled piece of its code. -/
abbrev Event (cfg : Config) := Entry (Client cfg) Label

/-- The transitions a client has taken. -/
abbrev Trace (cfg : Config) := List (Event cfg)

/-- A client with its history. -/
abbrev Log (cfg : Config) := Logged (Client cfg) Label

/-- The client, its history, and the environment's answers to come. -/
structure World (cfg : Config) where
  log : Log cfg
  env : Env

namespace World

variable {cfg : Config}

/-- A freshly constructed client. -/
def start (cfg : Config) (env : Env) : World cfg where
  log := { state := Client.initial cfg, trace := [] }
  env := env

def client (w : World cfg) : Client cfg := w.log.state

def trace (w : World cfg) : Trace cfg := w.log.trace

/-- Run one labelled piece of client code. -/
def act (w : World cfg) (label : Label) : World cfg :=
  { log := w.log.perform Client.apply label
    env := if (w.client.react label).readClock then w.env.tick else w.env }

/-! ## Answers of the environment -/

def nextOpen (w : World cfg) : Error × World cfg :=
  (w.env.opens.headD .wouldBlock, { w with env := { w.env with opens := w.env.opens.tail } })

def nextSend (w : World cfg) : (Error × Nat) × World cfg :=
  (w.env.sends.headD (.wouldBlock, 0),
    { w with env := { w.env with sends := w.env.sends.tail } })

def nextRecv (w : World cfg) : (Error × Bytes) × World cfg :=
  (w.env.recvs.headD (.wouldBlock, []),
    { w with env := { w.env with recvs := w.env.recvs.tail } })

def nextScript (w : World cfg) : Script × World cfg :=
  (w.env.scripts.headD .done, { w with env := { w.env with scripts := w.env.scripts.tail } })

def nextMessageScript (w : World cfg) : MessageScript × World cfg :=
  (w.env.messageScripts.headD ⟨.done, rfl⟩,
    { w with env := { w.env with messageScripts := w.env.messageScripts.tail } })

/-! ## Application code -/

/-- A call that may end the session, with the `on_disconnect` handler's run. -/
def endingCall (onDisconnect : World cfg → World cfg) (w : World cfg) (label : Label) : World cfg :=
  if (w.client.react label).callback.isSome then onDisconnect (w.act label) else w.act label

/-- Run application code. `step` is what `step()` does when that code calls it. -/
def runScript (step : World cfg → World cfg) : Script → World cfg → World cfg
  | .done, w => w
  | .connect opts next, w => runScript step next (w.act (.connect opts w.env.now))
  | .disconnect onEnd next, w =>
    runScript step next (w.endingCall (runScript step onEnd) .disconnect)
  | .abort onEnd next, w => runScript step next (w.endingCall (runScript step onEnd) .abort)
  | .publish topic payload qos retain next, w =>
    runScript step next (w.act (.publish topic payload qos retain w.env.now))
  | .subscribe subs handler next, w =>
    runScript step next (w.act (.subscribe subs handler w.env.now))
  | .unsubscribe filters next, w =>
    runScript step next (w.act (.unsubscribe filters w.env.now))
  | .step next, w => runScript step next (step w)

/-- `step()` called from a handler is refused. -/
def refuseStep (w : World cfg) : World cfg := w.act .stepRefused

/-- Run a handler from inside `step()`. -/
def runHandler (w : World cfg) : World cfg :=
  let (script, w) := w.nextScript
  runScript refuseStep script w

/-- Invoke a message handler. -/
def runMessageHandler (w : World cfg) (subscription : Option Nat) (m : Message) : World cfg :=
  let (script, w) := (w.act (.onMessage subscription m)).nextMessageScript
  runScript refuseStep script.val w

/-! ## The receive path -/

/-- Route a message: to every matching subscription handler in table order until
one of them ends the session, or to the fallback when none matched. -/
def dispatchLoop (m : Message) : List Nat → Bool → World cfg → World cfg
  | [], handled, w => if handled then w else w.runMessageHandler none m
  | index :: rest, handled, w =>
    match w.client.subscriptions[index]? with
    | none => dispatchLoop m rest handled w
    | some s =>
      if s.handler.isSome && topicMatches s.filter m.topic then
        let w := w.runMessageHandler (some index) m
        if w.client.state ≠ .connected then w else dispatchLoop m rest true w
      else dispatchLoop m rest handled w

def runCallback (w : World cfg) : Callback → World cfg
  | .dispatch m => dispatchLoop m (List.range w.client.subscriptions.length) false w
  | .onConnect _ | .onDelivery _ | .onSuback _ _ | .onDisconnect _ => w.runHandler

/-- Run a piece of client code and the handler it ends by invoking. -/
def perform (w : World cfg) (label : Label) : Error × World cfg :=
  match (w.client.react label).callback with
  | none => ((w.client.react label).error, w.act label)
  | some callback => ((w.client.react label).error, (w.act label).runCallback callback)

def handlePacket (w : World cfg) (h : FixedHeader) (body : Bytes) : Error × World cfg :=
  w.perform (.handle h body w.env.now)

/-- `shutdown()` reached from inside `step()`, returning the reason. -/
def endSession (w : World cfg) (reason : Error) : Error × World cfg :=
  w.perform (.shutdown reason)

/-- Consume every complete packet in the receive buffer. Every round that
continues consumes a packet, so the bytes held bound the rounds. -/
def drainLoop : Nat → World cfg → Error × World cfg
  | 0, w => (.ok, w)
  | rounds + 1, w =>
    if w.client.rx = [] then (.ok, w)
    else
      match peekHeader w.client.rx with
      | .error error => if error = .incomplete then (.ok, w) else (error, w)
      | .ok p =>
        if p.totalBytes > cfg.rxBufferSize then (.packetTooLarge, w)
        else if w.client.rx.length < p.totalBytes then (.ok, w)
        else
          let body := (w.client.rx.drop p.headerBytes).take p.header.remainingLength
          match w.handlePacket p.header body with
          | (error, w) =>
            if w.client.rx.length < p.totalBytes then
              -- A handler ended the session, which emptied the buffer.
              (if error ≠ .ok then error else w.client.lastError, w.act .discard)
            else if error ≠ .ok then (error, w.act (.consume p.totalBytes))
            else drainLoop rounds (w.act (.consume p.totalBytes))

def drainRx (w : World cfg) : Error × World cfg := drainLoop (w.client.rx.length + 1) w

/-- What one `recv` round brought. -/
inductive Received where
  | nothing
  | failed (error : Error)
  | bytes
  deriving DecidableEq

/-- Offer the transport the free part of the receive buffer, if there is one. -/
def receive (w : World cfg) : Received × World cfg :=
  if w.client.rx.length < cfg.rxBufferSize then
    let (answer, w) := w.nextRecv
    let bytes := answer.2.take (cfg.rxBufferSize - w.client.rx.length)
    let received := w.act (.recv answer.1 bytes w.env.now)
    if answer.1 = .wouldBlock then (.nothing, received)
    else if answer.1 ≠ .ok then (.failed answer.1, received)
    else if bytes = [] then (.nothing, received)
    else (.bytes, received)
  else (.bytes, w)

def kMaxRecvRoundsPerStep : Nat := 8

def pumpRx : Nat → World cfg → Error × World cfg
  | 0, w => (.ok, w)
  | rounds + 1, w =>
    match w.receive with
    | (.failed error, w) => (error, w)
    | (.nothing, w) => w.drainRx
    | (.bytes, w) =>
      match w.drainRx with
      | (error, w) =>
        if error ≠ .ok then (error, w)
        else if w.client.state = .connecting then (.ok, w)
        else if w.client.rx.length = cfg.rxBufferSize then (.packetTooLarge, w)
        else pumpRx rounds w

/-! ## The pump -/

/-- Hand queued bytes to the transport until it blocks or the queue is empty.
Every round that continues consumes a byte, so the queue bounds the rounds. -/
def pumpTxLoop : Nat → World cfg → Error × World cfg
  | 0, w => (.ok, w)
  | rounds + 1, w =>
    if w.client.tx.isEmpty then (.ok, w)
    else
      let (answer, w) := w.nextSend
      let sent := w.act (.send answer.1 answer.2 w.env.now)
      if answer.1 = .wouldBlock then (.ok, sent)
      else if answer.1 ≠ .ok then (answer.1, sent)
      else if answer.2 = 0 then (.ok, sent)
      else pumpTxLoop rounds sent

def pumpTx (w : World cfg) : Error × World cfg := pumpTxLoop (w.client.tx.pending + 1) w

/-- End the session if a piece of the pass failed, and go on otherwise. -/
def orEnd (result : Error × World cfg) (next : World cfg → Error × World cfg) : Error × World cfg :=
  if result.1 ≠ .ok then result.2.endSession result.1 else next result.2

/-- The flush that ends a pass. -/
def flush (w : World cfg) : Error × World cfg := orEnd w.pumpTx fun w => (.ok, w)

/-- The connect deadline, checked while the handshake is under way. -/
def checkDeadline (w : World cfg) : Error × World cfg :=
  orEnd (w.perform (.deadline w.env.now)) fun w => (.ok, w)

/-- The pass after the receive path. -/
def afterReceive (w : World cfg) : Error × World cfg :=
  if w.client.state = .connecting then (.ok, w)
  else if w.client.state = .awaitingConnack then w.checkDeadline
  else if w.client.state = .connected then
    orEnd (w.perform (.keepAlive w.env.now)) fun w =>
      let w := w.act (.resubscribe w.env.now)
      let w := w.act (.retransmit w.env.now)
      w.flush
  else w.flush

/-- The pass once the transport is up. -/
def openPass (w : World cfg) : Error × World cfg :=
  orEnd w.pumpTx fun w =>
    if w.client.state = .disconnecting ∧ w.client.tx.isEmpty then w.endSession .ok
    else orEnd (pumpRx kMaxRecvRoundsPerStep w) afterReceive

def stepOnce (w : World cfg) : Error × World cfg :=
  if w.client.state = .idle then (.ok, w)
  else if w.client.state = .connecting then
    let (answer, w) := w.nextOpen
    let w := w.act (.transportConnect answer w.env.now)
    if answer = .wouldBlock then w.checkDeadline
    else if answer ≠ .ok then w.endSession answer
    else w.openPass
  else w.openPass

/-- Advance the client. -/
def step (w : World cfg) : Error × World cfg :=
  if w.client.inStep then (.reentrant, w.refuseStep)
  else
    match (w.act .stepEnter).stepOnce with
    | (error, w) => (error, w.act (.stepLeave error))

/-- A whole run: the application from a freshly constructed client. -/
def exec (cfg : Config) (env : Env) (application : Script) : World cfg :=
  runScript (fun w => w.step.2) application (start cfg env)

end World
end Mqtt
