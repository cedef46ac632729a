import Mqtt.Client.CheckedEffects
import Mqtt.Client.Places
import Mqtt.Client.RunRule
import Mqtt.Session.Arrivals
import Mqtt.Session.Slots
import Mqtt.Session.SubscriptionTable

/-!
# Runs with their reads checked

The control flow of a run once more, with the checked pieces in place of the others. A
message is handed to its handlers as a view of the receive buffer, which is read again
each time, and the walk over the subscriptions looks every entry up in the table it
finds. A nested `step()` is refused because the flag it tests says so, not because it is
nested. The run that results never fails, and is the run.
-/

namespace Mqtt

open Library

variable {cfg : Config}

namespace Checked

/-! ## Application code -/

/-- A piece of code that did this. -/
def act (w : World cfg) (label : Label) (reaction : Reaction cfg) : World cfg where
  log := { state := reaction.client, trace := w.trace ++ [⟨w.client, label⟩] }
  env := if reaction.readClock then w.env.tick else w.env

/-- A call that may end the session and run `on_disconnect`. -/
def endingCall (onDisconnect : World cfg → Option (World cfg)) (w : World cfg) (label : Label) :
    Option (World cfg) :=
  if (w.client.react label).callback.isSome then onDisconnect (w.act label) else some (w.act label)

/-- The calls of a script. A `publish()` reads its slot. -/
def runScript (step : World cfg → Option (World cfg)) : Script → World cfg → Option (World cfg)
  | .done, w => some w
  | .connect opts next, w => runScript step next (w.act (.connect opts w.env.now))
  | .disconnect onEnd next, w => do
    runScript step next (← endingCall (runScript step onEnd) w .disconnect)
  | .abort onEnd next, w => do
    runScript step next (← endingCall (runScript step onEnd) w .abort)
  | .publish topic payload qos retain next, w => do
    let reaction ← publish w.client topic payload qos retain w.env.now
    runScript step next (act w (.publish topic payload qos retain w.env.now) reaction)
  | .subscribe subs handler next, w =>
    runScript step next (w.act (.subscribe subs handler w.env.now))
  | .unsubscribe filters next, w => runScript step next (w.act (.unsubscribe filters w.env.now))
  | .step next, w => do runScript step next (← step w)

/-- `step()` called from a handler: it must find the flag set. -/
def refuseStep (w : World cfg) : Option (World cfg) :=
  if w.client.inStep then some w.refuseStep else none

/-- The next handler. -/
def runHandler (w : World cfg) : Option (World cfg) :=
  let (script, w) := w.nextScript
  runScript refuseStep script w

/-- The next message handler, told of this message. -/
def runMessageHandler (w : World cfg) (subscription : Option Nat) (m : Message) :
    Option (World cfg) :=
  let (script, w) := (w.act (.onMessage subscription m)).nextMessageScript
  runScript refuseStep script.val w

/-! ## The receive path -/

/-- The walk of `dispatch()`: entries and topic are read anew for each. -/
def dispatchLoop (view : MessageView) : List Nat → Bool → World cfg → Option (World cfg)
  | [], handled, w =>
    if handled then some w
    else do runMessageHandler w none (← view.read w.client.rx)
  | index :: rest, handled, w => do
    let s ← w.client.subscriptions[index]?
    if s.handler.isSome then
      let topic ← view.topic.read w.client.rx
      if topicMatches s.filter topic then
        let w ← runMessageHandler w (some index) (← view.read w.client.rx)
        if w.client.state ≠ .connected then some w else dispatchLoop view rest true w
      else dispatchLoop view rest handled w
    else dispatchLoop view rest handled w

/-- What a callback runs. -/
def runCallback (w : World cfg) (message : Option MessageView) : Callback → Option (World cfg)
  | .dispatch _ => do
    dispatchLoop (← message) (List.range w.client.subscriptions.length) false w
  | .onConnect _ | .onDelivery _ | .onSuback _ _ | .onDisconnect _ => runHandler w

/-- Hand the packet in this stretch of the buffer to its handler. -/
def handlePacketIn (w : World cfg) (h : FixedHeader) (body : Span) :
    Option (Error × World cfg) := do
  let bytes ← body.read w.client.rx
  let handled ← handlePacket w.client h body w.env.now
  let next := act w (.handle h bytes w.env.now) handled.reaction
  match handled.reaction.callback with
  | none => some (handled.reaction.error, next)
  | some callback => some (handled.reaction.error, ← runCallback next handled.message callback)

/-- The end of a session, with its notice. -/
def endSession (w : World cfg) (reason : Error) : Option (Error × World cfg) :=
  match (w.client.react (.shutdown reason)).callback with
  | none => some ((w.client.react (.shutdown reason)).error, w.act (.shutdown reason))
  | some callback => do
    some ((w.client.react (.shutdown reason)).error,
      ← runCallback (w.act (.shutdown reason)) none callback)

/-- The bytes behind the first `count`, shifted down. -/
def consume (w : World cfg) (count : Nat) : Option (World cfg) := do
  let kept ← Span.read ⟨count, w.client.rx.length - count⟩ w.client.rx
  some (act w (.consume count) { client := { w.client with rx := kept } })

/-- Packet after packet, from the front of the buffer. -/
def drainLoop : Nat → World cfg → Option (Error × World cfg)
  | 0, w => some (.ok, w)
  | rounds + 1, w =>
    if w.client.rx = [] then some (.ok, w)
    else do
      match ← peekHeader w.client.rx ⟨0, w.client.rx.length⟩ with
      | .error error => if error = .incomplete then some (.ok, w) else some (error, w)
      | .ok p =>
        if p.totalBytes > cfg.rxBufferSize then some (.packetTooLarge, w)
        else if w.client.rx.length < p.totalBytes then some (.ok, w)
        else
          let (error, w) ← handlePacketIn w p.header ⟨p.headerBytes, p.header.remainingLength⟩
          if w.client.rx.length < p.totalBytes then
            some (if error ≠ .ok then error else w.client.lastError, w.act .discard)
          else if error ≠ .ok then some (error, ← consume w p.totalBytes)
          else drainLoop rounds (← consume w p.totalBytes)

def drainRx (w : World cfg) : Option (Error × World cfg) :=
  drainLoop (w.client.rx.length + 1) w

def pumpRx : Nat → World cfg → Option (Error × World cfg)
  | 0, w => some (.ok, w)
  | rounds + 1, w =>
    match w.receive with
    | (.failed error, w) => some (error, w)
    | (.nothing, w) => drainRx w
    | (.bytes, w) => do
      let (error, w) ← drainRx w
      if error ≠ .ok then some (error, w)
      else if w.client.state = .connecting then some (.ok, w)
      else if w.client.rx.length = cfg.rxBufferSize then some (.packetTooLarge, w)
      else pumpRx rounds w

/-! ## The pump -/

def orEnd (result : Error × World cfg) (next : World cfg → Option (Error × World cfg)) :
    Option (Error × World cfg) :=
  if result.1 ≠ .ok then endSession result.2 result.1 else next result.2

def flush (w : World cfg) : Option (Error × World cfg) := orEnd w.pumpTx fun w => some (.ok, w)

def checkDeadline (w : World cfg) : Option (Error × World cfg) :=
  orEnd (w.perform (.deadline w.env.now)) fun w => some (.ok, w)

def afterReceive (w : World cfg) : Option (Error × World cfg) :=
  if w.client.state = .connecting then some (.ok, w)
  else if w.client.state = .awaitingConnack then checkDeadline w
  else if w.client.state = .connected then
    orEnd (w.perform (.keepAlive w.env.now)) fun w => do
      let w := w.act (.resubscribe w.env.now)
      let reaction ← pumpRetransmit w.client w.env.now
      flush (act w (.retransmit w.env.now) reaction)
  else flush w

def openPass (w : World cfg) : Option (Error × World cfg) :=
  orEnd w.pumpTx fun w =>
    if w.client.state = .disconnecting ∧ w.client.tx.isEmpty then endSession w .ok
    else do orEnd (← pumpRx World.kMaxRecvRoundsPerStep w) afterReceive

def stepOnce (w : World cfg) : Option (Error × World cfg) :=
  if w.client.state = .idle then some (.ok, w)
  else if w.client.state = .connecting then
    let (answer, w) := w.nextOpen
    let w := w.act (.transportConnect answer w.env.now)
    if answer = .wouldBlock then checkDeadline w
    else if answer ≠ .ok then endSession w answer
    else openPass w
  else openPass w

def step (w : World cfg) : Option (Error × World cfg) :=
  if w.client.inStep then some (.reentrant, w.refuseStep)
  else do
    let (error, w) ← stepOnce (w.act .stepEnter)
    some (error, w.act (.stepLeave error))

/-- A whole run with every read checked. -/
def exec (cfg : Config) (env : Env) (application : Script) : Option (World cfg) :=
  runScript (fun w => do some (← step w).2) application (World.start cfg env)

/-! ## What the reads rely on -/

/-- No slot's length field reaches beyond its buffer. -/
theorem slotRule_packetLen (cfg : Config) :
    SlotRule cfg fun slot => slot.packetLen.toNat ≤ slot.packet.length where
  initial := Nat.zero_le _
  stamped _ _ within := within
  scribbled _ _ within _ same := same ▸ within
  filled slot topic payload qos retain id now _ _ _ _ fits := by
    simp only [Client.filledSlot, UInt16.toNat_ofNat', Client.length_overwrite fits]
    exact Nat.le_trans (Nat.mod_le _ _) fits
  advanced slot _ _ fits := by
    simp only [Client.pubrelSlot]
    rw [Client.length_overwrite (by rwa [length_ackPacket])]
    exact fits
  marked slot within _ := by rwa [packetLen_markDup, length_markDup]
  released _ _ := Nat.zero_le _

/-- What every piece of code keeps. -/
structure Holds (c : Client cfg) : Prop where
  sized : c.SlotsSized
  lengths : ∀ slot ∈ c.outbound, slot.packetLen.toNat ≤ slot.packet.length

/-- Slots and their lengths can be relied on. -/
theorem Holds.sound {c : Client cfg} (holds : Holds c) : Sound c :=
  ⟨holds.sized.count, holds.lengths⟩

/-- Every piece of code keeps it. -/
theorem Holds.apply {c : Client cfg} (holds : Holds c) (label : Label) : Holds (c.apply label) where
  sized :=
    { count := (length_outbound_apply holds.sized label).trans holds.sized.count
      buffers := (slotRule_buffer cfg).step holds.sized label holds.sized.buffers }
  lengths := (slotRule_packetLen cfg).step holds.sized label holds.lengths

/-- What the code of a running `step()` keeps. -/
structure Inside (w : World cfg) : Prop where
  holds : Holds w.client
  inStep : w.client.inStep = true

/-- A piece of code that does not enter or leave `step()` keeps it. -/
theorem Inside.act {w : World cfg} (inside : Inside w) {label : Label}
    (within : label.turns = false) : Inside (w.act label) :=
  ⟨inside.holds.apply label, (Control.apply_inStep w.client within).trans inside.inStep⟩

/-- The checked code got there too. -/
def Agrees (checked : Option (World cfg)) (w : World cfg) : Prop := checked = some w ∧ Inside w

/-- The checked code got there too, with the same result. -/
def AgreesWith (checked : Option (Error × World cfg)) (result : Error × World cfg) : Prop :=
  checked = some result ∧ Inside result.2

/-! ## Application code -/

section Scripts

variable {Keeps : World cfg → Prop} {step : World cfg → Option (World cfg)}
  {step' : World cfg → World cfg}

/-- The checked call agrees if the handler does. -/
theorem endingCall_eq {onDisconnect : World cfg → Option (World cfg)}
    {onDisconnect' : World cfg → World cfg}
    (handler : ∀ w, Keeps w → onDisconnect w = some (onDisconnect' w) ∧ Keeps (onDisconnect' w))
    {w : World cfg} {label : Label} (called : Keeps (w.act label)) :
    endingCall onDisconnect w label = some (w.endingCall onDisconnect' label) ∧
      Keeps (w.endingCall onDisconnect' label) := by
  unfold endingCall World.endingCall
  split
  · exact handler _ called
  · exact ⟨rfl, called⟩

/-- A checked script agrees if the calls keep what the reads rely on. -/
theorem runScript_eq
    (calls : ∀ (w : World cfg) label, label.isCall = true → Keeps w → Keeps (w.act label))
    (holds : ∀ w : World cfg, Keeps w → Holds w.client)
    (steps : ∀ w : World cfg, Keeps w → step w = some (step' w) ∧ Keeps (step' w))
    (script : Script) (w : World cfg) (start : Keeps w) :
    runScript step script w = some (World.runScript step' script w) ∧
      Keeps (World.runScript step' script w) := by
  induction script generalizing w with
  | done => exact ⟨rfl, start⟩
  | connect opts next onward => exact onward _ (calls _ _ rfl start)
  | disconnect onEnd next handler onward =>
    obtain ⟨agrees, kept⟩ := endingCall_eq handler (calls _ .disconnect rfl start)
    rw [runScript, agrees]
    exact onward _ kept
  | abort onEnd next handler onward =>
    obtain ⟨agrees, kept⟩ := endingCall_eq handler (calls _ .abort rfl start)
    rw [runScript, agrees]
    exact onward _ kept
  | publish topic payload qos retain next onward =>
    rw [runScript, publish_eq (holds w start).sound]
    exact onward _ (calls _ (.publish topic payload qos retain w.env.now) rfl start)
  | subscribe subs handler next onward => exact onward _ (calls _ _ rfl start)
  | unsubscribe filters next onward => exact onward _ (calls _ _ rfl start)
  | step next onward =>
    obtain ⟨agrees, kept⟩ := steps w start
    rw [runScript, agrees]
    exact onward _ kept

end Scripts

section Inside

variable {w : World cfg}

/-- The flag is set inside a step, so the refusal is found. -/
theorem refuseStep_eq (inside : Inside w) : Agrees (refuseStep w) w.refuseStep :=
  ⟨if_pos inside.inStep, inside.act rfl⟩

/-- A handler's script. -/
theorem insideScript_eq (script : Script) (inside : Inside w) :
    Agrees (runScript refuseStep script w) (World.runScript World.refuseStep script w) :=
  @runScript_eq cfg Inside refuseStep World.refuseStep
    (fun _ _ isCall inside => inside.act (Label.turns_of_isCall isCall))
    (fun _ inside => inside.holds) (fun _ inside => refuseStep_eq inside) script w inside

/-- A handler. -/
theorem runHandler_eq (inside : Inside w) : Agrees (runHandler w) w.runHandler :=
  @insideScript_eq _ w.nextScript.2 w.nextScript.1 ⟨inside.holds, inside.inStep⟩

/-- A message handler. -/
theorem runMessageHandler_eq (inside : Inside w) (subscription : Option Nat) (m : Message) :
    Agrees (runMessageHandler w subscription m) (w.runMessageHandler subscription m) := by
  have invoked : Inside (w.act (.onMessage subscription m)) := inside.act rfl
  exact @insideScript_eq _ (w.act (.onMessage subscription m)).nextMessageScript.2
    (w.act (.onMessage subscription m)).nextMessageScript.1.val ⟨invoked.holds, invoked.inStep⟩

end Inside

/-! ## What a message handler leaves -/

/-- The pieces of code a message handler may run. -/
def documented : Label → Bool
  | .connect _ _ | .disconnect | .abort | .publish _ _ _ _ _ | .stepRefused | .onMessage _ _ => true
  | _ => false

/-- A message handler leaves the subscriptions in their places, and while the session
is up it leaves the receive buffer alone. -/
structure Leaves (c d : Client cfg) : Prop where
  places : d.subscriptions.length = c.subscriptions.length
  up : d.state = .connected → c.state = .connected
  buffer : d.state = .connected → d.rx = c.rx

/-- One call after another. -/
theorem Leaves.trans {c d e : Client cfg} (first : Leaves c d) (second : Leaves d e) :
    Leaves c e where
  places := second.places.trans first.places
  up up := first.up (second.up up)
  buffer up := (second.buffer up).trans (first.buffer (second.up up))

/-- The calls a message handler may make. -/
theorem leaves_of_documented (c : Client cfg) {label : Label}
    (isDocumented : documented label = true) : Leaves c (c.apply label) := by
  have stays : (c.apply label).state = .connected → c.state = .connected := by
    intro up
    rcases c.apply_state_cases label with
      same | ⟨_, _, _, _, moved⟩ | ⟨_, _, _, moved⟩ | ⟨_, moved⟩ | ⟨_, _, moved⟩ |
        ⟨_, _, _, rfl, _⟩
    · exact same.symm.trans up
    all_goals first | exact absurd (moved.symm.trans up) nofun | cases isDocumented
  refine ⟨?_, stays, fun up => ?_⟩
  · cases c.apply_tableEffect label with
    | kept table | unsubscribed _ _ _ _ _ _ _ table => exact congrArg List.length table
    | subscribed _ _ _ isSubscribe => subst isSubscribe; cases isDocumented
    | resubscribed _ isResubscribe => subst isResubscribe; cases isDocumented
    | answered _ _ _ _ _ isHandle | withdrawn _ _ _ _ _ isHandle =>
      subst isHandle
      cases isDocumented
    | forgotten _ _ table | ended _ table => rw [table, List.length_map]
  · rcases c.rx_cases label with ⟨_, discards | idle | idle⟩ | ⟨_, consumes, _⟩ | ⟨same, _⟩
    · subst discards
      cases isDocumented
    · exact absurd (idle.symm.trans (stays up)) nofun
    · exact absurd (idle.symm.trans up) nofun
    · subst consumes
      cases isDocumented
    · have nothing : label.arriving = [] := by
        cases label <;> first | rfl | cases isDocumented
      rw [same, nothing, List.append_nil]

/-- The same of a world. -/
theorem act_leaves (w : World cfg) {label : Label} (isDocumented : documented label = true) :
    Leaves w.client (w.act label).client :=
  leaves_of_documented w.client isDocumented

/-- What documented calls keep, a documented handler keeps. -/
theorem documented_induct {Keeps : Log cfg → Prop}
    (calls : ∀ (w : World cfg) label, documented label = true → label.isMessage = false →
      Keeps w.log → Keeps (w.act label).log) (script : Script)
    (documented : script.documented = true) (w : World cfg) (start : Keeps w.log) :
    Keeps (World.runScript World.refuseStep script w).log := by
  induction script generalizing w with
  | done => exact start
  | connect opts next onward => exact onward documented _ (calls _ _ rfl rfl start)
  | disconnect onEnd next handler onward | abort onEnd next handler onward =>
    obtain ⟨ending, next⟩ := Bool.and_eq_true_iff.mp documented
    exact onward next _ (World.endingCall_induct (calls _ _ rfl rfl) (handler ending) start)
  | publish topic payload qos retain next onward =>
    exact onward documented _ (calls _ _ rfl rfl start)
  | subscribe subs handler next onward => cases documented
  | unsubscribe filters next onward => cases documented
  | step next onward => exact onward documented _ (calls _ _ rfl rfl start)

/-- A message handler leaves all that the walk relies on. -/
theorem runMessageHandler_leaves (w : World cfg) (subscription : Option Nat) (m : Message) :
    Leaves w.client (w.runMessageHandler subscription m).client :=
  @documented_induct cfg (fun log => Leaves w.client log.state)
    (fun v _ isDocumented _ kept => kept.trans (leaves_of_documented v.client isDocumented)) _
    (w.act (.onMessage subscription m)).nextMessageScript.1.property
    (w.act (.onMessage subscription m)).nextMessageScript.2 (act_leaves w rfl)

/-! ## The receive path -/

section Receive

variable {w : World cfg}

/-- A view that shows a message shows its topic. -/
theorem topic_of_read {view : MessageView} {rx : Bytes} {m : Message}
    (shown : view.read rx = some m) : view.topic.read rx = some m.topic := by
  obtain ⟨topic, isTopic, rest⟩ := Option.bind_eq_some_iff.mp shown
  obtain ⟨payload, _, isMessage⟩ := Option.bind_eq_some_iff.mp rest
  obtain rfl := Option.some.inj isMessage
  exact isTopic

/-- The walk over the subscriptions. As long as it goes on the session is up, so every
entry it comes to is there and the message is still in the buffer. -/
theorem dispatchLoop_eq {view : MessageView} {m : Message} (indices : List Nat) (handled : Bool)
    (inside : Inside w) (up : w.client.state = .connected)
    (shown : view.read w.client.rx = some m)
    (within : ∀ index ∈ indices, index < w.client.subscriptions.length) :
    Agrees (dispatchLoop view indices handled w) (World.dispatchLoop m indices handled w) := by
  induction indices generalizing handled w with
  | nil =>
    unfold dispatchLoop World.dispatchLoop
    rw [shown]
    split
    · exact ⟨rfl, inside⟩
    · exact runMessageHandler_eq inside none m
  | cons index rest onward =>
    obtain ⟨s, here⟩ : ∃ s, w.client.subscriptions[index]? = some s :=
      ⟨_, List.getElem?_eq_getElem (within index List.mem_cons_self)⟩
    have inRest : ∀ other ∈ rest, other < w.client.subscriptions.length :=
      fun other member => within other (List.mem_cons_of_mem _ member)
    unfold dispatchLoop World.dispatchLoop
    simp only [here, shown, topic_of_read shown, Option.bind_eq_bind, Option.bind_some]
    cases s.handler.isSome with
    | false => exact onward handled inside up shown inRest
    | true =>
      simp only [Bool.true_and, if_true]
      split
      swap
      · exact onward handled inside up shown inRest
      obtain ⟨agrees, kept⟩ := runMessageHandler_eq inside (some index) m
      have leaves := runMessageHandler_leaves w (some index) m
      rw [agrees, Option.bind_some]
      split
      · exact ⟨rfl, kept⟩
      · rename_i stillUp
        rw [not_not] at stillUp
        exact onward true kept stillUp ((leaves.buffer stillUp).symm ▸ shown)
          fun other member => leaves.places.symm ▸ inRest other member

/-- Every callback; a message is dispatched while the session is up. -/
theorem runCallback_eq (inside : Inside w) {message : Option MessageView} {callback : Callback}
    (shown : ∀ m, callback = .dispatch m → w.client.state = .connected ∧
      ∃ view, message = some view ∧ view.read w.client.rx = some m) :
    Agrees (runCallback w message callback) (w.runCallback callback) := by
  cases callback with
  | dispatch m =>
    obtain ⟨up, view, rfl, reads⟩ := shown m rfl
    exact dispatchLoop_eq _ false inside up reads fun _ member => List.mem_range.mp member
  | onConnect info => exact runHandler_eq inside
  | onDelivery id => exact runHandler_eq inside
  | onSuback id codes => exact runHandler_eq inside
  | onDisconnect reason => exact runHandler_eq inside

/-- A packet that lies in the buffer. -/
theorem handlePacketIn_eq (inside : Inside w) (h : FixedHeader) {body : Span} {bytes : Bytes}
    (here : body.read w.client.rx = some bytes) :
    AgreesWith (handlePacketIn w h body) (w.handlePacket h bytes) := by
  obtain ⟨message, handled, shown⟩ := handlePacket_eq inside.holds.sound h here w.env.now
  have next : Inside (w.act (.handle h bytes w.env.now)) := inside.act rfl
  unfold handlePacketIn World.handlePacket World.perform
  simp only [here, handled, Option.bind_eq_bind, Option.bind_some, Client.react]
  cases calls : (w.client.handlePacket h bytes w.env.now).callback with
  | none => exact ⟨rfl, next⟩
  | some callback =>
    have agrees := @runCallback_eq _ _ next message callback fun m isDispatch => by
      subst isDispatch
      obtain ⟨view, isView, reads⟩ := shown m calls
      refine ⟨(Client.handlePacket_dispatch _ calls).2, view, isView, ?_⟩
      exact (w.client.handlePacket_within h bytes w.env.now).rx.symm ▸ reads
    obtain ⟨agrees, kept⟩ := agrees
    exact ⟨congrArg (Option.bind · _) agrees, kept⟩

/-- The end of a session. -/
theorem endSession_eq (inside : Inside w) (reason : Error) :
    AgreesWith (endSession w reason) (w.endSession reason) := by
  have next : Inside (w.act (.shutdown reason)) := inside.act rfl
  unfold endSession World.endSession World.perform
  cases calls : (w.client.react (.shutdown reason)).callback with
  | none => exact ⟨rfl, next⟩
  | some callback =>
    have agrees := @runCallback_eq _ _ next none callback fun m isDispatch => by
      subst isDispatch
      simp only [Client.react, Client.shutdown] at calls
      split at calls <;> cases calls
    obtain ⟨agrees, kept⟩ := agrees
    exact ⟨congrArg (Option.bind · _) agrees, kept⟩

/-- The subtraction does not wrap, and what is shifted down was held. -/
theorem consume_eq {count : Nat} (enough : count ≤ w.client.rx.length) :
    consume w count = some (w.act (.consume count)) := by
  have reaches : count + (w.client.rx.length - count) ≤ w.client.rx.length := by omega
  have whole : (w.client.rx.drop count).take (w.client.rx.length - count) =
      w.client.rx.drop count := List.take_of_length_le (by rw [List.length_drop])
  simp only [consume, Span.read, if_pos reaches, whole]
  rfl

/-- The packets in the buffer, one after the other. -/
theorem drainLoop_eq (rounds : Nat) (inside : Inside w) :
    AgreesWith (drainLoop rounds w) (World.drainLoop rounds w) := by
  induction rounds generalizing w with
  | zero => exact ⟨rfl, inside⟩
  | succ rounds onward =>
    unfold drainLoop World.drainLoop
    split
    · exact ⟨rfl, inside⟩
    rw [peekHeader_eq (Span.read_whole w.client.rx)]
    simp only [Option.bind_eq_bind, Option.bind_some]
    cases peeked : Mqtt.peekHeader w.client.rx with
    | error error =>
      simp only
      split
      · exact ⟨rfl, inside⟩
      · exact ⟨rfl, inside⟩
    | ok p =>
      simp only
      split
      · exact ⟨rfl, inside⟩
      split
      · exact ⟨rfl, inside⟩
      rename_i arrived
      have here : Span.read ⟨p.headerBytes, p.header.remainingLength⟩ w.client.rx =
          some ((w.client.rx.drop p.headerBytes).take p.header.remainingLength) :=
        if_pos (by
          rw [← totalBytes_eq peeked]
          exact Nat.le_of_not_lt arrived)
      obtain ⟨agrees, kept⟩ := handlePacketIn_eq inside p.header here
      rw [agrees, Option.bind_some]
      generalize w.handlePacket p.header _ = result at kept ⊢
      obtain ⟨error, v⟩ := result
      simp only at kept ⊢
      have consumed : Inside (v.act (.consume p.totalBytes)) := kept.act rfl
      split
      · exact ⟨rfl, kept.act rfl⟩
      rename_i held
      rw [consume_eq (Nat.le_of_not_lt held), Option.bind_some, Option.bind_some]
      split
      · exact ⟨rfl, consumed⟩
      · exact onward consumed

/-- `drain_rx` as a whole. -/
theorem drainRx_eq (inside : Inside w) : AgreesWith (drainRx w) w.drainRx :=
  drainLoop_eq _ inside

/-- A `recv` keeps what the reads rely on. -/
theorem receive_inside (inside : Inside w) : Inside w.receive.2 := by
  unfold World.receive
  split
  swap
  · exact inside
  have received : Inside (w.nextRecv.2.act (.recv w.nextRecv.1.1
      (w.nextRecv.1.2.take (cfg.rxBufferSize - w.nextRecv.2.client.rx.length))
      w.nextRecv.2.env.now)) :=
    @Inside.act _ w.nextRecv.2 ⟨inside.holds, inside.inStep⟩ _ rfl
  simp only
  split
  · exact received
  split
  · exact received
  split
  · exact received
  · exact received

/-- `recv` and `drain_rx` in turn. -/
theorem pumpRx_eq (rounds : Nat) (inside : Inside w) :
    AgreesWith (pumpRx rounds w) (World.pumpRx rounds w) := by
  induction rounds generalizing w with
  | zero => exact ⟨rfl, inside⟩
  | succ rounds onward =>
    have received := receive_inside inside
    unfold pumpRx World.pumpRx
    generalize w.receive = result at received ⊢
    obtain ⟨outcome, v⟩ := result
    cases outcome with
    | failed error => exact ⟨rfl, received⟩
    | nothing => exact drainRx_eq received
    | bytes =>
      obtain ⟨agrees, kept⟩ := drainRx_eq received
      simp only [agrees, Option.bind_eq_bind, Option.bind_some]
      generalize v.drainRx = drained at kept ⊢
      obtain ⟨error, u⟩ := drained
      simp only at kept ⊢
      split
      · exact ⟨rfl, kept⟩
      split
      · exact ⟨rfl, kept⟩
      split
      · exact ⟨rfl, kept⟩
      · exact onward kept

end Receive

/-! ## The pump -/

section Pump

variable {w : World cfg}

/-- So does every `send`. -/
theorem pumpTxLoop_inside (rounds : Nat) (inside : Inside w) :
    Inside (World.pumpTxLoop rounds w).2 := by
  induction rounds generalizing w with
  | zero => exact inside
  | succ rounds onward =>
    have sent : Inside (w.nextSend.2.act (.send w.nextSend.1.1 w.nextSend.1.2
        w.nextSend.2.env.now)) :=
      @Inside.act _ w.nextSend.2 ⟨inside.holds, inside.inStep⟩ _ rfl
    unfold World.pumpTxLoop
    split
    · exact inside
    simp only
    split
    · exact sent
    split
    · exact sent
    split
    · exact sent
    · exact onward sent

/-- So does `pump_tx`. -/
theorem pumpTx_inside (inside : Inside w) : Inside w.pumpTx.2 := pumpTxLoop_inside _ inside

/-- What goes on after a success, or the end after a failure. -/
theorem orEnd_eq {result : Error × World cfg} (inside : Inside result.2)
    {next : World cfg → Option (Error × World cfg)} {next' : World cfg → Error × World cfg}
    (onward : ∀ w, Inside w → AgreesWith (next w) (next' w)) :
    AgreesWith (orEnd result next) (World.orEnd result next') := by
  unfold orEnd World.orEnd
  split
  · exact endSession_eq inside result.1
  · exact onward result.2 inside

section

variable (inside : Inside w)

include inside

/-- The last `pump_tx` of a pass. -/
theorem flush_eq : AgreesWith (flush w) w.flush :=
  orEnd_eq (pumpTx_inside inside) fun _ inside => ⟨rfl, inside⟩

/-- A piece of code without a callback. -/
theorem perform_inside {label : Label} (quiet : Client.isQuiet label = true) :
    Inside (w.perform label).2 := by
  have next : Inside (w.act label) :=
    inside.act (by cases label <;> first | rfl | cases quiet)
  unfold World.perform
  rw [(w.client.react_quiet quiet).callback]
  exact next

/-- The handshake's deadline. -/
theorem checkDeadline_eq : AgreesWith (checkDeadline w) w.checkDeadline :=
  orEnd_eq (perform_inside inside rfl) fun _ inside => ⟨rfl, inside⟩

/-- What a pass does once it has received. -/
theorem afterReceive_eq : AgreesWith (afterReceive w) w.afterReceive := by
  unfold afterReceive World.afterReceive
  split
  · exact ⟨rfl, inside⟩
  split
  · exact checkDeadline_eq inside
  split
  swap
  · exact flush_eq inside
  refine orEnd_eq (perform_inside inside rfl) fun v kept => ?_
  have resubscribed : Inside (v.act (.resubscribe v.env.now)) := kept.act rfl
  simp only [pumpRetransmit_eq resubscribed.holds.sound, Option.bind_eq_bind, Option.bind_some]
  have retransmitted : Inside ((v.act (.resubscribe v.env.now)).act
      (.retransmit (v.act (.resubscribe v.env.now)).env.now)) := resubscribed.act rfl
  exact flush_eq retransmitted

/-- A pass over an open transport. -/
theorem openPass_eq : AgreesWith (openPass w) w.openPass := by
  refine orEnd_eq (pumpTx_inside inside) fun v kept => ?_
  split
  · exact endSession_eq kept .ok
  · obtain ⟨agrees, drained⟩ := pumpRx_eq World.kMaxRecvRoundsPerStep kept
    rw [agrees]
    exact orEnd_eq drained fun _ inside => afterReceive_eq inside

/-- A pass from its start. -/
theorem stepOnce_eq : AgreesWith (stepOnce w) w.stepOnce := by
  unfold stepOnce World.stepOnce
  split
  · exact ⟨rfl, inside⟩
  split
  swap
  · exact openPass_eq inside
  have opened : Inside (w.nextOpen.2.act (.transportConnect w.nextOpen.1 w.nextOpen.2.env.now)) :=
    @Inside.act _ w.nextOpen.2 ⟨inside.holds, inside.inStep⟩ _ rfl
  simp only
  split
  · exact checkDeadline_eq opened
  split
  · exact endSession_eq opened _
  · exact openPass_eq opened

end

/-- A pass called from outside. -/
theorem step_eq (holds : Holds w.client) (outside : w.client.inStep = false) :
    step w = some w.step ∧ Holds w.step.2.client ∧ w.step.2.client.inStep = false := by
  have entered : Inside (w.act .stepEnter) := ⟨holds.apply .stepEnter, rfl⟩
  obtain ⟨agrees, kept⟩ := stepOnce_eq entered
  unfold step World.step
  rw [outside]
  simp only [agrees, Option.bind_eq_bind, Option.bind_some]
  exact ⟨rfl, kept.holds.apply (.stepLeave (w.act .stepEnter).stepOnce.1), rfl⟩

end Pump

/-- No run reads out of range. -/
theorem exec_eq (cfg : Config) (env : Env) (application : Script) :
    exec cfg env application = some (World.exec cfg env application) := by
  have start : Holds (Client.initial cfg) := by
    refine ⟨History.slotsSized .refl, fun slot member => ?_⟩
    simp only [Client.initial, List.mem_replicate] at member
    rw [member.2]
    exact Nat.zero_le _
  have ran := @runScript_eq cfg (fun w => Holds w.client ∧ w.client.inStep = false)
    (fun w => do some (← step w).2) (fun w => w.step.2)
    (fun w label isCall kept =>
      ⟨kept.1.apply label, (w.client.call_frame isCall).1.trans kept.2⟩)
    (fun _ kept => kept.1)
    (fun w kept => by
      obtain ⟨agrees, onward⟩ := step_eq kept.1 kept.2
      exact ⟨by rw [agrees]; rfl, onward⟩)
    application (World.start cfg env) ⟨start, rfl⟩
  exact ran.1

end Checked
end Mqtt
