import Mqtt.Client.AlikeReactions
import Mqtt.Session.ByteStream

/-!
# Runs that cannot be told apart

Two worlds whose clients are alike and whose environments give the same answers, by
clocks a constant apart, take the same steps. Each function of a run has one
statement: from twins it goes on to twins, with the same result.
-/

namespace Mqtt

open Library

variable {cfg : Config}

/-! ## Twins -/

/-- The same answers by a clock that started elsewhere. -/
def Env.shift (d : UInt32) (env : Env) : Env :=
  { env with clock := env.clock.map (· + d), latest := env.latest + d }

/-- The clock is read later by the difference. -/
theorem Env.now_shift (d : UInt32) (env : Env) : (env.shift d).now = env.now + d := by
  unfold Env.now Env.shift
  cases env.clock <;> rfl

/-- A tick and the difference commute. -/
theorem Env.tick_shift (d : UInt32) (env : Env) : (env.shift d).tick = env.tick.shift d := by
  have now := env.now_shift d
  unfold Env.tick
  rw [now]
  simp [Env.shift]

/-- The numbers of two clients that are `δ` apart, after a stretch of history: a session
in it is what sets the time of the last arrival. -/
def Offset.after (δ : Offset) (trace : Trace cfg) : Offset :=
  { δ with received := δ.received ∨ ∃ event ∈ trace, event.Connects }

/-- Two stretches of history that cannot be told apart. -/
inductive TwinTraces (δ : Offset) : Trace cfg → Trace cfg → Prop where
  | nil : TwinTraces δ [] []
  | snoc {first second : Trace cfg} {event other : Event cfg}
      (prior : TwinTraces δ first second)
      (before : event.before.Alike (δ.after first) other.before)
      (label : other.label = event.label.shift δ.clock)
      (reaction : event.reaction.Alike (δ.after (first ++ [event])) other.reaction) :
      TwinTraces δ (first ++ [event]) (second ++ [other])

/-- Two worlds that have taken the same steps since the given histories. -/
structure World.Twins (δ : Offset) (since since' : Trace cfg) (w v : World cfg) : Prop where
  env : v.env = w.env.shift δ.clock
  runs : ∃ first second, w.trace = since ++ first ∧ v.trace = since' ++ second ∧
    TwinTraces δ first second ∧ w.client.Alike (δ.after first) v.client

namespace World

variable {δ : Offset} {since since' : Trace cfg} {w v : World cfg}

/-- A `connect()` that succeeds sets the time of the last arrival. -/
theorem lastReceived_of_connects {c : Client cfg} {opts : ConnectOptions} {now : UInt32}
    (accepted : (c.connect opts now).error = .ok) :
    (c.connect opts now).client.lastReceivedMs = now := by
  rcases c.connect_cases opts now with ⟨_, bad, same⟩ | ⟨_, _, _, bad, _, same⟩ | ⟨_, _, _, _, same⟩
  · rw [same] at accepted
    exact absurd accepted bad
  · rw [same] at accepted
    exact absurd accepted bad
  · rw [same]
    rfl

/-- Two results that cannot be told apart. -/
def TwinResults (δ : Offset) (since since' : Trace cfg) (r s : Error × World cfg) : Prop :=
  s.1 = r.1 ∧ r.2.Twins δ since since' s.2

/-- The timers leave the session up. -/
theorem keepAlive_up {w : World cfg} (up : w.client.state = .connected) (now : UInt32) :
    (w.perform (.keepAlive now)).2.client.state = .connected := by
  have quiet := w.client.pumpKeepAlive_quiet now
  unfold World.perform
  rw [show (w.client.react (.keepAlive now)).callback = none from quiet.callback]
  exact quiet.sameState.trans up

/-- So does the re-subscription. -/
theorem resubscribe_up {w : World cfg} (up : w.client.state = .connected) (now : UInt32) :
    (w.act (.resubscribe now)).client.state = .connected :=
  (w.client.pumpResubscribe_quiet now).sameState.trans up

namespace Twins

variable (twins : w.Twins δ since since' v)

include twins

/-- The clients are alike by some numbers that go with the same clocks. -/
theorem alike : ∃ ρ : Offset, ρ.clock = δ.clock ∧ w.client.Alike ρ v.client := by
  obtain ⟨first, _, _, _, _, alike⟩ := twins.runs
  exact ⟨δ.after first, rfl, alike⟩

/-- The clocks stay apart by the same difference. -/
theorem now : v.env.now = w.env.now + δ.clock := by
  rw [twins.env, Env.now_shift]

/-- Both are in the same state. -/
theorem state : v.client.state = w.client.state := by
  obtain ⟨_, _, alike⟩ := twins.alike
  exact alike.state

/-- The two pieces of code end alike. -/
theorem reaction (label : Label) (ready : w.client.Ready label) :
    ∃ ρ, (w.client.react label).Alike ρ (v.client.react (label.shift δ.clock)) := by
  obtain ⟨ρ, clock, alike⟩ := twins.alike
  exact ⟨ρ, clock ▸ Client.react_alike alike label ready⟩

/-- A piece of code takes twins to twins. -/
theorem act {label label' : Label}
    (ready : w.client.Ready label) (shifted : label' = label.shift δ.clock) :
    (w.act label).Twins δ since since' (v.act label') := by
  subst shifted
  obtain ⟨first, second, splitW, splitV, traces, alike⟩ := twins.runs
  have reaction := Client.react_alike alike label ready
  have client : (w.client.react label).client.Alike (δ.after (first ++ [⟨w.client, label⟩]))
      (v.client.react (label.shift δ.clock)).client := by
    refine { reaction.client with lastReceived := ?_ }
    rintro (shared | ⟨event, member, opts, now, isConnect, accepted⟩)
    · exact reaction.client.lastReceived (.inl shared)
    rcases List.mem_append.mp member with earlier | last
    · exact reaction.client.lastReceived (.inr ⟨event, earlier, opts, now, isConnect, accepted⟩)
    · obtain rfl := List.mem_singleton.mp last
      obtain rfl : label = .connect opts now := isConnect
      have accepted : (w.client.connect opts now).error = .ok := accepted
      have other : (v.client.connect opts (now + δ.clock)).error = .ok :=
        reaction.error.trans accepted
      exact (lastReceived_of_connects other).trans
        (congrArg (· + δ.clock) (lastReceived_of_connects accepted).symm)
  refine ⟨?_, first ++ [⟨w.client, label⟩], second ++ [⟨v.client, label.shift δ.clock⟩], ?_, ?_,
    @TwinTraces.snoc _ δ first second ⟨w.client, label⟩ ⟨v.client, label.shift δ.clock⟩ traces alike
      rfl { reaction with client := client }, client⟩
  · have sameRead : (v.client.react (label.shift δ.clock)).readClock =
        (w.client.react label).readClock := reaction.readClock
    simp only [World.act, sameRead, twins.env]
    split
    · exact Env.tick_shift δ.clock w.env
    · rfl
  · rw [← List.append_assoc, ← splitW]
    rfl
  · rw [← List.append_assoc, ← splitV]
    rfl

/-- A piece of code that reads the clock. -/
theorem actNow (label : UInt32 → Label)
    (shifts : ∀ now, label (now + δ.clock) = (label now).shift δ.clock)
    (ready : w.client.Ready (label w.env.now)) :
    (w.act (label w.env.now)).Twins δ since since' (v.act (label v.env.now)) :=
  twins.act ready (by rw [twins.now, shifts])

/-! ## Answers of the environment -/

/-- What is taken from the environment is the same. -/
theorem withEnv {env env' : Env} (same : env' = env.shift δ.clock) :
    Twins δ since since' { w with env := env } { v with env := env' } :=
  ⟨same, twins.runs⟩

/-- The answer of `Transport::connect`. -/
theorem nextOpen :
    v.nextOpen.1 = w.nextOpen.1 ∧ w.nextOpen.2.Twins δ since since' v.nextOpen.2 := by
  simp only [World.nextOpen, twins.env]
  exact ⟨rfl, twins.withEnv rfl⟩

/-- The answer of `Transport::send`. -/
theorem nextSend :
    v.nextSend.1 = w.nextSend.1 ∧ w.nextSend.2.Twins δ since since' v.nextSend.2 := by
  simp only [World.nextSend, twins.env]
  exact ⟨rfl, twins.withEnv rfl⟩

/-- The answer of `Transport::recv`. -/
theorem nextRecv :
    v.nextRecv.1 = w.nextRecv.1 ∧ w.nextRecv.2.Twins δ since since' v.nextRecv.2 := by
  simp only [World.nextRecv, twins.env]
  exact ⟨rfl, twins.withEnv rfl⟩

/-- What the next handler does. -/
theorem nextScript :
    v.nextScript.1 = w.nextScript.1 ∧ w.nextScript.2.Twins δ since since' v.nextScript.2 := by
  simp only [World.nextScript, twins.env]
  exact ⟨rfl, twins.withEnv rfl⟩

/-- What the next message handler does. -/
theorem nextMessageScript :
    v.nextMessageScript.1 = w.nextMessageScript.1 ∧
      w.nextMessageScript.2.Twins δ since since' v.nextMessageScript.2 := by
  simp only [World.nextMessageScript, twins.env]
  exact ⟨rfl, twins.withEnv rfl⟩

/-! ## Application code -/

/-- A call that may end the session and run `on_disconnect`. -/
theorem endingCall {onDisconnect : World cfg → World cfg}
    (handler : ∀ {w v : World cfg}, w.Twins δ since since' v →
      (onDisconnect w).Twins δ since since' (onDisconnect v))
    {label : Label} (timeless : label.shift δ.clock = label) (ready : w.client.Ready label) :
    (w.endingCall onDisconnect label).Twins δ since since' (v.endingCall onDisconnect label) := by
  obtain ⟨_, reaction⟩ := twins.reaction label ready
  rw [timeless] at reaction
  unfold World.endingCall
  rw [reaction.callback]
  split
  · exact handler (twins.act ready timeless.symm)
  · exact twins.act ready timeless.symm

/-- A script, if the nested `step()` keeps twins. -/
theorem runScript {step : World cfg → World cfg}
    (steps : ∀ {w v : World cfg}, w.Twins δ since since' v →
      (step w).Twins δ since since' (step v)) (script : Script) :
    (World.runScript step script w).Twins δ since since' (World.runScript step script v) := by
  induction script generalizing w v with
  | done => exact twins
  | connect opts next onward =>
    exact onward (twins.actNow (.connect opts) (fun _ => rfl) trivial)
  | disconnect onEnd next handler onward => exact onward (twins.endingCall handler rfl trivial)
  | abort onEnd next handler onward => exact onward (twins.endingCall handler rfl trivial)
  | publish topic payload qos retain next onward =>
    exact onward (twins.actNow (.publish topic payload qos retain) (fun _ => rfl) trivial)
  | subscribe subs handler next onward =>
    exact onward (twins.actNow (.subscribe subs handler) (fun _ => rfl) trivial)
  | unsubscribe filters next onward =>
    exact onward (twins.actNow (.unsubscribe filters) (fun _ => rfl) trivial)
  | step next onward => exact onward (steps twins)

/-- A nested `step()`, which is refused. -/
theorem refuseStep : w.refuseStep.Twins δ since since' v.refuseStep :=
  twins.act trivial rfl

/-- A handler runs. -/
theorem runHandler : w.runHandler.Twins δ since since' v.runHandler := by
  obtain ⟨same, next⟩ := twins.nextScript
  unfold World.runHandler
  simp only [same]
  exact next.runScript Twins.refuseStep _

/-- A message handler is told and runs. -/
theorem runMessageHandler (subscription : Option Nat) (m : Message) :
    (w.runMessageHandler subscription m).Twins δ since since'
      (v.runMessageHandler subscription m) := by
  have invoked : (w.act (.onMessage subscription m)).Twins δ since since'
      (v.act (.onMessage subscription m)) := twins.act trivial rfl
  obtain ⟨same, next⟩ := invoked.nextMessageScript
  unfold World.runMessageHandler
  simp only [same]
  exact next.runScript Twins.refuseStep _

/-! ## The receive path -/

/-- The walk over the subscriptions. Both find the same ones. -/
theorem dispatchLoop (m : Message) (indices : List Nat) (handled : Bool) :
    (World.dispatchLoop m indices handled w).Twins δ since since'
      (World.dispatchLoop m indices handled v) := by
  induction indices generalizing handled w v with
  | nil =>
    unfold World.dispatchLoop
    split
    · exact twins
    · exact twins.runMessageHandler none m
  | cons index rest onward =>
    obtain ⟨_, _, alike⟩ := twins.alike
    unfold World.dispatchLoop
    rcases getElem?_paired alike.subscriptions index with
      ⟨noneW, noneV⟩ | ⟨s, other, related, inW, inV⟩
    · simp only [noneW, noneV]
      exact onward twins handled
    · simp only [inW, inV, related.handler, related.filter]
      split
      · have invoked := twins.runMessageHandler (some index) m
        rw [invoked.state]
        split
        · exact invoked
        · exact onward invoked true
      · exact onward twins handled

/-- Every callback. -/
theorem runCallback (callback : Callback) :
    (w.runCallback callback).Twins δ since since' (v.runCallback callback) := by
  cases callback with
  | dispatch m =>
    obtain ⟨_, _, alike⟩ := twins.alike
    simp only [World.runCallback, alike.subscriptions.length_eq]
    exact twins.dispatchLoop m _ false
  | onConnect info => exact twins.runHandler
  | onDelivery id => exact twins.runHandler
  | onSuback id codes => exact twins.runHandler
  | onDisconnect reason => exact twins.runHandler

/-- A piece of code and its callback. -/
theorem perform {label label' : Label}
    (ready : w.client.Ready label) (shifted : label' = label.shift δ.clock) :
    TwinResults δ since since' (w.perform label) (v.perform label') := by
  obtain ⟨_, reaction⟩ := twins.reaction label ready
  have next := twins.act ready shifted
  subst shifted
  unfold World.perform
  rw [reaction.callback]
  cases (w.client.react label).callback with
  | none => exact ⟨reaction.error, next⟩
  | some callback => exact ⟨reaction.error, next.runCallback callback⟩

/-- A packet is handled. -/
theorem handlePacket (header : FixedHeader) (body : Bytes) :
    TwinResults δ since since' (w.handlePacket header body) (v.handlePacket header body) :=
  twins.perform trivial (by rw [twins.now]; rfl)

/-- The session ends. -/
theorem endSession (reason : Error) :
    TwinResults δ since since' (w.endSession reason) (v.endSession reason) :=
  twins.perform trivial rfl

/-- Packet after packet is taken out of the buffer. -/
theorem drainLoop (rounds : Nat) :
    TwinResults δ since since' (World.drainLoop rounds w) (World.drainLoop rounds v) := by
  induction rounds generalizing w v with
  | zero => exact ⟨rfl, twins⟩
  | succ rounds onward =>
    obtain ⟨_, _, alike⟩ := twins.alike
    unfold World.drainLoop
    rw [alike.rx]
    split
    · exact ⟨rfl, twins⟩
    split
    · split
      · exact ⟨rfl, twins⟩
      · exact ⟨rfl, twins⟩
    rename_i p _
    split
    · exact ⟨rfl, twins⟩
    split
    · exact ⟨rfl, twins⟩
    simp only
    obtain ⟨same, next⟩ := twins.handlePacket p.header
      ((w.client.rx.drop p.headerBytes).take p.header.remainingLength)
    generalize w.handlePacket p.header _ = resultW at same next ⊢
    generalize v.handlePacket p.header _ = resultV at same next ⊢
    obtain ⟨error, w'⟩ := resultW
    obtain ⟨_, v'⟩ := resultV
    obtain rfl := same
    obtain ⟨_, _, handled⟩ := next.alike
    simp only [handled.rx, handled.lastError]
    split
    · exact ⟨rfl, next.act trivial rfl⟩
    split
    · exact ⟨rfl, next.act trivial rfl⟩
    · exact onward (next.act trivial rfl)

/-- `drain_rx` as a whole. -/
theorem drainRx : TwinResults δ since since' w.drainRx v.drainRx := by
  obtain ⟨_, _, alike⟩ := twins.alike
  unfold World.drainRx
  rw [alike.rx]
  exact twins.drainLoop _

/-- One `recv`. -/
theorem receive : v.receive.1 = w.receive.1 ∧ w.receive.2.Twins δ since since' v.receive.2 := by
  obtain ⟨_, _, alike⟩ := twins.alike
  obtain ⟨same, next⟩ := twins.nextRecv
  unfold World.receive
  rw [alike.rx]
  split
  swap
  · exact ⟨rfl, twins⟩
  have room : v.nextRecv.2.client.rx.length = w.nextRecv.2.client.rx.length :=
    congrArg List.length alike.rx
  simp only [same, room]
  have received := fun bytes =>
    next.actNow (.recv w.nextRecv.1.1 bytes) (fun _ => rfl) trivial
  split
  · exact ⟨rfl, received _⟩
  split
  · exact ⟨rfl, received _⟩
  split
  · exact ⟨rfl, received _⟩
  · exact ⟨rfl, received _⟩

/-- `recv` and `drain_rx` in turn. -/
theorem pumpRx (rounds : Nat) :
    TwinResults δ since since' (World.pumpRx rounds w) (World.pumpRx rounds v) := by
  induction rounds generalizing w v with
  | zero => exact ⟨rfl, twins⟩
  | succ rounds onward =>
    obtain ⟨same, next⟩ := twins.receive
    unfold World.pumpRx
    generalize w.receive = resultW at same next ⊢
    generalize v.receive = resultV at same next ⊢
    obtain ⟨_, w'⟩ := resultW
    obtain ⟨received, v'⟩ := resultV
    obtain rfl := same
    cases received with
    | failed error => exact ⟨rfl, next⟩
    | nothing => exact next.drainRx
    | bytes =>
      obtain ⟨same, drained⟩ := next.drainRx
      simp only
      generalize w'.drainRx = resultW at same drained ⊢
      generalize v'.drainRx = resultV at same drained ⊢
      obtain ⟨error, w''⟩ := resultW
      obtain ⟨_, v''⟩ := resultV
      obtain rfl := same
      obtain ⟨_, _, alike⟩ := drained.alike
      simp only [alike.state, alike.rx]
      split
      · exact ⟨rfl, drained⟩
      split
      · exact ⟨rfl, drained⟩
      split
      · exact ⟨rfl, drained⟩
      · exact onward drained

/-! ## The pump -/

/-- `send` after `send`. -/
theorem pumpTxLoop (rounds : Nat) :
    TwinResults δ since since' (World.pumpTxLoop rounds w) (World.pumpTxLoop rounds v) := by
  induction rounds generalizing w v with
  | zero => exact ⟨rfl, twins⟩
  | succ rounds onward =>
    obtain ⟨_, _, alike⟩ := twins.alike
    have empty : v.client.tx.isEmpty = w.client.tx.isEmpty :=
      Bool.eq_iff_iff.mpr (by rw [TxQueue.isEmpty_iff, TxQueue.isEmpty_iff, alike.tx])
    obtain ⟨same, next⟩ := twins.nextSend
    unfold World.pumpTxLoop
    rw [empty]
    split
    · exact ⟨rfl, twins⟩
    simp only [same]
    have sent := next.actNow (.send w.nextSend.1.1 w.nextSend.1.2) (fun _ => rfl) trivial
    split
    · exact ⟨rfl, sent⟩
    split
    · exact ⟨rfl, sent⟩
    split
    · exact ⟨rfl, sent⟩
    · exact onward sent

/-- `pump_tx` as a whole. -/
theorem pumpTx : TwinResults δ since since' w.pumpTx v.pumpTx := by
  obtain ⟨_, _, alike⟩ := twins.alike
  have waiting : v.client.tx.pending = w.client.tx.pending := by
    rw [← TxQueue.length_peek, ← TxQueue.length_peek, alike.tx]
  unfold World.pumpTx
  rw [waiting]
  exact twins.pumpTxLoop _

end Twins

/-- What goes on after a success, or the end after a failure. -/
theorem TwinResults.orEnd {r s : Error × World cfg} {next : World cfg → Error × World cfg}
    (results : TwinResults δ since since' r s)
    (onward : r.2.Twins δ since since' s.2 → TwinResults δ since since' (next r.2) (next s.2)) :
    TwinResults δ since since' (World.orEnd r next) (World.orEnd s next) := by
  obtain ⟨same, twins⟩ := results
  unfold World.orEnd
  rw [same]
  split
  · exact twins.endSession _
  · exact onward twins

namespace Twins

variable (twins : w.Twins δ since since' v)

include twins

/-- The last `pump_tx` of a pass. -/
theorem flush : TwinResults δ since since' w.flush v.flush :=
  twins.pumpTx.orEnd fun next => ⟨rfl, next⟩

/-- The handshake's deadline. -/
theorem checkDeadline (busy : w.client.state ≠ .idle) :
    TwinResults δ since since' w.checkDeadline v.checkDeadline :=
  TwinResults.orEnd (twins.perform busy (by rw [twins.now]; rfl)) fun next => ⟨rfl, next⟩

/-- What a pass does once it has received. -/
theorem afterReceive : TwinResults δ since since' w.afterReceive v.afterReceive := by
  unfold World.afterReceive
  rw [twins.state]
  split
  · exact ⟨rfl, twins⟩
  split
  · rename_i awaiting
    exact twins.checkDeadline (by simp [awaiting])
  split
  swap
  · exact twins.flush
  rename_i up
  refine TwinResults.orEnd (twins.perform up (by rw [twins.now]; rfl)) fun kept => ?_
  have stillUp := keepAlive_up up w.env.now
  have resubscribed := kept.actNow .resubscribe (fun _ => rfl) trivial
  exact (resubscribed.actNow .retransmit (fun _ => rfl) (resubscribe_up stillUp _)).flush

/-- A pass over an open transport. -/
theorem openPass : TwinResults δ since since' w.openPass v.openPass := by
  refine twins.pumpTx.orEnd fun sent => ?_
  obtain ⟨_, _, alike⟩ := sent.alike
  have empty : v.pumpTx.2.client.tx.isEmpty = w.pumpTx.2.client.tx.isEmpty :=
    Bool.eq_iff_iff.mpr (by rw [TxQueue.isEmpty_iff, TxQueue.isEmpty_iff, alike.tx])
  simp only [alike.state, empty]
  split
  · exact sent.endSession .ok
  · exact (sent.pumpRx _).orEnd Twins.afterReceive

/-- A pass from its start. -/
theorem stepOnce : TwinResults δ since since' w.stepOnce v.stepOnce := by
  unfold World.stepOnce
  rw [twins.state]
  split
  · exact ⟨rfl, twins⟩
  split
  swap
  · exact twins.openPass
  rename_i connecting
  obtain ⟨same, next⟩ := twins.nextOpen
  simp only [same]
  have tried := next.actNow (.transportConnect w.nextOpen.1) (fun _ => rfl) connecting
  split
  · rename_i blocked
    refine tried.checkDeadline ?_
    have stays : w.nextOpen.2.client.state = .connecting := connecting
    simp [Client.apply, Client.react, blocked, stays]
  split
  · exact tried.endSession _
  · exact tried.openPass

/-- `step()` as a whole. -/
theorem step : TwinResults δ since since' w.step v.step := by
  obtain ⟨_, _, alike⟩ := twins.alike
  unfold World.step
  rw [alike.inStep]
  split
  · exact ⟨rfl, twins.refuseStep⟩
  have entered : (w.act .stepEnter).Twins δ since since' (v.act .stepEnter) :=
    twins.act trivial rfl
  obtain ⟨same, next⟩ := entered.stepOnce
  generalize (w.act .stepEnter).stepOnce = resultW at same next ⊢
  generalize (v.act .stepEnter).stepOnce = resultV at same next ⊢
  obtain ⟨error, w'⟩ := resultW
  obtain ⟨_, v'⟩ := resultV
  obtain rfl := same
  exact ⟨rfl, next.act trivial rfl⟩

end Twins

end World

end Mqtt
