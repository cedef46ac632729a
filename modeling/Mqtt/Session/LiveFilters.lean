import Mqtt.Session.Asking
import Mqtt.Session.Bracketing
import Mqtt.Session.CrowdedTable
import Mqtt.Session.PumpPasses

/-!
# A remembered filter is live or waits to be sent again

An entry's flag says that the broker is yet to be asked for it on this connection.
Wherever the flag is clear, the last SUBSCRIBE of the connection that names the
filter asked for the level the entry records. A SUBACK clears flags by identity,
long after its request was sent; that is sound because the identities it names are
those of entries whose flag is clear already.

It takes more filters than there are identities to go wrong. The last part of this module
runs a client that remembers 65537. It asks for all of them, loses the connection, and on
the next one asks for one of the two with identity zero. The broker's grant is entered for
the other, which nobody asked for on this connection and which is now never sent again.
-/

namespace Mqtt

open Library

variable {cfg : Config}

/-! ## The contract -/

/-- The last SUBSCRIBE of this connection that names the filter asked for this
level. -/
def LastAsked (filter : Bytes) (level : QoS) (trace : Trace cfg) : Prop :=
  Since (fun event => event.Asks filter level)
    (fun event => event.EndsSession ∨ ∃ other, event.Asks filter other) trace

/-- Every remembered filter is live or waits to be sent again. -/
structure FiltersLive (log : Log cfg) : Prop where
  live : Throughout (fun c trace => c.state = .connected → ∀ s ∈ c.subscriptions,
    s.needsResub = true ∨ LastAsked s.filter s.requestedQos trace) log
  /-- Every flag is set when a CONNACK is accepted. -/
  waiting : ∀ event ∈ log.trace, event.Announces →
    ∀ s ∈ event.before.subscriptions, s.needsResub = true

/-! ## One piece of code -/

theorem LastAsked.snoc {filter : Bytes} {level : QoS} {trace : Trace cfg} {event : Event cfg}
    (asked : LastAsked filter level trace) (goesOn : ¬ event.EndsSession)
    (quiet : ∀ subs, event.Subscribes subs → askedLast filter subs = none) :
    LastAsked filter level (trace ++ [event]) := by
  rw [LastAsked, since_snoc]
  refine .inr ⟨asked, ?_⟩
  rintro (ends | ⟨other, subs, subscribes, named⟩)
  · exact goesOn ends
  · rw [quiet subs subscribes] at named
    cases named

/-- What carries the contract through a connection. -/
structure Flags (c : Client cfg) (trace : Trace cfg) : Prop where
  down : c.state ≠ .connected → c.state ≠ .disconnecting →
    (∀ s ∈ c.subscriptions, s.needsResub = true) ∧ c.pending = []
  live : c.state = .connected → ∀ s ∈ c.subscriptions,
    s.needsResub = true ∨ LastAsked s.filter s.requestedQos trace
  /-- An awaited SUBACK is about entries whose flag is clear. -/
  acks : ∀ ack ∈ c.pending, ack.expected = .suback → ∀ s ∈ c.subscriptions,
    s.subId ∈ ack.subs → s.needsResub = false

theorem mem_flagged {table : List Subscription} {s : Subscription}
    (member : s ∈ table.map Subscription.flagged) : s.needsResub = true := by
  obtain ⟨old, _, rfl⟩ := List.mem_map.mp member
  rfl

section Step

variable {log : Log cfg} {label : Label}

/-- While no session is up, flags stay set and nothing is awaited. -/
theorem Flags.step_down (flags : Flags log.state log.trace) (history : History log)
    (permitted : Permitted log label) (notUp : log.state.state ≠ .connected)
    (notLeaving : log.state.state ≠ .disconnecting) :
    (∀ s ∈ (log.state.apply label).subscriptions, s.needsResub = true) ∧
      (log.state.apply label).pending = [] := by
  obtain ⟨flagged, nothing⟩ := flags.down notUp notLeaving
  have unawaited : ∀ {id expected ack}, log.state.findPending id expected ≠ some ack := by
    intro id expected ack found
    have member := (Client.findPending_mem found).1
    rw [nothing] at member
    cases member
  cases log.state.apply_tableEffect label with
  | kept table pending => exact ⟨fun s member => flagged s (table ▸ member), pending.trans nothing⟩
  | subscribed _ _ _ _ up => exact absurd up notUp
  | unsubscribed _ _ _ up => exact absurd up notUp
  | resubscribed now isResubscribe =>
    subst isResubscribe
    have fits := history.fits
    rw [show Control.of log.trace = .resubscribing from permitted] at fits
    exact absurd fits.2 notUp
  | answered _ _ _ _ _ _ _ _ found => exact absurd found unawaited
  | withdrawn _ _ _ _ _ _ _ _ found => exact absurd found unawaited
  | forgotten _ _ table pending =>
    exact ⟨fun s member => mem_flagged (table ▸ member), pending.trans nothing⟩
  | ended _ table pending => exact ⟨fun s member => mem_flagged (table ▸ member), pending⟩

/-- Awaited SUBACKs stay about entries whose flag is clear. -/
theorem Flags.step_acks (flags : Flags log.state log.trace)
    (keys : KeysSound cfg (log.state.subscriptions.map Subscription.key))
    (after : KeysSound cfg ((log.state.apply label).subscriptions.map Subscription.key)) :
    ∀ ack ∈ (log.state.apply label).pending, ack.expected = .suback →
      ∀ s ∈ (log.state.apply label).subscriptions, s.subId ∈ ack.subs → s.needsResub = false := by
  have distinct := keys.filters
  have subIds := keys.subIds
  rw [filters_eq] at distinct
  rw [subIds_eq] at subIds
  intro ack member awaits s present named
  cases log.state.apply_tableEffect label with
  | kept table pending =>
    exact flags.acks ack (pending ▸ member) awaits s (table ▸ present) named
  | subscribed subs handler now _ _ _ _ _ _ _ table pending =>
    have enrolled := log.state.enrolled_spec distinct subs handler
    rw [table] at present after
    rw [pending] at member
    rcases enrolled.entries s present with ⟨old, unnamed⟩ | ⟨clear, _⟩
    swap
    · exact clear
    rcases List.mem_append.mp member with earlier | last
    · exact flags.acks ack earlier awaits s old named
    · -- The identities of the new request are those of the filters it names.
      obtain rfl := List.mem_singleton.mp last
      obtain ⟨asked, among, same⟩ :=
        enrolled.named (subIds_eq _ ▸ after.subIds) present named
      exact absurd same (askedLast_eq_none_iff.mp unnamed asked among)
  | unsubscribed filters now _ _ _ _ _ table pending =>
    rw [table] at present
    rw [pending] at member
    rcases List.mem_append.mp member with earlier | last
    · exact flags.acks ack earlier awaits s present named
    · obtain rfl := List.mem_singleton.mp last
      cases awaits
  | resubscribed now _ _ _ _ table pending =>
    rw [table, unflagAll_eq_map _ subIds] at present
    obtain ⟨old, inTable, rfl⟩ := List.mem_map.mp present
    rw [pending] at member
    split at named
    · rename_i inBatch
      simp only [if_pos inBatch]
      rfl
    · rename_i notInBatch
      rw [if_neg notInBatch]
      rcases List.mem_append.mp member with earlier | last
      · exact flags.acks ack earlier awaits old inTable named
      · obtain rfl := List.mem_singleton.mp last
        exact absurd named notInBatch
  | answered _ _ _ v answeredAck _ _ _ found _ table pending =>
    rw [table] at present
    obtain ⟨old, inTable, key, _, flag⟩ := answers_origin present
    have sameId : s.subId = old.subId := congrArg Prod.snd key
    rw [pending] at member
    have clear := flags.acks ack (List.mem_of_mem_eraseP member) awaits old inTable
      (sameId ▸ named)
    rcases flag with same | ⟨off, _⟩
    · exact same.trans clear
    · exact off
  | withdrawn _ _ _ _ _ _ _ _ _ table pending =>
    exact flags.acks ack (List.mem_of_mem_eraseP (pending ▸ member)) awaits s
      ((eraseAll_sublist _ _).subset (table ▸ present)) named
  | forgotten awaiting _ _ pending =>
    have nothing := (flags.down (by simp [awaiting]) (by simp [awaiting])).2
    rw [pending, nothing] at member
    cases member
  | ended _ _ pending =>
    rw [pending] at member
    cases member

/-- While the session is up, every flag that is clear stands for a SUBSCRIBE. -/
theorem Flags.step_live (flags : Flags log.state log.trace) (history : History log)
    (keys : KeysSound cfg (log.state.subscriptions.map Subscription.key))
    (up : log.state.state = .connected) (stays : (log.state.apply label).state = .connected) :
    ∀ s ∈ (log.state.apply label).subscriptions, s.needsResub = true ∨
      LastAsked s.filter s.requestedQos (log.trace ++ [⟨log.state, label⟩]) := by
  have distinct := keys.filters
  have subIds := keys.subIds
  rw [filters_eq] at distinct
  rw [subIds_eq] at subIds
  have goesOn : ¬ Entry.EndsSession ⟨log.state, label⟩ := by
    simp [Entry.EndsSession, stays]
  -- An entry that stays as it is, where nothing more is awaited.
  have steady : (log.state.apply label).pending.length ≤ log.state.pending.length →
      ∀ s ∈ log.state.subscriptions, s.needsResub = true ∨
        LastAsked s.filter s.requestedQos (log.trace ++ [⟨log.state, label⟩]) :=
    fun fewer s member => (flags.live up s member).imp_right fun asked =>
      asked.snoc goesOn fun subs subscribes => absurd subscribes (history.not_subscribes fewer subs)
  intro s present
  cases log.state.apply_tableEffect label with
  | kept table pending => exact steady (by rw [pending]) s (table ▸ present)
  | subscribed subs handler now isSubscribe _ _ _ _ _ sized table _ queued =>
    have asks : Entry.Subscribes ⟨log.state, label⟩ subs := subscribes_of_queued sized queued
    have enrolled := log.state.enrolled_spec distinct subs handler
    rcases enrolled.entries s (table ▸ present) with ⟨old, unnamed⟩ | ⟨_, named⟩
    · refine (flags.live up s old).imp_right fun asked => asked.snoc goesOn fun other again => ?_
      rcases (history.subscribes_cases again).2 with ⟨_, _, same⟩ | ⟨_, same, _⟩
      · rw [isSubscribe] at same
        cases same
        exact unnamed
      · rw [isSubscribe] at same
        cases same
    · exact .inr (since_snoc.mpr (.inl ⟨subs, asks, named⟩))
  | unsubscribed filters now isUnsubscribe _ _ _ _ table =>
    refine (flags.live up s (table ▸ present)).imp_right fun asked =>
      asked.snoc goesOn fun subs again => ?_
    rcases (history.subscribes_cases again).2 with ⟨_, _, same⟩ | ⟨_, same, _⟩ <;>
      rw [isUnsubscribe] at same <;> cases same
  | resubscribed now isResubscribe _ _ sized table _ queued =>
    have asks : Entry.Subscribes ⟨log.state, label⟩ log.state.resubRequest :=
      subscribes_of_queued sized queued
    rw [table, unflagAll_eq_map _ subIds] at present
    obtain ⟨old, inTable, rfl⟩ := List.mem_map.mp present
    have level := log.state.askedLast_resubRequest distinct inTable
    by_cases inBatch : old ∈ log.state.resubBatch
    · rw [if_pos ((log.state.mem_resubBatch_iff subIds inTable).mp inBatch)]
      rw [if_pos inBatch] at level
      exact .inr (since_snoc.mpr (.inl ⟨_, asks, level⟩))
    · rw [if_neg fun named => inBatch ((log.state.mem_resubBatch_iff subIds inTable).mpr named)]
      rw [if_neg inBatch] at level
      refine (flags.live up old inTable).imp_right fun asked =>
        asked.snoc goesOn fun subs again => ?_
      rcases (history.subscribes_cases again).2 with ⟨_, _, same⟩ | ⟨_, _, rfl⟩
      · rw [isResubscribe] at same
        cases same
      · exact level
  | answered _ _ _ v ack _ _ _ found _ table pending =>
    obtain ⟨old, inTable, key, level, flag⟩ := answers_origin (table ▸ present)
    have sameFilter : s.filter = old.filter := congrArg Prod.fst key
    rw [sameFilter, level]
    rcases flag with same | ⟨_, named⟩
    · rw [same]
      exact steady (by rw [pending]; exact List.length_eraseP_le) old inTable
    · -- The flag was clear already.
      obtain ⟨awaited, _, expects⟩ := Client.findPending_mem found
      have clear := flags.acks ack awaited expects old inTable (by
        obtain ⟨answer, inZip, same⟩ := List.mem_map.mp named
        exact same ▸ (List.of_mem_zip inZip).2)
      rcases steady (by rw [pending]; exact List.length_eraseP_le) old inTable with set | asked
      · rw [clear] at set
        cases set
      · exact .inr asked
  | withdrawn _ _ _ _ _ _ _ _ _ table pending =>
    exact steady (by rw [pending]; exact List.length_eraseP_le) s
      ((eraseAll_sublist _ _).subset (table ▸ present))
  | forgotten awaiting => simp [awaiting] at up
  | ended closing => rcases closing with idle | idle <;> simp_all

end Step

/-! ## In every history -/

theorem History.flags (few : cfg.maxSubscriptions ≤ 65536) {log : Log cfg}
    (history : History log) : Flags log.state log.trace := by
  refine history.invariant (fun log => Flags log.state log.trace)
    (fun log label prior permitted flags => ?_)
    ⟨by simp [Client.initial], by simp [Client.initial], by simp [Client.initial]⟩
  have keys := prior.keysSound few
  rw [Logged.perform_state, Logged.perform_trace]
  refine ⟨fun notUp notLeaving => ?_, fun up => ?_, flags.step_acks keys (keys.step few label)⟩
  · by_cases wasDown : log.state.state ≠ .connected ∧ log.state.state ≠ .disconnecting
    · exact flags.step_down prior permitted wasDown.1 wasDown.2
    · have busy : log.state.state ≠ .idle := fun idle => wasDown (by simp [idle])
      have closing : (log.state.apply label).state = .idle := by
        rcases prior.state_cases permitted with
          same | ⟨was, _⟩ | ⟨was, _⟩ | ⟨_, moved⟩ | ⟨_, moved⟩ | ⟨_, moved⟩
        · exact absurd ⟨same ▸ notUp, same ▸ notLeaving⟩ wasDown
        · exact absurd was busy
        · exact absurd (by simp [was]) wasDown
        · exact absurd moved notUp
        · exact absurd moved notLeaving
        · exact moved
      obtain ⟨tx, reason, same⟩ := log.state.shutdown_of_end busy closing
      rw [Client.apply, same]
      exact ⟨fun s member => @mem_flagged log.state.subscriptions s member, rfl⟩
  · rcases prior.state_cases permitted with
      same | ⟨_, moved⟩ | ⟨_, moved⟩ | ⟨was, _⟩ | ⟨_, moved⟩ | ⟨_, moved⟩
    · exact flags.step_live prior keys (same.symm.trans up) up
    · simp [moved] at up
    · simp [moved] at up
    · exact fun s member =>
        .inl ((flags.step_down prior permitted (by simp [was]) (by simp [was])).1 s member)
    · simp [moved] at up
    · simp [moved] at up

/-- In every run of a client that remembers at most 65536 filters, each of them is
live or waits to be sent again. -/
theorem filters_live (cfg : Config) (few : cfg.maxSubscriptions ≤ 65536) (env : Env)
    (application : Script) : FiltersLive (World.exec cfg env application).log where
  live := @History.throughout _ _ (fun _ => True) _ (World.exec_history cfg env application)
    trivial (fun _ _ => id) fun _ history _ => (history.flags few).live
  waiting := by
    intro event member announces
    obtain ⟨before, after, split⟩ := List.append_of_mem member
    obtain ⟨earlier, reached, rfl, here, _⟩ :=
      (World.exec_history cfg env application).cut split
    have awaiting := (announces_iff.mp announces).1
    rw [here] at awaiting ⊢
    exact ((reached.flags few).down (by simp [awaiting]) (by simp [awaiting])).1

/-! ## A filter asked for on two connections -/

namespace LiveFilters

/-- Connect, lose the connection, and connect again. -/
def application : Script :=
  .connect { clientId := [97] } (.step (.abort .done (.connect { clientId := [97] } (.step .done))))

/-- The first `on_connect` handler subscribes to `t`. -/
def env : Env where
  opens := [.ok, .ok]
  sends := [(.ok, 15), (.ok, 8), (.ok, 15), (.ok, 8)]
  recvs := [(.ok, [0x20, 2, 0, 0]), (.wouldBlock, []), (.ok, [0x20, 2, 0, 0])]
  scripts := [.subscribe [{ filter := [116] }] none .done]

def run : World .small := World.exec .small env application

end LiveFilters

theorem filters_live_reconnect :
    FiltersLive LiveFilters.run.log ∧ LiveFilters.run.client.state = .connected ∧
      LiveFilters.run.client.subscriptions = [{ filter := [116], subId := 1 }] :=
  ⟨filters_live .small (by decide) LiveFilters.env LiveFilters.application, by decide +kernel,
    by decide +kernel⟩

/-! ## A grant that clears another filter's flag -/

namespace LostFlag

open Crowded

/-- Two filters more than there are identities, and one acknowledgement at a time. -/
def config : Config := Crowded.config 65537 1

def options : ConnectOptions := { clientId := [97], keepAliveS := 0 }

/-- A CONNACK that accepts, without a session. -/
def connack : Bytes := [0x20, 2, 0, 0]

/-- The client of this run: what changes in it, the rest as constructed. -/
def client (tx : TxQueue config.txBufferSize) (rx : Bytes) (state : State)
    (table : List Subscription) (pending : List PendingAck) (inStep forced : Bool)
    (packetId subId : UInt16) : Client config :=
  { Client.initial config with
    tx := tx, rx := rx, state := state, subscriptions := table, pending := pending,
    inStep := inStep, retransmitNow := forced, nextPacketId := packetId, nextSubId := subId }

/-- The environment of this run: the transport's answers and the handlers. -/
def env (opens : List Error) (sends : List (Error × Nat)) (recvs : List (Error × Bytes))
    (scripts : List Script) : Env :=
  { opens := opens, sends := sends, recvs := recvs, scripts := scripts }

/-- The event does not ask for the filter: it names others, or it may not ask at all. -/
def Spares (filter : Bytes) (event : Event cfg) : Prop :=
  (∀ subs handler now, event.label = .subscribe subs handler now →
    ∀ asked ∈ subs, asked.filter ≠ filter) ∧
  ∀ now, event.label = .resubscribe now → event.before.ackTableFull = true

theorem act_eq {c c' : Client config} {trace : Trace config} {opens : List Error}
    {sends : List (Error × Nat)} {recvs : List (Error × Bytes)} {scripts : List Script}
    {label : Label} (applied : c.apply label = c') :
    World.act ⟨⟨c, trace⟩, env opens sends recvs scripts⟩ label =
      ⟨⟨c', trace ++ [⟨c, label⟩]⟩, env opens sends recvs scripts⟩ := by
  subst applied
  show World.mk _ (if (c.react label).readClock then _ else _) = _
  split <;> rfl

section Handshake

variable {tx : TxQueue config.txBufferSize} {table : List Subscription} {forced : Bool}
  {subId : UInt16} {trace : Trace config} {opens : List Error} {sends : List (Error × Nat)}
  {recvs : List (Error × Bytes)} {script : Script} {scripts : List Script}

/-- The step up to the `on_connect` handler. -/
def handshake (tx : TxQueue config.txBufferSize) (table : List Subscription) (forced : Bool)
    (subId : UInt16) : Trace config :=
  [⟨client tx [] .connecting table [] false forced 0 subId, .stepEnter⟩,
    ⟨client tx [] .connecting table [] true forced 0 subId, .transportConnect .ok 0⟩,
    ⟨client tx [] .awaitingConnack table [] true forced 0 subId, .send .ok 15 0⟩,
    ⟨client (tx.consume 15) [] .awaitingConnack table [] true forced 0 subId, .recv .ok connack 0⟩,
    ⟨client (tx.consume 15) connack .awaitingConnack table [] true forced 0 subId,
      .handle { type := .connack, remainingLength := 2 } [0, 0] 0⟩]

theorem openPass_of_handshake (waiting : tx.peek = connectPacket options) :
    World.openPass ⟨⟨client tx [] .awaitingConnack table [] true forced 0 subId, trace⟩,
      env opens ((.ok, 15) :: sends) ((.ok, connack) :: recvs) (script :: scripts)⟩ =
      World.orEnd (World.afterPacket 7 4 (World.runScript World.refuseStep script
        ⟨⟨client (tx.consume 15) connack .connected (table.map Subscription.flagged) [] true true
            0 subId, trace ++ (handshake tx table forced subId).drop 2⟩, env opens sends recvs
            scripts⟩))
        World.afterReceive := by
  let begun : World config := ⟨⟨client tx [] .awaitingConnack table [] true forced 0 subId, trace⟩,
    env opens ((.ok, 15) :: sends) ((.ok, connack) :: recvs) (script :: scripts)⟩
  let sent : World config := begun.nextSend.2.act (.send .ok 15 0)
  let received : World config := sent.nextRecv.2.act (.recv .ok connack 0)
  have length : begun.client.tx.peek.length = 15 := by
    show tx.peek.length = 15
    rw [waiting]
    rfl
  have pumped : begun.pumpTx = (.ok, sent) := World.pumpTx_of_taken length (by decide) rfl
  let announced : World config :=
    received.act (.handle { type := .connack, remainingLength := 2 } [0, 0] 0)
  have handled : received.handlePacket { type := .connack, remainingLength := 2 } [0, 0] =
      (.ok, World.runScript World.refuseStep script announced.nextScript.2) := rfl
  have receives : World.pumpRx 8 sent = World.afterPacket 7 4
      (World.runScript World.refuseStep script announced.nextScript.2) :=
    @World.pumpRx_of_packet config sent connack _ _ 7 rfl rfl rfl rfl (by decide) handled
  have reached : announced.nextScript.2 =
      ⟨⟨client (tx.consume 15) connack .connected (table.map Subscription.flagged) [] true true
        0 subId, trace ++ (handshake tx table forced subId).drop 2⟩, env opens sends recvs scripts⟩ := by
    show World.mk ⟨_, trace ++ [_] ++ [_] ++ [_]⟩ _ = _
    rw [List.append_assoc, List.append_assoc]
    rfl
  show begun.openPass = _
  have awaiting : sent.client.state = .awaitingConnack := rfl
  have staying : ¬ (sent.client.state = .disconnecting ∧ sent.client.tx.isEmpty = true) := by
    simp [awaiting]
  rw [← reached, ← receives]
  unfold World.openPass
  rw [pumped]
  unfold World.orEnd
  rw [if_neg (by simp)]
  simp only [if_neg staying, World.kMaxRecvRoundsPerStep]
  rfl

/-- A step that sends the CONNECT and handles the CONNACK, up to the `on_connect` handler. -/
theorem step_of_handshake (waiting : tx.peek = connectPacket options) :
    World.step ⟨⟨client tx [] .connecting table [] false forced 0 subId, trace⟩,
        env (.ok :: opens) ((.ok, 15) :: sends) ((.ok, connack) :: recvs) (script :: scripts)⟩ =
      match World.orEnd (World.afterPacket 7 4 (World.runScript World.refuseStep script
        ⟨⟨client (tx.consume 15) connack .connected (table.map Subscription.flagged) [] true true
            0 subId, trace ++ handshake tx table forced subId⟩, env opens sends recvs scripts⟩))
          World.afterReceive with
      | (error, w) => (error, w.act (.stepLeave error)) := by
  have pass := @openPass_of_handshake tx table forced subId
    (trace ++ (handshake tx table forced subId).take 2) opens sends recvs script scripts waiting
  rw [List.append_assoc, List.take_append_drop] at pass
  rw [← pass]
  have opened : World.stepOnce (World.act ⟨⟨client tx [] .connecting table [] false forced 0 subId,
        trace⟩, env (.ok :: opens) ((.ok, 15) :: sends) ((.ok, connack) :: recvs)
        (script :: scripts)⟩ .stepEnter) =
      World.openPass ⟨⟨client tx [] .awaitingConnack table [] true forced 0 subId,
        trace ++ (handshake tx table forced subId).take 2⟩, env opens ((.ok, 15) :: sends)
        ((.ok, connack) :: recvs) (script :: scripts)⟩ := by
    show World.openPass ⟨⟨_, trace ++ [_] ++ [_]⟩, _⟩ = _
    rw [List.append_assoc]
    rfl
  rw [← opened]
  rfl

end Handshake

/-! ## The first connection -/

theorem connect_succeeds {c : Client config} (idle : c.state = .idle) :
    ∃ tx, tx.peek = connectPacket options ∧ c.connect options 0 =
      { queued := [{ bytes := connectPacket options }], readClock := true,
        client := c.opened options tx 0 } :=
  @Client.connect_of_fits config c options 13 (by decide) rfl (by decide) idle 0

/-- What the first `on_connect` handler does. -/
def askAndReconnect (subs : List TopicSubscription) : Script :=
  .subscribe subs none (.abort .done (.connect options .done))

theorem subscribe_all {tx : TxQueue config.txBufferSize} (empty : tx.peek = []) :
    ∃ tx' table ack packetId subId first second,
      (client tx connack .connected [] [] true true 0 0).apply (.subscribe (words 65537) none 0) =
        client tx' connack .connected table [ack] true true packetId subId ∧
      Doubled table first second ∧ table.length ≤ 65537 ∧
      ∃ index < 65537, second.filter = word index := by
  let asking := client tx connack .connected [] [] true true 0 0
  have counted := newEntries_words_le asking 65537
  obtain ⟨tx', _, same⟩ := asking.subscribe_of_room none 0 rfl
    (by rw [length_words]; simp [words, config, Crowded.config])
    (words_checked (Nat.le_refl _) (by decide)) rfl
    (show 0 + asking.newEntries (words 65537) ≤ 65537 by omega)
    (words_sized (Nat.le_refl _) (by decide))
    (asking.allocPacketId_ne_zero (show ([] : List UInt16).length < 65535 by decide))
    (show tx.peek.length + packetSize (2 + 6 * 65537) ≤ 400000 by rw [empty]; decide)
  obtain ⟨first, second, doubled, isWord⟩ :=
    @words_doubled _ 65537 asking rfl (Nat.le_refl _) (Nat.le_refl _)
  have short := @length_words_le _ asking rfl 65537
  obtain ⟨table, subId, ids, enrolled⟩ :=
    Client.foldl_registerFilter_shape none (words 65537) asking []
  have enrolled : asking.enrolled (words 65537) none = _ := enrolled
  rw [enrolled] at doubled short
  refine ⟨tx', table,
    { subs := [] ++ ids, sentMs := 0, packetId := asking.allocPacketId.1, expected := .suback },
    asking.allocPacketId.2.nextPacketId, subId, first, second, ?_, doubled, short, isWord⟩
  rw [Client.apply, Client.react, same, Client.subscribed_eq, enrolled]
  rfl

/-- The first step: it ends with a new connection under way and the table flagged. -/
theorem first_step {tx tx' : TxQueue config.txBufferSize} {subs : List TopicSubscription}
    {table : List Subscription} {ack : PendingAck} {packetId subId : UInt16}
    (waiting : tx.peek = connectPacket options)
    (asked : (client (tx.consume 15) connack .connected [] [] true true 0 0).apply
      (.subscribe subs none 0) =
        client tx' connack .connected table [ack] true true packetId subId) :
    ∃ tx'', tx''.peek = connectPacket options ∧
      ∀ trace opens sends recvs scripts, ∃ before event after,
        World.step ⟨⟨client tx [] .connecting [] [] false false 0 0, trace⟩,
          env (.ok :: opens) ((.ok, 15) :: sends) ((.ok, connack) :: recvs)
            (askAndReconnect subs :: scripts)⟩ =
        (.ok, ⟨⟨client tx'' [] .connecting ((table.map Subscription.flagged).map
          Subscription.flagged) [] false true 0 subId, before ++ event :: after⟩,
          env opens sends recvs scripts⟩) ∧
        event.EndsSession ∧ ∀ filter, ∀ later ∈ event :: after, Spares filter later := by
  let left := (client tx' connack .connected table [ack] true true packetId subId).apply .abort
  obtain ⟨tx'', again, connects⟩ := @connect_succeeds left rfl
  refine ⟨tx'', again, fun trace opens sends recvs scripts => ?_⟩
  let asking := client (tx.consume 15) connack .connected [] [] true true 0 0
  let leaving := client tx' connack .connected table [ack] true true packetId subId
  let opening := client tx'' [] .connecting ((table.map Subscription.flagged).map
    Subscription.flagged) [] true true 0 subId
  have reopened : left.apply (.connect options 0) = opening := by
    rw [Client.apply, Client.react, connects]
    rfl
  have ran : World.runScript World.refuseStep (askAndReconnect subs)
      ⟨⟨asking, trace ++ handshake tx [] false 0⟩, env opens sends recvs scripts⟩ =
      ⟨⟨opening, trace ++ handshake tx [] false 0 ++ [⟨asking, .subscribe subs none 0⟩] ++
        [⟨leaving, .abort⟩] ++ [⟨left, .connect options 0⟩]⟩, env opens sends recvs scripts⟩ := by
    show World.runScript World.refuseStep (.abort .done (.connect options .done))
      (World.act ⟨⟨asking, _⟩, env opens sends recvs scripts⟩ (.subscribe subs none 0)) = _
    rw [act_eq asked]
    exact act_eq reopened
  rw [step_of_handshake waiting, show [].map Subscription.flagged = [] from rfl, ran]
  refine ⟨trace ++ handshake tx [] false 0 ++ [⟨asking, .subscribe subs none 0⟩],
    ⟨leaving, .abort⟩, [⟨left, .connect options 0⟩, ⟨opening, .discard⟩,
      ⟨opening, .stepLeave .ok⟩], ?_, rfl, fun filter later member => ?_⟩
  · show (Error.ok, World.mk ⟨_, _ ++ [_] ++ [_] ++ [_] ++ [_]⟩ _) = _
    simp only [List.append_assoc, List.cons_append, List.nil_append]
    rfl
  · simp only [List.mem_cons, List.not_mem_nil, or_false] at member
    rcases member with rfl | rfl | rfl | rfl <;> exact ⟨by simp, by simp⟩

/-! ## The second connection -/

/-- What the second `on_connect` handler does. -/
def askAgain (filter : Bytes) : Script := .subscribe [{ filter := filter }] none .done

/-- The SUBACK awaited is about identity zero. -/
def awaited : PendingAck := { subs := [0], packetId := 1, expected := .suback }

section Second

variable {tx : TxQueue config.txBufferSize} {table : List Subscription}
  {first second : Subscription} {index : Nat} {subId : UInt16}

theorem subscribe_again (empty : tx.peek = []) (doubled : Doubled table first second)
    (short : table.length ≤ 65537) (small : index < 65537) (isWord : second.filter = word index) :
    ∃ tx' table' second', tx'.peek.length = 10 ∧ Doubled table' first second' ∧
      (client tx connack .connected table [] true true 0 subId).apply
          (.subscribe [{ filter := second.filter }] none 0) =
        client tx' connack .connected table' [awaited] true true 1 subId := by
  let asking := client tx connack .connected table [] true true 0 subId
  have known : asking.newEntries [{ filter := second.filter }] = 0 := by
    obtain ⟨front, middle, back, split, _⟩ := doubled.split
    refine List.countP_eq_zero.mpr fun asked member => ?_
    obtain rfl := List.mem_singleton.mp member
    rw [asking.isNone_findSubscription, not_not]
    exact List.mem_map_of_mem (show second ∈ table by simp [split])
  have sized : subscribeRemainingLength [{ filter := second.filter }] = .ok 8 := by
    rw [isWord, word_sized small]
  have valid : Client.checkFilters [{ filter := second.filter }] config.maxTopicLen = .ok :=
    Client.checkFilters_of_valid (by simp [isWord, isValidFilter_word small, config, Crowded.config,
    Config.default])
  obtain ⟨tx', peek, same⟩ := asking.subscribe_of_room none 0 rfl (by simp [config, Crowded.config]) valid
    rfl (by rw [known]; exact short) sized
    (asking.allocPacketId_ne_zero (show ([] : List UInt16).length < 65535 by decide))
    (show tx.peek.length + packetSize 8 ≤ 400000 by rw [empty]; decide)
  have doubled : Doubled asking.subscriptions first second := doubled
  obtain ⟨table', enrolled, doubled'⟩ := doubled.enrolled none .atMostOnce
  refine ⟨tx', table', _, ?_, doubled', ?_⟩
  · rw [peek, show asking.tx.peek = [] from empty, List.nil_append, Client.length_subscribePacket sized]
    rfl
  · rw [Client.apply, Client.react, same, Client.subscribed_eq, enrolled]
    rfl

/-- The second step: the handler asks for the second filter, and the request goes out. -/
theorem second_step (waiting : tx.peek = connectPacket options)
    (doubled : Doubled table first second)
    (short : table.length ≤ 65537) (small : index < 65537) (isWord : second.filter = word index) :
    ∃ tx' table' second', tx'.peek = [] ∧ Doubled table' first.flagged second' ∧
      ∀ trace opens sends recvs scripts, ∃ later,
        World.step ⟨⟨client tx [] .connecting table [] false true 0 subId, trace⟩,
          env (.ok :: opens) ((.ok, 15) :: (.ok, 10) :: sends)
            ((.ok, connack) :: (.wouldBlock, []) :: recvs) (askAgain second.filter :: scripts)⟩ =
        (.ok, ⟨⟨client tx' [] .connected table' [awaited] false false 1 subId, trace ++ later⟩,
          env opens sends recvs scripts⟩) ∧
        ∀ filter ≠ second.filter, ∀ event ∈ later, Spares filter event := by
  have empty : (tx.consume 15).peek = [] := by
    rw [TxQueue.peek_consume, waiting]
    rfl
  obtain ⟨tx', table', second', length, doubled', asked⟩ := @subscribe_again _ _ _ _ index subId empty
    doubled.flagged (by simpa using short) small isWord
  refine ⟨tx'.consume 10, table', second', ?_, doubled', fun trace opens sends recvs scripts => ?_⟩
  · rw [TxQueue.peek_consume, ← length, List.drop_length]
  let asking := client (tx.consume 15) connack .connected (table.map Subscription.flagged) [] true
    true 0 subId
  let owing := client tx' connack .connected table' [awaited] true true 1 subId
  let handled : World config := ⟨⟨owing, trace ++ handshake tx table true subId ++
      [⟨asking, .subscribe [{ filter := second.filter }] none 0⟩]⟩,
    env opens ((.ok, 10) :: sends) ((.wouldBlock, []) :: recvs) scripts⟩
  let quiet := (handled.act (.consume 4)).nextRecv.2.act (.recv .wouldBlock [] 0)
  let resent := ((quiet.act (.keepAlive 0)).act (.resubscribe 0)).act (.retransmit 0)
  let flushed := resent.nextSend.2.act (.send .ok 10 0)
  have ran : World.runScript World.refuseStep (askAgain second.filter)
      ⟨⟨asking, trace ++ handshake tx table true subId⟩,
        env opens ((.ok, 10) :: sends) ((.wouldBlock, []) :: recvs) scripts⟩ = handled :=
    act_eq asked
  have silence : World.afterPacket 7 4 handled = (.ok, quiet) :=
    @World.afterPacket_of_silence config handled 4 6 rfl (fun connecting => by cases connecting) rfl
  have pumped : resent.pumpTx = (.ok, flushed) := World.pumpTx_of_taken length (by decide) rfl
  have passed : quiet.afterReceive = (.ok, flushed) := by
    show World.orEnd resent.pumpTx (fun w => (.ok, w)) = _
    rw [pumped]
    rfl
  let drained := client tx' [] .connected table' [awaited] true true 1 subId
  refine ⟨handshake tx table true subId ++
    [⟨asking, .subscribe [{ filter := second.filter }] none 0⟩, ⟨owing, .consume 4⟩,
      ⟨drained, .recv .wouldBlock [] 0⟩, ⟨drained, .keepAlive 0⟩, ⟨drained, .resubscribe 0⟩,
      ⟨drained, .retransmit 0⟩,
      ⟨client tx' [] .connected table' [awaited] true false 1 subId, .send .ok 10 0⟩,
      ⟨client (tx'.consume 10) [] .connected table' [awaited] true false 1 subId,
        .stepLeave .ok⟩], ?_, ?_⟩
  · rw [step_of_handshake waiting, ran, silence]
    show (match quiet.afterReceive with | (error, w) => (error, w.act (.stepLeave error))) = _
    rw [passed]
    show (Error.ok, World.mk ⟨_, _ ++ [_] ++ [_] ++ [_] ++ [_] ++ [_] ++ [_] ++ [_] ++ [_]⟩ _) = _
    simp only [List.append_assoc, List.cons_append, List.nil_append]
    rfl
  · intro filter other event member
    simp only [handshake, List.cons_append, List.nil_append, List.mem_cons, List.not_mem_nil,
      or_false] at member
    rcases member with rfl | rfl | rfl | rfl | rfl | rfl | rfl | rfl | rfl | rfl | rfl | rfl | rfl
    case inr.inr.inr.inr.inr.inl =>
      refine ⟨fun subs handler now same asked among => ?_, by simp⟩
      cases same
      obtain rfl := List.mem_singleton.mp among
      exact Ne.symm other
    case inr.inr.inr.inr.inr.inr.inr.inr.inr.inl => exact ⟨by simp, fun _ _ => rfl⟩
    all_goals exact ⟨by simp, by simp⟩

/-- The grant for the request. -/
def suback : Bytes := [0x90, 3, 0, 1, 0]

/-- The third step: the SUBACK clears the flag of the first filter. -/
theorem third_step (empty : tx.peek = []) (doubled : Doubled table first second)
    (trace : Trace config) (opens : List Error) (sends : List (Error × Nat))
    (recvs : List (Error × Bytes)) :
    ∃ event after later,
      (World.step ⟨⟨client tx [] .connected table [awaited] false false 1 subId, trace⟩,
        env opens sends ((.ok, suback) :: recvs) []⟩).2.trace = trace ++ after ++ event :: later ∧
      event.before.state = .connected ∧ first.granted 0 ∈ event.before.subscriptions ∧
      ∀ filter, ∀ event ∈ after, Spares filter event := by
  let start : World config := ⟨⟨client tx [] .connected table [awaited] false false 1 subId, trace⟩,
    env opens sends ((.ok, suback) :: recvs) []⟩
  let received := (start.act .stepEnter).nextRecv.2.act (.recv .ok suback 0)
  let answered := (received.act (.handle { type := .suback, remainingLength := 3 } [0, 1, 0]
    0)).nextScript.2
  have handled : received.handlePacket { type := .suback, remainingLength := 3 } [0, 1, 0] =
      (.ok, answered) := rfl
  have isAnswered : answered.client = { client tx suback .connected table [] true false 1 subId with
      subscriptions := answerOne table (0, 0) } := by
    show (Client.applyReturnCode _ (0, 0)).removePending 1 .suback = _
    rw [Client.applyReturnCode_eq]
    rfl
  have whole : answered.client.rx.length = 5 := by
    rw [isAnswered]
    rfl
  have pumped : (start.act .stepEnter).pumpTx = (.ok, start.act .stepEnter) :=
    World.pumpTx_of_empty empty
  obtain ⟨later, grown⟩ := World.step_of_packet rfl rfl pumped rfl rfl
    (show (start.act .stepEnter).nextRecv.1 = (.ok, suback) from rfl) rfl rfl (by decide) handled whole
  refine ⟨⟨answered.client, .consume 5⟩,
    [⟨start.client, .stepEnter⟩, ⟨(start.act .stepEnter).client, .recv .ok suback 0⟩,
      ⟨received.client, .handle { type := .suback, remainingLength := 3 } [0, 1, 0] 0⟩], later,
    ?_, ?_, ?_, ?_⟩
  · refine grown.trans ?_
    show trace ++ [_] ++ [_] ++ [_] ++ [_] ++ later = _
    simp only [List.append_assoc, List.cons_append, List.nil_append]
    rfl
  · rw [isAnswered]
    rfl
  · rw [isAnswered]
    exact doubled.answerOne (by decide)
  · intro filter event member
    simp only [List.mem_cons, List.not_mem_nil, or_false] at member
    rcases member with rfl | rfl | rfl <;> exact ⟨by simp, by simp⟩

end Second

/-! ## The whole run -/

theorem not_asks_of_spares {log : Log cfg} (history : History log) {label : Label}
    {filter : Bytes} (spares : Spares filter ⟨log.state, label⟩) (level : QoS) :
    ¬ Entry.Asks ⟨log.state, label⟩ filter level := by
  rintro ⟨subs, subscribes, named⟩
  rcases history.subscribes_cases subscribes with ⟨⟨ack, grown⟩, ⟨handler, now, rfl⟩ |
    ⟨now, rfl, _⟩⟩
  · obtain ⟨asked, among, same, _⟩ := mem_of_askedLast named
    exact spares.1 subs handler now rfl asked among same
  · have full : log.state.ackTableFull = true := spares.2 now rfl
    rw [Client.apply, Client.react, Client.pumpResubscribe, if_pos full] at grown
    exact absurd (congrArg List.length grown) (by simp)

/-- Nobody has asked for the filter since the session ended. -/
theorem not_lastAsked {log : Log cfg} (history : History log) {before after rest : Trace cfg}
    {event : Event cfg} {filter : Bytes} (split : log.trace = before ++ event :: after ++ rest)
    (ended : event.EndsSession) (spares : ∀ later ∈ event :: after, Spares filter later)
    (level : QoS) : ¬ LastAsked filter level (before ++ event :: after) := by
  refine not_since_of_spoiled (.inl ended) fun later member => ?_
  obtain ⟨front, back, isSplit⟩ := List.append_of_mem member
  obtain ⟨earlier, reached, _, here, _⟩ := @History.cut _ _ history (before ++ front) (back ++ rest)
    later (by rw [split, isSplit]; simp)
  obtain ⟨state, label⟩ := later
  obtain rfl : state = earlier.state := here
  exact not_asks_of_spares reached (spares _ member) level

/-- Three steps of an application whose first handler asks for `subs`. -/
theorem flag_lost {subs : List TopicSubscription} {tx tx' : TxQueue config.txBufferSize}
    {table : List Subscription} {ack : PendingAck} {packetId subId : UInt16}
    {first second : Subscription} {index : Nat} (waiting : tx.peek = connectPacket options)
    (opened : (Client.initial config).apply (.connect options 0) =
      client tx [] .connecting [] [] false false 0 0)
    (asked : (client (tx.consume 15) connack .connected [] [] true true 0 0).apply
      (.subscribe subs none 0) =
        client tx' connack .connected table [ack] true true packetId subId)
    (doubled : Doubled table first second) (short : table.length ≤ 65537) (small : index < 65537)
    (isWord : second.filter = word index) :
    ¬ FiltersLive (World.exec config
      (env [.ok, .ok] [(.ok, 15), (.ok, 15), (.ok, 10)]
        [(.ok, connack), (.ok, connack), (.wouldBlock, []), (.ok, suback)]
        [askAndReconnect subs, askAgain second.filter])
      (.connect options (.step (.step (.step .done))))).log := by
  obtain ⟨tx'', waiting', firstStep⟩ := first_step waiting asked
  obtain ⟨tx3, table', second', empty, doubled', secondStep⟩ := @second_step _ _ _ _ _ subId waiting'
    doubled.flagged.flagged (by simpa using short) small isWord
  obtain ⟨before, event, after, stepped, ended, spares⟩ := firstStep
    [⟨Client.initial config, .connect options 0⟩] [.ok] [(.ok, 15), (.ok, 10)]
    [(.ok, connack), (.wouldBlock, []), (.ok, suback)] [askAgain second.filter]
  obtain ⟨between, steppedAgain, sparesAgain⟩ := secondStep (before ++ event :: after) [] []
    [(.ok, suback)] []
  rw [show second.flagged.flagged.filter = second.filter from rfl] at steppedAgain sparesAgain
  obtain ⟨last, front, later, grown, up, cleared, sparesLast⟩ := @third_step _ _ _ _ subId empty
    doubled' (before ++ event :: after ++ between) [] [] []
  intro live
  have history := World.exec_history config
    (env [.ok, .ok] [(.ok, 15), (.ok, 15), (.ok, 10)]
      [(.ok, connack), (.ok, connack), (.wouldBlock, []), (.ok, suback)]
      [askAndReconnect subs, askAgain second.filter])
    (.connect options (.step (.step (.step .done))))
  have split : (World.exec config
      (env [.ok, .ok] [(.ok, 15), (.ok, 15), (.ok, 10)]
        [(.ok, connack), (.ok, connack), (.wouldBlock, []), (.ok, suback)]
        [askAndReconnect subs, askAgain second.filter])
      (.connect options (.step (.step (.step .done))))).trace =
        before ++ event :: (after ++ between ++ front) ++ last :: later := by
    show (World.step (World.step (World.step (World.act ⟨⟨Client.initial config, []⟩,
      env _ _ _ _⟩ (.connect options 0))).2).2).2.trace = _
    rw [act_eq opened, List.nil_append, stepped, steppedAgain, grown]
    simp
  have lost := @not_lastAsked _ _ history before (after ++ between ++ front) (last :: later) event
    first.filter split ended (by
      intro other member
      simp only [List.mem_cons, List.mem_append] at member
      rcases member with rfl | (inAfter | inBetween) | inFront
      · exact spares _ _ (by simp)
      · exact spares _ _ (by simp [inAfter])
      · exact sparesAgain _ doubled.filters_ne _ inBetween
      · exact sparesLast _ _ inFront) first.requestedQos
  rcases live.live.1 _ last later split up _ cleared with flag | asked
  · cases flag
  · exact lost asked

end LostFlag

/-- A client that remembers 65537 filters loses track of one of them. -/
theorem filter_never_resent : ∃ env application,
    ¬ FiltersLive (World.exec LostFlag.config env application).log := by
  obtain ⟨tx, waiting, connects⟩ :=
    @LostFlag.connect_succeeds (Client.initial LostFlag.config) rfl
  have empty : (tx.consume 15).peek = [] := by
    rw [TxQueue.peek_consume, waiting]
    rfl
  obtain ⟨tx', table, ack, packetId, subId, first, second, asked, doubled, short, index, small,
    isWord⟩ := LostFlag.subscribe_all empty
  refine ⟨_, _, LostFlag.flag_lost waiting ?_ asked doubled short small isWord⟩
  rw [Client.apply, Client.react, connects]
  rfl

end Mqtt
