import Mqtt.Client.Refinement
import Mqtt.Session.Filters
import Mqtt.Wire.Framing

/-!
# Calls that fail

A call can fail at any of several points, some of them after it has compacted the
queue, written into a free slot's buffer or advanced the id counter. This module
says what is left of that: nothing an application or the broker could observe.

`connect()` is the exception. It discards the old session before it knows that the
new CONNECT fits the transmit buffer.
-/

namespace Mqtt

open Library

variable {cfg : Config}

namespace Client

/-! ## Publishing, subscribing, unsubscribing -/

/-- What a failed call leaves alone: the bytes to be sent, every message in flight,
the tables, the state and the timers. -/
structure Undisturbed (before after : Client cfg) : Prop where
  tx : after.tx.peek = before.tx.peek
  inFlight : ∀ (index : Nat) (slot : OutboundSlot), slot.phase ≠ .free →
    (after.outbound[index]? = some slot ↔ before.outbound[index]? = some slot)
  subscriptions : after.subscriptions = before.subscriptions
  pending : after.pending = before.pending
  inboundIds : after.inboundIds = before.inboundIds
  state : after.state = before.state
  keepAliveMs : after.keepAliveMs = before.keepAliveMs
  lastSentMs : after.lastSentMs = before.lastSentMs
  lastReceivedMs : after.lastReceivedMs = before.lastReceivedMs
  pingSentMs : after.pingSentMs = before.pingSentMs
  pingOutstanding : after.pingOutstanding = before.pingOutstanding
  connectStartedMs : after.connectStartedMs = before.connectStartedMs

/-- The call has its whole effect or none: one packet behind the bytes to be sent,
or nothing changed and no packet id reported. -/
structure Atomic (c : Client cfg) (type : PacketType) (call : Reaction cfg) : Prop where
  failed : call.error ≠ .ok → c.Undisturbed call.client ∧ call.packetId = none
  done : call.error = .ok → ∃ packet : Packet, packet.header.type = type ∧
    call.client.tx.peek = c.tx.peek ++ packet.bytes

/-- What a failed publish scribbled on is no message. -/
theorem Scribbled.inFlight {before after : List OutboundSlot} (scribbled : Scribbled before after)
    {index : Nat} {slot : OutboundSlot} (used : slot.phase ≠ .free) :
    after[index]? = some slot ↔ before[index]? = some slot := by
  rcases scribbled with rfl | ⟨place, old, packet, here, isFree, _, rfl⟩
  · exact Iff.rfl
  · by_cases same : place = index
    · subst same
      obtain ⟨within, _⟩ := List.getElem?_eq_some_iff.mp here
      rw [List.getElem?_set_self within, here]
      constructor <;> rintro ⟨rfl⟩ <;> exact absurd isFree used
    · rw [List.getElem?_set_ne same]

variable (c : Client cfg)

theorem undisturbed_refuse {tx : TxQueue cfg.txBufferSize} {outbound : List OutboundSlot}
    (n : UInt16) (same : tx.peek = c.tx.peek) (scribbled : Scribbled c.outbound outbound) :
    c.Undisturbed { c with tx := tx, nextPacketId := n, outbound := outbound } where
  tx := same
  inFlight _ _ used := scribbled.inFlight used
  subscriptions := rfl
  pending := rfl
  inboundIds := rfl
  state := rfl
  keepAliveMs := rfl
  lastSentMs := rfl
  lastReceivedMs := rfl
  pingSentMs := rfl
  pingOutstanding := rfl
  connectStartedMs := rfl

theorem atomic_of_refuse {type : PacketType} {call : Reaction cfg} {tx : TxQueue cfg.txBufferSize}
    {outbound : List OutboundSlot} {n : UInt16} {error : Error} (bad : error ≠ .ok)
    (same : tx.peek = c.tx.peek) (scribbled : Scribbled c.outbound outbound)
    (called : call = refuse { c with tx := tx, nextPacketId := n, outbound := outbound } error) :
    c.Atomic type call := by
  subst called
  exact ⟨fun _ => ⟨c.undisturbed_refuse n same scribbled, rfl⟩, fun fine => absurd fine bad⟩

theorem atomic_of_sent (header : FixedHeader) {body : Bytes} {type : PacketType}
    {call : Reaction cfg} (sendable : header.Sendable) (isType : header.type = type)
    (short : body.length ≤ kMaxRemainingLength) (fine : call.error = .ok)
    (sent : call.client.tx.peek = c.tx.peek ++ packetOf header body) : c.Atomic type call where
  failed bad := absurd fine bad
  done _ := ⟨.of header body sendable short, isType, sent⟩

theorem publish_atomic (topic payload : Bytes) (qos : QoS) (retain : Bool) (now : UInt32) :
    c.Atomic .publish (c.publish topic payload qos retain now) := by
  rcases c.publish_cases topic payload qos retain now with
    ⟨error, tx, n, outbound, bad, peek, scribbled, same⟩ | ⟨_, _, ⟨size, sized⟩, tx, peek, same⟩ |
      ⟨_, _, ⟨size, sized⟩, _, _, id, tx, packet, _, _, _, _, _, rfl, _, _, peek, same⟩
  · exact c.atomic_of_refuse bad peek scribbled same
  all_goals
    obtain ⟨_, _, level, _, within, _⟩ := publishRemainingLength_ok sized
    exact c.atomic_of_sent { type := .publish, qos := qos, retain := retain }
      ⟨by simp, by simpa using level⟩ rfl (length_publishBody sized ▸ within) (by rw [same])
      (by rw [same]; exact peek)

/-- A filter the request names is in the table it leaves. -/
theorem filter_mem_enrolled {subs : List TopicSubscription} {asked : TopicSubscription}
    (handler : Option Nat) (member : asked ∈ subs) :
    ∃ entry ∈ (c.enrolled subs handler).1.subscriptions, entry.filter = asked.filter := by
  suffices present : ∀ filter,
      filter ∈ c.subscriptions.map (·.filter) ∨ filter ∈ subs.map (·.filter) →
        filter ∈ (c.enrolled subs handler).1.subscriptions.map (·.filter) by
    exact List.mem_map.mp (present _ (.inr (List.mem_map_of_mem member)))
  clear member
  induction subs using List.reverseRecOn with
  | nil =>
    rintro filter (old | none)
    · exact old
    · cases none
  | append_singleton subs last ih =>
    rintro filter among
    rw [List.map_append, List.map_singleton, List.mem_append, List.mem_singleton,
      ← or_assoc] at among
    rw [enrolled_snoc]
    rcases (c.enrolled subs handler).1.registerFilter_keys handler
        (c.enrolled subs handler).2 last with ⟨known, keys⟩ | ⟨_, keys⟩
    · rw [← filters_eq, keys, filters_eq]
      rcases among with earlier | rfl
      · exact ih filter earlier
      · exact known
    · rw [← filters_eq, keys, List.map_append, filters_eq]
      rcases among with earlier | rfl
      · exact List.mem_append_left _ (ih filter earlier)
      · exact List.mem_append_right _ List.mem_cons_self

theorem subscribe_atomic (subs : List TopicSubscription) (handler : Option Nat) (now : UInt32) :
    c.Atomic .subscribe (c.subscribe subs handler now) ∧
      ((c.subscribe subs handler now).error = .ok →
        (∃ ack, (c.subscribe subs handler now).client.pending = c.pending ++ [ack]) ∧
        ∀ asked ∈ subs, ∃ entry ∈ (c.subscribe subs handler now).client.subscriptions,
          entry.filter = asked.filter) := by
  rcases c.subscribe_cases subs handler now with
    ⟨error, tx, n, bad, peek, same⟩ | ⟨_, _, _, _, _, _, ⟨size, sized⟩, tx, peek, same⟩
  · refine ⟨c.atomic_of_refuse bad peek (.inl rfl) same, fun fine => absurd fine ?_⟩
    rwa [same]
  · obtain ⟨_, within, _⟩ := subscribeRemainingLength_ok sized
    rw [subscribed_eq] at same
    refine ⟨c.atomic_of_sent { type := .subscribe } (by decide) rfl
      (length_subscribeBody sized ▸ within) (by rw [same]) (by rw [same]; exact peek), fun _ => ?_⟩
    rw [same]
    exact ⟨⟨_, rfl⟩, fun asked member => c.filter_mem_enrolled handler member⟩

theorem unsubscribe_atomic (filters : List Bytes) (now : UInt32) :
    c.Atomic .unsubscribe (c.unsubscribe filters now) ∧
      ((c.unsubscribe filters now).error = .ok →
        ∃ ack, (c.unsubscribe filters now).client.pending = c.pending ++ [ack]) := by
  rcases c.unsubscribe_cases filters now with
    ⟨error, tx, n, bad, peek, same⟩ | ⟨_, _, _, _, ⟨size, sized⟩, tx, peek, same⟩
  · refine ⟨c.atomic_of_refuse bad peek (.inl rfl) same, fun fine => absurd fine ?_⟩
    rwa [same]
  · obtain ⟨_, within, _⟩ := unsubscribeRemainingLength_ok sized
    refine ⟨c.atomic_of_sent { type := .unsubscribe } (by decide) rfl
      (length_unsubscribeBody sized ▸ within) (by rw [same]) (by rw [same]; exact peek), fun _ => ?_⟩
    rw [same]
    exact ⟨_, rfl⟩

/-! ## Connecting -/

/-- The session a client holds. -/
structure SameSession (before after : Client cfg) : Prop where
  outbound : after.outbound = before.outbound
  inboundIds : after.inboundIds = before.inboundIds
  pending : after.pending = before.pending
  subscriptions : after.subscriptions = before.subscriptions
  nextPacketId : after.nextPacketId = before.nextPacketId
  cleanSession : after.cleanSession = before.cleanSession
  keepAliveMs : after.keepAliveMs = before.keepAliveMs
  state : after.state = before.state

/-- A `connect()` with these options resumes the same from either client. -/
structure ResumesAlike (one other : Client cfg) (opts : ConnectOptions) (now : UInt32) : Prop where
  error : (one.connect opts now).error = (other.connect opts now).error
  queued : (one.connect opts now).queued = (other.connect opts now).queued
  outbound : (one.connect opts now).client.outbound = (other.connect opts now).client.outbound
  inboundIds : (one.connect opts now).client.inboundIds =
    (other.connect opts now).client.inboundIds

/-- If `connect()` fails, the session is as before, and a later `connect()` that
resumes it resumes the same. -/
def FailedConnectHarmless (opts : ConnectOptions) (now : UInt32) : Prop :=
  c.state = .idle → (c.connect opts now).error ≠ .ok →
    c.SameSession (c.connect opts now).client ∧
    ∀ later moment, later.cleanSession = false →
      (c.connect opts now).client.ResumesAlike c later moment

/-- What `connect()` reads of an idle client is the session it may resume. -/
theorem resumesAlike {c d : Client cfg} (outbound : d.outbound = c.outbound)
    (inboundIds : d.inboundIds = c.inboundIds) (idle : c.state = .idle) (idle' : d.state = .idle)
    (opts : ConnectOptions) (now : UInt32) : d.ResumesAlike c opts now := by
  have slots : (d.prepare opts).outbound = (c.prepare opts).outbound := by
    unfold prepare resetSessionState
    split <;> simp [outbound]
  have ids : (d.prepare opts).inboundIds = (c.prepare opts).inboundIds := by
    unfold prepare resetSessionState
    split
    · rfl
    · exact inboundIds
  rcases @connect_uniform cfg opts now with
    ⟨error, _, refuses⟩ | ⟨_, fails⟩ | ⟨_, opens⟩
  · constructor <;> simp [refuses c idle, refuses d idle', refuse, outbound, inboundIds]
  · constructor <;> simp [fails c idle, fails d idle', refuse, slots, ids]
  · obtain ⟨_, _, opens'⟩ := opens d idle'
    obtain ⟨_, _, opens⟩ := opens c idle
    constructor <;> simp [opens, opens', opened, slots, ids]

end Client

/-- For a clean session, what `connect()` does to the session first is the reset. -/
theorem Client.sameSession_prepare {c : Client cfg} {opts : ConnectOptions}
    (clean : opts.cleanSession = true) :
    c.SameSession (c.prepare opts) ↔ c.SameSession c.resetSessionState := by
  rw [prepare, if_pos clean]
  constructor <;> exact fun same => ⟨same.outbound, same.inboundIds, same.pending,
    same.subscriptions, same.nextPacketId, same.cleanSession, same.keepAliveMs, same.state⟩

/-- The options pass every check of `connect()`, ask for a clean session, and make a
CONNECT that does not fit the transmit buffer. -/
def Client.FailsClean (cfg : Config) (opts : ConnectOptions) : Prop :=
  opts.cleanSession = true ∧ ¬ Client.BadOptions cfg opts ∧ ¬ Client.ConnectFits cfg opts

/-- A `connect()` that fails is harmless exactly if it fails before it resets the session,
or if the reset has nothing to change. -/
theorem failed_connect_harmless (c : Client cfg) (opts : ConnectOptions) (now : UInt32) :
    c.FailedConnectHarmless opts now ↔
      (c.state = .idle → Client.FailsClean cfg opts → c.SameSession c.resetSessionState) := by
  constructor
  · intro harmless idle ⟨clean, good, large⟩
    have fails := Client.connect_of_large good large idle now
    have same := (harmless idle (by rw [fails]; simp [Client.refuse])).1
    rw [fails] at same
    exact (Client.sameSession_prepare clean).mp same
  intro spared idle failed
  suffices same : c.SameSession (c.connect opts now).client by
    exact ⟨same, fun later moment _ =>
      Client.resumesAlike same.outbound same.inboundIds idle (same.state.trans idle) later moment⟩
  rcases @Client.connect_uniform cfg opts now with
    ⟨error, _, refuses⟩ | ⟨⟨good, large⟩, fails⟩ | ⟨_, opens⟩
  · rw [refuses c idle]
    constructor <;> rfl
  · rw [fails c idle]
    by_cases clean : opts.cleanSession = true
    · exact (Client.sameSession_prepare clean).mpr (spared idle ⟨clean, good, large⟩)
    · constructor <;> simp [Client.refuse, Client.prepare, clean]
  · obtain ⟨tx, _, opened⟩ := opens c idle
    exact absurd (by rw [opened]) failed

namespace FailedConnect

/-- A session that is to be kept, lost with a QoS 1 message in flight. -/
def application : Script :=
  .connect { clientId := [97], cleanSession := false }
    (.step (.publish [116] [] .atLeastOnce false (.abort .done .done)))

def env : Env where
  opens := [.ok]
  sends := [(.ok, 15)]
  recvs := [(.ok, [0x20, 2, 0, 0])]

def run : World .small := World.exec .small env application

/-- A client id that is legal and makes a CONNECT of 24 bytes. -/
def long : ConnectOptions := { clientId := List.replicate 10 97 }

end FailedConnect

theorem failed_connect_harmless_resuming :
    (FailedConnect.run.client.connect { FailedConnect.long with cleanSession := false } 0).error =
        .bufferTooSmall ∧
      FailedConnect.run.client.FailedConnectHarmless
        { FailedConnect.long with cleanSession := false } 0 :=
  ⟨by decide +kernel, (failed_connect_harmless _ _ _).mpr fun _ fails => by cases fails.1⟩

/-- The clean `connect()` fails, and the message in flight is gone with it. -/
theorem failed_connect_forgets :
    ¬ FailedConnect.run.client.FailedConnectHarmless FailedConnect.long 0 := by
  intro harmless
  obtain ⟨same, _⟩ := harmless (by decide +kernel) (by decide +kernel)
  exact absurd same.outbound (by decide +kernel)

/-- Every `publish()`, `subscribe()` and `unsubscribe()` is atomic, in every state and
for all arguments. -/
theorem calls_atomic (c : Client cfg) :
    (∀ topic payload qos retain now,
      c.Atomic .publish (c.publish topic payload qos retain now)) ∧
    (∀ subs handler now, c.Atomic .subscribe (c.subscribe subs handler now) ∧
      ((c.subscribe subs handler now).error = .ok →
        (∃ ack, (c.subscribe subs handler now).client.pending = c.pending ++ [ack]) ∧
        ∀ asked ∈ subs, ∃ entry ∈ (c.subscribe subs handler now).client.subscriptions,
          entry.filter = asked.filter)) ∧
    (∀ filters now, c.Atomic .unsubscribe (c.unsubscribe filters now) ∧
      ((c.unsubscribe filters now).error = .ok →
        ∃ ack, (c.unsubscribe filters now).client.pending = c.pending ++ [ack])) :=
  ⟨c.publish_atomic, c.subscribe_atomic, c.unsubscribe_atomic⟩

end Mqtt
