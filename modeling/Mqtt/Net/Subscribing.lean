import Mqtt.Net.Link
import Mqtt.Session.Withdrawal

/-!
# A broker that grants every subscription

The broker keeps the filters it was asked for, takes one request at a time and
answers each: a SUBSCRIBE by a SUBACK that refuses nothing, an UNSUBSCRIBE by an
UNSUBACK. A CONNECT for a clean session makes it forget them. It may send any other
packet at any time.

Because both channels are FIFO, the answers the client awaits are those on their way
to it and those to the requests on their way to the broker, in this order.
-/

namespace Mqtt

open Library

/-- What an answer is recognized by: packet id, type, and how many codes it holds. -/
abbrev AnswerKey := UInt16 × PacketType × Nat

/-- What a packet of the broker stands for. -/
inductive Answer where
  | suback (id : UInt16) (codes : Nat)
  | unsuback (id : UInt16)
  | other
  deriving DecidableEq, Repr

def Answer.key : Answer → Option AnswerKey
  | .suback id codes => some (id, .suback, codes)
  | .unsuback id => some (id, .unsuback, 0)
  | .other => none

/-- The answer a request is owed. -/
def Request.key : Request → Option AnswerKey
  | .connect _ => none
  | .subscribe id filters => some (id, .suback, filters.length)
  | .unsubscribe id _ => some (id, .unsuback, 0)

/-- The packet is what it stands for. -/
def Sent.IsAnswer (sent : Sent Answer) : Prop :=
  match sent.tag with
  | .suback id codes =>
    sent.packet.header.type = .suback ∧
      ∃ v, decodeSuback sent.packet.body = .ok v ∧ v.packetId = id ∧
        v.returnCodes.length = codes ∧ ∀ code ∈ v.returnCodes, code ≠ kSubackFailure
  | .unsuback id => sent.packet.header.type = .unsuback ∧ decodePacketId sent.packet.body = .ok id
  | .other => sent.packet.header.type ≠ .suback ∧ sent.packet.header.type ≠ .unsuback

/-- What a request makes of the filters the broker holds. -/
def Request.effect (held : List Bytes) : Request → List Bytes
  | .connect clean => if clean then [] else held
  | .subscribe _ filters => held ++ filters
  | .unsubscribe _ filters => held.filter fun filter => filter ∉ filters

namespace Subscribing

/-- How it takes a packet. -/
def Takes (held : List Bytes) (posted : Posted) (next : List Bytes) (sent : List (Sent Answer)) :
    Prop :=
  next = (readRequest posted.packet.bytes).toList.foldl Request.effect held ∧
    sent.filterMap (·.tag.key) = ((readRequest posted.packet.bytes).bind Request.key).toList ∧
    ∀ packet ∈ sent, packet.IsAnswer

/-- What it sends of its own accord. -/
def Offers (held next : List Bytes) (sent : List (Sent Answer)) : Prop :=
  next = held ∧ sent.filterMap (·.tag.key) = [] ∧ ∀ packet ∈ sent, packet.IsAnswer

def broker : Broker Answer where
  State := List Bytes
  initial := []
  Takes := Takes
  Offers := Offers

end Subscribing

/-- The answer an entry of `pending_` waits for. -/
def PendingAck.key (ack : PendingAck) : AnswerKey :=
  (ack.packetId, ack.expected, if ack.expected = .suback then ack.subs.length else 0)

variable {cfg : Config}

/-! ## What the client asks for -/

/-- A request and the entry that awaits its answer. -/
theorem History.asks {log : Log cfg} (few : cfg.maxSubscriptions ≤ 65536)
    (history : History log) {label : Label} (busy : log.state.state ≠ .idle)
    (goesOn : (log.state.apply label).state ≠ .idle) :
    (∃ ack request, (log.state.apply label).pending = log.state.pending ++ [ack] ∧
      requestsOf (log.state.react label).queued = [request] ∧ request.key = some ack.key ∧
      label.isHandle = false) ∨
    (requestsOf (log.state.react label).queued = [] ∧
      (label.isHandle = false → (log.state.apply label).pending = log.state.pending)) := by
  have distinct := filters_eq log.state.subscriptions ▸ (history.keysSound few).filters
  have quiet : (log.state.apply label).pending.length ≤ log.state.pending.length →
      requestsOf (log.state.react label).queued = [] := history.requestsOf_eq_nil busy
  cases log.state.apply_tableEffect label with
  | kept _ pending => exact .inr ⟨quiet (by rw [pending]), fun _ => pending⟩
  | subscribed subs handler now isSubscribe _ _ _ _ nonzero sized _ pending queued =>
    obtain ⟨size, isSize⟩ := sized
    have count := (log.state.enrolled_spec distinct subs handler).ids.length_eq
    exact .inl ⟨_, _, pending,
      requestsOf_eq_single queued (readRequest_subscribePacket isSize nonzero),
      by simp [Request.key, PendingAck.key, count], by rw [isSubscribe]; rfl⟩
  | unsubscribed filters now isUnsubscribe _ _ nonzero sized _ pending queued =>
    obtain ⟨size, isSize⟩ := sized
    exact .inl ⟨_, _, pending,
      requestsOf_eq_single queued (readRequest_unsubscribePacket isSize nonzero), rfl,
      by rw [isUnsubscribe]; rfl⟩
  | resubscribed now isResubscribe _ nonzero sized _ pending queued =>
    obtain ⟨size, isSize⟩ := sized
    exact .inl ⟨_, _, pending,
      requestsOf_eq_single queued (readRequest_subscribePacket isSize nonzero),
      by simp [Request.key, PendingAck.key, Client.resubRequest], by rw [isResubscribe]; rfl⟩
  | answered _ _ _ _ _ isHandle _ _ _ _ _ pending =>
    refine .inr ⟨quiet (by rw [pending]; exact List.length_eraseP_le), fun other => ?_⟩
    rw [isHandle] at other
    cases other
  | withdrawn _ _ _ _ _ isHandle _ _ _ _ pending =>
    refine .inr ⟨quiet (by rw [pending]; exact List.length_eraseP_le), fun other => ?_⟩
    rw [isHandle] at other
    cases other
  | forgotten _ _ _ pending => exact .inr ⟨quiet (by rw [pending]), fun _ => pending⟩
  | ended closing => exact absurd closing (by simp [busy, goesOn])

/-- A session begins with its CONNECT, with every flag set and nothing awaited. -/
theorem History.begins {log : Log cfg} (few : cfg.maxSubscriptions ≤ 65536)
    (history : History log) {label : Label} (permitted : Permitted log label)
    (idle : log.state.state = .idle) (goesOn : (log.state.apply label).state ≠ .idle) :
    label.isHandle = false ∧ requestsOf (log.state.react label).queued =
      [.connect (log.state.apply label).cleanSession] ∧
    (log.state.apply label).pending = [] ∧
    ∀ s ∈ (log.state.apply label).subscriptions, s.needsResub = true := by
  obtain ⟨⟨opts, now, rfl⟩, _⟩ := history.begin_cases permitted idle goesOn
  have next : History (log.perform Client.apply (.connect opts now)) := history.step permitted
  have flags := next.flags few
  rw [Logged.perform_state] at flags
  rcases log.state.connect_cases opts now with
    ⟨_, _, same⟩ | ⟨_, _, _, _, _, same⟩ | ⟨_, ⟨size, sized⟩, tx, _, same⟩
  · simp [Client.apply, Client.react, same, Client.refuse, idle] at goesOn
  · simp [Client.apply, Client.react, same, Client.refuse, (log.state.prepare_frame opts).1,
      idle] at goesOn
  · have becomes : log.state.apply (.connect opts now) = log.state.opened opts tx now := by
      rw [Client.apply, Client.react, same]
    obtain ⟨flagged, nothing⟩ := flags.down (by simp [becomes, Client.opened])
      (by simp [becomes, Client.opened])
    refine ⟨rfl, ?_, nothing, flagged⟩
    rw [becomes]
    exact requestsOf_eq_single (by rw [Client.react, same]) (readRequest_connectPacket sized)

/-! ## What the client makes of an answer -/

section Answers

variable {c : Client cfg} {ack : PendingAck} {rest : List PendingAck} {header : FixedHeader}
  {body : Bytes}

theorem Client.findPending_head (pending : c.pending = ack :: rest) :
    c.findPending ack.packetId ack.expected = some ack := by
  simp [Client.findPending, pending]

/-- The SUBACK the client awaits first. -/
theorem Client.pending_of_suback {v : SubackView} (pending : c.pending = ack :: rest)
    (isSuback : header.type = .suback) (decoded : decodeSuback body = .ok v)
    (key : ack.key = (v.packetId, .suback, v.returnCodes.length)) (now : UInt32) :
    (c.apply (.handle header body now)).pending = rest := by
  obtain ⟨isId, isExpected, isCount⟩ : ack.packetId = v.packetId ∧ ack.expected = .suback ∧
      (if ack.expected = .suback then ack.subs.length else 0) = v.returnCodes.length := by
    simpa [PendingAck.key] using key
  rw [if_pos isExpected] at isCount
  have found := Client.findPending_head pending
  rw [isId, isExpected] at found
  simp only [Client.apply, Client.react, Client.handlePacket, isSuback, Client.handleSuback,
    decoded, found, isCount, ne_eq, not_true, if_false, Client.foldl_applyReturnCode_eq,
    Client.removePending]
  rw [pending, List.eraseP_cons_of_pos (by simp [isId, isExpected])]

/-- The UNSUBACK the client awaits first. -/
theorem Client.pending_of_unsuback {id : UInt16} (pending : c.pending = ack :: rest)
    (isUnsuback : header.type = .unsuback) (decoded : decodePacketId body = .ok id)
    (key : ack.key = (id, .unsuback, 0)) (now : UInt32) :
    (c.apply (.handle header body now)).pending = rest := by
  obtain ⟨isId, isExpected, _⟩ : ack.packetId = id ∧ ack.expected = .unsuback ∧
      (if ack.expected = .suback then ack.subs.length else 0) = 0 := by
    simpa [PendingAck.key] using key
  have found := Client.findPending_head pending
  rw [isId, isExpected] at found
  simp only [Client.apply, Client.react, Client.handlePacket, isUnsuback, Client.handleUnsuback,
    decoded, found, Client.foldl_eraseSubscription_eq, Client.removePending]
  rw [pending, List.eraseP_cons_of_pos (by simp [isId, isExpected])]

/-- Any other packet. -/
theorem Client.pending_of_other (busy : c.state ≠ .idle) (now : UInt32)
    (notSuback : header.type ≠ .suback) (notUnsuback : header.type ≠ .unsuback) :
    (c.apply (.handle header body now)).pending = c.pending := by
  cases c.handle_tableEffect header body now with
  | kept _ pending => exact pending
  | subscribed _ _ _ isSubscribe => cases isSubscribe
  | unsubscribed _ _ isUnsubscribe => cases isUnsubscribe
  | resubscribed _ isResubscribe => cases isResubscribe
  | answered _ _ _ _ _ isHandle isSuback =>
    cases isHandle
    exact absurd isSuback notSuback
  | withdrawn _ _ _ _ _ isHandle isUnsuback =>
    cases isHandle
    exact absurd isUnsuback notUnsuback
  | forgotten _ _ _ pending => exact pending
  | ended closing =>
    rcases closing with idle | idle
    · exact absurd idle (c.handle_goesOn busy header body now)
    · exact absurd idle busy

end Answers

/-! ## Answers come in order -/

namespace Net

variable {net : Net cfg Subscribing.broker}

/-- The requests on their way to the broker. -/
def requests (net : Net cfg Subscribing.broker) : List Request :=
  requestsOf (net.untaken.map (·.packet))

/-- What the client awaits, in order. -/
structure Orderly (net : Net cfg Subscribing.broker) : Prop where
  answers : ∀ sent ∈ net.unhandled, sent.IsAnswer
  awaited : net.log.state.state ≠ .idle → net.log.state.pending.map PendingAck.key =
    net.unhandled.filterMap (·.tag.key) ++ net.requests.filterMap Request.key

theorem requests_goesOn {label : Label} {down : Bytes}
    (goesOn : (net.log.state.apply label).state ≠ .idle) :
    (net.clientStep label down).requests =
      net.requests ++ requestsOf (net.log.state.react label).queued := by
  rw [clientStep_of_goesOn goesOn]
  simp [requests, requestsOf, List.filterMap_map, Function.comp_def]

/-- Handling a packet retires the answer it is. -/
theorem Orderly.handled (orderly : net.Orderly) (flows : net.Flows) {header : FixedHeader}
    {body : Bytes} {now : UInt32} (permitted : Permitted net.log (.handle header body now)) :
    (net.log.state.apply (.handle header body now)).pending.map PendingAck.key =
      net.unhandled.tail.filterMap (·.tag.key) ++ net.requests.filterMap Request.key := by
  obtain ⟨busy, sent, rest, isUnhandled, rfl, rfl, _⟩ := flows.front permitted
  have isAnswer := orderly.answers sent (by simp [isUnhandled])
  have awaited := orderly.awaited busy
  rw [isUnhandled] at awaited ⊢
  unfold Sent.IsAnswer at isAnswer
  cases tag : sent.tag with
  | suback id codes =>
    simp only [tag] at isAnswer
    obtain ⟨isSuback, v, decoded, isId, count, _⟩ := isAnswer
    simp only [List.filterMap_cons, tag, Answer.key, List.cons_append] at awaited
    obtain ⟨ack, later, pending, key, others⟩ := List.map_eq_cons_iff.mp awaited
    rw [Client.pending_of_suback pending isSuback decoded (by rw [key, isId, count]) now, others]
    rfl
  | unsuback id =>
    simp only [tag] at isAnswer
    obtain ⟨isUnsuback, decoded⟩ := isAnswer
    simp only [List.filterMap_cons, tag, Answer.key, List.cons_append] at awaited
    obtain ⟨ack, later, pending, key, others⟩ := List.map_eq_cons_iff.mp awaited
    rw [Client.pending_of_unsuback pending isUnsuback decoded key now, others]
    rfl
  | other =>
    simp only [tag] at isAnswer
    simp only [List.filterMap_cons, tag, Answer.key] at awaited
    rw [Client.pending_of_other busy now isAnswer.1 isAnswer.2, awaited]
    rfl

theorem Orderly.client (few : cfg.maxSubscriptions ≤ 65536) (orderly : net.Orderly)
    (flows : net.Flows) {label : Label} (permitted : Permitted net.log label) (down : Bytes) :
    (net.clientStep label down).Orderly := by
  refine ⟨fun sent member => orderly.answers sent (unhandled_of_clientStep member),
    fun goesOn => ?_⟩
  rw [log_clientStep, Logged.perform_state] at goesOn ⊢
  have unhandled : (net.clientStep label down).unhandled =
      if label.isHandle then net.unhandled.tail else net.unhandled := by
    rw [clientStep_of_goesOn goesOn]
  rw [requests_goesOn goesOn, unhandled, List.filterMap_append]
  by_cases idle : net.log.state.state = .idle
  · obtain ⟨_, noUntaken, _, noUnhandled, _⟩ := flows.idle idle
    obtain ⟨notHandle, asked, nothing, _⟩ := flows.history.begins few permitted idle goesOn
    have noRequests : net.requests = [] := by simp [requests, requestsOf, noUntaken]
    rw [nothing, asked, notHandle, noUnhandled, noRequests]
    rfl
  · have awaited := orderly.awaited idle
    rcases flows.history.asks few idle goesOn with
      ⟨ack, request, pending, asked, key, notHandle⟩ | ⟨asked, pending⟩
    · rw [pending, asked, notHandle, List.map_append, awaited, List.append_assoc]
      simp [key]
    · rw [asked]
      by_cases isHandle : label.isHandle = true
      · cases label <;> simp only [Label.isHandle, Bool.false_eq_true] at isHandle
        case handle header body now =>
          simpa [Label.isHandle] using orderly.handled flows permitted
      · have isHandle : label.isHandle = false := by simpa using isHandle
        rw [pending isHandle, isHandle, awaited]
        simp

theorem Orderly.take (orderly : net.Orderly) {posted : Posted} {rest : List Posted} {up : Bytes}
    {state : Subscribing.broker.State} {sent : List (Sent Answer)}
    (next : net.untaken = posted :: rest) (takes : Subscribing.Takes net.state posted state sent) :
    (({ net with up := up, untaken := rest } : Net cfg Subscribing.broker).send state
      sent).Orderly := by
  obtain ⟨_, keys, answers⟩ := takes
  refine ⟨fun packet member => ?_, fun busy => ?_⟩
  · rcases List.mem_append.mp member with old | new
    · exact orderly.answers packet old
    · exact answers packet new
  · have awaited := orderly.awaited busy
    have first : net.requests = (readRequest posted.packet.bytes).toList ++
        requestsOf (rest.map (·.packet)) := by
      rw [requests, next]
      cases reads : readRequest posted.packet.bytes <;> simp [requestsOf, reads]
    rw [first, List.filterMap_append] at awaited
    simp only [Net.send, requests, List.filterMap_append, keys, List.append_assoc]
    rw [awaited]
    cases readRequest posted.packet.bytes with
    | none => rfl
    | some request => cases key : request.key <;> simp [key]

theorem Orderly.offer (orderly : net.Orderly) {state : Subscribing.broker.State}
    {sent : List (Sent Answer)}
    (offers : Subscribing.Offers net.state state sent) : (net.send state sent).Orderly := by
  obtain ⟨_, keys, answers⟩ := offers
  refine ⟨fun packet member => ?_, fun busy => ?_⟩
  · rcases List.mem_append.mp member with old | new
    · exact orderly.answers packet old
    · exact answers packet new
  · have awaited := orderly.awaited busy
    simp only [Net.send, List.filterMap_append, keys, List.append_nil]
    exact awaited

/-- In order wherever the client and its broker come to. -/
theorem Reachable.orderly (few : cfg.maxSubscriptions ≤ 65536) (reachable : net.Reachable) :
    net.Orderly := by
  induction reachable with
  | start => exact ⟨fun sent member => absurd member (List.not_mem_nil), absurd rfl⟩
  | step prior step orderly =>
    cases step with
    | client label down permitted _ => exact orderly.client few prior.flows permitted down
    | take posted rest up state sent _ next _ takes => exact orderly.take next takes
    | offer state sent _ offers => exact orderly.offer offers

end Net

end Mqtt
