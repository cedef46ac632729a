import Mqtt.Session.Filters
import Mqtt.Session.Outgoing
import Mqtt.Wire.Requests

/-!
# What the broker is asked for

The SUBSCRIBE and UNSUBSCRIBE packets a piece of code queues, as the broker reads
them. Only `subscribe()` and the re-subscription pass queue a SUBSCRIBE, and both
await its answer.
-/

namespace Mqtt

open Library

variable {cfg : Config} {label : Label} {log : Log cfg}

/-- The event queues a SUBSCRIBE for these filters. -/
def Library.Entry.Subscribes (event : Event cfg) (subs : List TopicSubscription) : Prop :=
  ∃ packet ∈ event.reaction.queued, ∃ id, readSubscribe packet.bytes = some (id, subs)

/-- The event queues a SUBSCRIBE that asks for this level of this filter. -/
def Library.Entry.Asks (event : Event cfg) (filter : Bytes) (level : QoS) : Prop :=
  ∃ subs, event.Subscribes subs ∧ askedLast filter subs = some level

/-- Other packets are not read as a SUBSCRIBE. -/
theorem readSubscribe_of_leads {type : PacketType} {bytes : Bytes} (leads : Leads type bytes)
    (other : type ≠ .subscribe) : readSubscribe bytes = none := by
  unfold readSubscribe
  cases isPacket : readPacket bytes with
  | none => rfl
  | some packet =>
    obtain ⟨header, body⟩ := packet
    have isType : header.type ≠ .subscribe := leads.readPacket_type isPacket ▸ other
    match body with
    | [] => rfl
    | [_] => rfl
    | _ :: _ :: _ => simp only [if_neg isType]

theorem subscribes_of_queued {event : Event cfg} {id : UInt16}
    {subs : List TopicSubscription} (sized : ∃ size, subscribeRemainingLength subs = .ok size)
    (queued : event.reaction.queued = [{ bytes := subscribePacket id subs }]) :
    event.Subscribes subs := by
  obtain ⟨size, isSize⟩ := sized
  refine ⟨{ bytes := subscribePacket id subs }, ?_, id, readSubscribe_subscribePacket isSize id⟩
  rw [queued]
  exact List.mem_singleton_self _

theorem Label.subscribe_of_queues (queues : PacketType.subscribe ∈ label.queues) :
    (∃ subs handler now, label = .subscribe subs handler now) ∨
      ∃ now, label = .resubscribe now := by
  cases label <;> simp only [Label.queues] at queues
  case subscribe subs handler now => exact .inl ⟨subs, handler, now, rfl⟩
  case resubscribe now => exact .inr ⟨now, rfl⟩
  case handle header body now => split at queues <;> simp at queues
  all_goals simp at queues

/-- A SUBSCRIBE is queued by `subscribe()` or by a re-subscription pass, and its
answer is awaited. -/
theorem History.subscribes_cases (history : History log)
    {subs : List TopicSubscription} (subscribes : Entry.Subscribes ⟨log.state, label⟩ subs) :
    (∃ ack, (log.state.apply label).pending = log.state.pending ++ [ack]) ∧
      ((∃ handler now, label = .subscribe subs handler now) ∨
        ∃ now, label = .resubscribe now ∧ subs = log.state.resubRequest) := by
  obtain ⟨packet, member, id, reads⟩ := subscribes
  have member : packet ∈ (log.state.react label).queued := member
  obtain ⟨type, queues, leads⟩ := history.queued_leads member
  have isSubscribe : type = .subscribe := by
    by_contra other
    rw [readSubscribe_of_leads leads other] at reads
    cases reads
  subst isSubscribe
  rcases Label.subscribe_of_queues queues with ⟨asked, handler, now, rfl⟩ | ⟨now, rfl⟩
  · rcases log.state.subscribe_cases asked handler now with
      ⟨_, _, _, _, _, same⟩ | ⟨_, _, _, _, _, _, ⟨size, sized⟩, tx, _, same⟩
    · simp [Client.react, same, Client.refuse] at member
    · obtain rfl : packet = { bytes := subscribePacket log.state.allocPacketId.1 asked } := by
        simpa [Client.react, same] using member
      rw [readSubscribe_subscribePacket sized] at reads
      obtain ⟨rfl, rfl⟩ := Prod.mk.inj (Option.some.inj reads)
      rw [log.state.subscribed_eq] at same
      exact ⟨⟨_, by rw [Client.apply, Client.react, same]⟩, .inl ⟨handler, now, rfl⟩⟩
  · rcases log.state.pumpResubscribe_cases now with
      ⟨_, _, _, same⟩ | ⟨_, _, _, ⟨size, sized⟩, tx, _, same⟩
    · simp [Client.react, same] at member
    · obtain rfl : packet =
          { bytes := subscribePacket log.state.allocPacketId.1 log.state.resubRequest } := by
        simpa [Client.react, same] using member
      rw [readSubscribe_subscribePacket sized] at reads
      obtain ⟨rfl, rfl⟩ := Prod.mk.inj (Option.some.inj reads)
      exact ⟨⟨_, by rw [Client.apply, Client.react, same]; rfl⟩, .inr ⟨now, rfl, rfl⟩⟩

/-- Where nothing more is awaited, nothing is asked for. -/
theorem History.not_subscribes (history : History log)
    (fewer : (log.state.apply label).pending.length ≤ log.state.pending.length)
    (subs : List TopicSubscription) : ¬ Entry.Subscribes ⟨log.state, label⟩ subs := by
  intro subscribes
  obtain ⟨⟨ack, grown⟩, _⟩ := history.subscribes_cases subscribes
  rw [grown, List.length_append, List.length_singleton] at fewer
  omega

/-! ## Requests -/

/-- The requests among the client's packets. -/
def requestsOf (packets : List Queued) : List Request :=
  packets.filterMap fun packet => readRequest packet.bytes

theorem readRequest_of_leads {type : PacketType} {bytes : Bytes} (leads : Leads type bytes)
    (notConnect : type ≠ .connect) (notSubscribe : type ≠ .subscribe)
    (notUnsubscribe : type ≠ .unsubscribe) : readRequest bytes = none := by
  unfold readRequest
  cases isPacket : readPacket bytes with
  | none => rfl
  | some packet =>
    obtain ⟨header, body⟩ := packet
    obtain rfl : header.type = type := leads.readPacket_type isPacket
    -- The case for other types applies by the three hypotheses.
    simp only

theorem requestsOf_eq_single {packets : List Queued} {bytes : Bytes} {request : Request}
    (queued : packets = [{ bytes := bytes }]) (reads : readRequest bytes = some request) :
    requestsOf packets = [request] := by
  rw [queued, requestsOf, List.filterMap_cons, reads]
  rfl

/-- Where no further answer is awaited, nothing was asked for but a session. -/
theorem History.request_of_fewer (history : History log)
    (fewer : (log.state.apply label).pending.length ≤ log.state.pending.length)
    {request : Request} (sent : request ∈ requestsOf (log.state.react label).queued) :
    log.state.state = .idle ∧ ∃ clean, request = .connect clean := by
  obtain ⟨packet, member, reads⟩ := List.mem_filterMap.mp sent
  have grows : ∀ ack, (log.state.apply label).pending ≠ log.state.pending ++ [ack] := by
    intro ack grown
    rw [grown, List.length_append, List.length_singleton] at fewer
    omega
  have unread : readRequest packet.bytes ≠ none := by simp [reads]
  obtain ⟨type, queues, leads⟩ := history.queued_leads member
  cases label with
  | connect opts now =>
    rcases log.state.connect_cases opts now with
      ⟨_, _, same⟩ | ⟨_, _, _, _, _, same⟩ | ⟨idle, ⟨size, sized⟩, tx, _, same⟩
    · simp [Client.react, same, Client.refuse] at member
    · simp [Client.react, same, Client.refuse] at member
    · obtain rfl : packet = { bytes := connectPacket opts } := by
        simpa [Client.react, same] using member
      rw [readRequest_connectPacket sized] at reads
      exact ⟨idle, _, (Option.some.inj reads).symm⟩
  | subscribe subs handler now =>
    rcases log.state.subscribe_cases subs handler now with
      ⟨_, _, _, _, _, same⟩ | ⟨_, _, _, _, _, _, _, tx, _, same⟩
    · simp [Client.react, same, Client.refuse] at member
    · rw [log.state.subscribed_eq] at same
      exact absurd (by rw [Client.apply, Client.react, same]) (grows _)
  | unsubscribe filters now =>
    rcases log.state.unsubscribe_cases filters now with
      ⟨_, _, _, _, _, same⟩ | ⟨_, _, _, _, _, tx, _, same⟩
    · simp [Client.react, same, Client.refuse] at member
    · exact absurd (by rw [Client.apply, Client.react, same]) (grows _)
  | resubscribe now =>
    rcases log.state.pumpResubscribe_cases now with ⟨_, _, _, same⟩ | ⟨_, _, _, _, tx, _, same⟩
    · simp [Client.react, same] at member
    · exact absurd (by rw [Client.apply, Client.react, same]; rfl) (grows _)
  | handle header body now =>
    simp only [Label.queues] at queues
    split at queues <;>
      exact absurd (readRequest_of_leads leads (by rintro rfl; simp at queues)
        (by rintro rfl; simp at queues) (by rintro rfl; simp at queues)) unread
  | _ =>
    exact absurd (readRequest_of_leads leads (by rintro rfl; simp [Label.queues] at queues)
      (by rintro rfl; simp [Label.queues] at queues)
      (by rintro rfl; simp [Label.queues] at queues)) unread

theorem History.requestsOf_eq_nil (history : History log) (busy : log.state.state ≠ .idle)
    (fewer : (log.state.apply label).pending.length ≤ log.state.pending.length) :
    requestsOf (log.state.react label).queued = [] :=
  List.eq_nil_iff_forall_not_mem.mpr fun _ sent =>
    busy (history.request_of_fewer fewer sent).1

end Mqtt
