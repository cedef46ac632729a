import Mqtt.Net.Schedule
import Mqtt.Net.Subscribing

/-!
# The table and the broker's subscriptions

The client counts on a filter once its SUBSCRIBE is queued, and until it queues an
UNSUBSCRIBE for it; the entry goes with the UNSUBACK. If no request is made for a
filter whose UNSUBSCRIBE is unanswered, what the client counts on is what the broker
will hold when it has taken the requests that are on their way. When there are none
left, the table is what the broker holds.
-/

namespace Mqtt

open Library

variable {cfg : Config} {s : Subscription} {ack : PendingAck}

/-! ## The contract -/

/-- The event makes no request for a filter whose UNSUBSCRIBE is unanswered, and gives
up none that waits to be sent again. -/
def Library.Entry.awaitsUnsuback (event : Event cfg) : Bool :=
  match event.label with
  | .subscribe subs _ _ => event.before.subscriptions.all fun s =>
    !(decide (s.filter ∈ subs.map (·.filter)) && event.before.leaving s)
  | .unsubscribe filters _ => event.before.subscriptions.all fun s =>
    !(decide (s.filter ∈ filters) && (event.before.leaving s || s.needsResub))
  | _ => true

/-- The session is up and nothing is under way. -/
structure Net.Quiescent (net : Net cfg Subscribing.broker) : Prop where
  connected : net.log.state.state = .connected
  answered : net.log.state.pending = []
  sent : ∀ s ∈ net.log.state.subscriptions, s.needsResub = false
  queue : net.log.state.tx.peek = []
  up : net.up = []
  down : net.down = []

instance (net : Net cfg Subscribing.broker) : Decidable net.Quiescent :=
  decidable_of_iff (net.log.state.state = .connected ∧ net.log.state.pending = [] ∧
      (∀ s ∈ net.log.state.subscriptions, s.needsResub = false) ∧
      net.log.state.tx.peek = [] ∧ net.up = [] ∧ net.down = [])
    ⟨fun ⟨connected, answered, sent, queue, up, down⟩ =>
        ⟨connected, answered, sent, queue, up, down⟩,
      fun ⟨connected, answered, sent, queue, up, down⟩ =>
        ⟨connected, answered, sent, queue, up, down⟩⟩

/-- The filters the broker holds. -/
def Net.held (net : Net cfg Subscribing.broker) : List Bytes := net.state

/-- Where nothing is under way, the client remembers what the broker holds. -/
def Net.Agrees (net : Net cfg Subscribing.broker) : Prop :=
  net.Quiescent → ∀ filter,
    filter ∈ net.log.state.subscriptions.map (·.filter) ↔ filter ∈ net.held

/-! ## One piece of code -/

namespace Client

variable (c : Client cfg)

/-- The client has asked for the filter and not given it up since. -/
def CountsOn (filter : Bytes) : Prop :=
  ∃ s ∈ c.subscriptions, s.filter = filter ∧ s.needsResub = false ∧ c.leaving s = false

/-- The awaited answers and the entries they are about. -/
structure Tidy : Prop where
  known : ∀ ack ∈ c.pending, ∀ sid ∈ ack.subs, sid ∈ c.subscriptions.map (·.subId)
  /-- No request is about an entry that an earlier UNSUBSCRIBE gives up. -/
  apart : c.pending.Pairwise fun first second =>
    first.expected = .unsuback → ∀ sid ∈ second.subs, sid ∉ first.subs
  clear : ∀ s ∈ c.subscriptions, c.leaving s = true → s.needsResub = false

theorem tidy_initial : (Client.initial cfg).Tidy :=
  ⟨by simp [initial], by simp [initial], by simp [initial]⟩

variable {c}

theorem leaving_eq_false_iff :
    c.leaving s = false ↔ ∀ ack ∈ c.pending, ack.expected = .unsuback → s.subId ∉ ack.subs := by
  simp [leaving]

theorem leaving_congr {d : Client cfg} {t : Subscription} (pending : d.pending = c.pending)
    (sameId : t.subId = s.subId) : d.leaving t = c.leaving s := by
  simp [leaving, pending, sameId]

/-- A request adds what it is about. -/
theorem leaving_snoc {d : Client cfg} {t : Subscription}
    (pending : d.pending = c.pending ++ [ack]) (sameId : t.subId = s.subId) :
    d.leaving t = (c.leaving s || ack.expected = .unsuback && s.subId ∈ ack.subs) := by
  simp [leaving, pending, sameId]

theorem Tidy.stays_of_flagged (tidy : c.Tidy) (member : s ∈ c.subscriptions)
    (flagged : s.needsResub = true) : c.leaving s = false := by
  by_contra leaves
  have clear := tidy.clear s member (by simpa using leaves)
  rw [flagged] at clear
  cases clear

/-- One more request, about entries that no earlier one gives up. -/
theorem Tidy.request {d : Client cfg} (tidy : c.Tidy) (pending : d.pending = c.pending ++ [ack])
    (kept : ∀ sid ∈ c.subscriptions.map (·.subId), sid ∈ d.subscriptions.map (·.subId))
    (about : ∀ sid ∈ ack.subs, ∃ s ∈ d.subscriptions, s.subId = sid ∧ c.leaving s = false)
    (clear : ∀ s ∈ d.subscriptions, d.leaving s = true → s.needsResub = false) : d.Tidy := by
  refine ⟨?_, ?_, clear⟩ <;> rw [pending]
  · intro other member sid named
    rcases List.mem_append.mp member with old | new
    · exact kept sid (tidy.known other old sid named)
    · obtain rfl := List.mem_singleton.mp new
      obtain ⟨s, present, rfl, _⟩ := about sid named
      exact List.mem_map_of_mem present
  · refine List.pairwise_append.mpr ⟨tidy.apart, by simp, fun first old second new => ?_⟩
    obtain rfl := List.mem_singleton.mp new
    intro isUnsuback sid named
    obtain ⟨s, _, rfl, stays⟩ := about sid named
    exact leaving_eq_false_iff.mp stays first old isUnsuback

/-- Fewer answers are awaited. -/
theorem Tidy.answer {d : Client cfg} (tidy : c.Tidy) (pending : d.pending.Sublist c.pending)
    (known : ∀ ack ∈ d.pending, ∀ sid ∈ ack.subs, sid ∈ d.subscriptions.map (·.subId))
    (flags : ∀ s ∈ d.subscriptions, ∃ old ∈ c.subscriptions, s.subId = old.subId ∧
      (old.needsResub = false → s.needsResub = false)) : d.Tidy := by
  refine ⟨known, tidy.apart.sublist pending, fun s member leaves => ?_⟩
  obtain ⟨old, inTable, sameId, flag⟩ := flags s member
  obtain ⟨ack, among, isUnsuback, named⟩ := leaving_iff.mp leaves
  exact flag (tidy.clear old inTable
    (leaving_iff.mpr ⟨ack, pending.subset among, isUnsuback, sameId ▸ named⟩))

/-- What an accepted `subscribe()` is about is not given up by an earlier request. -/
theorem Tidy.enrolled {subs : List TopicSubscription} {handler : Option Nat} {now : UInt32}
    (tidy : c.Tidy) (keys : KeysSound cfg (c.subscriptions.map Subscription.key))
    (after : KeysSound cfg ((c.enrolled subs handler).1.subscriptions.map Subscription.key))
    (careful : Entry.awaitsUnsuback ⟨c, .subscribe subs handler now⟩ = true)
    (present : s ∈ (c.enrolled subs handler).1.subscriptions)
    (named : s.filter ∈ subs.map (·.filter)) : c.leaving s = false := by
  obtain ⟨added, isAdded, _⟩ :=
    (c.enrolled_spec (filters_eq c.subscriptions ▸ keys.filters) subs handler).keys
  have inKeys := isAdded ▸ List.mem_map_of_mem present
  rcases List.mem_append.mp inKeys with old | new
  · obtain ⟨before, member, same⟩ := List.mem_map.mp old
    simp only [Entry.awaitsUnsuback, List.all_eq_true, Bool.not_eq_true', Bool.and_eq_false_iff,
      decide_eq_false_iff_not] at careful
    have sameFilter : before.filter = s.filter := congrArg Prod.fst same
    rw [leaving_congr rfl (congrArg Prod.snd same).symm]
    exact (careful before member).resolve_left (not_not.mpr (sameFilter ▸ named))
  · -- A new identity is no entry's, so no request is about it.
    rw [leaving_eq_false_iff]
    intro ack among _ about
    have distinct := after.subIds
    rw [isAdded, List.map_append, subIds_eq, List.nodup_append] at distinct
    exact distinct.2.2 _ (tidy.known ack among _ about) _ (List.mem_map_of_mem new) rfl

/-- An answer that comes from the broker: nothing is refused, and an UNSUBACK is the
answer that is awaited first. -/
structure Conforms (c : Client cfg) (label : Label) : Prop where
  granted : ∀ header body now v, label = .handle header body now → header.type = .suback →
    decodeSuback body = .ok v → ∀ code ∈ v.returnCodes, code ≠ kSubackFailure
  first : ∀ header body now id ack, label = .handle header body now → header.type = .unsuback →
    decodePacketId body = .ok id → c.findPending id .unsuback = some ack →
    ∃ rest, c.pending = ack :: rest

end Client

section Step

variable {log : Log cfg} {label : Label}

/-- Requests stay apart if none is made for a filter that is being given up. -/
theorem Client.Tidy.step (tidy : log.state.Tidy) (few : cfg.maxSubscriptions ≤ 65536)
    (history : History log) (conforms : log.state.Conforms label)
    (careful : Entry.awaitsUnsuback ⟨log.state, label⟩ = true) : (log.state.apply label).Tidy := by
  have keys := history.keysSound few
  have after := keys.step few label
  have distinct := filters_eq log.state.subscriptions ▸ keys.filters
  have subIds := subIds_eq log.state.subscriptions ▸ keys.subIds
  have flags := history.flags few
  cases log.state.apply_tableEffect label with
  | kept table pending =>
    exact tidy.answer (by rw [pending]) (by rw [table, pending]; exact tidy.known)
      fun s member => ⟨s, table ▸ member, rfl, id⟩
  | subscribed subs handler now isSubscribe _ _ _ _ _ _ table pending =>
    subst isSubscribe
    have enrolled := log.state.enrolled_spec distinct subs handler
    rw [table] at after
    refine tidy.request pending ?_ ?_ ?_ <;> rw [table]
    · obtain ⟨added, isAdded, _⟩ := enrolled.keys
      rw [← subIds_eq (log.state.enrolled subs handler).1.subscriptions, isAdded,
        List.map_append, subIds_eq]
      exact fun sid => List.mem_append_left _
    · intro sid named
      obtain ⟨s, present, sameId, asked⟩ := enrolled.origin named
      exact ⟨s, present, sameId, tidy.enrolled keys after careful present asked⟩
    · intro s present leaves
      rcases enrolled.entries s present with ⟨old, _⟩ | ⟨clear, _⟩
      · rw [leaving_snoc pending rfl] at leaves
        exact tidy.clear s old (by simpa using leaves)
      · exact clear
  | unsubscribed filters now isUnsubscribe _ _ _ _ table pending =>
    subst isUnsubscribe
    simp only [Entry.awaitsUnsuback, List.all_eq_true, Bool.not_eq_true', Bool.and_eq_false_iff,
      decide_eq_false_iff_not, Bool.or_eq_false_iff] at careful
    refine tidy.request pending ?_ ?_ ?_ <;> rw [table]
    · exact fun _ => id
    · intro sid named
      obtain ⟨filter, inFilters, found⟩ := List.mem_filterMap.mp named
      obtain ⟨s, isFound, sameId⟩ := Option.map_eq_some_iff.mp found
      have isFilter : s.filter = filter := by simpa using List.find?_some isFound
      have present := List.mem_of_find?_eq_some isFound
      exact ⟨s, present, sameId,
        ((careful s present).resolve_left (not_not.mpr (isFilter ▸ inFilters))).1⟩
    · intro s present leaves
      rw [leaving_snoc pending rfl, Bool.or_eq_true] at leaves
      rcases leaves with earlier | now
      · exact tidy.clear s present earlier
      · have named : s.filter ∈ filters :=
          (Client.mem_knownSubIds keys present).mp (by simpa using now)
        exact ((careful s present).resolve_left (not_not.mpr named)).2
  | resubscribed now isResubscribe _ _ _ table pending =>
    refine tidy.request pending ?_ ?_ ?_ <;> rw [table]
    · rw [← subIds_eq (unflagAll _ _), keys_unflagAll, subIds_eq]
      exact fun _ => id
    · intro sid named
      obtain ⟨old, inBatch, rfl⟩ := List.mem_map.mp named
      refine ⟨old.unflagged, (log.state.mem_unflagAll_resubBatch subIds).mpr
        (.inr ⟨old, inBatch, rfl⟩), rfl, ?_⟩
      rw [leaving_congr rfl (show old.unflagged.subId = old.subId from rfl)]
      exact tidy.stays_of_flagged (log.state.resubBatch_sublist.subset inBatch)
        (log.state.needsResub_of_mem_resubBatch inBatch)
    · intro s present leaves
      rcases (log.state.mem_unflagAll_resubBatch subIds).mp present with
        ⟨old, _⟩ | ⟨old, _, rfl⟩
      · rw [leaving_snoc pending rfl] at leaves
        exact tidy.clear s old (by simpa using leaves)
      · rfl
  | answered header body now v ack isHandle isSuback decoded found _ table pending =>
    refine tidy.answer (by rw [pending]; exact List.eraseP_sublist) ?_ fun s member => ?_
    · rw [table, ← subIds_eq, keys_answers_of_granted, subIds_eq, pending]
      · exact fun other among => tidy.known other (List.mem_of_mem_eraseP among)
      · exact fun answer inZip => conforms.granted header body now v isHandle isSuback decoded
          answer.1 (List.of_mem_zip inZip).1
    · obtain ⟨old, inTable, key, _, flag⟩ := answers_origin (table ▸ member)
      refine ⟨old, inTable, congrArg Prod.snd key, fun clear => ?_⟩
      rcases flag with same | ⟨off, _⟩
      · exact same.trans clear
      · exact off
  | withdrawn header body now id ack isHandle isUnsuback decoded found table pending =>
    obtain ⟨rest, isPending⟩ := conforms.first header body now id ack isHandle isUnsuback decoded
      found
    obtain ⟨_, sameId, expects⟩ := Client.findPending_mem found
    rw [isPending, List.eraseP_cons_of_pos (by simp [sameId, expects])] at pending
    have apart := tidy.apart
    rw [isPending, List.pairwise_cons] at apart
    refine tidy.answer ?_ ?_ fun s member => ?_
    · rw [pending, isPending]
      exact List.sublist_cons_self _ _
    · rw [table, pending]
      intro other among sid named
      obtain ⟨s, present, rfl⟩ := List.mem_map.mp
        (tidy.known other (by simp [isPending, among]) sid named)
      exact List.mem_map_of_mem
        ((mem_eraseAll subIds).mpr ⟨present, apart.1 other among expects _ named⟩)
    · exact ⟨s, ((mem_eraseAll subIds).mp (table ▸ member)).1, rfl, fun clear => clear⟩
  | forgotten awaiting _ _ pending =>
    have nothing := (flags.down (by simp [awaiting]) (by simp [awaiting])).2
    rw [nothing] at pending
    exact ⟨by simp [pending], by simp [pending], by simp [Client.leaving, pending]⟩
  | ended _ _ pending =>
    exact ⟨by simp [pending], by simp [pending], by simp [Client.leaving, pending]⟩

end Step

/-! ## What the client counts on -/

namespace Client

variable {c d : Client cfg} {filter : Bytes}

/-- Only the filters, the identities, the flags and the awaited UNSUBACKs matter. -/
theorem CountsOn.mono (counts : c.CountsOn filter)
    (entries : ∀ s ∈ c.subscriptions, ∃ t ∈ d.subscriptions, t.key = s.key ∧
      t.needsResub = s.needsResub) (leaves : ∀ s, d.leaving s = c.leaving s) :
    d.CountsOn filter := by
  obtain ⟨s, member, isFilter, clear, stays⟩ := counts
  obtain ⟨t, present, sameKey, sameFlag⟩ := entries s member
  refine ⟨t, present, (congrArg Prod.fst sameKey).trans isFilter, sameFlag.trans clear, ?_⟩
  rw [leaves, leaving_congr rfl (congrArg Prod.snd sameKey)]
  exact stays

theorem not_countsOn_of_flagged (flagged : ∀ s ∈ c.subscriptions, s.needsResub = true) :
    ¬ c.CountsOn filter := by
  rintro ⟨s, member, _, clear, _⟩
  rw [flagged s member] at clear
  cases clear

/-- A SUBACK is not what makes an entry leave. -/
theorem leaving_of_suback {id : UInt16}
    (pending : d.pending = c.pending.eraseP fun a => a.packetId = id && a.expected = .suback)
    (s : Subscription) : d.leaving s = c.leaving s := by
  rw [Bool.eq_iff_iff, leaving_iff, leaving_iff, pending]
  constructor
  · rintro ⟨ack, among, about⟩
    exact ⟨ack, List.mem_of_mem_eraseP among, about⟩
  · rintro ⟨ack, among, isUnsuback, named⟩
    exact ⟨ack, (List.mem_eraseP_of_neg (by simp [isUnsuback])).mpr among, isUnsuback, named⟩

/-- A `subscribe()` adds the filters it names. -/
theorem countsOn_enrolled {subs : List TopicSubscription} {handler : Option Nat} {now : UInt32}
    (tidy : c.Tidy) (keys : KeysSound cfg (c.subscriptions.map Subscription.key))
    (after : KeysSound cfg ((c.enrolled subs handler).1.subscriptions.map Subscription.key))
    (careful : Entry.awaitsUnsuback ⟨c, .subscribe subs handler now⟩ = true)
    (table : d.subscriptions = (c.enrolled subs handler).1.subscriptions)
    (pending : d.pending = c.pending ++ [ack]) (isSuback : ack.expected = .suback) :
    d.CountsOn filter ↔ c.CountsOn filter ∨ filter ∈ subs.map (·.filter) := by
  have distinct := filters_eq c.subscriptions ▸ keys.filters
  have enrolled := c.enrolled_spec distinct subs handler
  have leaves : ∀ s, d.leaving s = c.leaving s := fun s => by
    rw [leaving_snoc pending rfl, isSuback]
    simp
  constructor
  · rintro ⟨s, present, rfl, clear, stays⟩
    rcases enrolled.entries s (table ▸ present) with ⟨old, _⟩ | ⟨_, asked⟩
    · exact .inl ⟨s, old, rfl, clear, leaves s ▸ stays⟩
    · obtain ⟨asked, among, isFilter, _⟩ := mem_of_askedLast asked
      exact .inr (isFilter ▸ List.mem_map_of_mem among)
  · intro either
    by_cases named : filter ∈ subs.map (·.filter)
    · obtain ⟨s, present, rfl⟩ := enrolled.exists named
      refine ⟨s, table ▸ present, rfl, ?_, ?_⟩
      · rcases enrolled.entries s present with ⟨_, unasked⟩ | ⟨clear, _⟩
        · obtain ⟨asked, among, isFilter⟩ := List.mem_map.mp named
          exact absurd isFilter (askedLast_eq_none_iff.mp unasked asked among)
        · exact clear
      · rw [leaves]
        exact tidy.enrolled keys after careful present named
    · obtain ⟨s, member, rfl, clear, stays⟩ := either.resolve_right named
      exact ⟨s, table ▸ enrolled.mem_of_unnamed distinct member named, rfl, clear,
        (leaves s).trans stays⟩

/-- An `unsubscribe()` takes them away. -/
theorem countsOn_unsubscribed {filters : List Bytes}
    (keys : KeysSound cfg (c.subscriptions.map Subscription.key))
    (table : d.subscriptions = c.subscriptions) (pending : d.pending = c.pending ++ [ack])
    (isUnsuback : ack.expected = .unsuback) (about : ack.subs = c.knownSubIds filters) :
    d.CountsOn filter ↔ c.CountsOn filter ∧ filter ∉ filters := by
  have leaves : ∀ s ∈ c.subscriptions, d.leaving s = (c.leaving s || s.filter ∈ filters) := by
    intro s member
    rw [leaving_snoc pending rfl, isUnsuback, about]
    simp [mem_knownSubIds keys member]
  constructor
  · rintro ⟨s, present, rfl, clear, stays⟩
    rw [table] at present
    rw [leaves s present, Bool.or_eq_false_iff] at stays
    exact ⟨⟨s, present, rfl, clear, stays.1⟩, by simpa using stays.2⟩
  · rintro ⟨⟨s, member, rfl, clear, stays⟩, unnamed⟩
    exact ⟨s, table ▸ member, rfl, clear, by simp [leaves s member, stays, unnamed]⟩

/-- A batch adds the filters that waited to be sent again. -/
theorem countsOn_resubscribed (tidy : c.Tidy) (distinct : (c.subscriptions.map (·.subId)).Nodup)
    (table : d.subscriptions = unflagAll (c.resubBatch.map (·.subId)) c.subscriptions)
    (pending : d.pending = c.pending ++ [ack]) (isSuback : ack.expected = .suback) :
    d.CountsOn filter ↔ c.CountsOn filter ∨ filter ∈ c.resubRequest.map (·.filter) := by
  have leaves : ∀ s t, t.subId = s.subId → d.leaving t = c.leaving s := fun s t same => by
    rw [leaving_snoc pending same, isSuback]
    simp
  have members := fun s => c.mem_unflagAll_resubBatch (s := s) distinct
  constructor
  · rintro ⟨s, present, rfl, clear, stays⟩
    rcases (members s).mp (table ▸ present) with ⟨old, _⟩ | ⟨old, inBatch, rfl⟩
    · exact .inl ⟨s, old, rfl, clear, leaves s s rfl ▸ stays⟩
    · exact .inr (by simpa [resubRequest] using ⟨old, inBatch, rfl⟩)
  · rintro (⟨s, member, rfl, clear, stays⟩ | asked)
    · have notBatch : s ∉ c.resubBatch := fun inBatch => by
        simp [c.needsResub_of_mem_resubBatch inBatch] at clear
      exact ⟨s, table ▸ (members s).mpr (.inl ⟨member, notBatch⟩), rfl, clear,
        (leaves s s rfl).trans stays⟩
    · obtain ⟨old, inBatch, rfl⟩ : ∃ old ∈ c.resubBatch, old.filter = filter := by
        simpa [resubRequest] using asked
      refine ⟨old.unflagged, table ▸ (members _).mpr (.inr ⟨old, inBatch, rfl⟩), rfl, rfl, ?_⟩
      rw [leaves old old.unflagged rfl]
      exact tidy.stays_of_flagged (c.resubBatch_sublist.subset inBatch)
        (c.needsResub_of_mem_resubBatch inBatch)

theorem cleanSession_of_busy (busy : c.state ≠ .idle) (label : Label) :
    (c.apply label).cleanSession = c.cleanSession := by
  rcases c.apply_cleanSession label with same | ⟨opts, now, rfl, _⟩
  · exact same
  · rcases c.connect_cases opts now with ⟨_, _, same⟩ | ⟨idle, _⟩ | ⟨idle, _⟩
    · simp [Client.apply, Client.react, same, Client.refuse]
    · exact absurd idle busy
    · exact absurd idle busy

end Client

/-- What a piece of code asks for is what it counts on. -/
theorem Client.Tidy.countsOn {log : Log cfg} {label : Label} (tidy : log.state.Tidy)
    (few : cfg.maxSubscriptions ≤ 65536) (history : History log)
    (conforms : log.state.Conforms label)
    (careful : Entry.awaitsUnsuback ⟨log.state, label⟩ = true) (busy : log.state.state ≠ .idle)
    (goesOn : (log.state.apply label).state ≠ .idle) {held : List Bytes}
    (agrees : ∀ filter, filter ∈ held ↔ log.state.CountsOn filter) (filter : Bytes) :
    filter ∈ (requestsOf (log.state.react label).queued).foldl Request.effect held ↔
      (log.state.apply label).CountsOn filter := by
  have keys := history.keysSound few
  have after := keys.step few label
  have subIds := subIds_eq log.state.subscriptions ▸ keys.subIds
  have flags := history.flags few
  have quiet : (log.state.apply label).pending.length ≤ log.state.pending.length →
      requestsOf (log.state.react label).queued = [] := history.requestsOf_eq_nil busy
  cases log.state.apply_tableEffect label with
  | kept table pending =>
    rw [quiet (by rw [pending]), List.foldl_nil, agrees, Client.CountsOn, Client.CountsOn, table]
    simp only [Client.leaving, pending]
  | subscribed subs handler now isSubscribe _ _ _ _ nonzero sized table pending queued =>
    subst isSubscribe
    obtain ⟨size, isSize⟩ := sized
    rw [requestsOf_eq_single queued (readRequest_subscribePacket isSize nonzero),
      Client.countsOn_enrolled tidy keys (table ▸ after) careful table pending rfl, ← agrees]
    simp [Request.effect]
  | unsubscribed filters now isUnsubscribe _ _ nonzero sized table pending queued =>
    obtain ⟨size, isSize⟩ := sized
    rw [requestsOf_eq_single queued (readRequest_unsubscribePacket isSize nonzero),
      Client.countsOn_unsubscribed keys table pending rfl rfl, ← agrees]
    simp [Request.effect]
  | resubscribed now isResubscribe _ nonzero sized table pending queued =>
    obtain ⟨size, isSize⟩ := sized
    rw [requestsOf_eq_single queued (readRequest_subscribePacket isSize nonzero),
      Client.countsOn_resubscribed tidy subIds table pending rfl, ← agrees]
    simp [Request.effect]
  | answered header body now v ack isHandle isSuback decoded found _ table pending =>
    rw [quiet (by rw [pending]; exact List.length_eraseP_le), List.foldl_nil, agrees]
    have leaves := Client.leaving_of_suback pending
    obtain ⟨inPending, _, expects⟩ := Client.findPending_mem found
    have origin : ∀ t ∈ (log.state.apply label).subscriptions, ∃ s ∈ log.state.subscriptions,
        s.key = t.key ∧ s.needsResub = t.needsResub := by
      intro t present
      obtain ⟨s, member, sameKey, _, flag⟩ := answers_origin (table ▸ present)
      refine ⟨s, member, sameKey.symm, ?_⟩
      rcases flag with same | ⟨off, named⟩
      · exact same.symm
      · -- The flag was cleared when the request was sent.
        obtain ⟨answer, inZip, isAnswer⟩ := List.mem_map.mp named
        rw [off, flags.acks ack inPending expects s member
          (isAnswer ▸ (List.of_mem_zip inZip).2)]
    have sameKeys : (log.state.apply label).subscriptions.map Subscription.key =
        log.state.subscriptions.map Subscription.key := by
      rw [table]
      exact keys_answers_of_granted _ fun answer inZip => conforms.granted header body now v
        isHandle isSuback decoded answer.1 (List.of_mem_zip inZip).1
    refine ⟨fun counts => counts.mono (fun s member => ?_) leaves,
      fun counts => counts.mono origin fun s => (leaves s).symm⟩
    obtain ⟨t, present, sameKey⟩ := List.mem_map.mp (sameKeys ▸ List.mem_map_of_mem member)
    obtain ⟨old, inTable, oldKey, oldFlag⟩ := origin t present
    obtain rfl : old = s := List.inj_on_of_nodup_map subIds inTable member
      (congrArg Prod.snd (oldKey.trans sameKey))
    exact ⟨t, present, sameKey, oldFlag.symm⟩
  | withdrawn header body now id ack isHandle isUnsuback decoded found table pending =>
    rw [quiet (by rw [pending]; exact List.length_eraseP_le), List.foldl_nil, agrees]
    obtain ⟨rest, isPending⟩ := conforms.first header body now id ack isHandle isUnsuback decoded
      found
    obtain ⟨_, sameId, expects⟩ := Client.findPending_mem found
    rw [isPending, List.eraseP_cons_of_pos (by simp [sameId, expects])] at pending
    have leaves : ∀ s, log.state.leaving s =
        (decide (s.subId ∈ ack.subs) || (log.state.apply label).leaving s) := by
      intro s
      simp [Client.leaving, isPending, pending, expects]
    simp only [Client.CountsOn, table, mem_eraseAll subIds, leaves, Bool.or_eq_false_iff,
      decide_eq_false_iff_not]
    constructor
    · rintro ⟨s, member, isFilter, clear, unnamed, stays⟩
      exact ⟨s, ⟨member, unnamed⟩, isFilter, clear, stays⟩
    · rintro ⟨s, ⟨member, unnamed⟩, isFilter, clear, stays⟩
      exact ⟨s, member, isFilter, clear, unnamed, stays⟩
  | forgotten awaiting _ table pending =>
    rw [quiet (by rw [pending]), List.foldl_nil, agrees]
    have flagged := (flags.down (by simp [awaiting]) (by simp [awaiting])).1
    exact iff_of_false (Client.not_countsOn_of_flagged flagged)
      (Client.not_countsOn_of_flagged fun s present => mem_flagged (table ▸ present))
  | ended closing => exact absurd closing (by simp [busy, goesOn])

/-! ## Client and broker -/

namespace Net

variable {net : Net cfg Subscribing.broker}

/-- An orderly broker sends what the client can use. -/
theorem Orderly.conforms (orderly : net.Orderly) (flows : net.Flows) {label : Label}
    (permitted : Permitted net.log label) : net.log.state.Conforms label := by
  constructor
  · rintro header body now v rfl isSuback decoded
    obtain ⟨_, sent, rest, isUnhandled, rfl, rfl, _⟩ := flows.front permitted
    have isAnswer := orderly.answers sent (by simp [isUnhandled])
    unfold Sent.IsAnswer at isAnswer
    cases tag : sent.tag with
    | suback id codes =>
      simp only [tag, decoded] at isAnswer
      obtain ⟨_, _, same, _, _, granted⟩ := isAnswer
      cases same
      exact granted
    | unsuback id => simp [tag, isSuback] at isAnswer
    | other => simp [tag, isSuback] at isAnswer
  · rintro header body now id ack rfl isUnsuback decoded found
    obtain ⟨busy, sent, rest, isUnhandled, rfl, rfl, _⟩ := flows.front permitted
    have isAnswer := orderly.answers sent (by simp [isUnhandled])
    unfold Sent.IsAnswer at isAnswer
    cases tag : sent.tag with
    | unsuback other =>
      simp only [tag, decoded] at isAnswer
      obtain ⟨_, same⟩ := isAnswer
      cases same
      have awaited := orderly.awaited busy
      rw [isUnhandled] at awaited
      simp only [List.filterMap_cons, tag, Answer.key, List.cons_append] at awaited
      obtain ⟨first, later, pending, key, _⟩ := List.map_eq_cons_iff.mp awaited
      obtain ⟨isId, isExpected, _⟩ : first.packetId = id ∧ first.expected = .unsuback ∧
          (if first.expected = .suback then first.subs.length else 0) = 0 := by
        simpa [PendingAck.key] using key
      have isFirst := Client.findPending_head pending
      rw [isId, isExpected, found] at isFirst
      cases isFirst
      exact ⟨later, pending⟩
    | suback id codes => simp [tag, isUnsuback] at isAnswer
    | other => simp [tag, isUnsuback] at isAnswer

/-- The filters the broker will hold once it has taken the requests on their way. -/
def due (net : Net cfg Subscribing.broker) : List Bytes :=
  net.requests.foldl Request.effect net.held

/-- What holds of a careful client and its broker. -/
structure InStep (net : Net cfg Subscribing.broker) : Prop where
  tidy : net.log.state.Tidy
  counts : net.log.state.state ≠ .idle → net.log.state.cleanSession = true →
    ∀ filter, filter ∈ net.due ↔ net.log.state.CountsOn filter

/-- A client step keeps both sides in step. -/
theorem InStep.client (inStep : net.InStep) (few : cfg.maxSubscriptions ≤ 65536)
    (orderly : net.Orderly) (flows : net.Flows) {label : Label}
    (permitted : Permitted net.log label)
    (careful : Entry.awaitsUnsuback ⟨net.log.state, label⟩ = true) (down : Bytes) :
    (net.clientStep label down).InStep := by
  have conforms := orderly.conforms flows permitted
  refine ⟨?_, fun goesOn clean filter => ?_⟩
  · rw [log_clientStep, Logged.perform_state]
    exact inStep.tidy.step few flows.history conforms careful
  · rw [log_clientStep, Logged.perform_state] at goesOn clean ⊢
    rw [due, requests_goesOn goesOn, List.foldl_append, held, state_clientStep, ← held, ← due]
    by_cases idle : net.log.state.state = .idle
    · obtain ⟨_, asked, _, flagged⟩ := flows.history.begins few permitted idle goesOn
      rw [asked, clean]
      exact iff_of_false (by simp [Request.effect]) (Client.not_countsOn_of_flagged flagged)
    · exact inStep.tidy.countsOn few flows.history conforms careful idle goesOn
        (inStep.counts idle (Client.cleanSession_of_busy idle label ▸ clean)) filter

/-- So does a request the broker takes. -/
theorem InStep.take (inStep : net.InStep) {posted : Posted} {rest : List Posted} {up : Bytes}
    {state : Subscribing.broker.State} {sent : List (Sent Answer)}
    (next : net.untaken = posted :: rest) (takes : Subscribing.Takes net.state posted state sent) :
    (({ net with up := up, untaken := rest } : Net cfg Subscribing.broker).send state
      sent).InStep := by
  have same : (({ net with up := up, untaken := rest } : Net cfg Subscribing.broker).send state
      sent).due = net.due := by
    have taken : state = _ := takes.1
    rw [due, due, requests, requests, next, held, held, Net.send, taken]
    cases reads : readRequest posted.packet.bytes <;> simp only [requestsOf, reads,
      List.map_cons, List.filterMap_cons] <;> rfl
  exact ⟨inStep.tidy, fun busy clean filter => same ▸ inStep.counts busy clean filter⟩

/-- So does what it sends of its own. -/
theorem InStep.offer (inStep : net.InStep) {state : Subscribing.broker.State}
    {sent : List (Sent Answer)} (offers : Subscribing.Offers net.state state sent) :
    (net.send state sent).InStep := by
  obtain rfl : state = net.state := offers.1
  exact ⟨inStep.tidy, inStep.counts⟩

/-- In step wherever a careful client and its broker come to. -/
theorem Reachable.inStep (few : cfg.maxSubscriptions ≤ 65536) (reachable : net.Reachable)
    (careful : ∀ event ∈ net.log.trace, event.awaitsUnsuback = true) : net.InStep := by
  induction reachable with
  | start => exact ⟨Client.tidy_initial, absurd rfl⟩
  | step prior step ih =>
    cases step with
    | client label down permitted _ =>
      rw [log_clientStep, Logged.perform_trace] at careful
      exact (ih fun event member =>
        careful event (List.mem_append_left _ member)).client few (prior.orderly few)
        prior.flows permitted (careful _ (by simp)) down
    | take posted rest up state sent _ next _ takes =>
      exact (ih careful).take next takes
    | offer state sent _ offers => exact (ih careful).offer offers

/-- Nothing is under way to the broker. -/
theorem Quiescent.requests (quiescent : net.Quiescent) (flows : net.Flows) : net.requests = [] := by
  have stream := flows.up (by simp [quiescent.connected])
  rw [quiescent.up, quiescent.queue, List.append_nil] at stream
  refine List.filterMap_eq_nil_iff.mpr fun packet member => ?_
  obtain ⟨posted, among, rfl⟩ := List.mem_map.mp member
  rw [List.flatMap_eq_nil_iff.mp stream.symm posted among]
  rfl

end Net

/-- With a broker that grants every filter, on a clean session: if the application
never names a filter whose UNSUBSCRIBE is unanswered, and gives up none that waits to be
sent again, the table is what the broker holds whenever nothing is under way. -/
theorem subscriptions_agree (cfg : Config) (few : cfg.maxSubscriptions ≤ 65536)
    {net : Net cfg Subscribing.broker} (reachable : net.Reachable)
    (careful : ∀ event ∈ net.log.trace, event.awaitsUnsuback = true)
    (clean : net.log.state.cleanSession = true) : net.Agrees := by
  intro quiescent filter
  have counts := (reachable.inStep few careful).counts (by simp [quiescent.connected]) clean filter
  rw [Net.due, quiescent.requests reachable.flows, List.foldl_nil] at counts
  have stays : ∀ s, net.log.state.leaving s = false := fun s => by
    simp [Client.leaving, quiescent.answered]
  rw [counts, List.mem_map]
  constructor
  · rintro ⟨s, member, isFilter⟩
    exact ⟨s, member, isFilter, quiescent.sent s member, stays s⟩
  · rintro ⟨s, member, isFilter, _⟩
    exact ⟨s, member, isFilter⟩

/-! ## A filter that is taken up again too early -/

namespace Overlap

/-- The SUBACK that grants every filter at QoS 0. -/
def suback (id : UInt16) (codes : Nat) (short : 2 + codes ≤ kMaxRemainingLength) : Sent Answer where
  packet := .of { type := .suback } (u16Bytes id ++ List.replicate codes 0) (by decide)
    (by simpa [length_u16Bytes] using short)
  tag := .suback id codes

theorem suback_isAnswer {id : UInt16} {codes : Nat} (nonzero : id ≠ 0)
    (short : 2 + (codes + 1) ≤ kMaxRemainingLength) : (suback id (codes + 1) short).IsAnswer := by
  refine ⟨rfl, { packetId := id, returnCodes := List.replicate (codes + 1) 0 }, ?_, rfl,
    List.length_replicate, fun code member => ?_⟩
  · simp [suback, Packet.of, u16Bytes, List.replicate_succ, decodeSuback, u16Value_u16Bytes,
      nonzero]
  · rw [List.eq_of_mem_replicate member]
    decide

def unsuback (id : UInt16) : Sent Answer where
  packet := .of { type := .unsuback } (u16Bytes id) (by decide) (length_u16Bytes_le id)
  tag := .unsuback id

def connack : Sent Answer where
  packet := .of { type := .connack } [0, 0] FixedHeader.sendable_connack (by decide)
  tag := .other

/-- How the broker answers. -/
def answers : Request → List (Sent Answer)
  | .connect _ => [connack]
  | .subscribe id filters =>
    if short : 2 + filters.length ≤ kMaxRemainingLength then [suback id filters.length short] else []
  | .unsubscribe id _ => [unsuback id]

def take (held : List Bytes) (posted : Posted) : List Bytes × List (Sent Answer) :=
  match readRequest posted.packet.bytes with
  | none => (held, [])
  | some request => (request.effect held, answers request)

theorem takes (held : List Bytes) (posted : Posted) :
    Subscribing.Takes held posted (take held posted).1 (take held posted).2 := by
  unfold Subscribing.Takes take
  cases reads : readRequest posted.packet.bytes with
  | none => exact ⟨rfl, rfl, by simp⟩
  | some request =>
    obtain ⟨valid, short⟩ := readRequest_answerable reads
    cases request with
    | connect clean => exact ⟨rfl, rfl, by simp [answers, connack, Sent.IsAnswer, Packet.of]⟩
    | subscribe id filters =>
      have short := short id filters rfl
      obtain ⟨nonzero, nonempty⟩ : id ≠ 0 ∧ filters ≠ [] := by
        simpa [Request.valid] using valid
      simp only [answers, dif_pos short]
      refine ⟨rfl, rfl, fun packet member => ?_⟩
      obtain rfl := List.mem_singleton.mp member
      obtain ⟨first, others, rfl⟩ := List.exists_cons_of_ne_nil nonempty
      exact suback_isAnswer nonzero short
    | unsubscribe id filters =>
      obtain ⟨nonzero, _⟩ : id ≠ 0 ∧ filters ≠ [] := by simpa [Request.valid] using valid
      refine ⟨rfl, rfl, fun packet member => ?_⟩
      obtain rfl := List.mem_singleton.mp member
      exact ⟨rfl, decodePacketId_u16Bytes nonzero⟩

def player : Player Subscribing.broker Unit where
  take := take
  offer _ held := (held, [])
  takes := takes
  offers _ _ := ⟨rfl, rfl, by simp⟩

/-- Subscribe to a filter, give it up, take it up again. -/
def application (wait : Script → Script) : Script :=
  .connect { clientId := [97] } (.step (.subscribe [{ filter := [116] }] none
    (.step (.unsubscribe [[116]] (wait (.subscribe [{ filter := [116] }] none (.step .done)))))))

/-- Everything is sent at once, and the answers come in order. -/
def env (answers : List (Error × Bytes)) : Env where
  opens := [.ok]
  sends := [(.ok, 15), (.ok, 8), (.ok, 7), (.ok, 8)]
  recvs := [(.ok, [0x20, 2, 0, 0]), (.wouldBlock, []), (.ok, [0x90, 3, 0, 1, 0]),
    (.wouldBlock, [])] ++ answers

/-- The UNSUBACK is awaited. -/
def patientRun : World .small :=
  World.exec .small (env [(.ok, [0xb0, 2, 0, 2]), (.wouldBlock, []), (.ok, [0x90, 3, 0, 3, 0])])
    (application .step)

/-- It is not. -/
def run : World .small :=
  World.exec .small (env [(.ok, [0xb0, 2, 0, 2, 0x90, 3, 0, 3, 0])]) (application id)

/-- The client makes so many moves, then the broker takes so many packets, and so on. -/
def schedule (turns : List (Nat × Nat)) : List (Turn Unit) :=
  turns.flatMap fun (moves, taken) => List.replicate moves .client ++ List.replicate taken .take

/-- What the client and the broker come to. -/
def played (run : World .small) (turns : List (Nat × Nat)) : Option (Net .small Subscribing.broker) :=
  (Net.start .small Subscribing.broker).play player run.log.trace (schedule turns)

def patientTurns : List (Nat × Nat) := [(4, 1), (11, 1), (11, 1), (11, 1), (8, 0)]

theorem patient_facts :
    ((played patientRun patientTurns).map fun net => decide (net.Quiescent ∧ net.held = [[116]] ∧
      (∀ event ∈ net.log.trace, event.awaitsUnsuback = true) ∧
      net.log.state.cleanSession = true)) = some true := by
  decide +kernel

def turns : List (Nat × Nat) := [(4, 1), (11, 1), (13, 2), (10, 0)]

theorem facts :
    ((played run turns).map fun net => decide (net.Quiescent ∧ net.held = [[116]] ∧
      net.log.state.subscriptions = [] ∧ net.log.state.cleanSession = true)) = some true := by
  decide +kernel

end Overlap

/-- A filter is given up, and taken up again after the UNSUBACK. -/
theorem subscriptions_agree_patient :
    ∃ net : Net .small Subscribing.broker, net.Reachable ∧ net.Quiescent ∧ net.held = [[116]] ∧
      net.Agrees := by
  obtain ⟨net, played, facts⟩ := Option.map_eq_some_iff.mp Overlap.patient_facts
  obtain ⟨quiescent, held, careful, clean⟩ := of_decide_eq_true facts
  have reachable := Net.reachable_play (World.exec_history _ _ _) played
  exact ⟨net, reachable, quiescent, held,
    subscriptions_agree .small (by decide) reachable careful clean⟩

/-- Taken up again before the UNSUBACK, it is lost with it: the broker holds the filter
and the table is empty. -/
theorem overlapping_requests_disagree :
    ∃ net : Net .small Subscribing.broker, net.Reachable ∧ net.log.state.cleanSession = true ∧
      ¬ net.Agrees := by
  obtain ⟨net, played, facts⟩ := Option.map_eq_some_iff.mp Overlap.facts
  obtain ⟨quiescent, held, table, clean⟩ := of_decide_eq_true facts
  refine ⟨net, Net.reachable_play (World.exec_history _ _ _) played, clean, fun agrees => ?_⟩
  have remembered := (agrees quiescent [116]).mpr (by simp [held])
  rw [table] at remembered
  cases remembered

end Mqtt
