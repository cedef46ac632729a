import Mqtt.Session.Asking
import Mqtt.Session.CrowdedTable
import Mqtt.Session.PumpPasses

/-!
# What an acknowledgement is about

`pending_` remembers the entries a request is about by identity. The broker knows them
by filter: the codes of a SUBACK stand in the order of the filters in the SUBSCRIBE. The
two readings agree as long as no identity is handed out again while an acknowledgement
that names it is awaited, however many entries come and go in between. They come apart
where two entries have one identity, as in a table of 65537.
-/

namespace Mqtt

open Library

variable {cfg : Config}

/-! ## The contract -/

/-- The packet id a request is acknowledged under. -/
def Request.packetId : Request → Option UInt16
  | .connect _ => none
  | .subscribe id _ => some id
  | .unsubscribe id _ => some id

/-- The event queues this request. -/
def Library.Entry.Sends (event : Event cfg) (request : Request) : Prop :=
  request ∈ requestsOf event.reaction.queued

instance (event : Event cfg) (request : Request) : Decidable (event.Sends request) :=
  inferInstanceAs (Decidable (_ ∈ _))

/-- The filter has an entry when the event begins. -/
def Library.Entry.Holds (event : Event cfg) (filter : Bytes) : Prop :=
  filter ∈ event.before.subscriptions.map (·.filter)

instance (event : Event cfg) (filter : Bytes) : Decidable (event.Holds filter) :=
  inferInstanceAs (Decidable (_ ∈ _))

/-- The identities `alloc_sub_id` hands out during the event: those of the entries it
adds. -/
def Library.Entry.handsOut (event : Event cfg) : List UInt16 :=
  ((event.before.apply event.label).subscriptions.filter fun s => ¬ event.Holds s.filter).map
    (·.subId)

/-- One of them is named by an entry of `pending_`. -/
def Library.Entry.reissues (event : Event cfg) : Bool :=
  event.handsOut.any fun sid => event.before.pending.any fun ack => sid ∈ ack.subs

/-- `sent` is the last event so far to queue a request under this packet id. -/
structure Outstanding (before : Trace cfg) (request : Request) (sent : Event cfg)
    (between : Trace cfg) : Prop where
  split : ∃ front, before = front ++ sent :: between
  sends : sent.Sends request
  last : ∀ event ∈ between, ∀ other, event.Sends other → other.packetId ≠ request.packetId

/-- The filter has had an entry all along. No event both ends an entry and begins one
for the same filter, so this is one entry. -/
def KeptThrough (between : Trace cfg) (filter : Bytes) : Prop :=
  ∀ event ∈ between, event.Holds filter

instance (between : Trace cfg) (filter : Bytes) : Decidable (KeptThrough between filter) :=
  inferInstanceAs (Decidable (∀ _ ∈ _, _))

/-- The codes that stand in the places of a filter. -/
def codesFor (filter : Bytes) (filters : List Bytes) (codes : List UInt8) : List UInt8 :=
  ((filters.zip codes).filter fun answer => answer.1 = filter).map Prod.snd

/-- What a code makes of the entry it is about. -/
def Subscription.answer (s : Subscription) (code : UInt8) : Option Subscription :=
  if code = kSubackFailure then none else some (s.granted code)

/-- What a list of codes makes of it. -/
def Subscription.answered (s : Subscription) (codes : List UInt8) : Option Subscription :=
  codes.foldlM Subscription.answer s

/-- Acknowledgements act on the entries their requests were about. -/
structure AcksExact (trace : Trace cfg) : Prop where
  suback : ∀ before event after header body now v, trace = before ++ event :: after →
    event.label = .handle header body now → header.type = .suback →
    decodeSuback body = .ok v → (∀ earlier ∈ before, earlier.reissues = false) →
    (event.before.findPending v.packetId .suback).isSome = true →
    ∃ filters sent between, Outstanding before (.subscribe v.packetId filters) sent between ∧
      (v.returnCodes.length = filters.length →
        (event.before.apply event.label).subscriptions =
          event.before.subscriptions.filterMap fun s => s.answered
            (if KeptThrough between s.filter then codesFor s.filter filters v.returnCodes
              else [])) ∧
      (v.returnCodes.length ≠ filters.length →
        event.before.apply event.label = event.before ∧
          event.reaction.error = .protocolViolation)
  unsuback : ∀ before event after header body now id, trace = before ++ event :: after →
    event.label = .handle header body now → header.type = .unsuback →
    decodePacketId body = .ok id → (∀ earlier ∈ before, earlier.reissues = false) →
    (event.before.findPending id .unsuback).isSome = true →
    ∃ filters sent between, Outstanding before (.unsubscribe id filters) sent between ∧
      (event.before.apply event.label).subscriptions =
        event.before.subscriptions.filter fun s =>
          ¬ (s.filter ∈ filters ∧ sent.Holds s.filter ∧ KeptThrough between s.filter)
  straySuback : ∀ event ∈ trace, ∀ header body now v, event.label = .handle header body now →
    header.type = .suback → decodeSuback body = .ok v →
    event.before.findPending v.packetId .suback = none →
    event.before.apply event.label = event.before
  strayUnsuback : ∀ event ∈ trace, ∀ header body now id, event.label = .handle header body now →
    header.type = .unsuback → decodePacketId body = .ok id →
    event.before.findPending id .unsuback = none → event.before.apply event.label = event.before

/-! ## The table -/

@[simp] theorem Subscription.answered_nil (s : Subscription) : s.answered [] = some s := rfl

theorem Subscription.answered_cons (s : Subscription) (code : UInt8) (rest : List UInt8) :
    s.answered (code :: rest) = (s.answer code).bind (·.answered rest) := rfl

/-- With distinct identities, a code changes the entry it is about. -/
theorem answerOne_eq_filterMap (answer : UInt8 × UInt16) {table : List Subscription}
    (distinct : (table.map (·.subId)).Nodup) :
    answerOne table answer =
      table.filterMap fun s => if s.subId = answer.2 then s.answer answer.1 else some s := by
  unfold answerOne Subscription.answer
  split
  · rw [eraseP_eq_filter answer.2 distinct, ← List.filterMap_eq_filter]
    refine List.filterMap_congr fun s _ => ?_
    by_cases named : s.subId = answer.2 <;> simp [named, Option.guard]
  · rw [updateFirst_eq_map answer.2 _ distinct, ← List.filterMap_eq_map']
    refine List.filterMap_congr fun s _ => ?_
    by_cases named : s.subId = answer.2 <;> simp [named]

/-- So a list of answers changes each entry by those about it, in their order. -/
theorem answers_eq_filterMap (answers : List (UInt8 × UInt16)) {table : List Subscription}
    (distinct : (table.map (·.subId)).Nodup) :
    answers.foldl answerOne table = table.filterMap fun s =>
      s.answered ((answers.filter fun answer => answer.2 = s.subId).map Prod.fst) := by
  induction answers generalizing table with
  | nil => simp
  | cons answer rest ih =>
    have kept : ((answerOne table answer).map (·.subId)).Nodup := by
      rw [← subIds_eq] at distinct ⊢
      exact distinct.sublist ((keys_answerOne table answer).map _)
    rw [List.foldl_cons, ih kept, answerOne_eq_filterMap answer distinct,
      List.filterMap_filterMap]
    refine List.filterMap_congr fun s _ => ?_
    by_cases named : s.subId = answer.2
    · rw [if_pos named, List.filter_cons_of_pos (by simp [named]), List.map_cons,
        Subscription.answered_cons]
      unfold Subscription.answer
      split <;> rfl
    · rw [if_neg named, List.filter_cons_of_neg (by simp [Ne.symm named])]
      rfl

/-- Codes by identity are codes by filter where the two agree in every place. -/
theorem codes_eq_codesFor {filters : List Bytes} {ids : List UInt16} {filter : Bytes}
    {sid : UInt16} (agree : List.Forall₂ (fun name id => id = sid ↔ name = filter) filters ids)
    (codes : List UInt8) :
    ((codes.zip ids).filter fun answer => answer.2 = sid).map Prod.fst =
      codesFor filter filters codes := by
  unfold codesFor
  induction agree generalizing codes with
  | nil => simp
  | cons same _ ih =>
    cases codes with
    | nil => simp
    | cons code codes =>
      rw [List.zip_cons_cons, List.zip_cons_cons, List.filter_cons, List.filter_cons]
      simp only [decide_eq_true_eq, same]
      split <;> simp [ih codes]

/-- A request that does not name an entry brings it no code. -/
theorem codes_eq_nil {ids : List UInt16} {sid : UInt16} (absent : sid ∉ ids) (codes : List UInt8) :
    ((codes.zip ids).filter fun answer => answer.2 = sid).map Prod.fst = [] := by
  rw [List.map_eq_nil_iff, List.filter_eq_nil_iff]
  rintro answer inZip isAbout
  exact absent (of_decide_eq_true isAbout ▸ (List.of_mem_zip inZip).2)

/-- Every filter has at most one entry. -/
theorem History.filters_nodup {log : Log cfg} (history : History log) :
    (log.state.subscriptions.map (·.filter)).Nodup := by
  refine Logged.Reaches.invariant (fun log => (log.state.subscriptions.map (·.filter)).Nodup)
    (fun log label _ distinct => ?_) history (by simp [Client.initial])
  rw [Logged.perform_state]
  rcases log.state.keys_cases label with fewer | ⟨subs, handler, now, _, _, _, table⟩
  · rw [← filters_eq] at distinct ⊢
    exact distinct.sublist (fewer.map _)
  · rw [table]
    exact (log.state.enrolled_spec distinct subs handler).filters

/-- An entry was there before, under the same identity, or its filter had none. -/
theorem Client.key_origin {c : Client cfg} (distinct : (c.subscriptions.map (·.filter)).Nodup)
    {label : Label} {s : Subscription} (member : s ∈ (c.apply label).subscriptions) :
    s.key ∈ c.subscriptions.map Subscription.key ∨ s.filter ∉ c.subscriptions.map (·.filter) := by
  have inKeys := List.mem_map_of_mem (f := Subscription.key) member
  rcases c.keys_cases label with fewer | ⟨subs, handler, now, _, _, _, table⟩
  · exact .inl (fewer.subset inKeys)
  · have enrolled := c.enrolled_spec distinct subs handler
    obtain ⟨added, keys, _⟩ := enrolled.keys
    have filters := enrolled.filters
    rw [← filters_eq, keys, List.map_append, List.nodup_append] at filters
    rw [table, keys] at inKeys
    rcases List.mem_append.mp inKeys with old | new
    · exact .inl old
    · refine .inr fun present => ?_
      rw [← filters_eq] at present
      exact filters.2.2 _ present _ (List.mem_map_of_mem new) rfl

/-! ## The request an acknowledgement answers -/

/-- The event sends the request that this entry of `pending_` awaits the answer to. -/
inductive Library.Entry.Opens (ack : PendingAck) (event : Event cfg) : Prop where
  | subscribe (filters : List Bytes) (awaits : ack.expected = .suback)
      (sends : event.Sends (.subscribe ack.packetId filters))
      (names : List.Forall₂ (fun filter sid =>
        (filter, sid) ∈ (event.before.apply event.label).subscriptions.map Subscription.key)
        filters ack.subs)
  | unsubscribe (filters : List Bytes) (awaits : ack.expected = .unsuback)
      (sends : event.Sends (.unsubscribe ack.packetId filters))
      (names : ack.subs = event.before.knownSubIds filters)
      (table : (event.before.apply event.label).subscriptions = event.before.subscriptions)

/-- What a step queues, it sends. -/
theorem sends_of_queued {event : Event cfg} {bytes : Bytes} {request : Request}
    (queued : event.reaction.queued = [{ bytes := bytes }])
    (reads : readRequest bytes = some request) : event.Sends request := by
  rw [Entry.Sends, requestsOf_eq_single queued reads]
  exact List.mem_singleton_self _

/-- It sends nothing else. -/
theorem eq_of_sends {event : Event cfg} {bytes : Bytes} {request other : Request}
    (sends : event.Sends request) (queued : event.reaction.queued = [{ bytes := bytes }])
    (reads : readRequest bytes = some other) : request = other := by
  rw [Entry.Sends, requestsOf_eq_single queued reads] at sends
  exact List.mem_singleton.mp sends

/-- An entry joins `pending_` with its request. -/
theorem History.opens {log : Log cfg} (history : History log) {label : Label}
    {ack : PendingAck} (joins : ack ∈ (log.state.apply label).pending)
    (isNew : ack ∉ log.state.pending) : Entry.Opens ack ⟨log.state, label⟩ := by
  have isLast : ∀ last, (log.state.apply label).pending = log.state.pending ++ [last] →
      ack = last := by
    intro last joined
    rw [joined, List.mem_append] at joins
    simpa [isNew] using joins
  cases log.state.apply_tableEffect label with
  | subscribed subs handler now _ _ _ _ _ nonzero sized table pending queued =>
    obtain rfl := isLast _ pending
    obtain ⟨size, isSize⟩ := sized
    have enrolled := log.state.enrolled_spec history.filters_nodup subs handler
    refine .subscribe (subs.map (·.filter)) rfl
      (sends_of_queued queued (readRequest_subscribePacket isSize nonzero)) ?_
    rw [List.forall₂_map_left_iff]
    simp only [table]
    exact enrolled.ids
  | unsubscribed filters now _ _ _ nonzero sized table pending queued =>
    obtain rfl := isLast _ pending
    obtain ⟨size, isSize⟩ := sized
    exact .unsubscribe filters rfl
      (sends_of_queued queued (readRequest_unsubscribePacket isSize nonzero)) rfl table
  | resubscribed now _ _ nonzero sized table pending queued =>
    obtain rfl := isLast _ pending
    obtain ⟨size, isSize⟩ := sized
    refine .subscribe (log.state.resubRequest.map (·.filter)) rfl
      (sends_of_queued queued (readRequest_subscribePacket isSize nonzero)) ?_
    simp only [table, keys_unflagAll, Client.resubRequest, List.map_map]
    rw [List.forall₂_map_left_iff, List.forall₂_map_right_iff, List.forall₂_same]
    intro s inBatch
    exact List.mem_map_of_mem (f := Subscription.key) (log.state.resubBatch_sublist.subset inBatch)
  | kept _ pending => exact absurd (pending ▸ joins) isNew
  | answered _ _ _ _ _ _ _ _ _ _ _ pending =>
    exact absurd (List.mem_of_mem_eraseP (pending ▸ joins)) isNew
  | withdrawn _ _ _ _ _ _ _ _ _ _ pending =>
    exact absurd (List.mem_of_mem_eraseP (pending ▸ joins)) isNew
  | forgotten _ _ _ pending => exact absurd (pending ▸ joins) isNew
  | ended _ _ pending =>
    rw [pending] at joins
    cases joins

/-- Each entry of `pending_` has been there since its request. -/
theorem History.awaited {log : Log cfg} (history : History log) :
    ∀ ack ∈ log.state.pending,
      Since (fun event => event.Opens ack) (fun event => ack ∉ event.before.pending) log.trace := by
  refine history.invariant
    (fun log => ∀ ack ∈ log.state.pending,
      Since (fun event => event.Opens ack) (fun event => ack ∉ event.before.pending) log.trace)
    (fun log label prior _ held ack member => ?_) (by simp [Client.initial])
  rw [Logged.perform_state] at member
  rw [Logged.perform_trace, since_snoc]
  by_cases old : ack ∈ log.state.pending
  · exact .inr ⟨held ack old, not_not_intro old⟩
  · exact .inl (prior.opens member old)

/-- A request is sent under a packet id that is not in use. -/
theorem History.sends_fresh {log : Log cfg} (history : History log) {label : Label}
    {request : Request} {id : UInt16} (sends : Entry.Sends ⟨log.state, label⟩ request)
    (named : request.packetId = some id) : id ∉ log.state.liveIds := by
  have quiet : ¬ (log.state.apply label).pending.length ≤ log.state.pending.length := by
    intro fewer
    obtain ⟨_, _, rfl⟩ := history.request_of_fewer fewer sends
    cases named
  have fresh : log.state.allocPacketId.1 ≠ 0 → request.packetId = some log.state.allocPacketId.1 →
      id ∉ log.state.liveIds := by
    intro nonzero isId
    obtain rfl : log.state.allocPacketId.1 = id := Option.some.inj (isId.symm.trans named)
    exact log.state.allocPacketId_unused nonzero
  cases log.state.apply_tableEffect label with
  | subscribed subs handler now _ _ _ _ _ nonzero sized _ _ queued =>
    obtain ⟨size, isSize⟩ := sized
    have isRequest := eq_of_sends sends queued (readRequest_subscribePacket isSize nonzero)
    exact fresh nonzero (by rw [isRequest]; rfl)
  | unsubscribed filters now _ _ _ nonzero sized _ _ queued =>
    obtain ⟨size, isSize⟩ := sized
    have isRequest := eq_of_sends sends queued (readRequest_unsubscribePacket isSize nonzero)
    exact fresh nonzero (by rw [isRequest]; rfl)
  | resubscribed now _ _ nonzero sized _ _ queued =>
    obtain ⟨size, isSize⟩ := sized
    have isRequest := eq_of_sends sends queued (readRequest_subscribePacket isSize nonzero)
    exact fresh nonzero (by rw [isRequest]; rfl)
  | kept _ pending => exact absurd (by rw [pending]) quiet
  | answered _ _ _ _ _ _ _ _ _ _ _ pending =>
    exact absurd (by rw [pending]; exact List.length_eraseP_le) quiet
  | withdrawn _ _ _ _ _ _ _ _ _ _ pending =>
    exact absurd (by rw [pending]; exact List.length_eraseP_le) quiet
  | forgotten _ _ _ pending => exact absurd (by rw [pending]) quiet
  | ended _ _ pending => exact absurd (by simp [pending]) quiet

/-! ## The entries since then -/

/-- How the table comes from the one a request left behind. Only an entry that has been
there all along has one of the named identities. -/
structure Descends (keys : List (Bytes × UInt16)) (named : List UInt16) (c : Client cfg)
    (between : Trace cfg) : Prop where
  kept : ∀ s ∈ c.subscriptions, KeptThrough between s.filter → s.key ∈ keys
  named : (∀ event ∈ between, event.reissues = false) →
    ∀ s ∈ c.subscriptions, s.subId ∈ named → KeptThrough between s.filter

/-- A step on the way keeps the entries of a request its own. -/
theorem Descends.step {keys : List (Bytes × UInt16)} {ack : PendingAck} {c : Client cfg}
    {between : Trace cfg} (descends : Descends keys ack.subs c between)
    (distinct : (c.subscriptions.map (·.filter)).Nodup) (awaited : ack ∈ c.pending)
    (label : Label) : Descends keys ack.subs (c.apply label) (between ++ [⟨c, label⟩]) := by
  refine ⟨fun s member kept => ?_, fun fresh s member isNamed => ?_⟩
  · have holds : s.filter ∈ c.subscriptions.map (·.filter) := kept ⟨c, label⟩ (by simp)
    obtain ⟨old, inTable, sameKey⟩ := List.mem_map.mp
      ((Client.key_origin distinct member).resolve_right (not_not_intro holds))
    obtain ⟨sameFilter, _⟩ := Prod.mk.inj sameKey
    rw [← sameKey]
    refine descends.kept old inTable fun event earlier => ?_
    rw [sameFilter]
    exact kept event (List.mem_append_left _ earlier)
  · rcases Client.key_origin distinct member with inKeys | isNew
    · obtain ⟨old, inTable, sameKey⟩ := List.mem_map.mp inKeys
      obtain ⟨sameFilter, sameId⟩ := Prod.mk.inj sameKey
      have keptBefore := descends.named
        (fun event earlier => fresh event (List.mem_append_left _ earlier)) old inTable
        (sameId ▸ isNamed)
      rw [sameFilter] at keptBefore
      intro event among
      rcases List.mem_append.mp among with earlier | isLast
      · exact keptBefore event earlier
      · obtain rfl : event = ⟨c, label⟩ := by simpa using isLast
        exact sameFilter ▸ List.mem_map_of_mem (f := (·.filter)) inTable
    · -- A new entry with a named identity is a reissue.
      have unissued := fresh ⟨c, label⟩ (by simp)
      have reissues : Entry.reissues (⟨c, label⟩ : Event cfg) = true := by
        refine List.any_eq_true.mpr ⟨s.subId, ?_, ?_⟩
        · refine List.mem_map.mpr ⟨s, List.mem_filter.mpr ⟨member, ?_⟩, rfl⟩
          exact decide_eq_true isNew
        · exact List.any_eq_true.mpr ⟨ack, awaited, decide_eq_true isNamed⟩
      rw [unissued] at reissues
      cases reissues

/-- So does every run that follows the request. -/
theorem History.descends {start log : Log cfg} (history : History start)
    (reaches : Logged.Reaches Client.apply Permitted start log) {between : Trace cfg}
    (split : log.trace = start.trace ++ between) {ack : PendingAck}
    (awaited : ∀ event ∈ between, ack ∈ event.before.pending) :
    Descends (start.state.subscriptions.map Subscription.key) ack.subs log.state between := by
  obtain ⟨added, grown, descends⟩ := Logged.Reaches.invariant_of
    (fun event => ack ∈ event.before.pending)
    (fun log => ∃ added, log.trace = start.trace ++ added ∧
      Descends (start.state.subscriptions.map Subscription.key) ack.subs log.state added)
    (fun log label prior _ awaits ⟨added, grown, descends⟩ => by
      refine ⟨added ++ [⟨log.state, label⟩], ?_, ?_⟩
      · rw [Logged.perform_trace, grown, List.append_assoc]
      · exact descends.step (History.filters_nodup (history.trans prior)) awaits label)
    reaches split awaited
    ⟨[], by simp, fun s member _ => List.mem_map_of_mem member, fun _ _ _ _ => by
      intro event among
      cases among⟩
  rwa [List.append_cancel_left (grown.symm.trans split)] at descends

/-- The request behind an awaited acknowledgement, and the table since then. -/
theorem History.request_of_awaited {log : Log cfg} (history : History log)
    {ack : PendingAck} (awaited : ack ∈ log.state.pending) :
    ∃ start sent between, History start ∧ sent.before = start.state ∧ sent.Opens ack ∧
      (∀ request, sent.Sends request → request.packetId = some ack.packetId →
        Outstanding log.trace request sent between) ∧
      History (start.perform Client.apply sent.label) ∧
      Descends ((start.state.apply sent.label).subscriptions.map Subscription.key) ack.subs
        log.state between := by
  obtain ⟨front, sent, between, split, opens, since⟩ := history.awaited ack awaited
  have since : ∀ event ∈ between, ack ∈ event.before.pending :=
    fun event among => not_not.mp (since event among)
  obtain ⟨start, reached, trace, here, permitted, onward⟩ := history.cut split
  have sentHere : sent = ⟨start.state, sent.label⟩ := by rw [← here]
  have next : History (start.perform Client.apply sent.label) := reached.step permitted
  have grown : log.trace = (start.perform Client.apply sent.label).trace ++ between := by
    rw [Logged.perform_trace, ← sentHere, trace, split, List.append_assoc]
    rfl
  refine ⟨start, sent, between, reached, here, opens, fun request sends isId => ?_, next,
    next.descends onward grown since⟩
  refine ⟨⟨front, split⟩, sends, fun event among other otherSends sameId => ?_⟩
  obtain ⟨earlier, later, isBetween⟩ := List.append_of_mem among
  obtain ⟨there, reachedThere, _, hereThere, _⟩ :=
    @History.cut _ _ history (front ++ sent :: earlier) later event (by simp [split, isBetween])
  have otherSends : Entry.Sends ⟨there.state, event.label⟩ other := hereThere ▸ otherSends
  refine reachedThere.sends_fresh otherSends (sameId.trans isId) ?_
  rw [← hereThere]
  exact Client.mem_liveIds_of_pending (since event among)

/-! ## Acknowledgements -/

section Acks

variable {log : Log cfg} {header : FixedHeader} {body : Bytes} {now : UInt32}

/-- In a sound table an identity and a filter belong together. -/
theorem KeysSound.agree {keys : List (Bytes × UInt16)} (sound : KeysSound cfg keys)
    {key other : Bytes × UInt16} (member : key ∈ keys) (otherMember : other ∈ keys) :
    key.2 = other.2 ↔ key.1 = other.1 := by
  constructor
  · intro same
    rw [List.inj_on_of_nodup_map sound.subIds member otherMember same]
  · intro same
    rw [List.inj_on_of_nodup_map sound.filters member otherMember same]

/-- A SUBACK changes the entries of its request, as the codes say. -/
theorem History.suback_exact (few : cfg.maxSubscriptions ≤ 65536) (history : History log)
    {v : SubackView} (isSuback : header.type = .suback) (decoded : decodeSuback body = .ok v)
    (fresh : ∀ earlier ∈ log.trace, earlier.reissues = false) {ack : PendingAck}
    (found : log.state.findPending v.packetId .suback = some ack) :
    ∃ filters sent between, Outstanding log.trace (.subscribe v.packetId filters) sent between ∧
      (v.returnCodes.length = filters.length →
        (log.state.apply (.handle header body now)).subscriptions =
          log.state.subscriptions.filterMap fun s => s.answered
            (if KeptThrough between s.filter then codesFor s.filter filters v.returnCodes
              else [])) ∧
      (v.returnCodes.length ≠ filters.length →
        log.state.apply (.handle header body now) = log.state ∧
          (log.state.react (.handle header body now)).error = .protocolViolation) := by
  obtain ⟨awaited, isId, expects⟩ := Client.findPending_mem found
  obtain ⟨start, sent, between, _, here, opens, outstanding, next, descends⟩ :=
    history.request_of_awaited awaited
  rw [← here] at descends
  have handled : log.state.react (.handle header body now) = log.state.handleSuback body := by
    rw [Client.react, Client.handlePacket, isSuback]
  cases opens with
  | unsubscribe filters awaits =>
    rw [expects] at awaits
    cases awaits
  | subscribe filters _ sends names =>
    have count := names.length_eq
    have request : Outstanding log.trace (.subscribe v.packetId filters) sent between :=
      isId ▸ outstanding _ sends rfl
    have quiet : ∀ event ∈ between, event.reissues = false := by
      obtain ⟨front, split⟩ := request.split
      exact fun event among => fresh event (by simp [split, among])
    refine ⟨filters, sent, between, request, fun counted => ?_, fun miscounted => ?_⟩
    · have sound := next.keysSound few
      rw [Logged.perform_state, ← here] at sound
      have table : (log.state.apply (.handle header body now)).subscriptions =
          (v.returnCodes.zip ack.subs).foldl answerOne log.state.subscriptions := by
        rw [Client.apply, handled, Client.handleSuback]
        simp only [decoded, found, counted, count, ne_eq, not_true, if_false,
          Client.removePending, Client.foldl_applyReturnCode_eq]
      rw [table, answers_eq_filterMap _ (history.keysSound few).subIds_nodup]
      refine List.filterMap_congr fun s member => congrArg s.answered ?_
      split
      · rename_i kept
        exact codes_eq_codesFor (names.imp fun _ _ inKeys =>
          sound.agree inKeys (descends.kept s member kept)) _
      · rename_i gone
        exact codes_eq_nil (fun named => gone (descends.named quiet s member named)) _
    · rw [Client.apply, handled, Client.handleSuback]
      simp only [decoded, found]
      rw [if_pos (count ▸ miscounted)]
      exact ⟨rfl, rfl⟩

/-- An UNSUBACK removes those of its request. -/
theorem History.unsuback_exact (few : cfg.maxSubscriptions ≤ 65536) (history : History log)
    {id : UInt16} (isUnsuback : header.type = .unsuback) (decoded : decodePacketId body = .ok id)
    (fresh : ∀ earlier ∈ log.trace, earlier.reissues = false) {ack : PendingAck}
    (found : log.state.findPending id .unsuback = some ack) :
    ∃ filters sent between, Outstanding log.trace (.unsubscribe id filters) sent between ∧
      (log.state.apply (.handle header body now)).subscriptions =
        log.state.subscriptions.filter fun s =>
          ¬ (s.filter ∈ filters ∧ sent.Holds s.filter ∧ KeptThrough between s.filter) := by
  obtain ⟨awaited, isId, expects⟩ := Client.findPending_mem found
  obtain ⟨start, sent, between, reached, here, opens, outstanding, _, descends⟩ :=
    history.request_of_awaited awaited
  have handled : log.state.react (.handle header body now) = log.state.handleUnsuback body := by
    rw [Client.react, Client.handlePacket, isUnsuback]
  cases opens with
  | subscribe filters awaits =>
    rw [expects] at awaits
    cases awaits
  | unsubscribe filters _ sends names sameTable =>
    have request : Outstanding log.trace (.unsubscribe id filters) sent between :=
      isId ▸ outstanding _ sends rfl
    have quiet : ∀ event ∈ between, event.reissues = false := by
      obtain ⟨front, split⟩ := request.split
      exact fun event among => fresh event (by simp [split, among])
    have sound := reached.keysSound few
    rw [← here] at sound descends
    rw [sameTable] at descends
    have table : (log.state.apply (.handle header body now)).subscriptions =
        eraseAll ack.subs log.state.subscriptions := by
      rw [Client.apply, handled, Client.handleUnsuback]
      simp only [decoded, found, Client.removePending, Client.foldl_eraseSubscription_eq]
    refine ⟨filters, sent, between, request, ?_⟩
    rw [table, eraseAll_eq_filter _ (history.keysSound few).subIds_nodup]
    refine List.filter_congr fun s member => decide_eq_decide.mpr (not_congr ?_)
    -- An entry that has been there all along was there, with its identity, when the
    -- UNSUBSCRIBE looked it up.
    have known : KeptThrough between s.filter →
        sent.Holds s.filter ∧ (s.subId ∈ ack.subs ↔ s.filter ∈ filters) := by
      intro kept
      obtain ⟨old, inTable, sameKey⟩ := List.mem_map.mp (descends.kept s member kept)
      obtain ⟨sameFilter, sameId⟩ := Prod.mk.inj sameKey
      rw [← sameFilter, ← sameId, names]
      exact ⟨List.mem_map_of_mem inTable, Client.mem_knownSubIds sound inTable⟩
    constructor
    · intro named
      have kept := descends.named quiet s member named
      exact ⟨(known kept).2.mp named, (known kept).1, kept⟩
    · rintro ⟨asked, _, kept⟩
      exact (known kept).2.mpr asked

end Acks

/-- In every run of a client whose table has at most 65536 entries, acknowledgements act
on the entries their requests were about. -/
theorem acks_exact (cfg : Config) (few : cfg.maxSubscriptions ≤ 65536) (env : Env)
    (application : Script) : AcksExact (World.exec cfg env application).trace where
  suback before event after header body now v split isHandle isSuback decoded fresh isPending := by
    obtain ⟨earlier, reached, rfl, here, _⟩ := (World.exec_history cfg env application).cut split
    obtain ⟨ack, found⟩ := Option.isSome_iff_exists.mp isPending
    rw [here] at found
    rw [Entry.reaction, isHandle, here]
    exact reached.suback_exact few isSuback decoded fresh found
  unsuback before event after header body now id split isHandle isUnsuback decoded fresh
      isPending := by
    obtain ⟨earlier, reached, rfl, here, _⟩ := (World.exec_history cfg env application).cut split
    obtain ⟨ack, found⟩ := Option.isSome_iff_exists.mp isPending
    rw [here] at found
    rw [isHandle, here]
    exact reached.unsuback_exact few isUnsuback decoded fresh found
  straySuback event _ header body now v isHandle isSuback decoded stray := by
    rw [isHandle, Client.apply, Client.react, Client.handlePacket, isSuback]
    simp only [Client.handleSuback, decoded, stray]
  strayUnsuback event _ header body now id isHandle isUnsuback decoded stray := by
    rw [isHandle, Client.apply, Client.react, Client.handlePacket, isUnsuback]
    simp only [Client.handleUnsuback, decoded, stray]

namespace AckIdentity

/-- Two subscriptions at once, then one of them is ended. -/
def application : Script :=
  .connect { clientId := [97] } (.step (.subscribe [{ filter := [97] }] none
    (.subscribe [{ filter := [98] }] none (.step (.unsubscribe [[97]] (.step .done))))))

/-- The second is refused before the first is granted. -/
def env : Env where
  opens := [.ok]
  sends := [(.ok, 15), (.ok, 16), (.ok, 7)]
  recvs := [(.ok, [0x20, 2, 0, 0]), (.wouldBlock, []),
    (.ok, [0x90, 3, 0, 2, 0x80, 0x90, 3, 0, 1, 1]), (.wouldBlock, []), (.ok, [0xb0, 2, 0, 3])]

def run : World .small := World.exec .small env application

/-- What each packet makes of the table. -/
def tables : List (PacketType × List (Bytes × UInt8)) :=
  run.trace.filterMap fun event =>
    match event.label with
    | .handle header _ _ => some (header.type,
        (event.before.apply event.label).subscriptions.map fun s => (s.filter, s.grantedQos))
    | _ => none

end AckIdentity

/-- Two requests, answered in the other order. -/
theorem acks_exact_out_of_order :
    AcksExact AckIdentity.run.trace ∧
      (∀ event ∈ AckIdentity.run.trace, event.reissues = false) ∧
      AckIdentity.tables = [(.connack, []), (.suback, [([97], 0)]),
        (.suback, [([97], 1)]), (.unsuback, [])] :=
  ⟨acks_exact .small (by decide) AckIdentity.env AckIdentity.application, by decide +kernel,
    by decide +kernel⟩

/-! ## A refusal that ends another filter's entry -/

/-- An event that leaves the names and identities of the entries hands none out. -/
theorem reissues_of_keys {event : Event cfg}
    (same : (event.before.apply event.label).subscriptions.map Subscription.key =
      event.before.subscriptions.map Subscription.key) : event.reissues = false := by
  have nothing : event.handsOut = [] := by
    rw [Entry.handsOut, List.map_eq_nil_iff, List.filter_eq_nil_iff]
    intro s member unheld
    refine of_decide_eq_true unheld ?_
    rw [Entry.Holds, ← filters_eq, ← same, filters_eq]
    exact List.mem_map_of_mem member
  rw [Entry.reissues, nothing]
  rfl

/-! A client asks for as many filters as its table holds and, before that is answered, for
one of them again. The broker refuses the second request. -/

namespace CrowdedAcks

open Crowded

/-- What an accepted `subscribe()` leaves. -/
structure Accepted (c d : Client cfg) (subs : List TopicSubscription) (now : UInt32) (id : UInt16)
    (size : Nat) : Prop where
  queued : (c.react (.subscribe subs none now)).queued = [{ bytes := subscribePacket id subs }]
  table : d.subscriptions = (c.enrolled subs none).1.subscriptions
  pending : d.pending = c.pending ++
    [{ subs := (c.enrolled subs none).2, sentMs := now, packetId := id, expected := .suback }]
  waiting : d.tx.peek.length = c.tx.peek.length + packetSize size
  state : d.state = c.state
  inStep : d.inStep = c.inStep
  rx : d.rx = c.rx
  outbound : d.outbound = c.outbound
  counter : d.nextPacketId = id

/-- A request that passes every check is accepted. -/
theorem accepted {c : Client cfg} {subs : List TopicSubscription} {size : Nat} (now : UInt32)
    (up : c.state = .connected) (some : subs ≠ []) (few : subs.length ≤ cfg.maxTopicsPerRequest)
    (checked : Client.checkFilters subs cfg.maxTopicLen = .ok) (awaitable : c.ackTableFull = false)
    (slots : c.subscriptions.length + c.newEntries subs ≤ cfg.maxSubscriptions)
    (sized : subscribeRemainingLength subs = .ok size) (nonzero : nextId c.nextPacketId ≠ 0)
    (free : nextId c.nextPacketId ∉ c.liveIds) (room : c.HasRoom (packetSize size)) :
    Accepted c (c.apply (.subscribe subs none now)) subs now (nextId c.nextPacketId) size := by
  have given := Client.allocPacketId_next free
  obtain ⟨tx, peek, same⟩ := c.subscribe_of_room none now up (by simp [some, few]) checked
    awaitable slots sized (by rwa [given]) room
  obtain ⟨table, subId, ids, shape⟩ := Client.foldl_registerFilter_shape none subs c []
  have shape : c.enrolled subs none = _ := shape
  rw [Client.subscribed_eq, shape, given] at same
  have becomes : c.apply (.subscribe subs none now) = _ := congrArg Reaction.client same
  rw [becomes]
  refine ⟨congrArg Reaction.queued same, by rw [shape], by rw [shape], ?_, rfl, rfl, rfl, rfl, rfl⟩
  show tx.peek.length = _
  rw [peek, List.length_append, Client.length_subscribePacket sized]

def options : ConnectOptions := { clientId := [97], keepAliveS := 0 }

/-- The SUBACK that refuses the second request. -/
def refusal : Bytes := [0x90, 3, 0, 2, 0x80]

/-- The transport takes the CONNECT and nothing else. -/
def env (onSuback : Script) : Env where
  opens := [.ok]
  sends := [(.ok, 15)]
  recvs := [(.ok, [0x20, 2, 0, 0]), (.wouldBlock, []), (.ok, refusal)]
  scripts := [.done, onSuback]

def application (count index : Nat) : Script :=
  .connect options (.step (.subscribe (words count) none
    (.subscribe [{ filter := word index }] none (.step .done))))

/-- The session is up, and nothing was asked for yet. -/
structure Ready (w : World cfg) (onSuback : Script) : Prop where
  up : w.client.state = .connected
  outside : w.client.inStep = false
  sent : w.client.tx.peek = []
  drained : w.client.rx = []
  bare : w.client.subscriptions = []
  unasked : w.client.pending = []
  untracked : w.client.outbound = []
  counter : w.client.nextPacketId = 0
  blocked : w.nextSend.1 = (.wouldBlock, 0)
  refused : w.nextRecv.1 = (.ok, refusal)
  scripted : w.nextScript.1 = onSuback
  fresh : ∀ event ∈ w.trace, event.reissues = false
  silent : ∀ event ∈ w.trace, ∀ request ∈ requestsOf event.reaction.queued,
    request.packetId = none

/-- The session once it is up. -/
def opened (count : Nat) (onSuback : Script) : World (config count 2) :=
  World.exec (config count 2) (env onSuback) (.connect options (.step .done))

def asked (w : World cfg) (count : Nat) : World cfg :=
  w.act (.subscribe (words count) none w.env.now)

/-- Both requests have been made. -/
def askedAgain (w : World cfg) (count index : Nat) : World cfg :=
  (asked w count).act (.subscribe [{ filter := word index }] none (asked w count).env.now)

def blocked (w : World cfg) : World cfg :=
  (w.act .stepEnter).nextSend.2.act (.send .wouldBlock 0 (w.act .stepEnter).env.now)

/-- The refusal is in the buffer. -/
def received (w : World cfg) : World cfg :=
  (blocked w).nextRecv.2.act (.recv .ok refusal (blocked w).env.now)

/-- The run is these steps. -/
theorem exec_trace (count index : Nat) (onSuback : Script) :
    (World.exec (config count 2) (env onSuback) (application count index)).trace =
      (askedAgain (opened count onSuback) count index).step.2.trace := by
  simp only [World.exec, application, opened, World.runScript, askedAgain, asked]

theorem liveIds_eq {c : Client cfg} (untracked : c.outbound = []) :
    c.liveIds = c.pending.map (·.packetId) := by
  rw [Client.liveIds, untracked]
  rfl

/-- The table after the first request. -/
def table (w : World cfg) (count : Nat) : List Subscription :=
  (w.client.enrolled (words count) none).1.subscriptions

/-- The answer to the first request. -/
def firstAck (w : World cfg) (count : Nat) : PendingAck where
  subs := (w.client.enrolled (words count) none).2
  sentMs := w.env.now
  packetId := 1
  expected := .suback

/-- The answer to the second. -/
def secondAck (w : World cfg) (count : Nat) (sid : UInt16) : PendingAck where
  subs := [sid]
  sentMs := (asked w count).env.now
  packetId := 2
  expected := .suback

theorem nextSend_act (w : World cfg) (label : Label) : (w.act label).nextSend.1 = w.nextSend.1 := by
  unfold World.nextSend World.act
  split <;> rfl

theorem nextRecv_act (w : World cfg) (label : Label) : (w.act label).nextRecv.1 = w.nextRecv.1 := by
  unfold World.nextRecv World.act
  split <;> rfl

theorem nextScript_act (w : World cfg) (label : Label) :
    (w.act label).nextScript.1 = w.nextScript.1 := by
  unfold World.nextScript World.act
  split <;> rfl

/-- The requests and the step, up to the refusal. -/
theorem mem_trace_received {w : World cfg} {count index : Nat} {event : Event cfg}
    (member : event ∈ (received (askedAgain w count index)).trace) :
    event ∈ w.trace ∨ event = ⟨w.client, .subscribe (words count) none w.env.now⟩ ∨
      event = ⟨(asked w count).client, .subscribe [{ filter := word index }] none
        (asked w count).env.now⟩ ∨
      (event.reaction.queued = [] ∧ event.reissues = false) := by
  have split : (received (askedAgain w count index)).trace =
    w.trace ++ [_] ++ [_] ++ [_] ++ [_] ++ [_] := rfl
  rw [split] at member
  simp only [List.append_assoc, List.cons_append, List.nil_append, List.mem_append, List.mem_cons,
    List.not_mem_nil, or_false] at member
  rcases member with before | rfl | rfl | rfl | rfl | rfl
  · exact .inl before
  · exact .inr (.inl rfl)
  · exact .inr (.inr (.inl rfl))
  all_goals exact .inr (.inr (.inr ⟨rfl, reissues_of_keys rfl⟩))

/-- The state in which the refusal arrives, in short. -/
structure Awaiting (again : World cfg) (ack : PendingAck) (sid : UInt16) (onSuback : Script) :
    Prop where
  outside : again.client.inStep = false
  up : again.client.state = .connected
  waiting : again.client.tx.peek ≠ []
  drained : again.client.rx = []
  takesNothing : again.nextSend.1 = (.wouldBlock, 0)
  brings : again.nextRecv.1 = (.ok, refusal)
  scripted : again.nextScript.1 = onSuback
  first : ack.packetId = 1
  pending : ∃ other : PendingAck, other.packetId = 2 ∧ other.expected = .suback ∧
    other.subs = [sid] ∧ again.client.pending = [ack, other]

section Requests

variable {count index : Nat} {w : World (config count 2)} {onSuback : Script}
  (ready : Ready w onSuback) (small : count ≤ 65537) (inside : index < count)

include ready small inside

/-- The first request is accepted. -/
theorem asked_accepted :
    Accepted w.client (asked w count).client (words count) w.env.now 1 (2 + 6 * count) := by
  have counted := newEntries_words_le w.client count
  have next : nextId w.client.nextPacketId = 1 := by
    rw [ready.counter]
    rfl
  have nothing := liveIds_eq ready.untracked
  rw [ready.unasked, List.map_nil] at nothing
  have space : w.client.HasRoom (packetSize (2 + 6 * count)) := by
    have room := words_fit small
    rw [Client.HasRoom, ready.sent]
    show 0 + packetSize (2 + 6 * count) ≤ 400000
    omega
  have result := @accepted _ w.client (words count) _ w.env.now ready.up
    (List.ne_nil_of_length_pos (by rw [length_words]; omega)) (by rw [length_words]; exact small)
    (words_checked small (by simp [config, Config.default]))
    (by rw [Client.ackTableFull, ready.unasked]; rfl)
    (by rw [ready.bare]; exact (Nat.zero_add _).trans_le counted)
    (words_sized small (by omega)) (by rw [next]; decide) (by simp [nothing]) space
  rwa [next] at result

omit small in
/-- The filter asked for again is in the table. -/
theorem word_mem_table : word index ∈ (table w count).map (·.filter) := by
  have enrolled := w.client.enrolled_spec (by simp [ready.bare]) (words count) none
  have named : word index ∈ (words count).map (·.filter) := by
    rw [words, List.map_map]
    exact List.mem_map.mpr ⟨index, List.mem_range.mpr inside, rfl⟩
  obtain ⟨s, member, isFilter⟩ := enrolled.exists named
  exact List.mem_map.mpr ⟨s, member, isFilter⟩

/-- The second request is accepted. -/
theorem askedAgain_accepted :
    Accepted (asked w count).client (askedAgain w count index).client [{ filter := word index }]
      (asked w count).env.now 2 8 := by
  have first := asked_accepted ready small inside
  have next : nextId (asked w count).client.nextPacketId = 2 := by
    rw [first.counter]
    rfl
  have live := liveIds_eq (first.outbound.trans ready.untracked)
  rw [first.pending, ready.unasked] at live
  have known : (asked w count).client.newEntries [{ filter := word index }] = 0 := by
    refine List.countP_eq_zero.mpr fun asked member => ?_
    obtain rfl := List.mem_singleton.mp member
    rw [Client.isNone_findSubscription, not_not, first.table]
    exact word_mem_table ready inside
  have space : (asked w count).client.HasRoom (packetSize 8) := by
    have room := words_fit small
    rw [Client.HasRoom, first.waiting, ready.sent]
    show 0 + packetSize (2 + 6 * count) + 10 ≤ 400000
    omega
  have result := @accepted _ (asked w count).client [{ filter := word index }] _
    (asked w count).env.now (first.state.trans ready.up) (by simp) (show 1 ≤ 65537 by decide)
    (Client.checkFilters_of_valid (by
      simp [isValidFilter_word (show index < 65537 by omega), config, Config.default]))
    (by rw [Client.ackTableFull, first.pending, ready.unasked]; rfl)
    (by rw [known, first.table]; exact length_words_le ready.bare count)
    (word_sized (by omega)) (by rw [next]; decide)
    (by rw [next, live]; exact (show (2 : UInt16) ∉ [(1 : UInt16)] by decide)) space
  rwa [next] at result

/-- The second request is about an entry that is there. -/
theorem keys_askedAgain :
    (askedAgain w count index).client.subscriptions.map Subscription.key =
      (asked w count).client.subscriptions.map Subscription.key := by
  have first := asked_accepted ready small inside
  rw [(askedAgain_accepted ready small inside).table]
  rcases (asked w count).client.registerFilter_keys none [] { filter := word index } with
    ⟨_, same⟩ | ⟨absent, _⟩
  · exact same
  · rw [first.table] at absent
    exact absurd (word_mem_table ready inside) absent

/-- No id has been given out twice. -/
theorem fresh_received :
    ∀ event ∈ (received (askedAgain w count index)).trace, event.reissues = false := by
  intro event member
  rcases mem_trace_received member with before | rfl | rfl | ⟨_, fresh⟩
  · exact ready.fresh event before
  · simp [Entry.reissues, ready.unasked]
  · exact reissues_of_keys (keys_askedAgain ready small inside)
  · exact fresh

/-- Only the second request has the packet id that is refused. -/
theorem sends_received {event : Event (config count 2)} {filters : List Bytes}
    (member : event ∈ (received (askedAgain w count index)).trace)
    (sends : event.Sends (.subscribe 2 filters)) : filters = [word index] := by
  rcases mem_trace_received member with before | rfl | rfl | ⟨nothing, _⟩
  · cases ready.silent event before _ sends
  · have reads := readRequest_subscribePacket (words_sized small (by omega))
      (show (1 : UInt16) ≠ 0 by decide)
    cases eq_of_sends sends (asked_accepted ready small inside).queued reads
  · have reads := readRequest_subscribePacket (word_sized (show index < 65537 by omega))
      (show (2 : UInt16) ≠ 0 by decide)
    exact (Request.subscribe.inj
      (eq_of_sends sends (askedAgain_accepted ready small inside).queued reads)).2
  · rw [Entry.Sends, nothing] at sends
    cases sends

/-- What is awaited when the refusal arrives. -/
theorem pending_askedAgain :
    ∃ old ∈ table w count, old.filter = word index ∧
      (askedAgain w count index).client.pending =
        [firstAck w count, secondAck w count old.subId] := by
  have first := asked_accepted ready small inside
  rcases Client.registerFilter_cases none (asked w count).client [] { filter := word index } with
    ⟨old, member, named, same⟩ | ⟨absent, _⟩ <;> rw [first.table] at *
  · refine ⟨old, member, named, ?_⟩
    have ids : ((asked w count).client.enrolled [{ filter := word index }] none).2 = [old.subId] :=
      congrArg Prod.snd same
    rw [(askedAgain_accepted ready small inside).pending, first.pending, ready.unasked, ids]
    rfl
  · obtain ⟨old, member, named⟩ := List.mem_map.mp (word_mem_table ready inside)
    exact absurd named (absent old member)

/-- Both requests are waiting, and share an entry's id. -/
theorem awaiting_askedAgain :
    ∃ old ∈ table w count, old.filter = word index ∧
      Awaiting (askedAgain w count index) (firstAck w count) old.subId onSuback := by
  have first := asked_accepted ready small inside
  have second := askedAgain_accepted ready small inside
  obtain ⟨old, member, named, pending⟩ := pending_askedAgain ready small inside
  refine ⟨old, member, named, second.inStep.trans (first.inStep.trans ready.outside),
    second.state.trans (first.state.trans ready.up), fun empty => ?_,
    second.rx.trans (first.rx.trans ready.drained), ?_, ?_, ?_, rfl,
    ⟨secondAck w count old.subId, rfl, rfl, rfl, pending⟩⟩
  · have counted := second.waiting
    rw [empty, List.length_nil, show packetSize 8 = 10 from rfl] at counted
    omega
  · rw [askedAgain, nextSend_act, asked, nextSend_act, ready.blocked]
  · rw [askedAgain, nextRecv_act, asked, nextRecv_act, ready.refused]
  · rw [askedAgain, nextScript_act, asked, nextScript_act, ready.scripted]

end Requests

/-- The refusal is handed to its handler. -/
def refuse (w : World cfg) : Label :=
  .handle { type := .suback, remainingLength := 3 } [0, 2, 0x80] w.env.now

/-- The refusal has been handled, and the `on_suback` handler is about to run. -/
def handled (w : World cfg) : World cfg :=
  ((received w).act (refuse (received w))).nextScript.2

theorem decodeSuback_refusal :
    decodeSuback [0, 2, 0x80] = .ok { packetId := 2, returnCodes := [0x80] } := rfl

/-- What the refusal makes of the client. -/
theorem apply_refuse {c : Client cfg} {ack other : PendingAck} {sid : UInt16} (now : UInt32)
    (pending : c.pending = [other, ack]) (apart : other.packetId = 1) (isAck : ack.packetId = 2)
    (expects : ack.expected = .suback) (about : ack.subs = [sid]) :
    c.apply (.handle { type := .suback, remainingLength := 3 } [0, 2, 0x80] now) =
      { c with
        subscriptions := c.subscriptions.eraseP fun s => s.subId = sid
        pending := [other] } := by
  have found : c.findPending 2 .suback = some ack := by
    simp [Client.findPending, pending, apart, isAck, expects]
  have left : (c.pending.eraseP fun a => a.packetId = 2 && a.expected = .suback) = [other] := by
    rw [pending, List.eraseP_cons_of_neg (by simp [apart]),
      List.eraseP_cons_of_pos (by simp [isAck, expects])]
  show (c.handleSuback [0, 2, 0x80]).client = _
  unfold Client.handleSuback
  simp only [decodeSuback_refusal, found, about, List.length_singleton, ne_eq, not_true_eq_false,
    if_false, List.zip_cons_cons, List.zip_nil_left, List.foldl_cons, List.foldl_nil,
    Client.applyReturnCode_eq, Client.removePending]
  rw [left]
  rfl

namespace Awaiting

variable {again : World cfg} {ack : PendingAck} {sid : UInt16} {onSuback : Script}

section

variable (awaiting : Awaiting again ack sid onSuback)

include awaiting

/-- The refusal finds the second request. -/
theorem found : ∃ other, again.client.findPending 2 .suback = some other ∧ other.subs = [sid] := by
  obtain ⟨other, isId, expects, about, pending⟩ := awaiting.pending
  exact ⟨other, by simp [Client.findPending, pending, awaiting.first, isId, expects], about⟩

/-- It removes the first entry with that id. -/
theorem client_handled :
    (handled again).client =
      { (received again).client with
        subscriptions := again.client.subscriptions.eraseP fun s => s.subId = sid
        pending := [ack] } := by
  obtain ⟨other, isId, expects, about, pending⟩ := awaiting.pending
  exact apply_refuse (received again).env.now pending awaiting.first isId expects about

theorem length_rx : (handled again).client.rx.length = 5 := by
  rw [awaiting.client_handled]
  show (again.client.rx ++ refusal).length = 5
  rw [awaiting.drained]
  rfl

/-- The step that brings the refusal, up to what the `on_suback` handler leaves. -/
theorem step
    (kept : (World.runScript World.refuseStep onSuback (handled again)).client.rx.length = 5) :
    ∃ later, again.step.2.trace =
      ((World.runScript World.refuseStep onSuback (handled again)).act (.consume 5)).trace ++
        later := by
  obtain ⟨other, found, about⟩ := awaiting.found
  have pumped : (again.act .stepEnter).pumpTx = (.ok, blocked again) :=
    World.pumpTx_of_blocked awaiting.waiting (by rw [nextSend_act, awaiting.takesNothing])
  have answer : (blocked again).nextRecv.1 = (.ok, refusal) := by
    rw [blocked, nextRecv_act]
    exact (nextRecv_act again .stepEnter).trans awaiting.brings
  have scripted : ((received again).act (refuse (received again))).nextScript.1 = onSuback := by
    rw [nextScript_act, received, nextScript_act]
    exact (nextScript_act _ _).trans ((nextScript_act again .stepEnter).trans awaiting.scripted)
  have ran : ((received again).act (refuse (received again))).runHandler =
      World.runScript World.refuseStep onSuback (handled again) := by
    show World.runScript World.refuseStep (World.nextScript _).1 _ = _
    rw [scripted]
    rfl
  have answered : (received again).handlePacket { type := .suback, remainingLength := 3 }
      [0, 2, 0x80] = (.ok, ((received again).act (refuse (received again))).runHandler) :=
    World.handlePacket_of_suback rfl decodeSuback_refusal found (by rw [about]; rfl)
  have roomy : refusal.length ≤ cfg.rxBufferSize := le_trans (by decide) cfg.rxHoldsSmallPacket
  rw [ran] at answered
  exact World.step_of_packet awaiting.outside awaiting.up pumped awaiting.up awaiting.drained answer
    rfl rfl roomy answered kept

end

/-- Where the refused filter shares its identity with another, the other's entry ends. -/
theorem not_acksExact (awaiting : Awaiting again ack 0 .done) {first second : Subscription}
    (doubled : Doubled again.client.subscriptions first second)
    (fresh : ∀ event ∈ (received again).trace, event.reissues = false)
    (asked : ∀ event ∈ (received again).trace, ∀ filters, event.Sends (.subscribe 2 filters) →
      filters = [second.filter]) : ¬ AcksExact again.step.2.trace := by
  intro exact
  obtain ⟨later, grown⟩ := awaiting.step awaiting.length_rx
  have split : again.step.2.trace = (received again).trace ++
      ⟨(received again).client, refuse (received again)⟩ ::
        (⟨(handled again).client, .consume 5⟩ :: later) := by
    rw [grown]
    show (received again).trace ++ [_] ++ [_] ++ later = _
    simp only [List.append_assoc, List.cons_append, List.nil_append]
    rfl
  obtain ⟨other, found, _⟩ := awaiting.found
  obtain ⟨filters, sent, between, outstanding, applied, _⟩ := exact.suback _ _ _ _ _ _ _ split rfl
    rfl decodeSuback_refusal fresh (Option.isSome_iff_exists.mpr ⟨other, found⟩)
  obtain ⟨front, isBefore⟩ := outstanding.split
  obtain rfl := asked sent (by rw [isBefore]; simp) filters outstanding.sends
  -- By filter the refusal is not about the first entry, by identity it is.
  have same : (again.client.subscriptions.eraseP fun s => s.subId = 0) =
      again.client.subscriptions.filterMap _ :=
    (congrArg Client.subscriptions awaiting.client_handled).symm.trans (applied rfl)
  have apart : ¬ second.filter = first.filter := doubled.filters_ne.symm
  have unanswered : codesFor first.filter [second.filter] [0x80] = [] := by simp [codesFor, apart]
  refine doubled.not_mem_eraseP ?_
  rw [same, List.mem_filterMap]
  refine ⟨first, ?_, by rw [unanswered, ite_self, Subscription.answered_nil]⟩
  obtain ⟨front, middle, back, isTable, _⟩ := doubled.split
  rw [isTable]
  simp

end Awaiting

/-- With two entries of one id the refusal strikes the wrong one. -/
theorem not_acksExact {count index : Nat} {w : World (config count 2)} (ready : Ready w .done)
    {first second : Subscription} (doubled : Doubled (table w count) first second)
    (small : count ≤ 65537) (inside : index < count) (isWord : second.filter = word index) :
    ¬ AcksExact (askedAgain w count index).step.2.trace := by
  obtain ⟨old, member, named, awaiting⟩ := awaiting_askedAgain ready small inside
  obtain rfl : old = second := by
    obtain ⟨front, middle, back, split, _⟩ := doubled.split
    exact List.inj_on_of_nodup_map doubled.distinct member (by rw [split]; simp)
      (named.trans isWord.symm)
  rw [doubled.secondZero] at awaiting
  have crowded : Doubled (asked w count).client.subscriptions first old := by
    rw [(asked_accepted ready small inside).table]
    exact doubled
  obtain ⟨table', enrolled, doubled'⟩ := crowded.enrolled none .atMostOnce
  rw [isWord] at enrolled
  have remains : (askedAgain w count index).client.subscriptions = table' := by
    rw [(askedAgain_accepted ready small inside).table, enrolled]
  rw [← remains] at doubled'
  refine awaiting.not_acksExact doubled' (fresh_received ready small inside)
    fun event among filters sends => ?_
  rw [sends_received ready small inside among sends]
  exact congrArg (fun filter => [filter]) isWord.symm

/-- With more words than there are identities, one of them can be chosen for the second request
so that another loses its entry. -/
theorem exists_misapplied {count : Nat} (ready : Ready (opened count .done) .done)
    (small : count ≤ 65537) (many : 65537 ≤ count) :
    ∃ index, ¬ AcksExact
      (World.exec (config count 2) (env .done) (application count index)).trace := by
  obtain ⟨first, second, doubled, index, inside, isWord⟩ := words_doubled ready.bare small many
  refine ⟨index, ?_⟩
  rw [exec_trace]
  exact not_acksExact ready doubled small inside isWord

theorem ready_doubled : Ready (opened 65537 .done) .done :=
  ⟨by decide +kernel, by decide +kernel, by decide +kernel, by decide +kernel, by decide +kernel,
    by decide +kernel, by decide +kernel, by decide +kernel, by decide +kernel, by decide +kernel,
    rfl, by decide +kernel, by decide +kernel⟩

end CrowdedAcks

/-- A client that remembers 65537 filters ends the subscription of one when another is
refused. -/
theorem refusal_misapplied : ∃ env application,
    ¬ AcksExact (World.exec (Crowded.config 65537 2) env application).trace := by
  obtain ⟨index, misapplied⟩ :=
    CrowdedAcks.exists_misapplied CrowdedAcks.ready_doubled (Nat.le_refl _) (Nat.le_refl _)
  exact ⟨_, _, misapplied⟩

end Mqtt
