import Mqtt.Session.Arrivals
import Mqtt.Session.Filters
import Mqtt.Session.Stored

/-!
# The representation invariant

What the client's four tables look like whenever application code can observe
them, and what is left of a connection once the client is idle. The identifiers
are the delicate part: two allocators hand out sixteen-bit values, and every
acknowledgement is routed by one.
-/

namespace Mqtt

open Library

variable {cfg : Config}

/-! ## The contract -/

/-- The transport brings nothing while it is closed. -/
def SilentWhenClosed (trace : Trace cfg) : Prop :=
  ∀ before event after, trace = before ++ event :: after → ¬ TransportOpen before →
    event.label.arriving = []

/-- A slot in flight waits for what its level calls for. -/
def OutboundSlot.PhaseAgrees (slot : OutboundSlot) : Prop :=
  match slot.phase with
  | .free => True
  | .waitPuback => slot.qos = .atLeastOnce
  | .waitPubrec | .waitPubcomp => slot.qos = .exactlyOnce

/-- The event queues the SUBSCRIBE that this entry awaits the answer to, with as many
filters as the entry has identities. -/
def Library.Entry.Requests (ack : PendingAck) (event : Event cfg) : Prop :=
  ∃ subs, event.reaction.queued = [{ bytes := subscribePacket ack.packetId subs }] ∧
    subs.length = ack.subs.length ∧
    (event.before.apply event.label).pending = event.before.pending ++ [ack]

/-- Nothing is left of a connection. -/
structure Client.AtRest (c : Client cfg) : Prop where
  tx : c.tx.peek = []
  rx : c.rx = []
  pending : c.pending = []
  ping : c.pingOutstanding = false

/-- The representation invariant. -/
structure TablesSound (c : Client cfg) (trace : Trace cfg) : Prop where
  idsApart : c.IdsApart
  idsNonzero : ∀ id ∈ c.liveIds, id ≠ 0
  packetIdGiven : c.allocPacketId.1 ≠ 0
  /-- A `subscribe()` that succeeds registers its filters one after the other; each
  that has no entry yet is given an identity. -/
  subIdGiven : ∀ subs handler now, (c.subscribe subs handler now).error = .ok →
    ∀ front asked rest, subs = front ++ asked :: rest →
    asked.filter ∉ (c.enrolled front handler).1.subscriptions.map (·.filter) →
    (c.enrolled front handler).1.allocSubId.1 ≠ 0
  filtersApart : (c.subscriptions.map (·.filter)).Nodup
  filtersValid : ∀ s ∈ c.subscriptions,
    isValidFilter s.filter = true ∧ s.filter.length ≤ cfg.maxTopicLen
  subIdsApart : (c.subscriptions.map (·.subId)).Nodup
  subIdsNonzero : ∀ s ∈ c.subscriptions, s.subId ≠ 0
  inboundApart : c.inboundIds.Nodup
  inboundNonzero : ∀ id ∈ c.inboundIds, id ≠ 0
  outboundCount : (c.outbound.filter fun slot => slot.phase ≠ .free).length ≤ cfg.maxInflightOut
  inboundCount : c.inboundIds.length ≤ cfg.maxInflightIn
  subscriptionCount : c.subscriptions.length ≤ cfg.maxSubscriptions
  pendingCount : c.pending.length ≤ cfg.maxPendingAcks
  phases : ∀ slot ∈ c.outbound, slot.PhaseAgrees
  requests : ∀ ack ∈ c.pending, ack.expected = .suback →
    Since (fun event => event.Requests ack)
      (fun event => ack ∉ (event.before.apply event.label).pending) trace
  atRest : c.state = .idle → c.AtRest

/-! ## Packet ids -/

theorem slotRule_packetId (cfg : Config) :
    SlotRule cfg fun slot => slot.phase ≠ .free → slot.packetId ≠ 0 where
  initial := by simp
  stamped _ _ holds := holds
  scribbled _ _ _ isFree _ := by simp [isFree]
  filled _ _ _ _ _ _ _ _ _ _ nonzero _ _ := nonzero
  advanced slot holds waiting _ _ := holds (by simp [waiting])
  marked slot holds inFlight _ := by
    rw [packetId_markDup]
    exact holds inFlight
  released _ _ := by simp [OutboundSlot.release]

section

variable {log : Log cfg} (history : History log)

include history

theorem History.pending_nonzero : ∀ ack ∈ log.state.pending, ack.packetId ≠ 0 := by
  refine Logged.Reaches.invariant (fun log => ∀ ack ∈ log.state.pending, ack.packetId ≠ 0)
    (fun log label _ nonzero ack member => ?_) history (by simp [Client.initial])
  rcases log.state.pending_cases label with fewer | ⟨last, joined, fresh, given, _⟩
  · exact nonzero ack (fewer.subset member)
  · rw [Logged.perform_state, joined, List.mem_append, List.mem_singleton] at member
    rcases member with old | rfl
    · exact nonzero ack old
    · exact fresh ▸ given

theorem History.liveIds_nonzero : ∀ id ∈ log.state.liveIds, id ≠ 0 := by
  intro id live
  rcases List.mem_append.mp live with inSlots | inPending
  · obtain ⟨slot, member, rfl⟩ := List.mem_map.mp inSlots
    obtain ⟨inTable, inFlight⟩ := List.mem_filter.mp member
    exact history.slots (slotRule_packetId cfg) slot inTable (by simpa using inFlight)
  · obtain ⟨ack, member, rfl⟩ := List.mem_map.mp inPending
    exact history.pending_nonzero ack member

theorem History.length_pending : log.state.pending.length ≤ cfg.maxPendingAcks := by
  refine Logged.Reaches.invariant (fun log => log.state.pending.length ≤ cfg.maxPendingAcks)
    (fun log label _ short => ?_) history (by simp [Client.initial])
  rcases log.state.pending_cases label with fewer | ⟨last, joined, _, _, room, _⟩
  · exact fewer.length_le.trans short
  · have space : log.state.pending.length < cfg.maxPendingAcks := by
      simpa [Client.ackTableFull] using room
    rw [Logged.perform_state, joined, List.length_append, List.length_singleton]
    omega

theorem History.length_inFlight :
    (log.state.outbound.filter fun slot => slot.phase ≠ .free).length ≤ cfg.maxInflightOut :=
  (List.length_filter_le _ _).trans_eq history.slotsSized.count

end

/-! ## Inbound ids -/

/-- Ids leave the table, or one joins it where there is room. -/
theorem Client.inboundIds_cases (c : Client cfg) (label : Label) :
    (c.apply label).inboundIds.Sublist c.inboundIds ∨
    ∃ id, (c.apply label).inboundIds = c.inboundIds ++ [id] ∧ id ≠ 0 ∧
      c.inboundTableFull = false := by
  by_cases packet : ∃ header body now, label = .handle header body now
  · obtain ⟨header, body, now, rfl⟩ := packet
    obtain ⟨reaction, handled, outcome⟩ := c.handlePacket_cases header body now
    rw [show c.apply (.handle header body now) = reaction.client from congrArg _ handled]
    cases outcome with
    | accepted info =>
      refine .inl ?_
      simp only
      split <;> exact List.Sublist.refl _
    | recorded m tx _ _ _ _ nonzero _ _ space => exact .inr ⟨m.packetId, rfl, nonzero, space⟩
    | released id tx => exact .inl List.erase_sublist
    | _ => exact .inl (List.Sublist.refl _)
  · cases c.apply_inboundEffect label with
    | kept same => exact .inl (by rw [same])
    | delivered k _ _ _ delivery =>
      obtain ⟨m, received, _⟩ := ((delivery k).mpr rfl).receivesQos2.exists
      obtain ⟨header, body, now, rfl, _⟩ := Label.received_eq_some received
      exact absurd ⟨header, body, now, rfl⟩ packet
    | released k removed => exact .inl (by rw [removed]; exact List.erase_sublist)
    | discarded _ emptied => exact .inl (by rw [emptied]; exact List.nil_sublist _)

theorem History.inboundIds_sound {log : Log cfg} (history : History log) :
    (∀ id ∈ log.state.inboundIds, id ≠ 0) ∧ log.state.inboundIds.length ≤ cfg.maxInflightIn := by
  refine Logged.Reaches.invariant
    (fun log => (∀ id ∈ log.state.inboundIds, id ≠ 0) ∧
      log.state.inboundIds.length ≤ cfg.maxInflightIn)
    (fun log label _ sound => ?_) history (by simp [Client.initial])
  rw [Logged.perform_state]
  rcases log.state.inboundIds_cases label with fewer | ⟨last, joined, nonzero, room⟩
  · exact ⟨fun id member => sound.1 id (fewer.subset member), fewer.length_le.trans sound.2⟩
  · have space : log.state.inboundIds.length < cfg.maxInflightIn := by
      simpa [Client.inboundTableFull] using room
    rw [joined]
    refine ⟨fun id member => ?_, ?_⟩
    · rcases List.mem_append.mp member with old | new
      · exact sound.1 id old
      · obtain rfl : id = last := by simpa using new
        exact nonzero
    · rw [List.length_append, List.length_singleton]
      omega

/-! ## Phases -/

theorem slotRule_phaseAgrees (cfg : Config) : SlotRule cfg OutboundSlot.PhaseAgrees where
  initial := trivial
  stamped _ _ agrees := agrees
  scribbled _ _ _ isFree _ := by simp [OutboundSlot.PhaseAgrees, isFree]
  filled slot topic payload qos retain id now _ tracked sized _ _ := by
    obtain ⟨size, isSize⟩ := sized
    rcases tracked_cases tracked (publishRemainingLength_ok isSize).2.2.1 with rfl | rfl <;> rfl
  advanced slot agrees waiting _ := by
    have level : slot.qos = .exactlyOnce := by simpa [OutboundSlot.PhaseAgrees, waiting] using agrees
    exact level
  marked slot agrees _ := by
    unfold OutboundSlot.PhaseAgrees
    rw [phase_markDup, qos_markDup]
    exact agrees
  released _ _ := trivial

/-! ## Awaited answers -/

/-- Each awaited SUBACK answers a SUBSCRIBE with as many filters. -/
theorem History.requests (few : cfg.maxSubscriptions ≤ 65536) {log : Log cfg}
    (history : History log) :
    ∀ ack ∈ log.state.pending, ack.expected = .suback →
      Since (fun event => event.Requests ack)
        (fun event => ack ∉ (event.before.apply event.label).pending) log.trace := by
  refine history.invariant
    (fun log => ∀ ack ∈ log.state.pending, ack.expected = .suback →
      Since (fun event => event.Requests ack)
        (fun event => ack ∉ (event.before.apply event.label).pending) log.trace)
    (fun log label prior _ held ack member awaits => ?_) (by simp [Client.initial])
  rw [Logged.perform_state] at member
  rw [Logged.perform_trace, since_snoc]
  by_cases old : ack ∈ log.state.pending
  · exact .inr ⟨held ack old awaits, fun gone => gone member⟩
  left
  have joins : ∀ last, (log.state.apply label).pending = log.state.pending ++ [last] →
      ack = last := by
    intro last joined
    rw [joined, List.mem_append] at member
    simpa [old] using member
  cases log.state.apply_tableEffect label with
  | subscribed subs handler now _ _ _ _ _ _ _ _ pending queued =>
    have isLast := joins _ pending
    have distinct := (prior.keysSound few).filters
    rw [filters_eq] at distinct
    refine ⟨subs, ?_, ?_, ?_⟩
    · rw [isLast]
      exact queued
    · rw [isLast]
      exact (log.state.enrolled_spec distinct subs handler).ids.length_eq
    · rw [isLast]
      exact pending
  | resubscribed now _ _ _ _ _ pending queued =>
    have isLast := joins _ pending
    refine ⟨log.state.resubRequest, ?_, ?_, ?_⟩
    · rw [isLast]
      exact queued
    · rw [isLast]
      simp [Client.resubRequest]
    · rw [isLast]
      exact pending
  | unsubscribed filters now _ _ _ _ _ _ pending =>
    rw [joins _ pending] at awaits
    cases awaits
  | kept _ pending => exact absurd (pending ▸ member) old
  | answered _ _ _ _ _ _ _ _ _ _ _ pending =>
    exact absurd (List.mem_of_mem_eraseP (pending ▸ member)) old
  | withdrawn _ _ _ _ _ _ _ _ _ _ pending =>
    exact absurd (List.mem_of_mem_eraseP (pending ▸ member)) old
  | forgotten _ _ _ pending => exact absurd (pending ▸ member) old
  | ended _ _ pending =>
    rw [pending] at member
    cases member

/-! ## Idle -/

theorem Client.shutdown_atRest (c : Client cfg) (reason : Error) :
    (c.shutdown reason).client.AtRest :=
  ⟨TxQueue.peek_clear _, rfl, rfl, rfl⟩

theorem Client.AtRest.prepare {c : Client cfg} (rest : c.AtRest) (opts : ConnectOptions)
    {tx : TxQueue cfg.txBufferSize} (peek : tx.peek = []) :
    Client.AtRest { c.prepare opts with tx := tx } := by
  unfold Client.prepare
  split
  · exact ⟨peek, rfl, rfl, rest.ping⟩
  · exact ⟨peek, rfl, rest.pending, rest.ping⟩

/-- An idle client at rest stays so until it connects. -/
theorem History.atRest_step {log : Log cfg} (history : History log)
    {label : Label} (permitted : Permitted log label) (idle : log.state.state = .idle)
    (rest : log.state.AtRest) (silent : label.arriving = [])
    (stays : (log.state.apply label).state = .idle) : (log.state.apply label).AtRest := by
  have fits := history.fits
  have down : log.state.state ≠ .connected := by simp [idle]
  cases label with
  | connect opts now =>
    rcases log.state.connect_cases opts now with
      ⟨_, _, same⟩ | ⟨_, _, tx, _, peek, same⟩ | ⟨_, _, _, _, same⟩
    · rw [Client.apply, Client.react, same]
      exact rest
    · rw [Client.apply, Client.react, same]
      exact rest.prepare opts peek
    · simp [Client.apply, Client.react, same, Client.opened] at stays
  | disconnect =>
    rw [Client.apply, Client.react, Client.disconnect, if_pos idle]
    exact rest
  | publish topic payload qos retain now =>
    rw [Client.apply, Client.react, Client.publish, if_pos down]
    exact rest
  | subscribe subs handler now =>
    rw [Client.apply, Client.react, Client.subscribe, if_pos down]
    exact rest
  | unsubscribe filters now =>
    rw [Client.apply, Client.react, Client.unsubscribe, if_pos down]
    exact rest
  | abort => exact log.state.shutdown_atRest _
  | shutdown reason => exact log.state.shutdown_atRest reason
  | transportConnect result now =>
    rw [show Control.of log.trace = .opening from permitted] at fits
    exact absurd (fits.2.symm.trans idle) (by simp)
  | send result written now =>
    have waiting := permitted.2
    rw [(log.state.tx.isEmpty_iff).mpr rest.tx] at waiting
    cases waiting
  | recv result bytes now =>
    simp only [Client.apply, Client.react]
    split
    · rename_i received
      obtain ⟨rfl, some⟩ := received
      exact absurd silent some
    · exact rest
  | handle header body now =>
    obtain ⟨_, p, peeked, complete, _⟩ := permitted
    rw [rest.rx] at complete
    have positive := peekHeader_total peeked
    simp at complete
    omega
  | consume count => exact ⟨rest.tx, by simp [Client.apply, Client.react, rest.rx], rest.pending,
      rest.ping⟩
  | discard => exact ⟨rest.tx, rfl, rest.pending, rest.ping⟩
  | keepAlive now =>
    rw [show Control.of log.trace = .keepingAlive from permitted] at fits
    exact absurd fits.2 down
  | resubscribe now =>
    rw [show Control.of log.trace = .resubscribing from permitted] at fits
    exact absurd fits.2 down
  | retransmit now =>
    rw [show Control.of log.trace = .retransmitting from permitted] at fits
    exact absurd fits.2 down
  | stepEnter | stepLeave result | stepRefused | deadline now | onMessage subscription m =>
    exact ⟨rest.tx, rest.rx, rest.pending, rest.ping⟩

/-- The transport is closed exactly while the client's state says so. -/
theorem History.silentWhenClosed_iff {log : Log cfg} (history : History log) :
    SilentWhenClosed log.trace ↔
      ∀ event ∈ log.trace, event.before.isLive = false → event.label.arriving = [] := by
  constructor
  · intro silent event member closed
    obtain ⟨before, after, split⟩ := List.append_of_mem member
    obtain ⟨earlier, reached, rfl, here, _⟩ := history.cut split
    refine silent _ event after split ?_
    rw [reached.transportOpen_iff, ← here, closed]
    exact Bool.false_ne_true
  · intro silent before event after split closed
    obtain ⟨earlier, reached, rfl, here, _⟩ := history.cut split
    refine silent event (split ▸ List.mem_append_right _ List.mem_cons_self) ?_
    rwa [here, ← Bool.not_eq_true, ← reached.transportOpen_iff]

/-- Nothing is left of a connection once the client is idle. -/
theorem History.atRest {log : Log cfg} (history : History log)
    (silent : SilentWhenClosed log.trace) (idle : log.state.state = .idle) : log.state.AtRest := by
  refine Logged.Reaches.invariant_of
    (fun event => event.before.isLive = false → event.label.arriving = [])
    (fun log => log.state.state = .idle → log.state.AtRest)
    (fun log label prior permitted quiet held idle => ?_) history rfl
    (history.silentWhenClosed_iff.mp silent)
    (fun _ => ⟨TxQueue.peek_initial, rfl, rfl, rfl⟩) idle
  rw [Logged.perform_state] at idle ⊢
  by_cases wasIdle : log.state.state = .idle
  · exact History.atRest_step prior permitted wasIdle (held wasIdle)
      (quiet (by simp [Client.isLive, wasIdle])) idle
  obtain ⟨tx, reason, same⟩ := log.state.shutdown_of_end wasIdle idle
  rw [Client.apply, same]
  exact Client.shutdown_atRest _ reason

/-! ## The invariant -/

theorem SilentWhenClosed.of_append {before after : Trace cfg}
    (silent : SilentWhenClosed (before ++ after)) : SilentWhenClosed before :=
  fun front event rest split closed =>
    silent front event (rest ++ after) (by simp [split]) closed

/-- A `subscribe()` that succeeds finds an identity for every filter it adds. -/
theorem Client.subIdGiven (c : Client cfg) (few : cfg.maxSubscriptions ≤ 65535)
    {subs : List TopicSubscription} {handler : Option Nat} {now : UInt32}
    (accepted : (c.subscribe subs handler now).error = .ok) {front rest : List TopicSubscription}
    {asked : TopicSubscription} (split : subs = front ++ asked :: rest)
    (absent : asked.filter ∉ (c.enrolled front handler).1.subscriptions.map (·.filter)) :
    (c.enrolled front handler).1.allocSubId.1 ≠ 0 := by
  rcases c.subscribe_cases subs handler now with
    ⟨error, _, _, failed, _, same⟩ | ⟨_, _, _, _, slots, _⟩
  · rw [same] at accepted
    exact absurd accepted failed
  · have budget := c.enrolled_budget front (asked :: rest) handler
    have isNew := ((c.enrolled front handler).1.isNone_findSubscription _).mpr absent
    have counted : 0 < (c.enrolled front handler).1.newEntries (asked :: rest) := by
      simp [newEntries, isNew]
    rw [← split] at budget
    exact allocSubId_ne_zero _ (by omega)

/-- In every run over a transport that brings nothing once closed, the tables are
sound in every state. -/
theorem tables_sound (cfg : Config) (fewSubscriptions : cfg.maxSubscriptions ≤ 65535)
    (fewIds : cfg.maxInflightOut + cfg.maxPendingAcks < 65535) (env : Env) (application : Script)
    (silent : SilentWhenClosed (World.exec cfg env application).trace) :
    Throughout TablesSound (World.exec cfg env application).log := by
  refine (World.exec_history cfg env application).throughout silent
    (fun _ _ => SilentWhenClosed.of_append) fun log history silent => ?_
  have keys := history.keysSound (by omega)
  have inbound := history.inboundIds_sound
  have pendingCount := history.length_pending
  have outboundCount := history.length_inFlight
  exact
    { idsApart := history.idsApart
      idsNonzero := history.liveIds_nonzero
      packetIdGiven := by
        refine log.state.allocPacketId_ne_zero ?_
        rw [Client.liveIds, List.length_append, List.length_map, List.length_map]
        omega
      subIdGiven := fun subs handler now accepted front asked rest split absent =>
        log.state.subIdGiven fewSubscriptions accepted split absent
      filtersApart := filters_eq log.state.subscriptions ▸ keys.filters
      filtersValid := fun s member => keys.valid s.key (List.mem_map_of_mem member)
      subIdsApart := subIds_eq log.state.subscriptions ▸ keys.subIds
      subIdsNonzero := fun s member =>
        keys.nonzero fewSubscriptions s.key (List.mem_map_of_mem member)
      inboundApart := history.inboundIds_nodup
      inboundNonzero := inbound.1
      outboundCount := outboundCount
      inboundCount := inbound.2
      subscriptionCount := by simpa using keys.count
      pendingCount := pendingCount
      phases := history.slots (slotRule_phaseAgrees cfg)
      requests := history.requests (by omega)
      atRest := history.atRest silent }

namespace TableInvariant

/-- Subscribe, publish a QoS 1 message, and drop the connection. -/
def application : Script :=
  .connect { clientId := [97], cleanSession := false } (.step (.subscribe [{ filter := [116] }] none
    (.publish [116] [] .atLeastOnce false (.step (.abort .done .done)))))

/-- The SUBACK arrives, the PUBACK does not. -/
def env : Env where
  opens := [.ok]
  sends := [(.ok, 15), (.ok, 15)]
  recvs := [(.ok, [0x20, 2, 0, 0]), (.wouldBlock, []), (.ok, [0x90, 3, 0, 1, 0])]

def run : World .small := World.exec .small env application

end TableInvariant

theorem tables_sound_run :
    Throughout TablesSound TableInvariant.run.log ∧
      TableInvariant.run.client.liveIds = [2] ∧
      TableInvariant.run.client.subscriptions.map Subscription.key = [([116], 1)] :=
  ⟨tables_sound .small (by decide) (by decide) TableInvariant.env TableInvariant.application
    ((World.exec_history _ _ _).silentWhenClosed_iff.mpr (by decide +kernel)),
    by decide +kernel, by decide +kernel⟩

end Mqtt
