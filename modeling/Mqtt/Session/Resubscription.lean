import Mqtt.Session.Asking
import Mqtt.Session.TableInvariant

/-!
# Automatic re-subscription

A pass re-sends the first entries whose flag is set, as many as one request may
name, in one SUBSCRIBE. The number of filters in a request and the room in the
transmit buffer are configured independently, so filters that were accepted one at
a time need not fit together; such a batch is tried again, and fails again, in
every pass. A batch that fits makes progress.
-/

namespace Mqtt

open Library

variable {cfg : Config}

/-! ## The contract -/

namespace Client

/-- A re-subscription pass has something to send and nothing in its way. -/
def readyToResubscribe (c : Client cfg) : Bool :=
  c.state = .connected && c.tx.isEmpty && decide (c.pending.length < cfg.maxPendingAcks) &&
    c.subscriptions.any (·.needsResub)

/-- The pass queues a SUBSCRIBE for entries whose flag is set, and clears the flags of
those. -/
def Resends (c : Client cfg) (now : UInt32) : Prop :=
  ∃ packet id subs, (c.pumpResubscribe now).queued = [packet] ∧
    readSubscribe packet.bytes = some (id, subs) ∧ subs ≠ [] ∧
    (∀ asked ∈ subs, ∃ s ∈ c.subscriptions, s.needsResub = true ∧ s.filter = asked.filter ∧
      s.requestedQos = asked.qos) ∧
    (c.pumpResubscribe now).client.subscriptions = c.subscriptions.map fun s =>
      if s.filter ∈ subs.map (·.filter) then { s with needsResub := false } else s

/-- The filters that wait to be sent again. -/
def outstanding (c : Client cfg) : List Bytes :=
  (c.subscriptions.filter (·.needsResub)).map (·.filter)

/-- The entries that wait and are first in line fit the transmit buffer together. -/
def batchFits (c : Client cfg) : Bool :=
  let first := (c.subscriptions.filter (·.needsResub)).take cfg.maxTopicsPerRequest
  let size := 2 + (first.map fun s => s.filter.length + 3).sum
  size ≤ kMaxRemainingLength && packetSize size ≤ cfg.txBufferSize

end Client

/-- The event is a re-subscription pass that is ready. -/
def Library.Entry.isReadyPass (event : Event cfg) : Bool :=
  match event.label with
  | .resubscribe _ => event.before.readyToResubscribe
  | _ => false

/-- Re-subscription makes progress. -/
structure ResubscriptionProgresses (log : Log cfg) : Prop where
  sends : Throughout (fun c _ => c.readyToResubscribe = true → ∀ now, c.Resends now) log
  /-- While the session stays up, each ready pass leaves fewer filters waiting. -/
  finishes : ∀ before first during last after,
    log.trace = before ++ first :: during ++ last :: after →
    (∀ event ∈ first :: during ++ [last], event.before.state = .connected) →
    last.before.outstanding.length + (first :: during).countP (·.isReadyPass) ≤
      first.before.outstanding.length

/-! ## Entries that can be sent again -/

/-- An entry was accepted once, so it can be sent. -/
def Subscription.Sendable (s : Subscription) : Prop :=
  s.filter ≠ [] ∧ s.filter.length ≤ kMaxStringLen ∧ isValidMqttString s.filter = true ∧
    validQos s.requestedQos = true

theorem History.sendable (few : cfg.maxSubscriptions ≤ 65536) {log : Log cfg}
    (history : History log) : ∀ s ∈ log.state.subscriptions, s.Sendable := by
  refine history.invariant (fun log => ∀ s ∈ log.state.subscriptions, s.Sendable)
    (fun log label prior _ held s present => ?_) (by simp [Client.initial])
  have keys := prior.keysSound few
  have kept : ∀ old ∈ log.state.subscriptions, s.filter = old.filter →
      s.requestedQos = old.requestedQos → s.Sendable := by
    intro old member sameFilter sameLevel
    have sendable := held old member
    unfold Subscription.Sendable at sendable ⊢
    rwa [sameFilter, sameLevel]
  rw [Logged.perform_state] at present
  cases log.state.apply_tableEffect label with
  | kept table => exact held s (table ▸ present)
  | subscribed subs handler now _ _ _ _ _ _ sized table =>
    obtain ⟨size, isSize⟩ := sized
    have distinct := filters_eq log.state.subscriptions ▸ keys.filters
    rcases (log.state.enrolled_spec distinct subs handler).entries s (table ▸ present) with
      ⟨old, _⟩ | ⟨_, named⟩
    · exact held s old
    · obtain ⟨asked, member, sameFilter, sameLevel⟩ := mem_of_askedLast named
      have checked := (subscribeRemainingLength_ok isSize).1 asked member
      rwa [sameFilter, sameLevel] at checked
  | unsubscribed _ _ _ _ _ _ _ table => exact held s (table ▸ present)
  | resubscribed _ _ _ _ _ table =>
    rw [table, unflagAll_eq_map _ (subIds_eq log.state.subscriptions ▸ keys.subIds)] at present
    obtain ⟨old, member, rfl⟩ := List.mem_map.mp present
    split
    · exact held old member
    · exact held old member
  | answered _ _ _ _ _ _ _ _ _ _ table =>
    obtain ⟨old, member, key, level, _⟩ := answers_origin (table ▸ present)
    exact kept old member (congrArg Prod.fst key) level
  | withdrawn _ _ _ _ _ _ _ _ _ table =>
    exact held s ((eraseAll_sublist _ _).subset (table ▸ present))
  | forgotten _ _ table =>
    obtain ⟨old, member, rfl⟩ := List.mem_map.mp (table ▸ present)
    exact held old member
  | ended _ table =>
    obtain ⟨old, member, rfl⟩ := List.mem_map.mp (table ▸ present)
    exact held old member

/-! ## One pass -/

namespace Client

variable {c : Client cfg}

/-- A pass with room, an id and a request that can be sent sends it. -/
theorem pumpResubscribe_of_room {size : Nat} (now : UInt32) (room : c.ackTableFull = false)
    (some : c.resubBatch ≠ []) (sized : subscribeRemainingLength c.resubRequest = .ok size)
    (given : c.allocPacketId.1 ≠ 0) (space : c.HasRoom (packetSize size)) :
    (c.pumpResubscribe now).queued =
        [{ bytes := subscribePacket c.allocPacketId.1 c.resubRequest }] ∧
      (c.pumpResubscribe now).client.subscriptions =
        unflagAll (c.resubBatch.map (·.subId)) c.subscriptions := by
  have full : ¬ c.ackTableFull = true := by simp [room]
  have nothing : ¬ c.resubBatch.isEmpty = true := by simpa using some
  have roomThere : c.allocPacketId.2.HasRoom (packetSize size) := space
  obtain ⟨tx, sent, _⟩ := enqueueSized_of_room
    (encodes_subscribe given sized) (length_subscribePacket sized) roomThere
  have sameRequest : c.allocPacketId.2.resubRequest = c.resubRequest := rfl
  have sameBatch : c.allocPacketId.2.resubBatch = c.resubBatch := rfl
  simp only [pumpResubscribe, if_neg full, if_neg nothing, sized, if_neg given, sendResubscribe,
    sameRequest, sameBatch, sent, foldl_clearFlags_eq, true_and]
  rfl

theorem resubBatch_ne_nil {s : Subscription} (member : s ∈ c.subscriptions)
    (flagged : s.needsResub = true) : c.resubBatch ≠ [] := by
  have positive := cfg.topicsPerRequestPositive
  have waiting : s ∈ c.subscriptions.filter (·.needsResub) := List.mem_filter.mpr ⟨member, flagged⟩
  rw [resubBatch, ne_eq, List.take_eq_nil_iff]
  rintro (none | none)
  · omega
  · rw [none] at waiting
    cases waiting

/-- A batch of entries that fits can be sent. -/
theorem resubRequest_sized (sendable : ∀ s ∈ c.subscriptions, s.Sendable)
    (some : c.resubBatch ≠ []) (fits : c.batchFits = true) :
    ∃ size, subscribeRemainingLength c.resubRequest = .ok size ∧
      packetSize size ≤ cfg.txBufferSize := by
  have sizes : (c.resubRequest.map fun s => utf8Size s.filter.length + 1) =
      c.resubBatch.map fun s => s.filter.length + 3 := by
    rw [resubRequest, List.map_map]
    refine List.map_congr_left fun s _ => ?_
    simp only [Function.comp_apply, utf8Size]
    omega
  simp only [batchFits, Bool.and_eq_true, decide_eq_true_eq] at fits
  rw [show (c.subscriptions.filter (·.needsResub)).take cfg.maxTopicsPerRequest = c.resubBatch
    from rfl, ← sizes] at fits
  refine ⟨_, subscribeRemainingLength_of_valid ?_ ?_ fits.1, fits.2⟩
  · rw [resubRequest, ne_eq, List.map_eq_nil_iff]
    exact some
  · intro asked member
    obtain ⟨s, inBatch, rfl⟩ := List.mem_map.mp member
    exact sendable s (c.resubBatch_sublist.subset inBatch)

/-- With distinct filters and identities, the entries of the batch are those whose
filter the request names. -/
theorem mem_resubRequest_iff (keys : KeysSound cfg (c.subscriptions.map Subscription.key))
    {s : Subscription} (member : s ∈ c.subscriptions) :
    s.filter ∈ c.resubRequest.map (·.filter) ↔ s.subId ∈ c.resubBatch.map (·.subId) := by
  have distinct := filters_eq c.subscriptions ▸ keys.filters
  rw [← c.mem_resubBatch_iff (subIds_eq c.subscriptions ▸ keys.subIds) member, resubRequest,
    List.map_map, List.mem_map]
  constructor
  · rintro ⟨other, inBatch, same⟩
    exact List.inj_on_of_nodup_map distinct (c.resubBatch_sublist.subset inBatch) member same ▸
      inBatch
  · exact fun inBatch => ⟨s, inBatch, rfl⟩

/-- A ready pass whose batch fits sends it. -/
theorem resends_of_fits (keys : KeysSound cfg (c.subscriptions.map Subscription.key))
    (sendable : ∀ s ∈ c.subscriptions, s.Sendable) (given : c.allocPacketId.1 ≠ 0)
    (ready : c.readyToResubscribe = true) (fits : c.batchFits = true) (now : UInt32) :
    c.Resends now := by
  simp only [readyToResubscribe, Bool.and_eq_true, decide_eq_true_eq, List.any_eq_true] at ready
  obtain ⟨⟨⟨_, empty⟩, space⟩, waiting, inTable, flagged⟩ := ready
  have some := resubBatch_ne_nil inTable flagged
  obtain ⟨size, sized, short⟩ := resubRequest_sized sendable some fits
  have room : c.HasRoom (packetSize size) := by
    rw [HasRoom, c.tx.isEmpty_iff.mp empty, List.length_nil, Nat.zero_add]
    exact short
  obtain ⟨queued, table⟩ := pumpResubscribe_of_room now (by simpa [ackTableFull] using space) some
    sized given room
  refine ⟨_, _, c.resubRequest, queued, readSubscribe_subscribePacket sized _, ?_, ?_, ?_⟩
  · rw [resubRequest, ne_eq, List.map_eq_nil_iff]
    exact some
  · intro asked member
    obtain ⟨s, inBatch, rfl⟩ := List.mem_map.mp member
    have chosen := List.mem_filter.mp (List.mem_of_mem_take inBatch)
    exact ⟨s, chosen.1, chosen.2, rfl, rfl⟩
  · rw [table, unflagAll_eq_map _ (subIds_eq c.subscriptions ▸ keys.subIds)]
    refine List.map_congr_left fun s member => ?_
    simp only [mem_resubRequest_iff keys member, Subscription.unflagged]

/-! ## What still waits -/

theorem outstanding_nodup (distinct : (c.subscriptions.map (·.filter)).Nodup) :
    c.outstanding.Nodup :=
  distinct.sublist (List.filter_sublist.map _)

theorem mem_outstanding {filter : Bytes} :
    filter ∈ c.outstanding ↔ ∃ s ∈ c.subscriptions, s.needsResub = true ∧ s.filter = filter := by
  simp [outstanding, and_assoc]

/-- While a session is up, no flag becomes set. -/
theorem outstanding_subset (keys : KeysSound cfg (c.subscriptions.map Subscription.key))
    {label : Label} (up : c.state = .connected) (stays : (c.apply label).state ≠ .idle) :
    (c.apply label).outstanding ⊆ c.outstanding := by
  intro filter waits
  obtain ⟨s, present, flagged, rfl⟩ := mem_outstanding.mp waits
  have same : s ∈ c.subscriptions → s.filter ∈ c.outstanding := fun member =>
    mem_outstanding.mpr ⟨s, member, flagged, rfl⟩
  cases c.apply_tableEffect label with
  | kept table => exact same (table ▸ present)
  | subscribed subs handler now _ _ _ _ _ _ _ table =>
    have distinct := filters_eq c.subscriptions ▸ keys.filters
    rcases (c.enrolled_spec distinct subs handler).entries s (table ▸ present) with
      ⟨old, _⟩ | ⟨clear, _⟩
    · exact same old
    · rw [clear] at flagged
      cases flagged
  | unsubscribed _ _ _ _ _ _ _ table => exact same (table ▸ present)
  | resubscribed _ _ _ _ _ table =>
    rw [table, unflagAll_eq_map _ (subIds_eq c.subscriptions ▸ keys.subIds)] at present
    obtain ⟨old, member, rfl⟩ := List.mem_map.mp present
    split at flagged
    · cases flagged
    · rename_i unnamed
      rw [if_neg unnamed]
      exact mem_outstanding.mpr ⟨old, member, flagged, rfl⟩
  | answered _ _ _ _ _ _ _ _ _ _ table =>
    obtain ⟨old, member, key, _, flag⟩ := answers_origin (table ▸ present)
    refine mem_outstanding.mpr ⟨old, member, ?_, (congrArg Prod.fst key).symm⟩
    rcases flag with same | ⟨clear, _⟩
    · exact same.symm.trans flagged
    · rw [clear] at flagged
      cases flagged
  | withdrawn _ _ _ _ _ _ _ _ _ table =>
    exact same ((eraseAll_sublist _ _).subset (table ▸ present))
  | forgotten awaiting => simp [awaiting] at up
  | ended closing => rcases closing with idle | idle <;> simp_all

/-- A pass that sends leaves fewer filters waiting. -/
theorem outstanding_lt_of_resends (distinct : (c.subscriptions.map (·.filter)).Nodup)
    {now : UInt32} (resends : c.Resends now) :
    (c.apply (.resubscribe now)).outstanding.length < c.outstanding.length := by
  obtain ⟨packet, id, subs, _, _, some, chosen, table⟩ := resends
  obtain ⟨asked, member⟩ := List.exists_mem_of_ne_nil subs some
  obtain ⟨s, inTable, flagged, sameFilter, _⟩ := chosen asked member
  have table : (c.apply (.resubscribe now)).subscriptions = _ := table
  have waited : s.filter ∈ c.outstanding := mem_outstanding.mpr ⟨s, inTable, flagged, rfl⟩
  have after : (c.apply (.resubscribe now)).outstanding ⊆ c.outstanding.erase s.filter := by
    intro filter waits
    obtain ⟨other, present, stillFlagged, rfl⟩ := mem_outstanding.mp waits
    rw [table] at present
    obtain ⟨old, inOld, rfl⟩ := List.mem_map.mp present
    split at stillFlagged
    · cases stillFlagged
    · rename_i unnamed
      rw [if_neg unnamed]
      refine (List.mem_erase_of_ne fun same => unnamed ?_).mpr
        (mem_outstanding.mpr ⟨old, inOld, stillFlagged, rfl⟩)
      rw [same, sameFilter]
      exact List.mem_map_of_mem member
  have sameFilters : (c.apply (.resubscribe now)).subscriptions.map (·.filter) =
      c.subscriptions.map (·.filter) := by
    rw [table, List.map_map]
    refine List.map_congr_left fun old _ => ?_
    simp only [Function.comp_apply]
    split <;> rfl
  have shorter := (outstanding_nodup (sameFilters ▸ distinct)).length_le_of_subset after
  have positive := List.length_pos_of_mem waited
  rw [List.length_erase_of_mem waited] at shorter
  omega

end Client

/-! ## Progress -/

/-- What holds of every state of a run holds throughout it. -/
theorem throughout_of_forall {P : Client cfg → Prop} {log : Log cfg}
    (earlier : ∀ event ∈ log.trace, P event.before) (last : P log.state) :
    Throughout (fun c _ => P c) log :=
  ⟨fun _ event _ split => earlier event (split ▸ List.mem_append_right _ List.mem_cons_self), last⟩

/-- While the session stays up, each pass that is ready and sends leaves fewer filters
waiting, and nothing adds to them. -/
theorem History.outstanding_le (few : cfg.maxSubscriptions ≤ 65536) {start finish : Log cfg}
    (history : History start) (onward : Logged.Reaches Client.apply Permitted start finish)
    {during : Trace cfg} (split : finish.trace = start.trace ++ during)
    (up : ∀ event ∈ during, event.before.state = .connected)
    (resends : ∀ event ∈ during, event.before.readyToResubscribe = true →
      ∀ now, event.before.Resends now) (stillUp : finish.state.state = .connected) :
    finish.state.outstanding.length + finish.trace.countP (·.isReadyPass) ≤
      start.state.outstanding.length + start.trace.countP (·.isReadyPass) := by
  refine Logged.Reaches.invariant_of
    (fun event => event.before.state = .connected ∧
      (event.before.readyToResubscribe = true → ∀ now, event.before.Resends now))
    (fun log => log.state.state = .connected →
      log.state.outstanding.length + log.trace.countP (·.isReadyPass) ≤
        start.state.outstanding.length + start.trace.countP (·.isReadyPass))
    (fun log label prior permitted meets held stays => ?_) onward split
    (fun event member => ⟨up event member, resends event member⟩) (fun _ => Nat.le_refl _) stillUp
  have keys := History.keysSound few (history.trans prior)
  have before := held meets.1
  rw [Logged.perform_state] at stays ⊢
  rw [Logged.perform_trace, List.countP_append, List.countP_singleton]
  by_cases ready : Entry.isReadyPass ⟨log.state, label⟩ = true
  · rw [if_pos ready]
    cases label <;> simp only [Entry.isReadyPass, Bool.false_eq_true] at ready
    case resubscribe now =>
      have fewer : (log.state.apply (.resubscribe now)).outstanding.length <
          log.state.outstanding.length :=
        Client.outstanding_lt_of_resends (filters_eq log.state.subscriptions ▸ keys.filters)
          (meets.2 ready now)
      omega
  · rw [if_neg ready]
    have after := keys.step few label
    have fewer := (Client.outstanding_nodup (filters_eq (log.state.apply label).subscriptions ▸
      after.filters)).length_le_of_subset
        (Client.outstanding_subset keys meets.1 (by simp [stays]))
    omega

/-- In every run of a client with enough ids and identities, re-subscription makes
progress if the entries first in line always fit the transmit buffer. -/
theorem resubscription_progresses (cfg : Config) (fewSubscriptions : cfg.maxSubscriptions ≤ 65536)
    (fewIds : cfg.maxInflightOut + cfg.maxPendingAcks ≤ 65535) (env : Env) (application : Script)
    (fits : Throughout (fun c _ => c.readyToResubscribe = true → c.batchFits = true)
      (World.exec cfg env application).log) :
    ResubscriptionProgresses (World.exec cfg env application).log := by
  have history := World.exec_history cfg env application
  have sends : ∀ {log : Log cfg}, History log → log.state.readyToResubscribe = true →
      log.state.batchFits = true → ∀ now, log.state.Resends now := by
    intro log history ready fits now
    have space : log.state.pending.length < cfg.maxPendingAcks := by
      simp only [Client.readyToResubscribe, Bool.and_eq_true, decide_eq_true_eq] at ready
      exact ready.1.2
    have inFlight := history.length_inFlight
    refine Client.resends_of_fits (history.keysSound fewSubscriptions)
      (history.sendable fewSubscriptions) (log.state.allocPacketId_ne_zero ?_) ready fits now
    rw [Client.liveIds, List.length_append, List.length_map, List.length_map]
    omega
  have earlier : ∀ before event after,
      (World.exec cfg env application).trace = before ++ event :: after →
      event.before.readyToResubscribe = true → ∀ now, event.before.Resends now := by
    intro before event after split ready
    obtain ⟨reached, prior, rfl, here, _⟩ := history.cut split
    have fits := fits.1 _ event after split ready
    rw [here] at ready fits ⊢
    exact sends prior ready fits
  refine ⟨⟨earlier, fun ready => sends history ready (fits.2 ready)⟩,
    fun before first during last after split up => ?_⟩
  obtain ⟨finish, reached, trace, here, _⟩ :=
    @History.cut _ _ history (before ++ first :: during) after last split
  obtain ⟨start, prior, rfl, onward⟩ := reached.upTo trace
  obtain ⟨label, rfl, _⟩ := onward.head trace
  have counted := prior.outstanding_le fewSubscriptions onward trace
    (fun event member => up event (by simp at member ⊢; tauto)) (fun event member => by
      obtain ⟨front, back, isSplit⟩ := List.append_of_mem member
      exact earlier (start.trace ++ front) event (back ++ last :: after)
        (split.trans (by rw [isSplit]; simp))) (here ▸ up last (by simp))
  rw [trace, List.countP_append] at counted
  rw [here]
  show _ ≤ start.state.outstanding.length
  omega

/-! ## A batch that never fits -/

namespace Resubscription

/-- Subscribe to two filters one after the other, drop the connection, connect again. -/
def application (first second : Bytes) : Script :=
  .connect { clientId := [97] } (.step (.subscribe [{ filter := first }] none
    (.step (.subscribe [{ filter := second }] none (.step (.abort .done
      (.connect { clientId := [97] } (.step .done))))))))

/-- Both connections are accepted. Each SUBSCRIBE is of `request` bytes, and the one
that re-sends both filters of `batch`. -/
def env (request batch : Nat) : Env where
  opens := [.ok, .ok]
  sends := [(.ok, 15), (.ok, request), (.ok, request), (.ok, 15), (.ok, batch)]
  recvs := [(.ok, [0x20, 2, 0, 0]), (.wouldBlock, []), (.wouldBlock, []), (.wouldBlock, []),
    (.ok, [0x20, 2, 0, 0])]

/-- The two filters fit the transmit buffer together. -/
def quietRun : World .small := World.exec .small (env 8 12) (application [97] [98])

/-- Each filter fits the transmit buffer, but not both. -/
def run : World .small :=
  World.exec .small (env 13 22) (application (List.replicate 6 97) (List.replicate 6 98))

end Resubscription

theorem resubscription_progresses_quiet :
    ResubscriptionProgresses Resubscription.quietRun.log ∧
      Resubscription.quietRun.client.outstanding = [] ∧
      Resubscription.quietRun.client.subscriptions.length = 2 :=
  ⟨resubscription_progresses .small (by decide) (by decide) (Resubscription.env 8 12)
    (Resubscription.application [97] [98])
    (throughout_of_forall (by decide +kernel) (by decide +kernel)), by decide +kernel,
    by decide +kernel⟩

/-- Every pass of the second connection finds the queue empty and queues nothing. -/
theorem resubscription_stuck : ¬ ResubscriptionProgresses Resubscription.run.log := by
  intro progresses
  obtain ⟨packet, id, subs, queued, _⟩ := progresses.sends.2 (by decide +kernel) 0
  have nothing : (Resubscription.run.log.state.pumpResubscribe 0).queued = [] := by decide +kernel
  rw [nothing] at queued
  cases queued

end Mqtt
