import Mqtt.Session.LiveFilters

/-!
# Filters the application gave up

`unsubscribe()` leaves the entry in the table until the UNSUBACK, and remembers the
intent only in the list of awaited answers. The end of a session empties that list
and sets the entry's flag, so the next session sends the filter again; so does a
pass that finds the flag already set.
-/

namespace Mqtt

open Library

variable {cfg : Config}

/-! ## The contract -/

/-- The event is an `unsubscribe()` that names the filter and succeeds. -/
def Library.Entry.withdraws (event : Event cfg) (filter : Bytes) : Bool :=
  match event.label with
  | .unsubscribe filters _ => filter ∈ filters && event.reaction.error = .ok
  | _ => false

/-- The event is a `subscribe()` that names the filter. -/
def Library.Entry.wants (event : Event cfg) (filter : Bytes) : Bool :=
  match event.label with
  | .subscribe subs _ _ => filter ∈ subs.map (·.filter)
  | _ => false

/-- A filter that was given up is not asked for again until the application does. -/
def StaysWithdrawn (trace : Trace cfg) : Prop :=
  ∀ before first middle second after filter,
    trace = before ++ first :: middle ++ second :: after → first.withdraws filter = true →
    (∀ event ∈ middle ++ [second], event.wants filter = false) →
    ∀ subs, second.Subscribes subs → filter ∉ subs.map (·.filter)

namespace Client

/-- An awaited UNSUBACK is about this entry. -/
def leaving (c : Client cfg) (s : Subscription) : Bool :=
  c.pending.any fun ack => ack.expected = .unsuback && s.subId ∈ ack.subs

end Client

/-- The event gives up no filter that waits to be sent again, and does not end a
session while an UNSUBACK is awaited for an entry of the table. -/
def Library.Entry.settlesWithdrawals (event : Event cfg) : Bool :=
  (match event.label with
    | .unsubscribe filters _ =>
      event.before.subscriptions.all fun s => !(decide (s.filter ∈ filters) && s.needsResub)
    | _ => true) &&
  (!event.before.closesTransport event.label ||
    event.before.subscriptions.all fun s => !event.before.leaving s)

/-! ## One piece of code -/

/-- The filter has no entry, or one that leaves with an awaited UNSUBACK. -/
def Client.GivesUp (c : Client cfg) (filter : Bytes) : Prop :=
  ∀ s ∈ c.subscriptions, s.filter = filter → s.needsResub = false ∧ c.leaving s = true

theorem Client.leaving_iff {c : Client cfg} {s : Subscription} :
    c.leaving s = true ↔
      ∃ ack ∈ c.pending, ack.expected = .unsuback ∧ s.subId ∈ ack.subs := by
  simp [Client.leaving]

section Step

variable {log : Log cfg} {label : Label} {filter : Bytes}

/-- The filter stays given up until the application asks for it. -/
theorem Client.GivesUp.step (givesUp : log.state.GivesUp filter)
    (few : cfg.maxSubscriptions ≤ 65536) (history : History log)
    (unwanted : Entry.wants ⟨log.state, label⟩ filter = false)
    (settles : Entry.settlesWithdrawals ⟨log.state, label⟩ = true) :
    (log.state.apply label).GivesUp filter := by
  have keys := history.keysSound few
  have distinct := filters_eq log.state.subscriptions ▸ keys.filters
  have subIds := subIds_eq log.state.subscriptions ▸ keys.subIds
  have ids := history.idsApart
  have flags := history.flags few
  intro s present isFilter
  -- An entry that was there stays given up while the UNSUBACK is awaited.
  have stays : ∀ old ∈ log.state.subscriptions, s.key = old.key →
      (old.needsResub = false → s.needsResub = false) →
      (∀ ack ∈ log.state.pending, ack.expected = .unsuback → s.subId ∈ ack.subs →
        ack ∈ (log.state.apply label).pending) →
      s.needsResub = false ∧ (log.state.apply label).leaving s = true := by
    intro old member sameKey flag awaited
    have sameFilter : s.filter = old.filter := congrArg Prod.fst sameKey
    have sameId : s.subId = old.subId := congrArg Prod.snd sameKey
    obtain ⟨clear, leaves⟩ := givesUp old member (sameFilter.symm.trans isFilter)
    obtain ⟨ack, inPending, expects, named⟩ := Client.leaving_iff.mp leaves
    rw [← sameId] at named
    exact ⟨flag clear, Client.leaving_iff.mpr
      ⟨ack, awaited ack inPending expects named, expects, named⟩⟩
  cases log.state.apply_tableEffect label with
  | kept table pending =>
    exact stays s (table ▸ present) rfl id fun ack member _ _ => pending ▸ member
  | subscribed subs handler now isSubscribe _ _ _ _ _ _ table pending =>
    rcases (log.state.enrolled_spec distinct subs handler).entries s (table ▸ present) with
      ⟨old, _⟩ | ⟨_, named⟩
    · exact stays s old rfl id fun ack member _ _ => by
        rw [pending]
        exact List.mem_append_left _ member
    · obtain ⟨asked, member, sameFilter, _⟩ := mem_of_askedLast named
      subst isSubscribe
      simp only [Entry.wants, decide_eq_false_iff_not] at unwanted
      exact absurd (isFilter ▸ sameFilter ▸ List.mem_map_of_mem member) unwanted
  | unsubscribed filters now _ _ _ _ _ table pending =>
    exact stays s (table ▸ present) rfl id fun ack member _ _ => by
      rw [pending]
      exact List.mem_append_left _ member
  | resubscribed now _ _ _ _ table pending =>
    rw [table, unflagAll_eq_map _ subIds] at present
    obtain ⟨old, member, rfl⟩ := List.mem_map.mp present
    refine stays old member ?_ ?_ fun ack among _ _ => by
      rw [pending]
      exact List.mem_append_left _ among
    · split <;> rfl
    · split
      · exact fun _ => rfl
      · exact id
  | answered _ _ _ v ack _ _ _ _ _ table pending =>
    obtain ⟨old, member, key, _, flag⟩ := answers_origin (table ▸ present)
    refine stays old member key (fun clear => ?_) fun other among expects _ => ?_
    · rcases flag with same | ⟨off, _⟩
      · exact same.trans clear
      · exact off
    · rw [pending]
      exact (List.mem_eraseP_of_neg (by simp [expects])).mpr among
  | withdrawn _ _ _ id ack _ _ _ found table pending =>
    rw [table, mem_eraseAll subIds] at present
    refine stays s present.1 rfl (fun clear => clear) fun other among expects named => ?_
    rw [pending]
    -- The answered request is about other entries, so it is not the awaited one.
    refine (List.mem_eraseP_of_neg fun matches_ => present.2 ?_).mpr among
    obtain ⟨inPending, sameId, _⟩ := Client.findPending_mem found
    have sameIds : other.packetId = ack.packetId := by
      rw [sameId]
      simp only [Bool.and_eq_true, decide_eq_true_eq] at matches_
      exact matches_.1
    exact List.inj_on_of_nodup_map ids.pending among inPending sameIds ▸ named
  | forgotten awaiting _ table pending =>
    have nothing := (flags.down (by simp [awaiting]) (by simp [awaiting])).2
    obtain ⟨old, member, rfl⟩ := List.mem_map.mp (table ▸ present)
    obtain ⟨ack, among, _⟩ := Client.leaving_iff.mp (givesUp old member isFilter).2
    rw [nothing] at among
    cases among
  | ended closing table =>
    obtain ⟨old, member, rfl⟩ := List.mem_map.mp (table ▸ present)
    have leaves := (givesUp old member isFilter).2
    exfalso
    by_cases idle : log.state.state = .idle
    · obtain ⟨ack, among, _⟩ := Client.leaving_iff.mp leaves
      rw [(flags.down (by simp [idle]) (by simp [idle])).2] at among
      cases among
    · have closes : log.state.closesTransport label = true :=
        log.state.closesTransport_of_end (log.state.ends_of_idle idle (closing.resolve_right idle))
          (closing.resolve_right idle)
      simp only [Entry.settlesWithdrawals, closes, Bool.not_true, Bool.false_or,
        Bool.and_eq_true, List.all_eq_true] at settles
      simpa [leaves] using settles.2 old member

/-- An accepted `unsubscribe()` gives the filter up. -/
theorem Client.givesUp_of_withdraws (few : cfg.maxSubscriptions ≤ 65536) (history : History log)
    (withdraws : Entry.withdraws ⟨log.state, label⟩ filter = true)
    (settles : Entry.settlesWithdrawals ⟨log.state, label⟩ = true) :
    (log.state.apply label).GivesUp filter := by
  have keys := history.keysSound few
  have distinct := filters_eq log.state.subscriptions ▸ keys.filters
  cases label <;> simp only [Entry.withdraws, Bool.false_eq_true, Bool.and_eq_true,
    decide_eq_true_eq] at withdraws
  case unsubscribe filters now =>
  obtain ⟨named, accepted⟩ := withdraws
  have accepted : (log.state.unsubscribe filters now).error = .ok := accepted
  rcases log.state.unsubscribe_cases filters now with
    ⟨error, _, _, bad, _, same⟩ | ⟨_, _, _, _, _, tx, _, same⟩
  · rw [same] at accepted
    exact absurd accepted bad
  intro s present isFilter
  rw [Client.apply, Client.react, same] at present ⊢
  have member : s ∈ log.state.subscriptions := present
  simp only [Entry.settlesWithdrawals, Bool.and_eq_true, List.all_eq_true, Bool.not_eq_true',
    Bool.and_eq_false_iff, decide_eq_false_iff_not] at settles
  refine ⟨(settles.1 s member).resolve_left (not_not.mpr (isFilter ▸ named)),
    Client.leaving_iff.mpr ⟨_, List.mem_append_right _ (List.mem_singleton_self _), rfl, ?_⟩⟩
  subst isFilter
  refine List.mem_filterMap.mpr ⟨s.filter, named, ?_⟩
  exact congrArg (Option.map (·.subId)) (find?_of_mem distinct member)

/-- Only what is not given up is asked for. -/
theorem Client.GivesUp.not_asked (givesUp : log.state.GivesUp filter) (history : History log)
    (unwanted : Entry.wants ⟨log.state, label⟩ filter = false) {subs : List TopicSubscription}
    (subscribes : Entry.Subscribes ⟨log.state, label⟩ subs) : filter ∉ subs.map (·.filter) := by
  intro named
  rcases (history.subscribes_cases subscribes).2 with ⟨handler, now, isSubscribe⟩ | ⟨_, _, rfl⟩
  · subst isSubscribe
    simp only [Entry.wants, decide_eq_false_iff_not] at unwanted
    exact unwanted named
  · obtain ⟨asked, member, isFilter⟩ := List.mem_map.mp named
    obtain ⟨s, inBatch, rfl⟩ := List.mem_map.mp member
    have clear := (givesUp s (log.state.resubBatch_sublist.subset inBatch) isFilter).1
    rw [log.state.needsResub_of_mem_resubBatch inBatch] at clear
    cases clear

end Step

/-! ## In every history -/

/-- In every run of a client with enough identities whose `unsubscribe()` calls settle,
a filter that was given up is not asked for again until the application does. -/
theorem stays_withdrawn (cfg : Config) (few : cfg.maxSubscriptions ≤ 65536) (env : Env)
    (application : Script) (settles : ∀ event ∈ (World.exec cfg env application).trace,
      event.settlesWithdrawals = true) : StaysWithdrawn (World.exec cfg env application).trace := by
  intro before first middle second after filter split withdraws unwanted subs subscribes
  have among : ∀ event ∈ before ++ first :: middle ++ [second],
      event.settlesWithdrawals = true := fun event member =>
    settles event (split ▸ by simp at member ⊢; tauto)
  obtain ⟨start, finish, prior, rfl, here, permitted, onward, trace, there, _⟩ :=
    (World.exec_history cfg env application).between split
  obtain ⟨c, label⟩ := first
  obtain rfl : c = start.state := here
  obtain ⟨c, last⟩ := second
  obtain rfl : c = finish.state := there
  have next : History (start.perform Client.apply label) := .step prior permitted
  have givesUp : finish.state.GivesUp filter := by
    refine Logged.Reaches.invariant_of
      (fun event => event.wants filter = false ∧ event.settlesWithdrawals = true)
      (fun log => log.state.GivesUp filter)
      (fun log label prior _ meets held => held.step few (next.trans prior) meets.1 meets.2)
      onward trace
      (fun event member => ⟨unwanted event (List.mem_append_left _ member),
        among event (by simp [member])⟩)
      (Client.givesUp_of_withdraws few prior withdraws (among _ (by simp)))
  exact givesUp.not_asked (next.trans onward) (unwanted _ (by simp)) subscribes

/-! ## A session that ends before the UNSUBACK -/

namespace Withdrawal

/-- Subscribe to a filter, give it up, drop the connection, connect again. -/
def application : Script :=
  .connect { clientId := [97] } (.step (.subscribe [{ filter := [116] }] none
    (.step (.unsubscribe [[116]] (.step (.abort .done
      (.connect { clientId := [97] } (.step .done))))))))

/-- Both connections are accepted and the SUBSCRIBE is granted. `answers` is what is
received after the UNSUBSCRIBE is sent. -/
def env (answers : List (Error × Bytes)) : Env where
  opens := [.ok, .ok]
  sends := [(.ok, 15), (.ok, 8), (.ok, 7), (.ok, 15), (.ok, 8)]
  recvs := [(.ok, [0x20, 2, 0, 0]), (.wouldBlock, []), (.ok, [0x90, 3, 0, 1, 0]),
    (.wouldBlock, [])] ++ answers ++ [(.wouldBlock, []), (.ok, [0x20, 2, 0, 0])]

/-- The UNSUBACK arrives. -/
def settledRun : World .small := World.exec .small (env [(.ok, [0xb0, 2, 0, 2])]) application

/-- The connection is dropped before the UNSUBACK. -/
def run : World .small := World.exec .small (env []) application

end Withdrawal

theorem stays_withdrawn_settled :
    StaysWithdrawn Withdrawal.settledRun.trace ∧ Withdrawal.settledRun.client.state = .connected ∧
      Withdrawal.settledRun.client.subscriptions = [] :=
  ⟨stays_withdrawn .small (by decide) (Withdrawal.env [(.ok, [0xb0, 2, 0, 2])])
    Withdrawal.application (by decide +kernel), by decide +kernel, by decide +kernel⟩

/-- The next session asks for the filter. -/
theorem withdrawn_filter_returns : ¬ StaysWithdrawn Withdrawal.run.trace := by
  intro stays
  have split := split_at_positions Withdrawal.run.trace (by decide : 23 < 41) (by decide +kernel)
  have asked : (Withdrawal.run.trace.get ⟨41, by decide +kernel⟩).Subscribes
      [{ filter := [116] }] :=
    ⟨{ bytes := [0x82, 6, 0, 1, 0, 1, 116, 0] }, by decide +kernel, 1, by decide +kernel⟩
  exact stays _ _ _ _ _ [116] split (by decide +kernel) (by decide +kernel) _ asked (by decide)

end Mqtt
