import Mqtt.Session.LostSession
import Mqtt.Session.Withdrawal

/-!
# Filters the broker still holds

A broker that reports `session_present = 1` still holds every filter it granted in
that session. `handle_connack` then leaves the flags alone, but the end of the
previous connection has set all of them, so the next pass sends the granted filters
again. None is sent again where the table holds no such filter when the CONNACK is
accepted.
-/

namespace Mqtt

open Library

variable {cfg : Config}

/-! ## The contract -/

/-- The event processes a SUBACK that grants the filter. -/
def Library.Entry.grants (event : Event cfg) (filter : Bytes) : Bool :=
  match event.label with
  | .handle { type := .suback, .. } body _ =>
    match decodeSuback body with
    | .error _ => false
    | .ok v =>
      match event.before.findPending v.packetId .suback with
      | none => false
      | some ack =>
        v.returnCodes.length = ack.subs.length &&
          (v.returnCodes.zip ack.subs).any fun answer => answer.1 ≠ kSubackFailure &&
            event.before.subscriptions.any fun s => s.subId = answer.2 && s.filter = filter
  | _ => false

/-- The filter was granted in the broker's session of this moment, and has not been
given up since. -/
def GrantedHere (filter : Bytes) (trace : Trace cfg) : Prop :=
  Since (fun event => event.grants filter = true)
    (fun event => event.LosesSession ∨ event.withdraws filter = true) trace

instance (filter : Bytes) (trace : Trace cfg) : Decidable (GrantedHere filter trace) :=
  inferInstanceAs (Decidable (Since _ _ trace))

/-- The event accepts a CONNACK by which the broker says it kept the session. -/
def Library.Entry.Resumes (event : Event cfg) : Prop :=
  event.reaction.callback = some (.onConnect { code := .accepted, sessionPresent := true })

instance (event : Event cfg) : Decidable event.Resumes :=
  inferInstanceAs (Decidable (_ = _))

/-- The event is a re-subscription pass that queues a SUBSCRIBE with the filter. -/
def Library.Entry.Resends (event : Event cfg) (filter : Bytes) : Prop :=
  (∃ now, event.label = .resubscribe now) ∧
    ∃ subs, event.Subscribes subs ∧ filter ∈ subs.map (·.filter)

/-- Granted filters are sent again only where the broker lost the session. -/
structure ResendsOnlyLost (trace : Trace cfg) : Prop where
  resumed : ∀ before event after filter, trace = before ++ event :: after →
    Since (fun event => event.Resumes ∧ event.before.cleanSession = false)
      (fun event => event.EndsSession) before →
    event.Resends filter → ¬ GrantedHere filter before
  onlyLost : ∀ before event after filter, trace = before ++ event :: after →
    event.Resends filter → GrantedHere filter before →
    Since (fun event => event.LosesSession) (fun event => event.EndsSession) before

/-! ## One piece of code -/

theorem grants_cases {event : Event cfg} {filter : Bytes} (grants : event.grants filter = true) :
    ∃ header body now v ack, event.label = .handle header body now ∧ header.type = .suback ∧
      decodeSuback body = .ok v ∧ event.before.findPending v.packetId .suback = some ack ∧
      ∃ s ∈ event.before.subscriptions, s.subId ∈ ack.subs ∧ s.filter = filter := by
  unfold Entry.grants at grants
  split at grants
  swap
  · cases grants
  rename_i header body now isHandle
  split at grants
  · cases grants
  rename_i v decoded
  split at grants
  · cases grants
  rename_i ack found
  simp only [Bool.and_eq_true, List.any_eq_true, decide_eq_true_eq] at grants
  obtain ⟨_, answer, inZip, _, s, member, isEntry, isFilter⟩ := grants
  exact ⟨_, body, now, v, ack, isHandle, rfl, decoded, found, s, member,
    isEntry ▸ (List.of_mem_zip inZip).2, isFilter⟩

/-- `on_connect` tells of a session that was kept or lost, and no filter is granted by
the packet that brings it up. -/
theorem announces_cases {event : Event cfg} (announces : event.Announces) :
    (∀ filter, event.grants filter ≠ true) ∧ (event.LosesSession ∨ event.Resumes ∧
      (event.before.apply event.label).subscriptions = event.before.subscriptions) := by
  obtain ⟨c, label⟩ := event
  obtain ⟨info, called⟩ := announces
  rcases c.callback_cases called with ⟨header, body, now, rfl⟩ | ⟨_, other⟩
  swap
  · cases other
  have isConnack := c.connack_of_onConnect called
  refine ⟨fun filter grants => ?_, ?_⟩
  · obtain ⟨_, _, _, _, _, isHandle, isSuback, _⟩ := grants_cases grants
    cases isHandle
    rw [isConnack] at isSuback
    cases isSuback
  have handled : c.react (.handle header body now) = c.handleConnack body := by
    simp only [Client.react, Client.handlePacket, isConnack]
  rcases c.handleConnack_cases body with ⟨_, _, _, same⟩ | ⟨_, told, _, accepted, same⟩
  · rw [Entry.reaction, handled, same] at called
    cases called
  rw [same] at handled
  obtain ⟨code, present⟩ := told
  obtain rfl : code = .accepted := accepted
  cases present with
  | false => exact .inl (congrArg Reaction.callback handled)
  | true => exact .inr ⟨congrArg Reaction.callback handled, by rw [Client.apply, handled]; rfl⟩

section Step

variable {log : Log cfg} {label : Label}

/-- While a session is up, an entry that waits to be sent again did so before, and is
not granted by what happens now. -/
theorem flagged_before (few : cfg.maxSubscriptions ≤ 65536) (history : History log)
    (up : log.state.state = .connected ∨ log.state.state = .disconnecting)
    (goesOn : ¬ Entry.EndsSession ⟨log.state, label⟩) {s : Subscription}
    (present : s ∈ (log.state.apply label).subscriptions) (waits : s.needsResub = true) :
    (∃ old ∈ log.state.subscriptions, old.filter = s.filter ∧ old.needsResub = true) ∧
      Entry.grants ⟨log.state, label⟩ s.filter ≠ true := by
  have keys := history.keysSound few
  have distinct := filters_eq log.state.subscriptions ▸ keys.filters
  have subIds := subIds_eq log.state.subscriptions ▸ keys.subIds
  have before : ∃ old ∈ log.state.subscriptions,
      old.filter = s.filter ∧ old.needsResub = true := by
    cases log.state.apply_tableEffect label with
    | kept table => exact ⟨s, table ▸ present, rfl, waits⟩
    | subscribed subs handler now _ _ _ _ _ _ _ table =>
      rcases (log.state.enrolled_spec distinct subs handler).entries s (table ▸ present) with
        ⟨old, _⟩ | ⟨clear, _⟩
      · exact ⟨s, old, rfl, waits⟩
      · simp [waits] at clear
    | unsubscribed _ _ _ _ _ _ _ table => exact ⟨s, table ▸ present, rfl, waits⟩
    | resubscribed now _ _ _ _ table =>
      rw [table, unflagAll_eq_map _ subIds] at present
      obtain ⟨old, member, rfl⟩ := List.mem_map.mp present
      split at waits
      · cases waits
      · rename_i notInBatch
        exact ⟨old, member, by rw [if_neg notInBatch], waits⟩
    | answered _ _ _ _ _ _ _ _ _ _ table =>
      obtain ⟨old, member, key, _, flag⟩ := answers_origin (table ▸ present)
      rcases flag with same | ⟨clear, _⟩
      · exact ⟨old, member, (congrArg Prod.fst key).symm, same.symm.trans waits⟩
      · simp [waits] at clear
    | withdrawn _ _ _ _ _ _ _ _ _ table =>
      exact ⟨s, (eraseAll_sublist _ _).subset (table ▸ present), rfl, waits⟩
    | forgotten awaiting => simp [awaiting] at up
    | ended closing =>
      rcases closing with idle | idle
      · exact absurd idle goesOn
      · simp [idle] at up
  refine ⟨before, fun grants => ?_⟩
  -- The SUBACK was awaited for an entry whose flag was clear.
  obtain ⟨old, member, sameFilter, waited⟩ := before
  obtain ⟨_, _, _, _, ack, _, _, _, found, entry, inTable, named, isFilter⟩ := grants_cases grants
  obtain ⟨awaited, _, expects⟩ := Client.findPending_mem found
  have clear := (history.flags few).acks ack awaited expects entry inTable named
  rw [List.inj_on_of_nodup_map distinct inTable member (isFilter.trans sameFilter.symm),
    waited] at clear
  cases clear

/-- What carries the contract through a connection. -/
structure Resumption (c : Client cfg) (trace : Trace cfg) : Prop where
  known : c.state = .connected ∨ c.state = .disconnecting →
    Since (fun event => event.LosesSession) (fun event => event.EndsSession) trace ∨
      Since (fun event => event.Resumes) (fun event => event.EndsSession) trace
  up : Since (fun event => event.Resumes) (fun event => event.EndsSession) trace →
    c.state = .connected ∨ c.state = .disconnecting
  fresh : Since (fun event => event.Resumes) (fun event => event.EndsSession) trace →
    ∀ s ∈ c.subscriptions, s.needsResub = true → ¬ GrantedHere s.filter trace

/-- The event does not resume a session in which a remembered filter was granted. -/
def ResumesBare (before : Trace cfg) (event : Event cfg) : Prop :=
  event.Resumes → ∀ s ∈ event.before.subscriptions, ¬ GrantedHere s.filter before

instance (before : Trace cfg) (event : Event cfg) : Decidable (ResumesBare before event) :=
  inferInstanceAs (Decidable (_ → _))

theorem Resumption.step (held : Resumption log.state log.trace) (history : History log)
    (few : cfg.maxSubscriptions ≤ 65536) (permitted : Permitted log label)
    (bare : ResumesBare log.trace ⟨log.state, label⟩) :
    Resumption (log.state.apply label) (log.trace ++ [⟨log.state, label⟩]) := by
  refine ⟨fun late => ?_, fun resumed => ?_, fun resumed s present waits granted => ?_⟩
  · have goesOn : ¬ Entry.EndsSession ⟨log.state, label⟩ := by
      rcases late with up | leaving <;> simp [Entry.EndsSession, *]
    have steady : log.state.state = .connected ∨ log.state.state = .disconnecting → _ :=
      fun up => (held.known up).imp
        (fun since => since_snoc.mpr (.inr ⟨since, goesOn⟩))
        (fun since => since_snoc.mpr (.inr ⟨since, goesOn⟩))
    rcases history.state_cases permitted with
      same | ⟨_, moved⟩ | ⟨_, moved⟩ | comesUp | ⟨was, _⟩ | ⟨_, moved⟩
    · exact steady (same ▸ late)
    · simp [moved] at late
    · simp [moved] at late
    · exact (announces_cases (announces_iff.mpr comesUp)).2.imp
        (fun loses => since_snoc.mpr (.inl loses))
        (fun resumes => since_snoc.mpr (.inl resumes.1))
    · exact steady (.inl was)
    · simp [moved] at late
  · rcases since_snoc.mp resumed with resumes | ⟨since, goesOn⟩
    · exact .inl (announces_iff.mp ⟨_, resumes⟩).2
    · have up := held.up since
      rcases history.state_cases permitted with
        same | ⟨was, _⟩ | ⟨was, _⟩ | ⟨was, _⟩ | ⟨_, moved⟩ | ⟨_, moved⟩
      · exact same ▸ up
      · simp [was] at up
      · simp [was] at up
      · simp [was] at up
      · exact .inr moved
      · exact absurd moved goesOn
  · rcases since_snoc.mp resumed with resumes | ⟨since, goesOn⟩
    · obtain ⟨ungranted, outcome⟩ := announces_cases ⟨_, resumes⟩
      have table := (outcome.resolve_left fun loses => by cases loses.symm.trans resumes).2
      rcases since_snoc.mp granted with grants | ⟨earlier, _⟩
      · exact ungranted s.filter grants
      · exact bare resumes s (table ▸ present) earlier
    · obtain ⟨⟨old, member, sameFilter, waited⟩, ungranted⟩ :=
        flagged_before few history (held.up since) goesOn present waits
      rcases since_snoc.mp granted with grants | ⟨earlier, _⟩
      · exact ungranted grants
      · exact held.fresh since old member waited (sameFilter ▸ earlier)

end Step

/-! ## In every history -/

theorem History.resumption (few : cfg.maxSubscriptions ≤ 65536) {log : Log cfg}
    (history : History log) (bare : ∀ before event after, log.trace = before ++ event :: after →
      ResumesBare before event) : Resumption log.state log.trace := by
  induction history with
  | refl => exact ⟨by simp [Client.initial], by simp, by simp⟩
  | @step log label prior permitted ih =>
    refine (ih fun before event after split => ?_).step prior few permitted
      (bare log.trace _ [] rfl)
    exact bare before event (after ++ [⟨log.state, label⟩]) (by simp [split])

/-- In every run of a client with enough identities whose resumptions are all bare,
granted filters are sent again only where the broker lost the session. -/
theorem resends_only_lost (cfg : Config) (few : cfg.maxSubscriptions ≤ 65536) (env : Env)
    (application : Script) (bare : ∀ before event after,
      (World.exec cfg env application).trace = before ++ event :: after →
      ResumesBare before event) : ResendsOnlyLost (World.exec cfg env application).trace := by
  have fresh : ∀ before event after filter,
      (World.exec cfg env application).trace = before ++ event :: after →
      event.Resends filter → GrantedHere filter before →
      Since (fun event => event.LosesSession) (fun event => event.EndsSession) before ∧
      ¬ Since (fun event => event.Resumes) (fun event => event.EndsSession) before := by
    intro before event after filter split resends granted
    obtain ⟨earlier, reached, rfl, here, permitted, _⟩ :=
      (World.exec_history cfg env application).cut split
    obtain ⟨c, label⟩ := event
    obtain rfl : c = earlier.state := here
    obtain ⟨⟨now, rfl⟩, subs, subscribes, named⟩ := resends
    have held := reached.resumption few fun before event rest inside =>
      bare before event _ (by rw [split, inside, List.append_assoc, List.cons_append])
    have isBatch : subs = earlier.state.resubRequest := by
      rcases (reached.subscribes_cases subscribes).2 with ⟨_, _, other⟩ | ⟨_, _, same⟩
      · cases other
      · exact same
    subst isBatch
    obtain ⟨asked, member, isFilter⟩ := List.mem_map.mp named
    obtain ⟨s, inBatch, rfl⟩ := List.mem_map.mp member
    obtain rfl : s.filter = filter := isFilter
    have unresumed :
        ¬ Since (fun event => event.Resumes) (fun event => event.EndsSession) earlier.trace :=
      fun resumed => held.fresh resumed s (earlier.state.resubBatch_sublist.subset inBatch)
        (earlier.state.needsResub_of_mem_resubBatch inBatch) granted
    have fits := reached.fits
    rw [show Control.of earlier.trace = .resubscribing from permitted] at fits
    exact ⟨(held.known (.inl fits.2)).resolve_right unresumed, unresumed⟩
  refine ⟨fun before event after filter split resumed resends granted => ?_,
    fun before event after filter split resends granted =>
      (fresh before event after filter split resends granted).1⟩
  obtain ⟨earlier, connack, during, isSplit, ⟨resumes, _⟩, goesOn⟩ := resumed
  exact (fresh before event after filter split resends granted).2
    ⟨earlier, connack, during, isSplit, resumes, goesOn⟩

/-! ## A session the broker kept -/

namespace NeedlessResend

/-- Connect, subscribe to a filter, lose the connection, connect again. -/
def application : Script :=
  .connect { clientId := [97], cleanSession := false } (.step
    (.subscribe [{ filter := [116] }] none (.step (.abort .done
      (.connect { clientId := [97], cleanSession := false } (.step .done))))))

/-- The broker keeps the session. `answers` is what is received after the SUBSCRIBE is
sent. -/
def env (answers : List (Error × Bytes)) : Env where
  opens := [.ok, .ok]
  sends := [(.ok, 15), (.ok, 8), (.ok, 15), (.ok, 8)]
  recvs := [(.ok, [0x20, 2, 0, 0]), (.wouldBlock, [])] ++ answers ++
    [(.wouldBlock, []), (.ok, [0x20, 2, 1, 0])]

/-- The connection is lost before the SUBACK. -/
def ungrantedRun : World .small := World.exec .small (env []) application

/-- The filter is granted first. -/
def run : World .small := World.exec .small (env [(.ok, [0x90, 3, 0, 1, 0])]) application

end NeedlessResend

/-- The resumed session had granted nothing, and the filter is sent again. -/
theorem resends_only_lost_ungranted :
    ResendsOnlyLost NeedlessResend.ungrantedRun.trace ∧
      ∃ event ∈ NeedlessResend.ungrantedRun.trace, event.Resumes ∧
        event.before.subscriptions ≠ [] :=
  ⟨resends_only_lost .small (by decide) (NeedlessResend.env []) NeedlessResend.application
    fun _ _ _ => forall_split (by decide +kernel), by decide +kernel⟩

/-- The broker kept the session with the filter in it, and is asked for it again. -/
theorem granted_filter_resent : ¬ ResendsOnlyLost NeedlessResend.run.trace := by
  intro only
  have resends : (NeedlessResend.run.trace.get ⟨33, by decide +kernel⟩).Resends [116] :=
    ⟨⟨0, by decide +kernel⟩, [{ filter := [116] }],
      ⟨{ bytes := [0x82, 6, 0, 2, 0, 1, 116, 0] }, by decide +kernel, 2, by decide +kernel⟩,
      by decide⟩
  exact only.resumed _ _ _ _ (split_at_position NeedlessResend.run.trace (by decide +kernel))
    (by decide +kernel) resends (by decide +kernel)

end Mqtt
