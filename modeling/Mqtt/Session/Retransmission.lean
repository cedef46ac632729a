import Mqtt.Session.SlotFate

/-!
# Retransmission

An accepted CONNACK schedules a forced pass over the slots, the next pass uses
it up, and nothing else touches the flag. A forced pass takes every slot in
flight, also one that was filled after the CONNACK: a handler that publishes
before the pass has run gets its message sent twice.
-/

namespace Mqtt

open Library

variable {cfg : Config}

namespace Client

variable (c : Client cfg)

/-- The reaction establishes the session and schedules a pass, or touches
neither. -/
def Schedules (reaction : Reaction cfg) : Prop :=
  (reaction.client.state = c.state ∧ reaction.client.retransmitNow = c.retransmitNow) ∨
  (c.state = .awaitingConnack ∧ reaction.client.state = .connected ∧
    reaction.client.retransmitNow = true)

theorem schedules_handlePacket (header : FixedHeader) (body : Bytes) (now : UInt32) :
    c.Schedules (c.handlePacket header body now) := by
  obtain ⟨reaction, handled, outcome⟩ := c.handlePacket_cases header body now
  rw [handled]
  cases outcome with
  | accepted info _ awaiting =>
    refine .inr ⟨awaiting, ?_⟩
    simp only
    split <;> exact ⟨rfl, rfl⟩
  | _ => exact .inl ⟨rfl, rfl⟩

/-- Every way the flag moves. -/
theorem apply_retransmitNow (label : Label) :
    (c.state = .awaitingConnack ∧ (c.apply label).state = .connected ∧
      (c.apply label).retransmitNow = true) ∨
    (((c.apply label).state = .connected → c.state = .connected) ∧
      ((∃ now, label = .retransmit now ∧ (c.apply label).retransmitNow = false) ∨
        (c.apply label).retransmitNow = c.retransmitNow ∧ ∀ now, label ≠ .retransmit now)) := by
  cases label with
  | handle header body now =>
    rcases c.schedules_handlePacket header body now with ⟨state, flag⟩ | established
    · exact .inr ⟨fun up => state.symm.trans up, .inr ⟨flag, by simp⟩⟩
    · exact .inl established
  | retransmit now =>
    obtain ⟨_, _, _, _, same, _⟩ := c.pumpRetransmit_cases now
    exact .inr (by simp [apply, react, same])
  | connect opts now =>
    have flag : (c.prepare opts).retransmitNow = c.retransmitNow := by
      unfold prepare
      split <;> simp [resetSessionState, markAllForResub]
    have state := (c.prepare_frame opts).1
    rcases c.connect_cases opts now with
      ⟨_, _, same⟩ | ⟨_, _, _, _, _, same⟩ | ⟨_, _, _, _, same⟩ <;>
      simp [apply, react, same, refuse, opened, flag, state]
  | disconnect =>
    rcases c.disconnect_cases with ⟨_, same⟩ | ⟨up, _, _, _, same⟩ | ⟨_, _, _, same⟩ <;>
      simp [apply, react, same, refuse, shutdown, teardown, markAllForResub]
  | publish topic payload qos retain now =>
    rcases c.publish_cases topic payload qos retain now with
      ⟨_, _, _, _, _, _, _, same⟩ | ⟨_, _, _, _, _, same⟩ |
        ⟨_, _, _, _, _, _, _, _, _, _, _, _, _, _, _, _, _, same⟩ <;>
      simp [apply, react, same, refuse]
  | subscribe subs handler now =>
    rcases c.subscribe_cases subs handler now with
      ⟨_, _, _, _, _, same⟩ | ⟨_, _, _, _, _, _, _, tx, _, same⟩
    · simp [apply, react, same, refuse]
    · obtain ⟨_, _, _, _, shape⟩ := c.subscribed_shape subs handler tx now
      simp [apply, react, same, shape]
  | unsubscribe filters now =>
    rcases c.unsubscribe_cases filters now with
      ⟨_, _, _, _, _, same⟩ | ⟨_, _, _, _, _, _, _, same⟩ <;>
      simp [apply, react, same, refuse]
  | keepAlive now =>
    rcases c.pumpKeepAlive_cases now with ⟨_, _, _, _, same⟩ | ⟨_, _, _, same⟩ <;>
      simp [apply, react, same]
  | resubscribe now =>
    rcases c.pumpResubscribe_cases now with ⟨_, _, _, same⟩ | ⟨_, _, _, _, tx, _, same⟩
    · simp [apply, react, same]
    · obtain ⟨_, _, _, shape⟩ := c.resubscribed_shape tx now
      simp [apply, react, same, shape]
  | transportConnect result now => by_cases up : result = .ok <;> simp [apply, react, up]
  | send result written now => simp only [apply, react]; split <;> simp
  | recv result bytes now => simp only [apply, react]; split <;> simp
  | _ => simp [apply, react, abort, shutdown, teardown, markAllForResub]

/-- The slot holds a message. -/
def InFlight (index : Nat) : Prop :=
  ∃ slot, c.outbound[index]? = some slot ∧ slot.phase ≠ .free

end Client

/-! ## The contract -/

/-- The clock reading a label that can queue a slot's packet was taken with. -/
def Label.clock : Label → Option UInt32
  | .publish _ _ _ _ now | .handle _ _ now | .retransmit now => some now
  | _ => none

def Label.isPublish : Label → Bool
  | .publish _ _ _ _ _ => true
  | _ => false

/-- The event is the CONNACK that establishes a session. -/
def Library.Entry.Accepts (event : Event cfg) : Prop :=
  event.before.state = .awaitingConnack ∧ (event.before.apply event.label).state = .connected

/-- The event queued a packet for the slot. -/
def Library.Entry.queuesFor (index : Nat) (event : Event cfg) : Bool :=
  event.reaction.queued.any fun packet => packet.slot = some index

/-- The event is a `publish()` that put its message into the slot. -/
def Library.Entry.Fills (index : Nat) (event : Event cfg) : Prop :=
  event.label.isPublish = true ∧ event.queuesFor index = true

instance (index : Nat) (event : Event cfg) : Decidable (event.Fills index) :=
  inferInstanceAs (Decidable (_ ∧ _))

/-- The slot was in flight when this connection's CONNACK was processed, it still
holds that message, and no pass has run since. -/
def CarriedOver (index : Nat) (trace : Trace cfg) : Prop :=
  Since (fun event => event.Accepts ∧ event.before.InFlight index)
    (fun event => event.Accepts ∨ event.Fills index ∨ ∃ now, event.label = .retransmit now) trace

/-- The clock reading of the last event that queued a packet for the slot. -/
def lastEnqueue (index : Nat) (trace : Trace cfg) : Option UInt32 :=
  trace.foldl (fun last event => if event.queuesFor index then event.label.clock else last) none

/-- A pass copies a slot at most once, and only if it was carried over and this is
the first pass, or its retry interval has elapsed. -/
def CopiesJustified (trace : Trace cfg) : Prop :=
  ∀ before event after now, trace = before ++ event :: after → event.label = .retransmit now →
    (event.reaction.queued.map (·.slot)).Nodup ∧
    ∀ copy ∈ event.reaction.queued, ∃ index, copy.slot = some index ∧
      (CarriedOver index before ∨
        cfg.retryIntervalMs ≠ 0 ∧ ∃ last, lastEnqueue index before = some last ∧
          cfg.retryIntervalMs ≤ elapsedMs now last)

/-- A `publish()` queues its PUBLISH once, and on that connection only the PUBREL
follows for its slot until the slot is filled again. -/
def PublishedOnce (trace : Trace cfg) : Prop :=
  ∀ before first rest index, trace = before ++ first :: rest → first.Fills index →
    ∃ topic payload qos retain now id,
      first.label = .publish topic payload qos retain now ∧
      first.reaction.packetId = some id ∧
      first.reaction.queued =
        [{ slot := some index, bytes := publishPacket topic payload qos retain false id }] ∧
      ∀ middle second after, rest = middle ++ second :: after →
        (∀ event ∈ middle, ¬ event.EndsSession) → (∀ event ∈ middle, ¬ event.Fills index) →
        ¬ second.Fills index → ∀ packet ∈ second.reaction.queued, packet.slot = some index →
          packet.bytes = ackPacket .pubrel id

/-- A QoS 1 or 2 message published between a CONNACK and the pass it scheduled. -/
def Library.Entry.publishesEarly (event : Event cfg) : Bool :=
  match event.label with
  | .publish _ _ qos _ _ =>
    qos ≠ .atMostOnce && event.before.state = .connected && event.before.retransmitNow
  | _ => false

/-! ## Why it holds -/

open Client

section Step

variable {c : Client cfg} {label : Label} {index : Nat}

theorem queuesFor_of_untagged (untagged : c.Untagged label index) :
    Entry.queuesFor index ⟨c, label⟩ = false := by
  simp only [Entry.queuesFor, Entry.reaction, List.any_eq_false, decide_eq_true_eq]
  exact untagged

theorem queuesFor_of_mem {packet : Queued} (member : packet ∈ (c.react label).queued)
    (tagged : packet.slot = some index) : Entry.queuesFor index ⟨c, label⟩ = true := by
  simp only [Entry.queuesFor, Entry.reaction, List.any_eq_true, decide_eq_true_eq]
  exact ⟨packet, member, tagged⟩

/-- What filling a slot involves. -/
theorem fills_cases (sized : c.SlotsSized) (fills : Entry.Fills index ⟨c, label⟩) :
    ∃ topic payload qos retain now slot id,
      label = .publish topic payload qos retain now ∧ c.state = .connected ∧ qos ≠ .atMostOnce ∧
      c.outbound[index]? = some slot ∧ slot.phase = .free ∧
      (c.apply label).outbound = c.outbound.set index
        (filledSlot slot (publishPacket topic payload qos retain false id) qos id now) ∧
      (c.react label).queued =
        [{ slot := some index, bytes := publishPacket topic payload qos retain false id }] ∧
      (c.react label).packetId = some id := by
  obtain ⟨isPublish, queues⟩ := fills
  obtain ⟨topic, payload, qos, retain, now, rfl⟩ :
      ∃ topic payload qos retain now, label = .publish topic payload qos retain now := by
    cases label <;> simp_all [Label.isPublish]
  simp only [Entry.queuesFor, Entry.reaction, List.any_eq_true, decide_eq_true_eq] at queues
  obtain ⟨packet, member, tagged⟩ := queues
  cases c.apply_outboundEffect sized (.publish topic payload qos retain now) with
  | kept aloof => simp [aloof.untracked packet member] at tagged
  | scribbled _ _ _ _ _ _ _ quiet => simp [quiet] at member
  | filled topic' payload' qos' retain' now' other slot id bytes same up tracked _ here isFree _ _
      isPacket _ changed queued returned =>
    subst isPacket
    obtain ⟨rfl, rfl, rfl, rfl, rfl⟩ : topic = topic' ∧ payload = payload' ∧ qos = qos' ∧
      retain = retain' ∧ now = now' := by simpa using same
    obtain rfl : other = index := by
      rw [queued, List.mem_singleton] at member
      simpa [member] using tagged
    exact ⟨topic, payload, qos, retain, now, slot, id, rfl, up, tracked, here, isFree, changed,
      queued, returned⟩
  | advanced _ _ _ _ _ _ isHandle => cases isHandle
  | repeated _ _ _ _ _ _ isHandle => cases isHandle
  | completed _ _ _ _ _ _ isHandle => cases isHandle
  | passed _ isPass => cases isPass
  | discarded discards => rcases discards with ⟨_, _, same, _⟩ | ⟨_, same | same | ⟨_, same⟩⟩ <;>
    cases same

theorem Client.SlotFate.inFlight {after : OutboundSlot} (fate : c.SlotFate label index after)
    (stillFlying : after.phase ≠ .free) (notFilled : ¬ Entry.Fills index ⟨c, label⟩) :
    ∃ slot, c.outbound[index]? = some slot ∧ slot.phase ≠ .free ∧ slot.packetId = after.packetId := by
  cases fate with
  | untouched here => exact ⟨after, here, stillFlying, rfl⟩
  | filled topic payload qos retain now _ _ isPublish _ _ _ _ _ _ _ queued =>
    refine absurd ⟨by rw [isPublish]; rfl, ?_⟩ notFilled
    exact queuesFor_of_mem (by rw [queued]; exact List.mem_singleton.mpr rfl) rfl
  | advanced _ _ _ slot _ _ _ here waiting outcome =>
    refine ⟨slot, here, by simp [waiting], ?_⟩
    rcases outcome with ⟨rfl, _⟩ | ⟨_, rfl, _⟩ <;> rfl
  | repeated _ _ _ slot _ _ here waiting isAfter =>
    exact ⟨slot, here, by simp [waiting], by rw [isAfter]⟩
  | marked _ slot _ here due isAfter =>
    exact ⟨slot, here, phase_of_due due, by rw [isAfter, packetId_markDup]⟩
  | copied _ slot _ here due isAfter =>
    exact ⟨slot, here, phase_of_due due, by rw [isAfter, packetId_markDup]⟩

end Step

theorem lastEnqueue_snoc (index : Nat) (trace : Trace cfg) (event : Event cfg) :
    lastEnqueue index (trace ++ [event]) =
      if event.queuesFor index then event.label.clock else lastEnqueue index trace := by
  simp [lastEnqueue]

section

variable {log : Log cfg} (history : History log)

include history

/-- A slot in flight is stamped with the clock of its last enqueue. -/
theorem History.lastEnqueue_slot :
    ∀ index slot, log.state.outbound[index]? = some slot → slot.phase ≠ .free →
      lastEnqueue index log.trace = some slot.lastSentMs := by
  refine history.invariant
    (fun log => ∀ index slot, log.state.outbound[index]? = some slot → slot.phase ≠ .free →
      lastEnqueue index log.trace = some slot.lastSentMs)
    (fun log label prior permitted stamped => ?_) ?_
  · intro index after there inFlight
    simp only [Logged.perform_trace, Logged.perform_state, lastEnqueue_snoc] at there ⊢
    have queued : ∀ {packet : Queued}, packet ∈ (log.state.react label).queued →
        packet.slot = some index → Entry.queuesFor index ⟨log.state, label⟩ = true :=
      queuesFor_of_mem
    cases slot_cases prior.slotsSized there inFlight with
    | untouched here untagged =>
      rw [queuesFor_of_untagged untagged]
      exact stamped index after here inFlight
    | filled topic payload qos retain now slot id isPublish _ _ _ _ _ _ isAfter single =>
      rw [queued (by rw [single]; exact List.mem_singleton.mpr rfl) rfl, isPublish, isAfter]
      rfl
    | advanced header body now slot isHandle _ _ here waiting outcome =>
      rcases outcome with ⟨rfl, single⟩ | ⟨_, rfl, quiet⟩
      · rw [queued (by rw [single]; exact List.mem_singleton.mpr rfl) rfl, isHandle]
        rfl
      · rw [queuesFor_of_untagged (untagged_of_quiet quiet)]
        exact stamped index slot here (by simp [waiting])
    | repeated header body now slot isHandle _ here waiting isAfter single =>
      rw [queued (by rw [single]; exact List.mem_singleton.mpr rfl) rfl, isHandle, isAfter]
      rfl
    | marked now slot isPass here due isAfter untagged =>
      rw [queuesFor_of_untagged untagged, isAfter, lastSentMs_markDup]
      exact stamped index slot here (phase_of_due due)
    | copied now slot isPass here due isAfter copy =>
      rw [queued copy rfl, isPass, isAfter]
      rfl
  · intro index slot here inFlight
    have member := List.mem_of_getElem? here
    simp only [Client.initial, List.mem_replicate] at member
    exact absurd (by rw [member.2]) inFlight

/-- If no message is published early, a slot in flight while a pass is scheduled
was carried over. -/
theorem History.carriedOver (patient : ∀ event ∈ log.trace, event.publishesEarly = false)
    (up : log.state.state = .connected) (scheduled : log.state.retransmitNow = true) {index : Nat}
    (inFlight : log.state.InFlight index) : CarriedOver index log.trace := by
  refine Logged.Reaches.invariant_of
    (fun event : Event cfg => event.publishesEarly = false)
    (fun log => log.state.state = .connected → log.state.retransmitNow = true →
      ∀ index, log.state.InFlight index → CarriedOver index log.trace)
    (fun log label prior permitted patient carried up scheduled index inFlight => ?_)
    history rfl patient (by simp [Client.initial]) up scheduled index inFlight
  obtain ⟨after, there, flying⟩ := inFlight
  have sized := History.slotsSized prior
  simp only [Logged.perform_trace, Logged.perform_state] at up scheduled there ⊢
  have fate := slot_cases sized there flying
  have unfilled : log.state.state = .connected → log.state.retransmitNow = true →
      ¬ Entry.Fills index ⟨log.state, label⟩ := by
    rintro isUp isScheduled fills
    obtain ⟨topic, payload, qos, retain, now, _, _, rfl, _, tracked, _⟩ := fills_cases sized fills
    simp [Entry.publishesEarly, isUp, isScheduled, tracked] at patient
  rw [CarriedOver, since_snoc, ← CarriedOver]
  rcases log.state.apply_retransmitNow label with ⟨awaiting, _, _⟩ | ⟨stayed, used | ⟨flag, other⟩⟩
  · have notFilled : ¬ Entry.Fills index ⟨log.state, label⟩ := by
      intro fills
      obtain ⟨_, _, _, _, _, _, _, _, isUp, _⟩ := fills_cases sized fills
      exact absurd (awaiting.symm.trans isUp) (by simp)
    obtain ⟨slot, here, busy, _⟩ := fate.inFlight flying notFilled
    exact .inl ⟨⟨awaiting, up⟩, slot, here, busy⟩
  · obtain ⟨_, _, cleared⟩ := used
    exact absurd (scheduled.symm.trans cleared) (by simp)
  · have wasUp := stayed up
    have wasScheduled := flag.symm.trans scheduled
    have notFilled := unfilled wasUp wasScheduled
    obtain ⟨slot, here, busy, _⟩ := fate.inFlight flying notFilled
    refine .inr ⟨carried wasUp wasScheduled index ⟨slot, here, busy⟩, ?_⟩
    rintro (⟨awaiting, _⟩ | fills | ⟨now, isPass⟩)
    · exact absurd (wasUp.symm.trans awaiting) (by simp)
    · exact notFilled fills
    · exact other now isPass

/-- A pass runs in an established session only. -/
theorem History.connected_of_pass
    {now : UInt32} (permitted : Permitted log (.retransmit now)) : log.state.state = .connected := by
  have fits := history.fits
  rw [show Control.of log.trace = .retransmitting from permitted] at fits
  exact fits.2

/-- Why a pass copied a slot. -/
theorem History.copy_cases (patient : ∀ event ∈ log.trace, event.publishesEarly = false)
    {now : UInt32} (permitted : Permitted log (.retransmit now)) {copy : Queued}
    (member : copy ∈ (log.state.react (.retransmit now)).queued) :
    ∃ index, copy.slot = some index ∧
      (CarriedOver index log.trace ∨
        cfg.retryIntervalMs ≠ 0 ∧ ∃ last, lastEnqueue index log.trace = some last ∧
          cfg.retryIntervalMs ≤ elapsedMs now last) := by
  obtain ⟨tx, outbound, copies, readClock, same, _, pass⟩ := log.state.pumpRetransmit_cases now
  rw [show log.state.react (.retransmit now) = _ from same] at member
  obtain ⟨index, slot, _, here, due, rfl, _⟩ := pass.due copy member
  refine ⟨index, rfl, ?_⟩
  have inFlight := phase_of_due due
  simp only [retransmitDue, Bool.and_eq_true, Bool.or_eq_true, decide_eq_true_eq,
    Bool.not_eq_true', decide_eq_false_iff_not, UInt32.not_lt] at due
  rcases due.2 with forced | ⟨timed, elapsed⟩
  · exact .inl (history.carriedOver patient (history.connected_of_pass permitted) forced
      ⟨slot, here, inFlight⟩)
  · exact .inr ⟨timed, slot.lastSentMs, history.lastEnqueue_slot index slot here inFlight, elapsed⟩

end

/-- What holds on a connection from a `publish()` on, until its slot is filled
again. -/
structure Departed (index : Nat) (id : UInt16) (log : Log cfg) : Prop where
  established : log.state.state = .connected ∨ log.state.state = .disconnecting
  fresh : ¬ CarriedOver index log.trace
  named : ∀ slot, log.state.outbound[index]? = some slot → slot.phase ≠ .free → slot.packetId = id

theorem Departed.step {log : Log cfg} {index : Nat} {id : UInt16} {label : Label}
    (departed : Departed index id log) (history : History log) (permitted : Permitted log label)
    (goesOn : ¬ Entry.EndsSession ⟨log.state, label⟩)
    (notFilled : ¬ Entry.Fills index ⟨log.state, label⟩) :
    Departed index id (log.perform Client.apply label) where
  established := by
    rcases log.state.apply_state_cases label with
      same | ⟨_, _, _, idle, _⟩ | ⟨_, _, _, moved⟩ | ⟨_, down⟩ | ⟨now, rfl, moved⟩ |
        ⟨_, _, _, _, _, up⟩
    · exact departed.established.imp same.trans same.trans
    · rcases departed.established with up | leaving <;> simp_all
    · exact .inr moved
    · exact absurd down goesOn
    · have fits := history.fits
      rw [show Control.of log.trace = .opening from permitted] at fits
      rcases departed.established with up | leaving <;> simp_all [Control.Fits]
    · exact .inl up
  fresh := by
    simp only [Logged.perform_trace]
    rw [CarriedOver, since_snoc, ← CarriedOver]
    rintro (⟨⟨awaiting, _⟩, _⟩ | ⟨carried, _⟩)
    · rcases departed.established with up | leaving <;> simp_all
    · exact departed.fresh carried
  named slot there inFlight := by
    obtain ⟨before, here, busy, same⟩ := (slot_cases history.slotsSized there
      inFlight).inFlight inFlight notFilled
    exact same.symm.trans (departed.named before here busy)

/-- What is queued for such a slot without filling it again is its PUBREL, unless
a pass copies it. -/
theorem Departed.queued {log : Log cfg} {index : Nat} {id : UInt16}
    {label : Label} (departed : Departed index id log) (history : History log)
    (notFilled : ¬ Entry.Fills index ⟨log.state, label⟩) (noPass : ∀ now, label ≠ .retransmit now)
    {packet : Queued} (member : packet ∈ (log.state.react label).queued)
    (tagged : packet.slot = some index) : packet.bytes = ackPacket .pubrel id := by
  cases log.state.apply_outboundEffect history.slotsSized label with
  | kept aloof => simp [aloof.untracked packet member] at tagged
  | scribbled _ _ _ _ _ _ _ quiet => simp [quiet] at member
  | filled topic payload qos retain now _ _ _ _ isPublish =>
    exact absurd ⟨by rw [isPublish]; rfl, queuesFor_of_mem member tagged⟩ notFilled
  | advanced _ _ _ answered other slot _ _ _ here named waiting outcome =>
    rcases outcome with ⟨_, _, queued⟩ | ⟨_, _, quiet⟩
    · rw [queued, List.mem_singleton] at member
      subst member
      obtain rfl : other = index := by simpa using tagged
      rw [← named, departed.named slot here (by simp [waiting])]
    · simp [quiet] at member
  | repeated _ _ _ _ other slot _ _ _ here _ waiting outcome =>
    rcases outcome with ⟨_, _, queued⟩ | ⟨_, _, quiet⟩
    · rw [queued, List.mem_singleton] at member
      subst member
      obtain rfl : other = index := by simpa using tagged
      rw [← departed.named slot here (by simp [waiting])]
      exact history.slots (slotRule_pubrel cfg) slot (List.mem_of_getElem? here) waiting
    · simp [quiet] at member
  | completed _ _ _ _ _ _ _ _ _ _ _ _ quiet => simp [quiet] at member
  | passed now isPass => exact absurd isPass (noPass now)
  | discarded _ _ untracked => simp [untracked packet member] at tagged

theorem departed_of_fills {log : Log cfg} {index : Nat} {label : Label} {topic payload : Bytes}
    {qos : QoS} {retain : Bool} {now : UInt32} {slot : OutboundSlot} {packet : Bytes}
    {id : UInt16} (fills : Entry.Fills index ⟨log.state, label⟩)
    (isPublish : label = .publish topic payload qos retain now)
    (up : log.state.state = .connected) (changed : (log.state.apply label).outbound =
      log.state.outbound.set index (filledSlot slot packet qos id now)) :
    Departed index id (log.perform Client.apply label) where
  established := by
    subst isPublish
    exact .inl ((log.state.publish_quiet topic payload qos retain now).sameState.trans up)
  fresh := by
    simp only [Logged.perform_trace]
    rw [CarriedOver, since_snoc]
    rintro (⟨⟨awaiting, _⟩, _⟩ | ⟨_, unspoiled⟩)
    · exact absurd (up.symm.trans awaiting) (by simp)
    · exact unspoiled (.inr (.inl fills))
  named slot there _ := by
    rw [Logged.perform_state, changed] at there
    rcases getElem?_set_cases there with ⟨_, rfl⟩ | ⟨different, _⟩
    · rfl
    · exact absurd rfl different

/-- Without a retry interval a message published on a connection goes out once. -/
theorem History.publishedOnce {log : Log cfg} (history : History log)
    (untimed : cfg.retryIntervalMs = 0)
    (patient : ∀ event ∈ log.trace, event.publishesEarly = false) : PublishedOnce log.trace := by
  intro before first rest index split fills
  obtain ⟨start, reached, rfl, here, permitted, onward⟩ := history.cut split
  obtain ⟨firstBefore, label⟩ := first
  obtain rfl : firstBefore = start.state := here
  obtain ⟨topic, payload, qos, retain, now, slot, id, isPublish, up, _, _, _, changed, queued,
    returned⟩ := fills_cases reached.slotsSized fills
  refine ⟨topic, payload, qos, retain, now, id, isPublish, returned, queued, ?_⟩
  rintro middle second after rfl goesOn notFilled secondUnfilled packet member tagged
  obtain ⟨finish, stretch, finishTrace, secondBefore, secondPermitted, _⟩ :=
    @Logged.Reaches.cut _ _ _ _ _ _ onward middle after second (by simp [split])
  have arrived : ∀ {log}, Logged.Reaches Client.apply Permitted
      (start.perform Client.apply label) log → History log :=
    (Logged.Reaches.step reached permitted).trans
  have departed : Departed index id finish := by
    refine Logged.Reaches.invariant_of
      (fun event : Event cfg => ¬ event.EndsSession ∧ ¬ event.Fills index)
      (Departed index id) (fun log label prior permitted meets departed => ?_) stretch finishTrace
      (fun event inside => ⟨goesOn event inside, notFilled event inside⟩)
      (departed_of_fills fills isPublish up changed)
    exact departed.step (arrived prior) permitted meets.1 meets.2
  obtain ⟨secondState, secondLabel⟩ := second
  obtain rfl : secondState = finish.state := secondBefore
  refine departed.queued (arrived stretch) secondUnfilled (fun now isPass => ?_) member tagged
  -- A pass would copy the slot only if it had been carried over.
  obtain rfl : secondLabel = .retransmit now := isPass
  obtain ⟨other, otherTag, carried | ⟨timed, _⟩⟩ := (arrived stretch).copy_cases
    (fun event inside => patient event (by
      rw [split]
      rw [finishTrace] at inside
      simp only [Logged.perform_trace, List.append_assoc, List.singleton_append] at inside
      simp only [List.mem_append, List.mem_cons] at inside ⊢
      tauto)) secondPermitted member
  · obtain rfl : other = index := Option.some.inj (otherTag.symm.trans tagged)
    exact departed.fresh carried
  · exact timed untimed

/-- In a run in which nothing is published between a CONNACK and the pass it
scheduled, every copy is justified, and without a retry interval a message
published on a connection goes out on it once. -/
theorem retransmissions_justified (cfg : Config) (env : Env) (application : Script)
    (patient : ∀ event ∈ (World.exec cfg env application).trace, event.publishesEarly = false) :
    CopiesJustified (World.exec cfg env application).trace ∧
      (cfg.retryIntervalMs = 0 → PublishedOnce (World.exec cfg env application).trace) := by
  have history := World.exec_history cfg env application
  refine ⟨fun before event after now split isPass => ?_,
    fun untimed => history.publishedOnce untimed patient⟩
  obtain ⟨log, reached, rfl, here, permitted, _⟩ := history.cut split
  obtain ⟨state, label⟩ := event
  obtain rfl : state = log.state := here
  obtain rfl : label = .retransmit now := isPass
  refine ⟨?_, fun copy member => reached.copy_cases (fun other inside => patient other (by
    rw [split]
    exact List.mem_append_left _ inside)) permitted member⟩
  obtain ⟨_, _, copies, _, same, _, pass⟩ := log.state.pumpRetransmit_cases now
  simp only [Entry.reaction, Client.react, same]
  exact pass.once

/-! ## A message published in `on_connect` -/

namespace Retransmission

def options : ConnectOptions := { clientId := [97], cleanSession := false }

/-- Connect, publish a QoS 1 message, lose the connection and connect again. -/
def patientApplication : Script :=
  .connect options (.step (.publish [116] [] .atLeastOnce false
    (.step (.connect options (.step .done)))))

def patientEnv : Env where
  opens := [.ok, .ok]
  sends := [(.ok, 15), (.ok, 7), (.ok, 15)]
  recvs := [(.ok, [0x20, 2, 0, 0]), (.wouldBlock, []), (.transportClosed, []),
    (.ok, [0x20, 2, 1, 0])]

/-- Connect; `on_connect` publishes. -/
def application : Script := .connect options (.step .done)

def env : Env where
  opens := [.ok]
  sends := [(.ok, 15)]
  recvs := [(.ok, [0x20, 2, 0, 0])]
  scripts := [.publish [116] [] .atLeastOnce false .done]

def run : World .untimed := World.exec .untimed env application

end Retransmission

theorem retransmissions_justified_reconnect :
    CopiesJustified (World.exec .untimed Retransmission.patientEnv
        Retransmission.patientApplication).trace ∧
      (Config.untimed.retryIntervalMs = 0 → PublishedOnce (World.exec .untimed
        Retransmission.patientEnv Retransmission.patientApplication).trace) :=
  retransmissions_justified .untimed Retransmission.patientEnv Retransmission.patientApplication
    (by decide +kernel)

/-- The message goes out twice in a row, though its slot was free at the CONNACK
and there is no retry interval. -/
theorem published_twice :
    ¬ CopiesJustified Retransmission.run.trace ∧ ¬ PublishedOnce Retransmission.run.trace := by
  have copied : { slot := some 0, bytes := [58, 5, 0, 1, 116, 0, 1] } ∈
      (Retransmission.run.trace.get ⟨11, by decide +kernel⟩).reaction.queued := by decide +kernel
  refine ⟨fun justified => ?_, fun once => ?_⟩
  · have split := split_at_position Retransmission.run.trace
      (show 11 < Retransmission.run.trace.length by decide +kernel)
    obtain ⟨index, tagged, ⟨before, event, after, within, ⟨accepts, slot, here, busy⟩, _⟩ |
      ⟨timed, _⟩⟩ := (justified _ _ _ 0 split (by decide +kernel)).2 _ copied
    · obtain rfl : 0 = index := by simpa using tagged
      have wasFree : ∀ event ∈ Retransmission.run.trace.take 11,
          event.before.state = .awaitingConnack →
            event.before.outbound.map (·.phase) = [.free] := by decide +kernel
      have phases := wasFree event (by simp [within]) accepts.1
      have phase : (event.before.outbound.map (·.phase))[0]? = some slot.phase := by simp [here]
      rw [phases] at phase
      exact busy (by simpa using phase.symm)
    · exact timed rfl
  · have split := split_at_positions Retransmission.run.trace (by decide : 6 < 11)
      (by decide +kernel)
    obtain ⟨_, _, _, _, _, id, _, _, _, later⟩ :=
      once _ _ _ 0 (split.trans (List.append_assoc _ _ _)) (by decide +kernel)
    have short := congrArg List.length (later _ _ _ rfl (by decide +kernel) (by decide +kernel)
      (by decide +kernel) _ copied rfl)
    simp [length_ackPacket] at short

end Mqtt
