import Mqtt.Session.LostSession
import Mqtt.Session.Slots

/-!
# After the DISCONNECT is queued

A session whose DISCONNECT is queued is over for the client, yet it keeps
receiving until the queue has drained. No call and no timer queues anything in
that state, and no packet but two: a PUBREL and the PUBREC of a message in
flight are answered without a look at the state.
-/

namespace Mqtt

open Library

variable {cfg : Config}

/-- The label hands over a packet that is answered in every state: a PUBREL, or
the PUBREC of a message in flight, with room for the answer. -/
def Client.answers (c : Client cfg) : Label → Bool
  | .handle header body _ =>
    match decodePacketId body with
    | .error _ => false
    | .ok id => decide (c.HasRoom 4) && (header.type = .pubrel || (header.type = .pubrec &&
        c.outbound.any fun slot => slot.packetId = id &&
          (slot.phase = .waitPubrec || slot.phase = .waitPubcomp)))
  | _ => false

/-- The event is a `disconnect()` that queued its DISCONNECT. -/
def Library.Entry.QueuesDisconnect (event : Event cfg) : Prop :=
  event.label = .disconnect ∧ event.reaction.queued = [{ bytes := emptyPacket .disconnect }]

instance (event : Event cfg) : Decidable event.QueuesDisconnect :=
  inferInstanceAs (Decidable (_ ∧ _))

/-- The history's last DISCONNECT belongs to a session that has not ended. -/
def Departing (trace : Trace cfg) : Prop :=
  Since (fun event => event.QueuesDisconnect) (fun event => event.EndsSession) trace

namespace Client

variable {c : Client cfg}

/-- While disconnecting, a packet is answered only as `answers` says. -/
theorem handle_queued_of_disconnecting {header : FixedHeader} {body : Bytes} {now : UInt32}
    (closing : c.state = .disconnecting) (pubrels : ∀ slot ∈ c.outbound, slot.phase = .waitPubcomp →
      slot.stored = ackPacket .pubrel slot.packetId)
    (unanswered : c.answers (.handle header body now) = false) :
    (c.react (.handle header body now)).queued = [] := by
  obtain ⟨reaction, handled, outcome⟩ := c.handlePacket_cases header body now
  rw [show c.react (.handle header body now) = reaction from handled]
  -- A PUBREC that finds its slot is one of the answers.
  have pubrec : ∀ id slot, header.type = .pubrec → decodePacketId body = .ok id →
      slot ∈ c.outbound → slot.packetId = id →
      slot.phase = .waitPubrec ∨ slot.phase = .waitPubcomp → ¬ c.HasRoom 4 := by
    intro id slot isPubrec decoded member named waits room
    simp only [answers, decoded, room, isPubrec, decide_true, Bool.true_and, reduceCtorEq,
      decide_false, Bool.false_or, List.any_eq_false, Bool.and_eq_true, decide_eq_true_eq,
      Bool.or_eq_true, not_and] at unanswered
    exact absurd waits (unanswered slot member named)
  cases outcome with
  | acknowledged m tx isPublish up | recorded m tx isPublish up | recognized m tx isPublish up =>
    simp [closing] at up
  | released id tx isPubrel decoded room => simp [answers, decoded, room, isPubrel] at unanswered
  | advanced id index slot tx isPubrec decoded here named waiting room =>
    exact absurd room
      (pubrec id slot isPubrec decoded (List.mem_of_getElem? here) named (.inl waiting))
  | repeated id index slot tx isPubrec decoded here named waiting room =>
    have member := List.mem_of_getElem? here
    rw [pubrels slot member waiting, length_ackPacket] at room
    exact absurd room (pubrec id slot isPubrec decoded member named (.inr waiting))
  | _ => rfl

end Client

/-- While disconnecting, nothing is queued except as `answers` says. -/
theorem History.queued_of_disconnecting {log : Log cfg} (history : History log) {label : Label}
    (permitted : Permitted log label) (closing : log.state.state = .disconnecting)
    (unanswered : log.state.answers label = false) : (log.state.react label).queued = [] := by
  by_cases packet : ∃ header body now, label = .handle header body now
  · obtain ⟨header, body, now, rfl⟩ := packet
    exact Client.handle_queued_of_disconnecting closing (history.slots (slotRule_pubrel cfg))
      unanswered
  · push Not at packet
    rcases history.inert_of_down permitted (by simp [closing]) (by simp [closing]) packet with
      inert | ⟨tx, reason, same⟩
    · exact inert.queued
    · simp [same, Client.shutdown]

/-- A queued DISCONNECT stands behind what was waiting. -/
theorem Library.Entry.QueuesDisconnect.after {event : Event cfg} (queues : event.QueuesDisconnect) :
    (event.before.apply event.label).state = .disconnecting ∧
      (event.before.apply event.label).tx.peek =
        event.before.tx.peek ++ emptyPacket .disconnect := by
  obtain ⟨isDisconnect, queued⟩ := queues
  rw [Entry.reaction, isDisconnect] at queued
  rw [isDisconnect]
  rcases event.before.disconnect_cases with ⟨_, same⟩ | ⟨_, _, _, peek, same⟩ | ⟨_, _, _, same⟩
  · simp [Client.react, same, Client.refuse] at queued
  · simp [Client.apply, Client.react, same, peek]
  · simp [Client.react, same, Client.shutdown] at queued

/-- A departing session is in `Disconnecting`. -/
theorem History.disconnecting_of_departing {log : Log cfg} (history : History log)
    (departing : Departing log.trace) : log.state.state = .disconnecting := by
  refine history.invariant (fun log => Departing log.trace → log.state.state = .disconnecting)
    (fun log label prior permitted ih departing => ?_) (by simp [Departing]) departing
  simp only [Departing, Logged.perform_trace, since_snoc] at departing
  simp only [Logged.perform_state]
  rcases departing with queues | ⟨earlier, goesOn⟩
  · exact queues.after.1
  · have closing := ih earlier
    rcases log.state.apply_state_cases label with
      same | ⟨_, _, _, idle, _⟩ | ⟨_, up, _⟩ | ⟨_, idle⟩ | ⟨now, rfl, _⟩ | ⟨_, _, _, _, awaiting, _⟩
    · exact same.trans closing
    · simp [closing] at idle
    · simp [closing] at up
    · exact absurd idle goesOn
    · have opening : Control.of log.trace = .opening := permitted
      have fits := prior.fits
      rw [opening] at fits
      simp [fits.2] at closing
    · simp [closing] at awaiting

/-- Nothing is queued behind a DISCONNECT on its connection. -/
def NothingFollowsDisconnect (trace : Trace cfg) : Prop :=
  ∀ before event after, trace = before ++ event :: after → Departing before →
    event.reaction.queued = []

/-- In a run that hands over no PUBREL and no PUBREC to be answered while
disconnecting, nothing follows a DISCONNECT. -/
theorem nothing_follows_disconnect (cfg : Config) (env : Env) (application : Script)
    (unanswered : ∀ event ∈ (World.exec cfg env application).trace,
      event.before.state = .disconnecting → event.before.answers event.label = false) :
    NothingFollowsDisconnect (World.exec cfg env application).trace := by
  intro before event after split departing
  obtain ⟨earlier, history, rfl, here, permitted, _⟩ :=
    (World.exec_history cfg env application).cut split
  have closing := history.disconnecting_of_departing departing
  rw [Entry.reaction, here]
  refine history.queued_of_disconnecting permitted closing ?_
  have member : event ∈ (World.exec cfg env application).trace := by simp [split]
  exact here ▸ unanswered event member (here ▸ closing)

/-! ## A run that answers after its DISCONNECT -/

namespace Disconnecting

def options : ConnectOptions := { clientId := [97] }

/-- Connect, publish a message, disconnect, and step once more. -/
def application (qos : QoS) : Script :=
  .connect options (.step (.publish [116] [] qos false (.disconnect .done (.step .done))))

/-- The transport takes the CONNECT and nothing else. The message is acknowledged behind the
DISCONNECT. -/
def env (acknowledgement : Bytes) : Env where
  opens := [.ok]
  sends := [(.ok, 15)]
  recvs := [(.ok, [0x20, 2, 0, 0]), (.wouldBlock, []), (.ok, acknowledgement)]

/-- A QoS 1 message gets its PUBACK. -/
def settled : World .small := World.exec .small (env [0x40, 2, 0, 1]) (application .atLeastOnce)

/-- A QoS 2 message gets its PUBREC. -/
def run : World .small := World.exec .small (env [0x50, 2, 0, 1]) (application .exactlyOnce)

end Disconnecting

/-- The PUBACK is handled while Disconnecting, and nothing is sent for it. -/
theorem nothing_follows_disconnect_quiet :
    (∃ event ∈ Disconnecting.settled.trace, event.before.state = .disconnecting ∧
      event.reaction.callback = some (.onDelivery 1)) ∧
      NothingFollowsDisconnect Disconnecting.settled.trace :=
  ⟨by decide +kernel, nothing_follows_disconnect .small (Disconnecting.env [0x40, 2, 0, 1])
    (Disconnecting.application .atLeastOnce) (by decide +kernel)⟩

/-- The PUBREC is answered with a PUBREL behind the DISCONNECT. -/
theorem pubrel_follows_disconnect : ¬ NothingFollowsDisconnect Disconnecting.run.trace := by
  intro follows
  have split := split_at_positions Disconnecting.run.trace (by decide : 13 < 17)
    (by decide +kernel)
  have quiet := follows _ _ _ split ⟨_, _, _, rfl, by decide +kernel, by decide +kernel⟩
  exact absurd quiet (by decide +kernel)

end Mqtt
