import Mqtt.Session.InboundIds

/-!
# New messages after a lost broker session

A CONNACK with `session_present = 0` tells the client that the broker starts
anew: the next PUBLISH under any id is a new message. `handle_connack` marks the
subscriptions for that case and leaves `inbound_ids_` as it is, so a new message
under an id the table still holds is acknowledged and never delivered. Under any
other id it is delivered when it is acknowledged.
-/

namespace Mqtt

open Library

variable {cfg : Config}

/-- The event accepts a CONNACK by which the broker says it has no session. -/
def Library.Entry.LosesSession (event : Event cfg) : Prop :=
  event.reaction.callback = some (.onConnect { code := .accepted, sessionPresent := false })

instance (event : Event cfg) : Decidable event.LosesSession :=
  inferInstanceAs (Decidable (_ = _))

/-- `publish` receives the first QoS 2 PUBLISH with id `k` on a connection whose
CONNACK lost a session that the client had asked to keep. -/
structure FirstAfterLoss (trace : Trace cfg) (connack : Event cfg)
    (middle : Trace cfg) (publish : Event cfg) (k : UInt16) : Prop where
  split : ∃ before after, trace = before ++ connack :: middle ++ publish :: after
  kept : connack.before.cleanSession = false
  lost : connack.LosesSession
  sameConnection : ∀ event ∈ middle, ¬ event.EndsSession
  first : ∀ event ∈ middle, ¬ event.label.ReceivesQos2 k
  received : publish.label.ReceivesQos2 k

/-- An id that is not in the table stays out of it until a PUBLISH brings it. -/
theorem not_mem_inboundIds_of_reaches {start finish : Log cfg} {k : UInt16}
    (reaches : Logged.Reaches Client.apply Permitted start finish) {added : Trace cfg}
    (split : finish.trace = start.trace ++ added)
    (quiet : ∀ event ∈ added, ¬ event.label.ReceivesQos2 k)
    (unknown : k ∉ start.state.inboundIds) : k ∉ finish.state.inboundIds := by
  refine Logged.Reaches.invariant_of
    (fun event : Event cfg => ¬ event.label.ReceivesQos2 k)
    (fun log => k ∉ log.state.inboundIds) (fun log label _ _ quiet unknown => ?_)
    reaches split quiet unknown
  simp only [Logged.perform_state]
  cases log.state.apply_inboundEffect label with
  | kept same => rwa [same]
  | delivered j _ _ added delivery =>
    have other : k ≠ j := fun same => quiet ((delivery k).mpr same).receivesQos2
    simp [added, unknown, other]
  | released j removed => exact removed ▸ fun member => unknown (List.mem_of_mem_erase member)
  | discarded _ emptied => simp [emptied]

/-- The CONNACK itself adds nothing to the table. -/
theorem not_mem_inboundIds_of_losesSession {event : Event cfg} {k : UInt16}
    (lost : event.LosesSession) (unknown : k ∉ event.before.inboundIds) :
    k ∉ (event.before.apply event.label).inboundIds := by
  cases event.before.apply_inboundEffect event.label with
  | kept same => rwa [same]
  | delivered j _ _ _ delivery =>
    obtain ⟨m, dispatched, _⟩ := (delivery j).mpr rfl
    rw [Entry.LosesSession, Entry.reaction, dispatched] at lost
    simp at lost
  | released j removed => exact removed ▸ fun member => unknown (List.mem_of_mem_erase member)
  | discarded _ emptied => simp [emptied]

/-- A release takes the id out of the table. -/
theorem not_mem_inboundIds_of_releases {log : Log cfg} (history : History log)
    {label : Label} {k : UInt16} (releases : log.state.Releases label k) :
    k ∉ (log.state.apply label).inboundIds := by
  cases log.state.apply_inboundEffect label with
  | kept _ _ noRelease => exact absurd releases (noRelease k)
  | delivered _ _ _ _ _ noRelease => exact absurd releases (noRelease k)
  | released j removed _ release =>
    obtain rfl := (release k).mp releases
    simp [removed, history.inboundIds_nodup.mem_erase_iff]
  | discarded _ _ _ noRelease => exact absurd releases (noRelease k)

/-- On a connection that lost its session, a new QoS 2 message that is answered
with a PUBREC is delivered, provided the table did not hold its id when the
CONNACK came, or its PUBREL has been processed since. -/
theorem first_after_loss_delivered (cfg : Config) (env : Env) (application : Script)
    {connack publish : Event cfg} {middle : Trace cfg} {k : UInt16}
    (first : FirstAfterLoss (World.exec cfg env application).trace connack middle publish k)
    (notRemembered : k ∉ connack.before.inboundIds ∨
      ∃ event ∈ middle, event.before.Releases event.label k)
    (acknowledged : { bytes := ackPacket .pubrec k } ∈ publish.reaction.queued) :
    publish.before.Delivers publish.label k := by
  obtain ⟨before, after, split⟩ := first.split
  have history := World.exec_history cfg env application
  have unknown : k ∉ publish.before.inboundIds := by
    rcases notRemembered with unknown | ⟨event, member, releases⟩
    · obtain ⟨start, finish, _, _, here, _, onward, trace, there, _⟩ := history.between split
      rw [there]
      exact not_mem_inboundIds_of_reaches onward trace first.first
        (by simpa [here] using not_mem_inboundIds_of_losesSession first.lost unknown)
    · obtain ⟨early, late, rfl⟩ := List.append_of_mem member
      obtain ⟨start, finish, reached, _, here, _, onward, trace, there, _⟩ :=
        @History.between _ _ history (before ++ connack :: early) late after event publish
          (split.trans (by simp))
      rw [there]
      refine not_mem_inboundIds_of_reaches onward trace
        (fun event member => first.first event (by simp [member])) ?_
      exact not_mem_inboundIds_of_releases reached (here ▸ releases)
  obtain ⟨m, received, _⟩ := first.received.exists
  obtain ⟨header, body, now, handled, isPublish, _⟩ := Label.received_eq_some received
  rw [Entry.reaction, handled] at acknowledged
  rw [handled]
  exact (Client.acknowledges_cases isPublish acknowledged).resolve_right unknown

/-! ## A run that swallows a message -/

namespace LostSession

/-- CONNACK without a session, then a QoS 2 PUBLISH with id 1. -/
def answer : Bytes := [0x20, 2, 0, 0, 0x34, 5, 0, 1, 116, 0, 1]

/-- The broker answers, the connection is lost, and the broker answers again. -/
def env : Env where
  opens := [.ok, .ok]
  sends := [(.ok, 15), (.ok, 4), (.ok, 15)]
  recvs := [(.ok, answer), (.wouldBlock, []), (.transportClosed, []), (.ok, answer)]

def options : ConnectOptions := { clientId := [97], cleanSession := false }

/-- Connect, step until the connection is lost, and do it again. -/
def application : Script :=
  .connect options (.step (.step (.connect options (.step .done))))

def run : World .small := World.exec .small env application

/-- The second time, a PUBREL for id 1 comes before the PUBLISH. -/
def releasing : Env :=
  { env with
    recvs := [(.ok, answer), (.wouldBlock, []), (.transportClosed, []),
      (.ok, [0x20, 2, 0, 0, 0x62, 2, 0, 1, 0x34, 5, 0, 1, 116, 0, 1])] }

def released : World .small := World.exec .small releasing application

end LostSession

/-- The table held the id when the CONNACK came, and the message after the PUBREL is delivered. -/
theorem first_after_loss_delivered_run :
    1 ∈ (LostSession.released.trace.get ⟨25, by decide +kernel⟩).before.inboundIds ∧
      (LostSession.released.trace.get ⟨29, by decide +kernel⟩).before.Delivers
        (LostSession.released.trace.get ⟨29, by decide +kernel⟩).label 1 :=
  ⟨by decide +kernel, first_after_loss_delivered .small LostSession.releasing
    LostSession.application
    ⟨⟨_, _, split_at_positions LostSession.released.trace (by decide : 25 < 29)
    (by decide +kernel)⟩,
      by decide +kernel, by decide +kernel, by decide +kernel, by decide +kernel,
      by decide +kernel⟩
    (.inr ⟨_, List.get_mem _ ⟨1, by decide +kernel⟩, _, _, _, rfl, by decide +kernel,
      by decide +kernel, by decide +kernel⟩) (by decide +kernel)⟩

/-- The message after the reconnect has the same id: it is new to the broker, and
it is acknowledged without having been delivered. -/
theorem first_after_loss_swallowed :
    ∃ connack middle publish,
      FirstAfterLoss LostSession.run.trace connack middle publish 1 ∧
      { bytes := ackPacket .pubrec 1 } ∈ publish.reaction.queued ∧
      publish.reaction.callback = none := by
  refine ⟨_, _, _, ⟨⟨_, _, split_at_positions LostSession.run.trace (by decide : 25 < 27)
    (by decide +kernel)⟩, ?_, ?_, ?_, ?_, ?_⟩, ?_, ?_⟩
  all_goals decide +kernel

end Mqtt
