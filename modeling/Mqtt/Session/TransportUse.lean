import Mqtt.Library.Since
import Mqtt.Wire.Framing
import Mqtt.Client.Places

/-!
# Transport discipline

The transport is open from a `Transport::connect()` that returned `Ok` to the
next `Transport::close()`, and it is open exactly while the client's state says
that a connection is up. `step()` sends and receives in that state only, with
one exception: a handler that hard-closes the session through `disconnect()`
leaves `last_error_` at `Ok`, so `drain_rx` reports success and `pump_rx` goes on
to receive.
-/

namespace Mqtt

open Library

variable {cfg : Config}

namespace Client

/-- The states in which a connection is up. -/
def isLive (c : Client cfg) : Bool :=
  c.state = .awaitingConnack || c.state = .connected || c.state = .disconnecting

/-- Whether the label runs `shutdown()`, which closes the transport. -/
def closesTransport (c : Client cfg) : Label → Bool
  | .abort | .shutdown _ => true
  | .disconnect => c.state ≠ .idle && !(c.state = .connected && decide (c.HasRoom 2))
  | _ => false

end Client

/-- The label is a `Transport::connect()` that succeeded. -/
def Label.opensTransport : Label → Bool
  | .transportConnect result _ => result = .ok
  | _ => false

/-- The label is a call of `Transport::send` or `Transport::recv`. -/
def Label.usesTransport : Label → Bool
  | .send _ _ _ | .recv _ _ _ => true
  | _ => false

/-- The transport is open at the end of the history. -/
def TransportOpen (trace : Trace cfg) : Prop :=
  Since (fun event => event.label.opensTransport = true)
    (fun event => event.before.closesTransport event.label = true) trace

/-- The transport is used only while it is open. -/
def TransportDisciplined (trace : Trace cfg) : Prop :=
  ∀ before event after, trace = before ++ event :: after → event.label.usesTransport = true →
    TransportOpen before

namespace Client

variable (c : Client cfg)

theorem isLive_iff : c.isLive = true ↔ c.state ≠ .idle ∧ c.state ≠ .connecting := by
  unfold isLive
  cases c.state <;> simp

theorem isLive_of_state {c d : Client cfg} (same : d.state = c.state) : d.isLive = c.isLive := by
  simp [isLive, same]

/-- Closing the transport leaves no connection. -/
theorem state_of_closesTransport {label : Label} (closes : c.closesTransport label = true) :
    (c.apply label).state = .idle := by
  cases label <;> simp only [closesTransport, Bool.false_eq_true] at closes
  case abort => rfl
  case shutdown reason => rfl
  case disconnect =>
    simp only [Bool.and_eq_true, Bool.not_eq_true', Bool.and_eq_false_iff, decide_eq_true_eq,
      decide_eq_false_iff_not] at closes
    rcases c.disconnect_cases with ⟨idle, _⟩ | ⟨up, room, _⟩ | ⟨_, _, _, same⟩
    · exact absurd idle closes.1
    · exact absurd closes.2 (by simp [up, room])
    · simp [apply, react, same, shutdown, teardown]

/-- A session ends by closing the transport. -/
theorem closesTransport_of_end {label : Label}
    (ends : (label = .disconnect ∧ c.state ≠ .idle) ∨ label = .abort ∨
      ∃ reason, label = .shutdown reason)
    (down : (c.apply label).state = .idle) : c.closesTransport label = true := by
  rcases ends with ⟨rfl, busy⟩ | rfl | ⟨reason, rfl⟩
  · simp only [closesTransport, Bool.and_eq_true, Bool.not_eq_true', Bool.and_eq_false_iff,
      decide_eq_true_eq, decide_eq_false_iff_not]
    refine ⟨busy, ?_⟩
    rcases c.disconnect_cases with ⟨idle, _⟩ | ⟨_, _, _, _, same⟩ | ⟨_, full, _⟩
    · exact absurd idle busy
    · simp [apply, react, same] at down
    · exact or_iff_not_imp_left.mpr fun up => full (not_not.mp up)
  · rfl
  · rfl

/-- A call that takes the connection down empties the receive buffer. -/
theorem isLive_or_rx_of_isCall {label : Label} (isCall : label.isCall = true)
    (before : c.isLive = true ∨ c.rx = []) :
    (c.apply label).isLive = true ∨ (c.apply label).rx = [] := by
  cases label <;> simp only [Label.isCall, Bool.false_eq_true] at isCall
  case connect opts now =>
    rcases c.connect_cases opts now with
      ⟨_, _, same⟩ | ⟨_, _, _, _, _, same⟩ | ⟨_, _, _, _, same⟩
    · simpa [apply, react, same, refuse] using before
    all_goals
      refine .inr ?_
      simp only [apply, react, same, refuse, opened]
      exact (c.prepare_frame opts).2.2.2.1
  case disconnect =>
    rcases c.disconnect_cases with ⟨_, same⟩ | ⟨_, _, _, _, same⟩ | ⟨_, _, _, same⟩
    · simpa [apply, react, same, refuse] using before
    · exact .inl (by simp [apply, react, same, isLive])
    · exact .inr (by simp [apply, react, same, shutdown, teardown])
  case abort => exact .inr rfl
  case publish topic payload qos retain now =>
    have quiet := c.publish_quiet topic payload qos retain now
    exact before.imp (isLive_of_state quiet.sameState).trans quiet.rx.trans
  case subscribe subs handler now =>
    have quiet := c.subscribe_quiet subs handler now
    exact before.imp (isLive_of_state quiet.sameState).trans quiet.rx.trans
  case unsubscribe filters now =>
    have quiet := c.unsubscribe_quiet filters now
    exact before.imp (isLive_of_state quiet.sameState).trans quiet.rx.trans

end Client

/-- The transport is open exactly while a connection is up. -/
theorem History.transportOpen_iff {log : Log cfg} (history : History log) :
    TransportOpen log.trace ↔ log.state.isLive = true := by
  refine history.invariant (fun log => TransportOpen log.trace ↔ log.state.isLive = true)
    (fun log label prior permitted ih => ?_)
    (by simp [TransportOpen, Client.initial, Client.isLive])
  simp only [TransportOpen, Logged.perform_trace, Logged.perform_state, since_snoc]
  rw [← TransportOpen, ih]
  by_cases closes : log.state.closesTransport label = true
  · have down := log.state.state_of_closesTransport closes
    have noOpen : label.opensTransport = false := by
      cases label <;> first | rfl | simp [Client.closesTransport] at closes
    simp [closes, noOpen, Client.isLive, down]
  by_cases opens : label.opensTransport = true
  · cases label <;> simp only [Label.opensTransport, Bool.false_eq_true] at opens
    case transportConnect result now =>
      obtain rfl : result = .ok := by simpa using opens
      simp [Label.opensTransport, Client.apply, Client.react, Client.isLive]
  simp only [opens, closes, false_or, not_false_eq_true, and_true, Bool.false_eq_true]
  rcases log.state.apply_state_cases label with
    same | ⟨_, _, _, idle, moved⟩ | ⟨_, up, _, moved⟩ | ⟨ends, down⟩ | ⟨now, rfl, _⟩ |
      ⟨_, _, _, _, awaiting, moved⟩
  · rw [Client.isLive_of_state same]
  · simp [Client.isLive, idle, moved]
  · simp [Client.isLive, up, moved]
  · exact absurd (log.state.closesTransport_of_end ends down) closes
  · exact absurd rfl opens
  · simp [Client.isLive, awaiting, moved]

namespace Control

variable {c : Client cfg}

/-- Where `step()` sends or receives, a connection is up. A handler that ended
the session has emptied the receive buffer. -/
def Connected (control : Control) (c : Client cfg) : Prop :=
  match control with
  | .sending | .receiving _ | .draining _ | .flushing => c.isLive = true
  | .handling _ _ total => 2 ≤ total ∧ (c.isLive = true ∨ c.rx = [])
  | _ => True

theorem connected_flushStage (live : c.isLive = true) : (flushStage c).Connected c := by
  unfold flushStage
  split
  · trivial
  · exact live

theorem Comes.connected {control : Control} (comes : Comes c control) (live : c.isLive = true) :
    control.Connected c := by
  cases comes <;> trivial

theorem connected_sendStage (live : c.isLive = true) : (sendStage c).Connected c := by
  unfold sendStage
  split
  · exact comes_pumpedStage.connected live
  · exact live

theorem two_le_frontTotal {header : FixedHeader} {body : Bytes} (fronts : Fronts c.rx header body) :
    2 ≤ frontTotal c.rx := by
  obtain ⟨p, peeked, _⟩ := fronts
  simp only [frontTotal, peeked]
  exact peekHeader_total peeked

/-- One label keeps it, unless a handler has left the client idle and without an
error. -/
theorem Connected.after {control : Control} {label : Label} (connected : control.Connected c)
    (fits : control.Fits c) (permits : control.Permits c label)
    (reported : label = .discard → c.state = .idle → c.lastError ≠ .ok) :
    (control.after c label).Connected (c.apply label) := by
  have moves := moves_of_permits permits
  generalize control.after c label = next at moves ⊢
  cases moves with
  | call runs isCall =>
    rcases appRuns_cases runs with rfl | ⟨rest, total, rfl⟩ | ⟨reason, rfl⟩
    · trivial
    · exact ⟨connected.1, c.isLive_or_rx_of_isCall isCall connected.2⟩
    · trivial
  | aside runs isAside =>
    rw [c.apply_aside isAside]
    exact connected
  | enter busy settled => exact connected_sendStage ((Client.isLive_iff _).mpr ⟨busy, settled⟩)
  | opened now =>
    exact connected_sendStage (by simp [Client.apply, Client.react, Client.isLive])
  | sent written now =>
    exact connected_sendStage ((Client.isLive_of_state (c.state_of_send _ _ _)).trans connected)
  | pumped result written now =>
    exact comes_pumpedStage.connected
      ((Client.isLive_of_state (c.state_of_send _ _ _)).trans connected)
  | flushes written now =>
    exact connected_flushStage ((Client.isLive_of_state (c.state_of_send _ _ _)).trans connected)
  | received rest result bytes now =>
    refine (comes_drainStage _).connected ((Client.isLive_of_state ?_).trans connected)
    simp only [Client.apply, Client.react]
    split <;> rfl
  | handled rest header body now fronts =>
    refine ⟨two_le_frontTotal fronts, .inl ?_⟩
    rcases (c.handlePacket_within header body now).state with same | ⟨_, up⟩
    · exact (Client.isLive_of_state same).trans connected
    · show (c.handlePacket header body now).client.isLive = true
      simp [Client.isLive, up]
  | consumed rest count inside =>
    obtain ⟨atLeast, live | emptied⟩ := connected
    · exact (comes_drainStage rest).connected live
    · simp only [emptied, List.length_nil] at inside
      omega
  | discarded rest total short fine =>
    by_cases live : c.isLive = true
    · exact (comes_drainedStage rest).connected live
    -- A new session was begun: the rest of the pass is left to the next `step()`.
    have connecting : c.state = .connecting := by
      by_contra other
      exact live ((Client.isLive_iff c).mpr ⟨fun idle => reported rfl idle fine, other⟩)
    cases rest <;> simp [drainedStage, receivedStage, Client.apply, Client.react, connecting,
      Connected]
  | retransmitted now =>
    have up : (c.apply (.retransmit now)).state = .connected :=
      (c.pumpRetransmit_quiet now).sameState.trans fits.2
    exact connected_flushStage (by simp [Client.isLive, up])
  | _ => trivial

end Control

/-- The event is not the return of a handler that ended the session without
beginning another and without leaving an error behind. -/
def Library.Entry.handlerReported (event : Event cfg) : Bool :=
  !(event.label = .discard && event.before.state = .idle && event.before.lastError = .ok)

/-- In a history of such events, a connection is up wherever it is used. -/
theorem History.connected {log : Log cfg} (history : History log)
    (reported : ∀ event ∈ log.trace, event.handlerReported = true) :
    (Control.of log.trace).Connected log.state := by
  refine Logged.Reaches.invariant_of
    (fun event : Event cfg => event.handlerReported = true)
    (fun log => (Control.of log.trace).Connected log.state)
    (fun log label prior permitted reported connected => ?_) history rfl reported trivial
  simp only [Logged.perform_trace, Logged.perform_state, Control.of_snoc]
  refine connected.after (History.fits prior) permitted fun isDiscard idle => ?_
  simpa [Entry.handlerReported, isDiscard, idle] using reported

/-- In a run in which no handler ends its session through a hard-closing
`disconnect()` and leaves it at that, the transport is used only while open. -/
theorem transport_disciplined (cfg : Config) (env : Env) (application : Script)
    (reported : ∀ event ∈ (World.exec cfg env application).trace,
      event.handlerReported = true) :
    TransportDisciplined (World.exec cfg env application).trace := by
  intro before event after split uses
  obtain ⟨earlier, history, rfl, here, permitted, _⟩ :=
    (World.exec_history cfg env application).cut split
  rw [history.transportOpen_iff]
  have connected := history.connected fun other member => reported other (by
    rw [split]
    exact List.mem_append_left _ member)
  cases isLabel : event.label <;> simp only [isLabel, Label.usesTransport, Bool.false_eq_true] at uses
  case send result written now =>
    rw [isLabel] at permitted
    rcases permitted.1 with place | place <;> rw [place] at connected <;> exact connected
  case recv result bytes now =>
    rw [isLabel] at permitted
    obtain ⟨⟨rest, place⟩, _⟩ := permitted
    rw [place] at connected
    exact connected

/-! ## A handler that disconnects twice -/

namespace TransportUse

def options : ConnectOptions := { clientId := [97] }

/-- Connect and step. -/
def application : Script := .connect options (.step .done)

/-- CONNACK and a QoS 0 PUBLISH arrive together; the message handler disconnects. -/
def quietEnv : Env where
  opens := [.ok]
  sends := [(.ok, 15)]
  recvs := [(.ok, [0x20, 2, 0, 0, 0x30, 3, 0, 1, 116])]
  messageScripts := [⟨.disconnect .done .done, rfl⟩]

/-- The same, but the message handler disconnects twice, which is a hard close. -/
def env : Env :=
  { quietEnv with messageScripts := [⟨.disconnect .done (.disconnect .done .done), rfl⟩] }

def run : World .small := World.exec .small env application

end TransportUse

theorem transport_disciplined_quiet :
    TransportDisciplined (World.exec .small TransportUse.quietEnv TransportUse.application).trace :=
  transport_disciplined .small TransportUse.quietEnv TransportUse.application (by decide +kernel)

/-- After the hard close the same pass goes on to receive. -/
theorem recv_after_close : ¬ TransportDisciplined TransportUse.run.trace := by
  intro disciplined
  have split := split_at_position TransportUse.run.trace
    (show 12 < TransportUse.run.trace.length by decide +kernel)
  have isOpen := disciplined _ _ _ split (by decide +kernel)
  obtain ⟨earlier, history, trace, here, _⟩ :=
    (World.exec_history .small TransportUse.env TransportUse.application).cut split
  rw [← trace, history.transportOpen_iff, ← here] at isOpen
  exact absurd isOpen (by decide +kernel)

end Mqtt
