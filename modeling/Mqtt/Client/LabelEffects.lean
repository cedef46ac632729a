import Mqtt.Client.Machine
import Mqtt.Client.TimerEffects

/-!
# What a label does

Facts about every label at once, read off the case lemmas of the functions:
which labels stay within the connection, and how the connection state moves.
-/

namespace Mqtt

variable {cfg : Config}

namespace Client

variable (c : Client cfg)

/-- A reaction that touches neither the connection's state nor the inbound
message ids, and invokes no handler. -/
structure Quiet (c : Client cfg) (reaction : Reaction cfg) : Prop extends c.Within reaction where
  sameState : reaction.client.state = c.state
  inboundIds : reaction.client.inboundIds = c.inboundIds
  callback : reaction.callback = none

theorem publish_quiet (topic payload : Bytes) (qos : QoS) (retain : Bool) (now : UInt32) :
    c.Quiet (c.publish topic payload qos retain now) := by
  rcases c.publish_cases topic payload qos retain now with
    ⟨error, tx, n, outbound, _, peek, _, same⟩ | ⟨_, _, _, tx, peek, same⟩ |
      ⟨_, _, _, _, _, _, tx, packet, _, _, _, _, _, _, _, _, peek, same⟩
  all_goals
    rw [same]
    constructor
    · constructor <;> simp [Reaction.wire, refuse, peek]
    all_goals simp [refuse]

theorem subscribe_quiet (subs : List TopicSubscription) (handler : Option Nat) (now : UInt32) :
    c.Quiet (c.subscribe subs handler now) := by
  rcases c.subscribe_cases subs handler now with
    ⟨error, tx, n, _, peek, same⟩ | ⟨_, _, _, _, _, _, _, tx, peek, same⟩
  · rw [same]
    constructor
    · constructor <;> simp [Reaction.wire, refuse, peek]
    all_goals simp [refuse]
  · obtain ⟨_, _, _, _, shape⟩ := c.subscribed_shape subs handler tx now
    rw [same, shape]
    constructor
    · constructor <;> simp [Reaction.wire, peek]
    all_goals simp

theorem unsubscribe_quiet (filters : List Bytes) (now : UInt32) :
    c.Quiet (c.unsubscribe filters now) := by
  rcases c.unsubscribe_cases filters now with
    ⟨error, tx, n, _, peek, same⟩ | ⟨_, _, _, _, _, tx, peek, same⟩
  all_goals
    rw [same]
    constructor
    · constructor <;> simp [Reaction.wire, refuse, peek]
    all_goals simp [refuse]

theorem pumpKeepAlive_quiet (now : UInt32) : c.Quiet (c.pumpKeepAlive now) := by
  rcases c.pumpKeepAlive_cases now with ⟨error, readClock, tx, peek, same⟩ | ⟨_, tx, peek, same⟩
  all_goals
    rw [same]
    constructor
    · constructor <;> simp [Reaction.wire, peek]
    all_goals simp

theorem pumpResubscribe_quiet (now : UInt32) : c.Quiet (c.pumpResubscribe now) := by
  rcases c.pumpResubscribe_cases now with ⟨tx, n, peek, same⟩ | ⟨_, _, _, _, tx, peek, same⟩
  · rw [same]
    constructor
    · constructor <;> simp [Reaction.wire, peek]
    all_goals simp
  · obtain ⟨_, _, _, shape⟩ := c.resubscribed_shape tx now
    rw [same, shape]
    constructor
    · constructor <;> simp [Reaction.wire, peek]
    all_goals simp

theorem pumpRetransmit_quiet (now : UInt32) : c.Quiet (c.pumpRetransmit now) := by
  obtain ⟨tx, outbound, copies, readClock, same, peek, _⟩ := c.pumpRetransmit_cases now
  rw [same]
  constructor
  · constructor <;> simp [Reaction.wire, peek]
  all_goals simp

/-- The labels that are quiet in every state. -/
def isQuiet : Label → Bool
  | .publish _ _ _ _ _ | .subscribe _ _ _ | .unsubscribe _ _ | .keepAlive _ | .resubscribe _
  | .retransmit _ | .onMessage _ _ | .stepRefused | .deadline _ => true
  | _ => false

theorem react_quiet {label : Label} (quiet : isQuiet label = true) : c.Quiet (c.react label) := by
  cases label <;> cases quiet
  case publish topic payload qos retain now => exact c.publish_quiet topic payload qos retain now
  case subscribe subs handler now => exact c.subscribe_quiet subs handler now
  case unsubscribe filters now => exact c.unsubscribe_quiet filters now
  case keepAlive now => exact c.pumpKeepAlive_quiet now
  case resubscribe now => exact c.pumpResubscribe_quiet now
  case retransmit now => exact c.pumpRetransmit_quiet now
  all_goals exact ⟨within_same rfl rfl, rfl, rfl, rfl⟩

theorem prepare_frame (opts : ConnectOptions) :
    (c.prepare opts).state = c.state ∧ (c.prepare opts).cleanSession = c.cleanSession ∧
      (c.prepare opts).lastError = c.lastError ∧ (c.prepare opts).rx = [] ∧
      (c.prepare opts).inStep = c.inStep := by
  unfold prepare
  split <;> simp [resetSessionState, markAllForResub]

/-- Every way the connection state moves. -/
theorem apply_state_cases (label : Label) :
    (c.apply label).state = c.state ∨
    (∃ opts now, label = .connect opts now ∧ c.state = .idle ∧
      (c.apply label).state = .connecting) ∨
    (label = .disconnect ∧ c.state = .connected ∧ c.HasRoom 2 ∧
      (c.apply label).state = .disconnecting) ∨
    ((label = .disconnect ∧ c.state ≠ .idle ∨ label = .abort ∨
        ∃ reason, label = .shutdown reason) ∧ (c.apply label).state = .idle) ∨
    (∃ now, label = .transportConnect .ok now ∧ (c.apply label).state = .awaitingConnack) ∨
    (∃ header body now, label = .handle header body now ∧ c.state = .awaitingConnack ∧
      (c.apply label).state = .connected) := by
  by_cases quiet : isQuiet label = true
  · exact .inl (c.react_quiet quiet).sameState
  cases label <;> try exact absurd rfl quiet
  case connect opts now =>
    have frame := c.prepare_frame opts
    rcases c.connect_cases opts now with
      ⟨error, _, same⟩ | ⟨_, error, tx, _, _, same⟩ | ⟨idle, _, tx, _, same⟩
    · exact .inl (by simp [apply, react, same, refuse])
    · exact .inl (by simp [apply, react, same, refuse, frame.1])
    · exact .inr (.inl ⟨opts, now, rfl, idle, by simp [apply, react, same, opened]⟩)
  case disconnect =>
    rcases c.disconnect_cases with ⟨_, same⟩ | ⟨up, room, tx, _, same⟩ | ⟨busy, _, tx, same⟩
    · exact .inl (by simp [apply, react, same, refuse])
    · exact .inr (.inr (.inl ⟨rfl, up, room, by simp [apply, react, same]⟩))
    · exact .inr (.inr (.inr (.inl ⟨.inl ⟨rfl, busy⟩,
        by simp [apply, react, same, shutdown, teardown]⟩)))
  case abort =>
    exact .inr (.inr (.inr (.inl ⟨.inr (.inl rfl),
      by simp [apply, react, abort, shutdown, teardown]⟩)))
  case shutdown reason =>
    exact .inr (.inr (.inr (.inl ⟨.inr (.inr ⟨reason, rfl⟩),
      by simp [apply, react, shutdown, teardown]⟩)))
  case transportConnect result now =>
    by_cases up : result = .ok
    · subst up
      exact .inr (.inr (.inr (.inr (.inl ⟨now, rfl, by simp [apply, react]⟩))))
    · exact .inl (by simp [apply, react, up])
  case handle header body now =>
    rcases (c.handlePacket_within header body now).state with same | moved
    · exact .inl same
    · exact .inr (.inr (.inr (.inr (.inr ⟨header, body, now, rfl, moved⟩))))
  case stepEnter => exact .inl rfl
  case stepLeave result => exact .inl rfl
  case send result written now =>
    refine .inl ?_
    simp only [apply, react]
    split <;> rfl
  case recv result bytes now =>
    refine .inl ?_
    simp only [apply, react]
    split <;> rfl
  case consume count => exact .inl rfl
  case discard => exact .inl rfl

/-- A session ends by a call or by `step()` itself. -/
theorem ends_of_idle {label : Label} (busy : c.state ≠ .idle)
    (closing : (c.apply label).state = .idle) :
    (label = .disconnect ∧ c.state ≠ .idle) ∨ label = .abort ∨
      ∃ reason, label = .shutdown reason := by
  rcases c.apply_state_cases label with
    same | ⟨_, _, _, _, moved⟩ | ⟨_, _, _, moved⟩ | ⟨ends, _⟩ | ⟨_, _, moved⟩ |
      ⟨_, _, _, _, _, moved⟩
  · exact absurd (same.symm.trans closing) busy
  · simp [moved] at closing
  · simp [moved] at closing
  · exact ends
  · simp [moved] at closing
  · simp [moved] at closing

/-- A session ends in `shutdown()`. -/
theorem shutdown_of_end {label : Label} (busy : c.state ≠ .idle)
    (closing : (c.apply label).state = .idle) :
    ∃ tx reason, c.react label = shutdown { c with tx := tx } reason := by
  rcases c.ends_of_idle busy closing with ⟨rfl, _⟩ | rfl | ⟨reason, rfl⟩
  · rcases c.disconnect_cases with ⟨idle, _⟩ | ⟨_, _, _, _, same⟩ | ⟨_, _, tx, same⟩
    · exact absurd idle busy
    · simp [apply, react, same] at closing
    · exact ⟨tx, .ok, same⟩
  · exact ⟨c.tx, .transportClosed, rfl⟩
  · exact ⟨c.tx, reason, rfl⟩

/-- Only `connect()` changes what kind of session this is. -/
theorem apply_cleanSession (label : Label) :
    (c.apply label).cleanSession = c.cleanSession ∨
    ∃ opts now, label = .connect opts now ∧ (c.apply label).cleanSession = opts.cleanSession := by
  by_cases quiet : isQuiet label = true
  · exact .inl (c.react_quiet quiet).cleanSession
  cases label <;> try exact absurd rfl quiet
  case connect opts now =>
    have frame := c.prepare_frame opts
    rcases c.connect_cases opts now with
      ⟨_, _, same⟩ | ⟨_, _, _, _, _, same⟩ | ⟨_, _, _, _, same⟩
    · exact .inl (by simp [apply, react, same, refuse])
    · exact .inl (by simp [apply, react, same, refuse, frame.2.1])
    · exact .inr ⟨opts, now, rfl, by simp [apply, react, same, opened]⟩
  case handle header body now => exact .inl (c.handlePacket_within header body now).cleanSession
  case disconnect =>
    refine .inl ?_
    rcases c.disconnect_cases with ⟨_, same⟩ | ⟨_, _, _, _, same⟩ | ⟨_, _, _, same⟩ <;>
      simp [apply, react, same, refuse, shutdown, teardown, markAllForResub]
  case send result written now =>
    refine .inl ?_
    simp only [apply, react]
    split <;> rfl
  case recv result bytes now =>
    refine .inl ?_
    simp only [apply, react]
    split <;> rfl
  case transportConnect result now =>
    refine .inl ?_
    simp only [apply, react]
    split <;> rfl
  all_goals exact .inl rfl

/-- Only a packet and the end of a session invoke a handler. -/
theorem callback_cases {label : Label} {callback : Callback}
    (runs : (c.react label).callback = some callback) :
    (∃ header body now, label = .handle header body now) ∨
      ∃ reason, callback = .onDisconnect reason := by
  have ended : ∀ (d : Client cfg) reason, (d.shutdown reason).callback = some callback →
      ∃ reason, callback = .onDisconnect reason := by
    intro d reason told
    simp only [shutdown] at told
    split at told
    · exact ⟨reason, (Option.some.inj told).symm⟩
    · cases told
  by_cases quiet : isQuiet label = true
  · simp [(c.react_quiet quiet).callback] at runs
  cases label <;> try exact absurd rfl quiet
  case handle header body now => exact .inl ⟨header, body, now, rfl⟩
  case connect opts now =>
    rcases c.connect_cases opts now with
      ⟨_, _, same⟩ | ⟨_, _, _, _, _, same⟩ | ⟨_, _, _, _, same⟩ <;>
      simp [react, same, refuse] at runs
  case disconnect =>
    rcases c.disconnect_cases with ⟨_, same⟩ | ⟨_, _, _, _, same⟩ | ⟨_, _, tx, same⟩
    · simp [react, same, refuse] at runs
    · simp [react, same] at runs
    · rw [react, same] at runs
      exact .inr (ended _ _ runs)
  case abort => exact .inr (ended _ _ runs)
  case shutdown reason => exact .inr (ended _ _ runs)
  all_goals
    simp only [react] at runs
    try split at runs
  all_goals cases runs

/-- Every way the last error is set. -/
theorem apply_lastError (label : Label) :
    (∃ opts now, label = .connect opts now ∧ c.state = .idle ∧
      (c.apply label).state = .connecting ∧ (c.apply label).lastError = .ok) ∨
    (((label = .disconnect ∧ c.state ≠ .idle ∧ (c.apply label).lastError = .ok) ∨
        (label = .abort ∧ (c.apply label).lastError = .transportClosed) ∨
        ∃ reason, label = .shutdown reason ∧ (c.apply label).lastError = reason) ∧
      (c.apply label).state = .idle) ∨
    ((c.apply label).lastError = c.lastError ∧
      ((c.apply label).state = c.state ∨ c.state ≠ .idle ∨ ∃ now, label = .transportConnect .ok now) ∧
      ((c.apply label).state = .idle → c.state = .idle)) := by
  by_cases quiet : isQuiet label = true
  · have kept := c.react_quiet quiet
    exact .inr (.inr ⟨kept.lastError, .inl kept.sameState, fun idle => kept.sameState ▸ idle⟩)
  cases label <;> try exact absurd rfl quiet
  case connect opts now =>
    have frame := c.prepare_frame opts
    rcases c.connect_cases opts now with
      ⟨_, _, same⟩ | ⟨_, _, _, _, _, same⟩ | ⟨idle, _, _, _, same⟩
    · exact .inr (.inr (by simp [apply, react, same, refuse]))
    · exact .inr (.inr (by simp [apply, react, same, refuse, frame.1, frame.2.2.1]))
    · exact .inl ⟨opts, now, rfl, idle, by simp [apply, react, same, opened]⟩
  case handle header body now =>
    have kept := c.handlePacket_within header body now
    refine .inr (.inr ⟨kept.lastError, ?_, fun idle => ?_⟩)
    · rcases kept.state with same | ⟨awaiting, _⟩
      · exact .inl same
      · exact .inr (.inl (by simp [awaiting]))
    · rcases kept.state with same | ⟨_, up⟩
      · exact same ▸ idle
      · exact absurd (up.symm.trans idle) (by simp)
  case disconnect =>
    rcases c.disconnect_cases with ⟨_, same⟩ | ⟨up, _, _, _, same⟩ | ⟨busy, _, _, same⟩
    · exact .inr (.inr (by simp [apply, react, same, refuse]))
    · exact .inr (.inr (by simp [apply, react, same, up]))
    · exact .inr (.inl ⟨.inl ⟨rfl, busy, by
        simp [apply, react, same, shutdown, teardown, markAllForResub]⟩, by
        simp [apply, react, same, shutdown, teardown, markAllForResub]⟩)
  case abort =>
    exact .inr (.inl ⟨.inr (.inl ⟨rfl, rfl⟩), rfl⟩)
  case shutdown reason =>
    exact .inr (.inl ⟨.inr (.inr ⟨reason, rfl, rfl⟩), rfl⟩)
  case transportConnect result now =>
    by_cases up : result = .ok
    · subst up
      exact .inr (.inr ⟨rfl, .inr (.inr ⟨now, rfl⟩), by simp [apply, react]⟩)
    · exact .inr (.inr (by simp [apply, react, up]))
  case send result written now =>
    refine .inr (.inr ?_)
    simp only [apply, react]
    split <;> simp
  case recv result bytes now =>
    refine .inr (.inr ?_)
    simp only [apply, react]
    split <;> simp
  all_goals exact .inr (.inr ⟨rfl, .inl rfl, id⟩)

end Client
end Mqtt
