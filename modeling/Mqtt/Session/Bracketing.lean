import Mqtt.Session.Arrivals
import Mqtt.Session.ByteStream
import Mqtt.Session.Reporting

/-!
# A session and its notifications

A session runs from a `connect()` that succeeds to its one `on_disconnect`. The
connection state says where in it the client stands, so each notification is a
move of that state, and the order of notifications is the order of the moves.
-/

namespace Mqtt

open Library

variable {cfg : Config}

/-! ## The contract -/

/-- The event tells the application that its session ended. -/
def Library.Entry.NotifiesEnd (event : Event cfg) : Prop :=
  ∃ reason, event.Notifies reason

/-- The event tells the application that its session is up. -/
def Library.Entry.Announces (event : Event cfg) : Prop :=
  ∃ info, event.reaction.callback = some (.onConnect info)

/-- The event starts to dispatch a message, or invokes a message handler. -/
def Library.Entry.Dispatches (event : Event cfg) : Prop :=
  (∃ m, event.reaction.callback = some (.dispatch m)) ∨
    ∃ subscription m, event.label = .onMessage subscription m

/-- The event processes a CONNACK all of which arrived on the transport that was
opened for the session of the last `connect()`. -/
def ReceivedFresh (before : Trace cfg) (event : Event cfg) : Prop :=
  ∃ earlier opening during, before = earlier ++ opening :: during ∧
    opening.label.opensTransport = true ∧
    Since (fun event => event.Connects) (fun event => event.NotifiesEnd) earlier ∧
    (∀ later ∈ opening :: during, ¬ later.Connects ∧ ¬ later.NotifiesEnd) ∧
    ∃ header body now, event.label = .handle header body now ∧ header.type = .connack ∧
      Control.Fronts event.before.rx header body ∧ event.before.rx <:+ arrivedOver during

/-- The last session that began has neither come up nor ended. -/
def Handshaking (trace : Trace cfg) : Prop :=
  Since (fun event => event.Connects) (fun event => event.NotifiesEnd ∨ event.Announces) trace

/-- Sessions are bracketed. -/
structure SessionsBracketed (trace : Trace cfg) : Prop where
  /-- Exactly one session ends between two that begin one after the other. -/
  closed : ∀ before first middle second after,
    trace = before ++ first :: middle ++ second :: after → first.Connects → second.Connects →
    (∀ event ∈ middle, ¬ event.Connects) →
    ∃ front ended back, middle = front ++ ended :: back ∧ ended.NotifiesEnd ∧
      ∀ event ∈ front ++ back, ¬ event.NotifiesEnd
  /-- A session that ends has begun. -/
  opened : ∀ before event after, trace = before ++ event :: after → event.NotifiesEnd →
    Since (fun event => event.Connects) (fun event => event.NotifiesEnd) before
  /-- A session comes up once, by a CONNACK received on its own transport. -/
  announced : ∀ before event after, trace = before ++ event :: after → event.Announces →
    Handshaking before ∧ ReceivedFresh before event
  /-- Messages are dispatched while the session is up. -/
  dispatched : ∀ before event after, trace = before ++ event :: after → event.Dispatches →
    Since (fun event => event.Announces) (fun event => event.Connects ∨ event.NotifiesEnd) before

/-! ## Notifications are moves of the state -/

namespace Client

variable (c : Client cfg)

/-- `on_connect` is invoked exactly by the packet that brings the session up. -/
theorem handle_onConnect_iff (header : FixedHeader) (body : Bytes) (now : UInt32) :
    (∃ info, (c.react (.handle header body now)).callback = some (.onConnect info)) ↔
      c.state = .awaitingConnack ∧ (c.apply (.handle header body now)).state = .connected := by
  obtain ⟨reaction, handled, outcome⟩ := c.handlePacket_cases header body now
  have becomes : c.apply (.handle header body now) = reaction.client := congrArg _ handled
  rw [show c.react (.handle header body now) = reaction from handled, becomes]
  have steady : c.state = .awaitingConnack → c.state ≠ .connected := by simp +contextual
  cases outcome with
  | accepted info _ awaiting =>
    refine ⟨fun _ => ⟨awaiting, ?_⟩, fun _ => ⟨info, rfl⟩⟩
    simp only
    split <;> rfl
  | _ => simpa using steady

/-- Such a packet is a CONNACK. -/
theorem connack_of_onConnect {header : FixedHeader} {body : Bytes} {now : UInt32}
    {info : ConnackInfo}
    (called : (c.react (.handle header body now)).callback = some (.onConnect info)) :
    header.type = .connack := by
  obtain ⟨reaction, handled, outcome⟩ := c.handlePacket_cases header body now
  rw [show c.react (.handle header body now) = reaction from handled] at called
  cases outcome with
  | accepted _ isConnack => exact isConnack
  | _ => cases called

end Client

open Client

section Moves

variable {event : Event cfg}

/-- `on_disconnect` is told exactly when a session ends. -/
theorem notifiesEnd_iff :
    event.NotifiesEnd ↔
      event.before.state ≠ .idle ∧ (event.before.apply event.label).state = .idle := by
  cases ends : event.before.endReason event.label with
  | some reason =>
    obtain ⟨told, _, idle, _⟩ := of_endReason ends
    simp only [Entry.NotifiesEnd, Entry.Notifies, Entry.reaction, told, idle, and_true]
    split <;> simp_all
  | none =>
    obtain ⟨silent, _, busy⟩ := of_not_endReason ends
    constructor
    · rintro ⟨reason, told⟩
      exact absurd told (silent reason)
    · rintro ⟨wasBusy, idle⟩
      exact absurd (busy idle).1 wasBusy

/-- A `connect()` succeeds exactly when a session begins. -/
theorem connects_iff :
    event.Connects ↔ event.before.state = .idle ∧
      (event.before.apply event.label).state = .connecting := by
  obtain ⟨c, label⟩ := event
  constructor
  · rintro ⟨opts, now, isConnect, accepted⟩
    obtain rfl : label = .connect opts now := isConnect
    obtain ⟨idle, _, _, moved⟩ := connects_cases accepted
    exact ⟨idle, moved⟩
  · rintro ⟨idle, moved⟩
    rcases c.apply_state_cases label with
      same | ⟨opts, now, rfl, _, _⟩ | ⟨_, _, _, other⟩ | ⟨_, other⟩ | ⟨_, _, other⟩ |
        ⟨_, _, _, _, _, other⟩
    · exact absurd (moved.symm.trans (same.trans idle)) (by simp)
    · exact ⟨opts, now, rfl, accepted_of_connecting idle moved⟩
    all_goals simp [other] at moved

/-- `on_connect` is told exactly when a session comes up. -/
theorem announces_iff :
    event.Announces ↔ event.before.state = .awaitingConnack ∧
      (event.before.apply event.label).state = .connected := by
  obtain ⟨c, label⟩ := event
  constructor
  · rintro ⟨info, called⟩
    rcases c.callback_cases called with ⟨header, body, now, rfl⟩ | ⟨_, other⟩
    · exact (c.handle_onConnect_iff header body now).mp ⟨info, called⟩
    · cases other
  · rintro ⟨awaiting, up⟩
    rcases c.apply_state_cases label with
      same | ⟨_, _, _, idle, _⟩ | ⟨_, _, _, other⟩ | ⟨_, other⟩ | ⟨_, _, other⟩ |
        ⟨header, body, now, rfl, _, _⟩
    · exact absurd (up.symm.trans (same.trans awaiting)) (by simp)
    · exact absurd (idle.symm.trans awaiting) (by simp)
    · exact absurd (up.symm.trans other) (by simp)
    · exact absurd (up.symm.trans other) (by simp)
    · exact absurd (up.symm.trans other) (by simp)
    · exact (c.handle_onConnect_iff header body now).mpr ⟨awaiting, up⟩

end Moves

/-! ## Where in its session the client stands -/

/-- Every move of the state in a history. -/
theorem History.state_cases {log : Log cfg} (history : History log)
    {label : Label} (permitted : Permitted log label) :
    (log.state.apply label).state = log.state.state ∨
    (log.state.state = .idle ∧ (log.state.apply label).state = .connecting) ∨
    (log.state.state = .connecting ∧ (log.state.apply label).state = .awaitingConnack) ∨
    (log.state.state = .awaitingConnack ∧ (log.state.apply label).state = .connected) ∨
    (log.state.state = .connected ∧ (log.state.apply label).state = .disconnecting) ∨
    (log.state.state ≠ .idle ∧ (log.state.apply label).state = .idle) := by
  rcases log.state.apply_state_cases label with
    same | ⟨_, _, _, idle, moved⟩ | ⟨_, up, _, moved⟩ | ⟨_, moved⟩ | ⟨now, rfl, moved⟩ |
      ⟨_, _, _, _, awaiting, moved⟩
  · exact .inl same
  · exact .inr (.inl ⟨idle, moved⟩)
  · exact .inr (.inr (.inr (.inr (.inl ⟨up, moved⟩))))
  · by_cases idle : log.state.state = .idle
    · exact .inl (moved.trans idle.symm)
    · exact .inr (.inr (.inr (.inr (.inr ⟨idle, moved⟩))))
  · exact .inr (.inr (.inl ⟨(history.rx_of_opening permitted rfl).1, moved⟩))
  · exact .inr (.inr (.inr (.inl ⟨awaiting, moved⟩)))

/-- What the history says about the session at its end. -/
structure Brackets (c : Client cfg) (trace : Trace cfg) : Prop where
  running : c.state ≠ .idle ↔
    Since (fun event => event.Connects) (fun event => event.NotifiesEnd) trace
  opening : c.state = .connecting ∨ c.state = .awaitingConnack ↔ Handshaking trace
  up : c.state = .connected ∨ c.state = .disconnecting →
    Since (fun event => event.Announces) (fun event => event.Connects ∨ event.NotifiesEnd) trace

theorem History.brackets {log : Log cfg} (history : History log) :
    Brackets log.state log.trace := by
  refine history.invariant (fun log => Brackets log.state log.trace)
    (fun log label prior permitted held => ?_)
    ⟨by simp [Client.initial], by simp [Client.initial, Handshaking], by simp [Client.initial]⟩
  rw [Logged.perform_state, Logged.perform_trace]
  have moves := prior.state_cases permitted
  refine ⟨?_, ?_, fun late => ?_⟩
  · rw [since_snoc, connects_iff, notifiesEnd_iff, ← held.running]
    rcases moves with
      same | ⟨was, moved⟩ | ⟨was, moved⟩ | ⟨was, moved⟩ | ⟨was, moved⟩ | ⟨was, moved⟩ <;>
      simp_all
  · rw [Handshaking, since_snoc, connects_iff, notifiesEnd_iff, announces_iff, ← Handshaking,
      ← held.opening]
    rcases moves with
      same | ⟨was, moved⟩ | ⟨was, moved⟩ | ⟨was, moved⟩ | ⟨was, moved⟩ | ⟨was, moved⟩
    · cases state : log.state.state <;> simp_all
    all_goals simp_all
  · rw [since_snoc, connects_iff, notifiesEnd_iff, announces_iff]
    rcases moves with
      same | ⟨was, moved⟩ | ⟨was, moved⟩ | ⟨was, moved⟩ | ⟨was, moved⟩ | ⟨was, moved⟩
    · have up := held.up (same ▸ late)
      refine .inr ⟨up, ?_⟩
      rcases late with now | now <;> simp [now, same ▸ now]
    · simp [moved] at late
    · simp [moved] at late
    · exact .inl ⟨was, moved⟩
    · exact .inr ⟨held.up (.inl was), by simp [was, moved]⟩
    · simp [moved] at late

/-! ## Sessions are bracketed -/

/-- While the transport stays open, the session that opened it goes on. -/
theorem History.open_session {log : Log cfg} (history : History log) {before during : Trace cfg}
    {opening : Event cfg} (split : log.trace = before ++ opening :: during)
    (opens : opening.label.opensTransport = true)
    (stays : ∀ event ∈ during, ¬ event.before.closesTransport event.label = true) :
    ∀ event ∈ opening :: during, ¬ event.Connects ∧ ¬ event.NotifiesEnd := by
  have unended := @History.open_stretch _ _ history before during [] opening (by simpa using split)
    opens fun event member => by simpa using stays event member
  intro event member
  refine ⟨fun connects => ?_, fun ends => unended event member (notifiesEnd_iff.mp ends).2⟩
  have idle := (connects_iff.mp connects).1
  obtain ⟨front, back, isSplit⟩ := List.append_of_mem member
  obtain ⟨earlier, reached, trace, here, permitted, _⟩ :=
    @History.cut _ _ history (before ++ front) back event (by simp [split, isSplit])
  rw [here] at idle
  cases front with
  | nil =>
    obtain ⟨rfl, -⟩ := List.cons.inj isSplit
    simp [(reached.rx_of_opening permitted opens).1] at idle
  | cons first rest =>
    obtain ⟨rfl, isDuring⟩ := List.cons.inj isSplit
    have isOpen : TransportOpen earlier.trace :=
      ⟨before, opening, rest, trace, opens, fun later inside => stays later (by
        rw [isDuring]
        exact List.mem_append_left _ inside)⟩
    have live := (earlier.state.isLive_iff).mp (reached.transportOpen_iff.mp isOpen)
    exact live.1 idle

/-- The CONNACK that brings a session up came over that session's transport. -/
theorem History.receivedFresh {log : Log cfg} (history : History log) {label : Label}
    (permitted : Permitted log label) (announces : Entry.Announces ⟨log.state, label⟩) :
    ReceivedFresh log.trace ⟨log.state, label⟩ := by
  have awaiting : log.state.state = .awaitingConnack := (announces_iff.mp announces).1
  obtain ⟨before, opening, during, split, opens, stays⟩ :=
    history.transportOpen_iff.mpr (by simp [Client.isLive, awaiting])
  obtain ⟨start, reached, rfl, here, allowed, onward⟩ := history.cut split
  obtain ⟨connecting, emptied⟩ := reached.rx_of_opening allowed opens
  obtain ⟨info, called⟩ := announces
  rcases log.state.callback_cases called with ⟨header, body, now, rfl⟩ | ⟨_, other⟩
  swap
  · cases other
  refine ⟨start.trace, opening, during, split, opens,
    reached.brackets.running.mp (by simp [connecting]), history.open_session split opens stays,
    header, body, now, rfl, log.state.connack_of_onConnect called, permitted.2, ?_⟩
  refine rx_suffix_of_reaches onward ?_ emptied
  rw [split, Logged.perform_trace, ← here]
  simp

/-- Every run is a sequence of sessions, each with its notifications in order. -/
theorem sessions_bracketed (cfg : Config) (env : Env) (application : Script) :
    SessionsBracketed (World.exec cfg env application).trace := by
  have history := World.exec_history cfg env application
  have opened : ∀ before event after,
      (World.exec cfg env application).trace = before ++ event :: after → event.NotifiesEnd →
      Since (fun event => event.Connects) (fun event => event.NotifiesEnd) before := by
    intro before event after split ends
    obtain ⟨earlier, reached, rfl, here, _⟩ := history.cut split
    exact reached.brackets.running.mp (here ▸ (notifiesEnd_iff.mp ends).1)
  refine ⟨fun before first middle second after split opens connects alone => ?_, opened,
    fun before event after split announces => ?_, fun before event after split dispatches => ?_⟩
  · obtain ⟨earlier, reached, trace, here, _⟩ :=
      @History.cut _ _ history (before ++ first :: middle) after second split
    have closing : ¬ Since (fun event => event.Connects) (fun event => event.NotifiesEnd)
        (before ++ first :: middle) := by
      rw [← trace, ← reached.brackets.running, ← here]
      simp [(connects_iff.mp connects).1]
    obtain ⟨ended, member, ends⟩ : ∃ ended ∈ middle, ended.NotifiesEnd := by
      by_contra unspoiled
      push Not at unspoiled
      exact closing ⟨before, first, middle, rfl, opens, unspoiled⟩
    obtain ⟨front, back, rfl⟩ := List.append_of_mem member
    refine ⟨front, ended, back, rfl, ends, fun event inside again => ?_⟩
    -- The later of two ends would not have begun.
    rcases List.mem_append.mp inside with early | late
    · obtain ⟨start, rest, rfl⟩ := List.append_of_mem early
      have isSplit : (World.exec cfg env application).trace =
          (before ++ first :: start) ++ event :: rest ++ ended :: (back ++ second :: after) :=
        split.trans (by simp)
      obtain ⟨other, inRest, connectsAgain⟩ := exists_opens_between opened isSplit again ends
      exact alone other (by rcases List.mem_cons.mp inRest with rfl | later <;> simp [*])
        connectsAgain
    · obtain ⟨rest, finish, rfl⟩ := List.append_of_mem late
      have isSplit : (World.exec cfg env application).trace =
          (before ++ first :: front) ++ ended :: rest ++ event :: (finish ++ second :: after) :=
        split.trans (by simp)
      obtain ⟨other, inRest, connectsAgain⟩ := exists_opens_between opened isSplit ends again
      exact alone other (by rcases List.mem_cons.mp inRest with rfl | later <;> simp [*])
        connectsAgain
  · obtain ⟨earlier, reached, rfl, here, permitted, _⟩ := history.cut split
    obtain ⟨c, label⟩ := event
    obtain rfl : c = earlier.state := here
    exact ⟨reached.brackets.opening.mp (.inr (announces_iff.mp announces).1),
      reached.receivedFresh permitted announces⟩
  · obtain ⟨earlier, reached, rfl, here, permitted, _⟩ := history.cut split
    refine reached.brackets.up (.inl ?_)
    rcases dispatches with ⟨m, called⟩ | ⟨subscription, m, isMessage⟩
    · rw [Entry.reaction, here] at called
      rcases earlier.state.callback_cases called with ⟨header, body, now, isHandle⟩ | ⟨_, other⟩
      · rw [isHandle] at called
        exact (earlier.state.handlePacket_dispatch called).1
      · cases other
    · rw [isMessage] at permitted
      exact permitted.2

end Mqtt
