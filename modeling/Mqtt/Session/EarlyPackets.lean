import Mqtt.Session.Bracketing
import Mqtt.Session.Slots

/-!
# Packets before the CONNACK

`handle_connack` and `handle_publish` look at the connection state; the handlers
of acknowledgements do not. Until the CONNACK, then, a PUBLISH or a packet that
no broker sends ends the session, while an acknowledgement is honoured as if the
session were up. A session that is resumed brings its tables into the handshake,
so there is something for such an acknowledgement to act on.
-/

namespace Mqtt

open Library

variable {cfg : Config}

/-! ## The contract -/

/-- The types whose handlers do not look at the connection state. -/
def PacketType.isAck : PacketType → Bool
  | .puback | .pubrec | .pubrel | .pubcomp | .suback | .unsuback | .pingresp => true
  | _ => false

/-- The body reads as one of the packet's type. The types no broker sends are not
read. -/
def wellFormed (header : FixedHeader) (body : Bytes) : Bool :=
  match header.type with
  | .connack => (decodeConnack body).isOk
  | .publish => (decodePublish header body).isOk
  | .puback | .pubrec | .pubrel | .pubcomp | .unsuback => (decodePacketId body).isOk
  | .suback => (decodeSuback body).isOk
  | .pingresp => body.isEmpty
  | _ => true

/-- The event hands over a well-formed acknowledgement before the CONNACK. -/
def Library.Entry.acksEarly (event : Event cfg) : Bool :=
  event.before.state = .awaitingConnack &&
    match event.label with
    | .handle header body _ => header.type.isAck && wellFormed header body
    | _ => false

/-- What the event leaves alone if it honours nothing: the queue, the phase of every
slot, the inbound ids, and the application's delivery and SUBACK handlers. -/
structure Client.Dormant (c : Client cfg) (reaction : Reaction cfg) : Prop where
  queued : reaction.queued = []
  phases : reaction.client.outbound.map (·.phase) = c.outbound.map (·.phase)
  inboundIds : reaction.client.inboundIds = c.inboundIds
  undelivered : ∀ id, reaction.callback ≠ some (.onDelivery id)
  unanswered : ∀ id codes, reaction.callback ≠ some (.onSuback id codes)

/-- Nothing but a CONNACK is honoured before the CONNACK. -/
structure HonoursConnackOnly (trace : Trace cfg) : Prop where
  /-- Any other packet ends the session. -/
  ended : ∀ before event after header body now, trace = before ++ event :: after →
    event.before.state = .awaitingConnack → event.label = .handle header body now →
    wellFormed header body = true → header.type ≠ .connack →
    ∃ consumed closing rest, after = consumed :: closing :: rest ∧
      closing.Notifies .protocolViolation
  /-- The session begins by queuing its CONNECT. -/
  requested : ∀ event ∈ trace, event.Connects →
    ∃ opts now, event.label = .connect opts now ∧
      event.reaction.queued = [{ bytes := connectPacket opts }]
  /-- Nothing else happens until the CONNACK. -/
  dormant : ∀ before event after, trace = before ++ event :: after → Handshaking before →
    event.before.Dormant event.reaction

/-! ## One packet -/

namespace Client

variable (c : Client cfg)

/-- Any packet but a CONNACK and the acknowledgements is refused. -/
theorem handlePacket_violation {header : FixedHeader} (body : Bytes) (now : UInt32)
    (down : c.state ≠ .connected) (notConnack : header.type ≠ .connack)
    (notAck : header.type.isAck = false) :
    c.handlePacket header body now = c.refuse .protocolViolation := by
  unfold handlePacket
  cases type : header.type <;> simp_all [PacketType.isAck, handlePublish]

theorem Inert.dormant {c : Client cfg} {reaction : Reaction cfg} (inert : c.Inert reaction) :
    c.Dormant reaction :=
  ⟨inert.queued, by rw [inert.outbound], inert.inboundIds, by simp [inert.callback],
    by simp [inert.callback]⟩

/-- A packet that is no well-formed acknowledgement is not honoured early. -/
theorem handlePacket_dormant {header : FixedHeader} {body : Bytes} (now : UInt32)
    (down : c.state ≠ .connected) (noAck : (header.type.isAck && wellFormed header body) = false) :
    c.Dormant (c.handlePacket header body now) := by
  have identified : ∀ {id}, decodePacketId body = .ok id →
      header.type = .puback ∨ header.type = .pubrec ∨ header.type = .pubrel ∨
        header.type = .pubcomp → False := by
    rintro id decoded (type | type | type | type) <;>
      simp [PacketType.isAck, wellFormed, type, decoded, Except.isOk, Except.toBool] at noAck
  obtain ⟨reaction, handled, outcome⟩ := c.handlePacket_cases header body now
  rw [handled]
  cases outcome with
  | accepted info =>
    refine ⟨rfl, ?_, ?_, by simp, by simp⟩ <;> simp only <;> split <;> rfl
  | delivered m isPublish up => exact absurd up down
  | acknowledged m tx isPublish up | recorded m tx isPublish up | recognized m tx isPublish up =>
    exact absurd up down
  | released id tx isPubrel decoded => exact (identified decoded (.inr (.inr (.inl isPubrel)))).elim
  | completed id index slot awaited decoded =>
    rcases awaited with ⟨type, _⟩ | ⟨type, _⟩
    · exact (identified decoded (.inl type)).elim
    · exact (identified decoded (.inr (.inr (.inr type)))).elim
  | spoiled id index slot error packet isPubrec decoded
  | advanced id index slot tx isPubrec decoded | stalled id index slot tx _ isPubrec decoded
  | repeated id index slot tx isPubrec decoded =>
    exact (identified decoded (.inr (.inl isPubrec))).elim
  | answered v ack table isSuback decoded =>
    simp [PacketType.isAck, wellFormed, isSuback, decoded, Except.isOk, Except.toBool] at noAck
  | _ => exact ⟨rfl, rfl, rfl, by simp, by simp⟩

end Client

/-! ## A clean session starts blank -/

/-- No message is in flight in either direction. -/
structure Client.Blank (c : Client cfg) : Prop where
  outbound : ∀ slot ∈ c.outbound, slot.phase = .free
  inboundIds : c.inboundIds = []

theorem Client.Blank.handlePacket {c : Client cfg} (blank : c.Blank) (down : c.state ≠ .connected)
    (header : FixedHeader) (body : Bytes) (now : UInt32) :
    (c.handlePacket header body now).client.Blank := by
  have busy : ∀ {index : Nat} {slot : OutboundSlot}, c.outbound[index]? = some slot →
      slot.phase = .free :=
    fun here => blank.outbound _ (List.mem_of_getElem? here)
  obtain ⟨reaction, handled, outcome⟩ := c.handlePacket_cases header body now
  rw [handled]
  cases outcome with
  | accepted info =>
    simp only
    split <;> exact ⟨blank.outbound, blank.inboundIds⟩
  | recorded m tx isPublish up => exact absurd up down
  | released id tx =>
    exact ⟨blank.outbound, by simp [blank.inboundIds]⟩
  | completed id index slot awaited decoded here =>
    rcases awaited with ⟨_, waits⟩ | ⟨_, waits⟩ <;> simp [busy here] at waits
  | spoiled id index slot error packet isPubrec decoded here =>
    refine ⟨fun other member => ?_, blank.inboundIds⟩
    rcases List.mem_or_eq_of_mem_set member with old | rfl
    · exact blank.outbound other old
    · exact blank.outbound slot (List.mem_of_getElem? here)
  | advanced id index slot tx isPubrec decoded here named waiting
  | stalled id index slot tx _ isPubrec decoded here named waiting
  | repeated id index slot tx isPubrec decoded here named waiting => simp [busy here] at waiting
  | _ => exact ⟨blank.outbound, blank.inboundIds⟩

/-- The end of a blank session releases nothing. -/
theorem Client.shutdown_dormant {c : Client cfg} (blank : c.cleanSession = true → c.Blank)
    (tx : TxQueue cfg.txBufferSize) (reason : Error) :
    c.Dormant (shutdown { c with tx := tx } reason) := by
  have silent : ∀ callback, (shutdown { c with tx := tx } reason).callback = some callback →
      ∃ reason, callback = .onDisconnect reason := by
    intro callback told
    simp only [shutdown] at told
    split at told
    · exact ⟨reason, (Option.some.inj told).symm⟩
    · cases told
  refine ⟨rfl, ?_, ?_, fun id told => ?_, fun id codes told => ?_⟩
  · simp only [shutdown, teardown_outbound]
    split
    · rename_i clean
      have free := (blank clean).outbound
      rw [List.map_map]
      exact List.map_congr_left fun slot member => (free slot member).symm
    · rfl
  · simp only [shutdown, teardown_inboundIds]
    split
    · rename_i clean
      exact (blank clean).inboundIds.symm
    · rfl
  · obtain ⟨_, other⟩ := silent _ told
    cases other
  · obtain ⟨_, other⟩ := silent _ told
    cases other

theorem Client.blank_of_connects {c : Client cfg} {opts : ConnectOptions} {now : UInt32}
    (begins : (c.apply (.connect opts now)).state ≠ .idle) (idle : c.state = .idle)
    (clean : (c.apply (.connect opts now)).cleanSession = true) :
    (c.apply (.connect opts now)).Blank := by
  rcases c.connect_cases opts now with
    ⟨_, _, same⟩ | ⟨_, _, _, _, _, same⟩ | ⟨_, _, _, _, same⟩
  · simp [Client.apply, Client.react, same, Client.refuse, idle] at begins
  · simp [Client.apply, Client.react, same, Client.refuse, (c.prepare_frame opts).1, idle] at begins
  · have asked : opts.cleanSession = true := by
      simpa [Client.apply, Client.react, same, Client.opened] using clean
    constructor <;>
      simp [Client.apply, Client.react, same, Client.opened, Client.prepare_outbound,
        Client.prepare_inboundIds, asked, OutboundSlot.release]

/-- No message is in flight while a clean session begins. -/
theorem History.blank_of_clean {log : Log cfg} (history : History log)
    (early : log.state.state = .connecting ∨ log.state.state = .awaitingConnack)
    (clean : log.state.cleanSession = true) : log.state.Blank := by
  refine history.invariant
    (fun log => log.state.state = .connecting ∨ log.state.state = .awaitingConnack →
      log.state.cleanSession = true → log.state.Blank)
    (fun log label prior permitted ih early clean => ?_) (by simp [Client.initial]) early clean
  rw [Logged.perform_state] at early clean ⊢
  by_cases idle : log.state.state = .idle
  · have begins : (log.state.apply label).state ≠ .idle := by
      rcases early with now | now <;> simp [now]
    obtain ⟨⟨opts, now, rfl⟩, _⟩ := prior.begin_cases permitted idle begins
    exact Client.blank_of_connects begins idle clean
  have wasEarly : log.state.state = .connecting ∨ log.state.state = .awaitingConnack := by
    rcases prior.state_cases permitted with
      same | ⟨was, _⟩ | ⟨was, _⟩ | ⟨_, moved⟩ | ⟨_, moved⟩ | ⟨_, moved⟩
    · exact same ▸ early
    · exact absurd was idle
    · exact .inl was
    all_goals simp [moved] at early
  have down : log.state.state ≠ .connected := by rcases wasEarly with now | now <;> simp [now]
  by_cases packet : ∃ header body now, label = .handle header body now
  · obtain ⟨header, body, now, rfl⟩ := packet
    have kept := (log.state.handlePacket_within header body now).cleanSession
    exact (ih wasEarly (kept ▸ clean)).handlePacket down header body now
  push Not at packet
  rcases prior.inert_of_down permitted idle down packet with inert | ⟨tx, reason, same⟩
  · obtain ⟨outbound, inboundIds⟩ := ih wasEarly (inert.cleanSession ▸ clean)
    exact ⟨fun slot member => outbound slot (inert.outbound ▸ member),
      inert.inboundIds.trans inboundIds⟩
  · simp [Client.apply, same, Client.shutdown, Client.teardown] at early

/-! ## The session ends -/

/-- A run that is to close goes on with the close. -/
theorem closes_next {log finish : Log cfg}
    (onward : Logged.Reaches Client.apply Permitted log finish)
    (finished : Control.of finish.trace = .outside) {after : Trace cfg} {reason : Error}
    (split : finish.trace = log.trace ++ after) (closing : Control.of log.trace = .closing reason) :
    ∃ rest, after = ⟨log.state, .shutdown reason⟩ :: rest := by
  cases after with
  | nil =>
    rw [split, List.append_nil, closing] at finished
    cases finished
  | cons ended rest =>
    obtain ⟨label, rfl, permitted, _⟩ := onward.head split
    unfold Permitted at permitted
    rw [closing] at permitted
    exact ⟨rest, by rw [Control.permits_closing permitted]⟩

section Refused

variable {start finish : Log cfg} {header : FixedHeader} {body : Bytes} {now : UInt32}
  {error : Error} (permitted : Permitted start (.handle header body now))
  (refused : start.state.react (.handle header body now) = start.state.refuse error)
  (failed : error ≠ .ok)
  (onward : Logged.Reaches Client.apply Permitted
    (start.perform Client.apply (.handle header body now)) finish)
  (finished : Control.of finish.trace = .outside) {after : Trace cfg}
  (split : finish.trace = start.trace ++ ⟨start.state, .handle header body now⟩ :: after)

include permitted refused failed onward finished split

/-- After a packet that is refused the pass takes it out of the buffer and closes. -/
theorem refused_closes :
    ∃ consumed closing rest, after = consumed :: closing :: rest ∧
      ((∃ count, consumed.label = .consume count) ∨ consumed.label = .discard) ∧
      closing.label = .shutdown error ∧ closing.before.state = start.state.state := by
  obtain ⟨⟨rest, place⟩, _⟩ := permitted
  have isClient : start.state.apply (.handle header body now) = start.state := by
    simp [Client.apply, refused, Client.refuse]
  have handling : Control.of (start.perform Client.apply (.handle header body now)).trace =
      .handling rest error (Control.frontTotal start.state.rx) := by
    simp [place, Control.after, refused, Client.refuse]
  cases after with
  | nil =>
    rw [Logged.perform_trace, ← split] at handling
    rw [handling] at finished
    cases finished
  | cons consumed rest =>
    obtain ⟨label, rfl, allowed, onward, isRest⟩ := onward.head
      (show finish.trace = (start.perform Client.apply (.handle header body now)).trace ++
        consumed :: rest by simpa using split)
    unfold Permitted at allowed
    rw [handling] at allowed
    obtain ⟨cleared, leads⟩ := Control.permits_failed failed allowed
    obtain ⟨tail, rfl⟩ := closes_next onward finished isRest (by
      rw [Logged.perform_trace, Control.of_snoc, handling]
      exact leads)
    refine ⟨_, _, tail, rfl, cleared.imp_left fun same => ⟨_, same⟩, rfl, ?_⟩
    simp only [Logged.perform_state, isClient]
    rcases cleared with rfl | rfl <;> rfl

/-- A packet that is refused ends the session, once it is consumed. -/
theorem refused_ends (busy : start.state.state ≠ .idle) :
    ∃ consumed closing rest, after = consumed :: closing :: rest ∧ closing.Notifies error := by
  obtain ⟨consumed, ⟨c, label⟩, rest, isAfter, _, isShutdown, same⟩ :=
    refused_closes permitted refused failed onward finished split
  obtain rfl : label = .shutdown error := isShutdown
  have stillBusy : c.state ≠ .idle := same.trans_ne busy
  refine ⟨consumed, _, rest, isAfter, ?_⟩
  simp only [Entry.Notifies, Entry.reaction, Client.react, Client.shutdown, if_pos stillBusy]

end Refused

/-! ## Early packets -/

/-- Nothing is honoured while the handshake is under way. -/
theorem History.dormant {log : Log cfg} (history : History log)
    {label : Label} (permitted : Permitted log label)
    (early : log.state.state = .connecting ∨ log.state.state = .awaitingConnack)
    (noAck : Entry.acksEarly ⟨log.state, label⟩ = false) :
    log.state.Dormant (log.state.react label) := by
  have busy : log.state.state ≠ .idle := by rcases early with now | now <;> simp [now]
  have down : log.state.state ≠ .connected := by rcases early with now | now <;> simp [now]
  by_cases packet : ∃ header body now, label = .handle header body now
  · obtain ⟨header, body, now, rfl⟩ := packet
    obtain ⟨_, p, peeked, complete, _⟩ := permitted
    rcases early with connecting | awaiting
    · rw [history.rx_of_connecting connecting] at complete
      have positive := peekHeader_total peeked
      simp at complete
      omega
    · refine log.state.handlePacket_dormant now down ?_
      simpa [Entry.acksEarly, awaiting] using noAck
  · push Not at packet
    rcases history.inert_of_down permitted busy down packet with inert | ⟨tx, reason, same⟩
    · exact inert.dormant
    · rw [same]
      exact Client.shutdown_dormant (history.blank_of_clean early) tx reason

/-- In every run in which no well-formed acknowledgement comes before its CONNACK,
nothing but a CONNACK is honoured before the CONNACK. -/
theorem honours_connack_only (cfg : Config) (env : Env) (application : Script)
    (noAck : ∀ event ∈ (World.exec cfg env application).trace, event.acksEarly = false) :
    HonoursConnackOnly (World.exec cfg env application).trace := by
  have history := World.exec_history cfg env application
  constructor
  case ended =>
    intro before event after header body now split awaiting isHandle sound notConnack
    obtain ⟨start, reached, rfl, here, permitted, onward⟩ := history.cut split
    obtain ⟨c, label⟩ := event
    obtain rfl : c = start.state := here
    obtain rfl : label = .handle header body now := isHandle
    have awaiting : start.state.state = .awaitingConnack := awaiting
    have notAck : header.type.isAck = false := by
      have early := noAck _ (split ▸ List.mem_append_right _ List.mem_cons_self)
      simpa [Entry.acksEarly, awaiting, sound] using early
    exact refused_ends permitted
      (start.state.handlePacket_violation body now (by simp [awaiting]) notConnack notAck)
      (by simp) onward (World.exec_outside cfg env application) split (by simp [awaiting])
  case requested =>
    rintro ⟨c, label⟩ _ ⟨opts, now, isConnect, accepted⟩
    obtain rfl : label = .connect opts now := isConnect
    obtain ⟨_, queued, _⟩ := connects_cases accepted
    exact ⟨opts, now, rfl, queued⟩
  case dormant =>
    intro before event after split handshaking
    obtain ⟨earlier, reached, rfl, here, permitted, _⟩ := history.cut split
    obtain ⟨c, label⟩ := event
    obtain rfl : c = earlier.state := here
    exact reached.dormant permitted (reached.brackets.opening.mpr handshaking)
      (noAck _ (split ▸ List.mem_append_right _ List.mem_cons_self))

/-! ## An acknowledgement on a connection that is not accepted yet -/

namespace EarlyPackets

def options : ConnectOptions := { clientId := [97], cleanSession := false }

/-- Connect, publish a QoS 1 message, lose the connection and connect again. -/
def application : Script :=
  .connect options (.step (.publish [116] [] .atLeastOnce false
    (.step (.connect options (.step .done)))))

/-- The second connection brings a PUBLISH instead of its CONNACK. -/
def publishEnv : Env where
  opens := [.ok, .ok]
  sends := [(.ok, 15), (.ok, 7), (.ok, 15)]
  recvs := [(.ok, [0x20, 2, 0, 0]), (.wouldBlock, []), (.transportClosed, []),
    (.ok, [0x30, 3, 0, 1, 116])]

/-- The second connection brings a PUBACK instead of its CONNACK. -/
def env : Env :=
  { publishEnv with recvs := [(.ok, [0x20, 2, 0, 0]), (.wouldBlock, []), (.transportClosed, []),
      (.ok, [0x40, 2, 0, 1])] }

def run : World .small := World.exec .small env application

end EarlyPackets

theorem honours_connack_only_publish :
    HonoursConnackOnly (World.exec .small EarlyPackets.publishEnv EarlyPackets.application).trace ∧
      (World.exec .small EarlyPackets.publishEnv EarlyPackets.application).client.lastError =
        .protocolViolation :=
  ⟨honours_connack_only .small EarlyPackets.publishEnv EarlyPackets.application
    (by decide +kernel), by decide +kernel⟩

/-- The PUBACK completes the message, and its delivery is reported. -/
theorem delivered_before_connack : ¬ HonoursConnackOnly EarlyPackets.run.trace := by
  intro honours
  have split := split_at_position EarlyPackets.run.trace
    (show 23 < EarlyPackets.run.trace.length by decide +kernel)
  obtain ⟨earlier, reached, trace, here, _⟩ :=
    (World.exec_history .small EarlyPackets.env EarlyPackets.application).cut split
  have awaiting : earlier.state.state = .awaitingConnack := by
    rw [← here]
    decide +kernel
  have handshaking := reached.brackets.opening.mp (.inr awaiting)
  exact (honours.dormant _ _ _ split (trace ▸ handshaking)).undelivered 1 (by decide +kernel)

end Mqtt
