import Mqtt.Client.RunRule
import Mqtt.Session.EarlyPackets
import Mqtt.Session.InboundIds
import Mqtt.Session.Reception
import Mqtt.Wire.Levels
import Mqtt.Wire.RoundTrip

/-!
# Messages that reach the application

What a message handler is given went through `FixedHeader::from_byte`, `decode_publish`
and `handle_publish`. Between them they check the QoS, the packet id, DUP, and that the
topic is text and not empty. None of them looks for the characters `+` and `#`, which
`is_valid_topic_name` does not allow in a name, so it takes a broker that publishes to
names only for the application to be given nothing else.
-/

namespace Mqtt

open Library

variable {cfg : Config} {header : FixedHeader} {body : Bytes} {m : Message}

/-! ## The contract -/

/-- What the protocol asks of a message. -/
structure Message.Valid (m : Message) : Prop where
  topic : isValidTopicName m.topic = true
  qos : validQos m.qos = true
  packetId : m.packetId ≠ 0 ↔ m.qos ≠ .atMostOnce
  dup : m.dup = true → m.qos ≠ .atMostOnce

/-- The header and body are those of a PUBLISH of this message. -/
structure Message.SpeltBy (m : Message) (header : FixedHeader) (body : Bytes) : Prop where
  qos : header.qos = m.qos
  dup : header.dup = m.dup
  retain : header.retain = m.retain
  body : body = publishBody m.topic m.payload m.qos m.packetId

/-- The next packet is a PUBLISH with both QoS bits set. -/
def ReservedPublish (stream : Bytes) : Prop :=
  ∃ first rest, stream = first :: rest ∧ first >>> 4 = 3 ∧ first &&& 0x06 = 0x06

/-- The event hands over no PUBLISH with a wildcard in its topic. -/
def Library.Entry.namesTopic (event : Event cfg) : Bool :=
  event.label.received.all fun m => !m.topic.contains plus && !m.topic.contains hash

/-- Only valid messages reach the application. -/
structure HandsValidMessages (trace : Trace cfg) : Prop where
  /-- Every message a handler is invoked with is valid. -/
  handed : ∀ event ∈ trace, ∀ subscription m, event.label = .onMessage subscription m → m.Valid
  /-- A PUBLISH of anything else is neither dispatched nor acknowledged, and ends the
  session. -/
  refused : ∀ before event after header body now, trace = before ++ event :: after →
    event.label = .handle header body now → header.type = .publish →
    (∀ m, Message.SpeltBy m header body → ¬ m.Valid) →
    event.reaction.callback = none ∧ event.reaction.queued = [] ∧
      ∃ consumed closing rest reason, after = consumed :: closing :: rest ∧
        ((∃ count, consumed.label = .consume count) ∨ consumed.label = .discard) ∧
        closing.label = .shutdown reason ∧ reason ≠ .ok
  /-- A PUBLISH with the reserved QoS is not handled, and ends the session. -/
  reserved : ∀ past event after during, trace = past ++ event :: after →
    OnConnection past during → ¬ HandlingPacket during → event.label.isHandle = false →
    ReservedPublish (remainderOf (arrivedOver during)) →
    ∃ reason, event.label = .shutdown reason ∧ reason ≠ .ok

/-! ## One PUBLISH -/

theorem peekHeader_of_reserved {stream : Bytes} (reserved : ReservedPublish stream) :
    peekHeader stream = .error .malformedPacket := by
  obtain ⟨first, rest, rfl, isPublish, bothBits⟩ := reserved
  have table : ∀ byte : UInt8, byte >>> 4 = 3 → byte &&& 0x06 = 0x06 →
      FixedHeader.fromByte byte = .error .malformedPacket := forall_byte (by decide +kernel)
  simp only [peekHeader, table first isPublish bothBits]

/-- What is decoded is a valid message, wildcards apart. -/
theorem valid_of_decoded
    (decoded : decodePublish header body = .ok m) (level : validQos m.qos = true)
    (noPlus : plus ∉ m.topic) (noHash : hash ∉ m.topic) : m.Valid := by
  obtain ⟨-, nonempty, short, spells, -, -, untracked⟩ := decodePublish_spelling decoded
  obtain ⟨-, identified⟩ := decodePublish_ok decoded
  refine ⟨isValidTopicName_iff.mpr ⟨?_, short, ?_, noPlus, noHash⟩, level,
    ⟨fun named none => named (untracked none).2, identified⟩, fun again none => ?_⟩
  · exact List.length_pos_iff.mpr nonempty
  · exact isValidMqttString_iff.mp spells
  · rw [(untracked none).1] at again
    cases again

theorem speltBy_of_decoded
    (decoded : decodePublish header body = .ok m) : m.SpeltBy header body := by
  obtain ⟨spelling, -, -, -, retain, dup, -⟩ := decodePublish_spelling decoded
  exact ⟨(decodePublish_ok decoded).1.symm, dup.symm, retain.symm, spelling⟩

theorem not_mem_topic {event : Event cfg} (names : event.namesTopic = true)
    (received : event.label.received = some m) : plus ∉ m.topic ∧ hash ∉ m.topic := by
  simpa [Entry.namesTopic, received] using names

/-- A PUBLISH that says nothing valid is not decoded, wildcards apart. -/
theorem undecoded_of_invalid {c : Client cfg}
    {now : UInt32} (fronts : Control.Fronts c.rx header body) (isPublish : header.type = .publish)
    (names : Entry.namesTopic ⟨c, .handle header body now⟩ = true)
    (invalid : ∀ m, Message.SpeltBy m header body → ¬ m.Valid) (m : Message) :
    decodePublish header body ≠ .ok m := by
  intro decoded
  have received : (Label.handle header body now).received = some m := by
    simp [Label.received, isPublish, decoded, Except.toOption]
  obtain ⟨noPlus, noHash⟩ := not_mem_topic names received
  refine invalid m (speltBy_of_decoded decoded) (valid_of_decoded decoded ?_ noPlus noHash)
  obtain ⟨p, peeked, _, rfl, _⟩ := fronts
  obtain ⟨first, rest, parsed, vbi, _, found, _, rfl⟩ := peekHeader_ok peeked
  have sendable := (fromByte_spelling found).2.1.2
  rw [if_pos isPublish] at sendable
  exact (decodePublish_ok decoded).1 ▸ sendable

namespace Client

variable (c : Client cfg)

/-- A PUBLISH that is not decoded is refused. -/
theorem handlePublish_refuses (undecoded : ∀ m, decodePublish header body ≠ .ok m) :
    ∃ error, error ≠ .ok ∧ c.handlePublish header body = c.refuse error := by
  unfold handlePublish
  split
  · exact ⟨.protocolViolation, by simp, rfl⟩
  cases decoded : decodePublish header body with
  | error error =>
    refine ⟨error, ?_, rfl⟩
    rcases decodePublish_error decoded with rfl | rfl <;> simp
  | ok m => exact absurd decoded (undecoded m)

/-- A dispatched message has one of the three levels. -/
theorem validQos_of_dispatch {label : Label}
    (dispatched : (c.react label).callback = some (.dispatch m)) : validQos m.qos = true := by
  rcases c.callback_cases dispatched with ⟨header, body, now, rfl⟩ | ⟨_, other⟩
  swap
  · cases other
  obtain ⟨reaction, handled, outcome⟩ := c.handlePacket_cases header body now
  rw [show c.react (.handle header body now) = reaction from handled] at dispatched
  cases outcome with
  | delivered m' _ _ _ level | acknowledged m' _ _ _ _ level | recorded m' _ _ _ _ level =>
    obtain rfl : m' = m := by simpa using dispatched
    rw [level]
    rfl
  | _ => cases dispatched

end Client

/-! ## Whole runs -/

/-- In every run in which no PUBLISH has a wildcard in its topic, only valid messages
reach the application. -/
theorem hands_valid_messages (cfg : Config) (env : Env) (application : Script)
    (names : ∀ event ∈ (World.exec cfg env application).trace, event.namesTopic = true) :
    HandsValidMessages (World.exec cfg env application).trace := by
  have history := World.exec_history cfg env application
  constructor
  case handed =>
    intro event member subscription m invokes
    obtain ⟨origin, seen, dispatched⟩ :=
      World.exec_handsDispatched cfg env application event member subscription m invokes
    have received := origin.before.received_of_dispatch dispatched
    obtain ⟨header, body, now, _, _, decoded⟩ := Label.received_eq_some received
    obtain ⟨noPlus, noHash⟩ := not_mem_topic (names origin seen) received
    exact valid_of_decoded decoded (origin.before.validQos_of_dispatch dispatched) noPlus noHash
  case refused =>
    intro before event after header body now split isHandle isPublish invalid
    have names := names event (split ▸ List.mem_append_right _ List.mem_cons_self)
    obtain ⟨start, reached, rfl, here, permitted, onward⟩ := history.cut split
    obtain ⟨c, label⟩ := event
    obtain rfl : c = start.state := here
    obtain rfl : label = .handle header body now := isHandle
    have undecoded := undecoded_of_invalid permitted.2 isPublish names invalid
    obtain ⟨error, failed, refused⟩ := start.state.handlePublish_refuses undecoded
    have reacts : start.state.react (.handle header body now) = start.state.refuse error := by
      show start.state.handlePacket header body now = _
      simp only [Client.handlePacket, isPublish, refused]
    obtain ⟨consumed, closing, rest, isAfter, cleared, isShutdown, _⟩ :=
      refused_closes permitted reacts failed onward (World.exec_outside cfg env application) split
    refine ⟨?_, ?_, consumed, closing, rest, error, isAfter, cleared, isShutdown, failed⟩
    · rw [Entry.reaction, reacts]
      rfl
    · rw [Entry.reaction, reacts]
      rfl
  case reserved =>
    intro past event after during split connection free notHandle reserved
    obtain ⟨earlier, reached, rfl, _, permitted, _⟩ := history.cut split
    have refuses : RefusesNext cfg (remainderOf (arrivedOver during)) .malformedPacket :=
      .inl ⟨peekHeader_of_reserved reserved, by simp⟩
    rcases reached.drained permitted connection free notHandle with
      ⟨_, fine⟩ | ⟨reason, isShutdown, ⟨_, _, _, _, failed⟩ | ⟨_, refused⟩⟩
    · exact absurd refuses (fine _)
    · exact ⟨reason, isShutdown, failed⟩
    · refine ⟨reason, isShutdown, ?_⟩
      rcases refused with ⟨peeked, _⟩ | ⟨_, rfl⟩
      · exact peekHeader_error peeked
      · simp

/-! ## A filter in the place of a name -/

namespace ValidMessages

def options : ConnectOptions := { clientId := [97] }

def application : Script := .connect options (.step .done)

/-- A message on `t`, and a repeated one at QoS 0. -/
def env : Env where
  opens := [.ok]
  sends := [(.ok, 15)]
  recvs := [(.ok, [0x20, 2, 0, 0]), (.ok, [0x30, 3, 0, 1, 116]), (.ok, [0x38, 3, 0, 1, 116])]

/-- A message on `#`. -/
def wildcardEnv : Env :=
  { env with recvs := [(.ok, [0x20, 2, 0, 0]), (.ok, [0x30, 3, 0, 1, 0x23])] }

def run : World .small := World.exec .small wildcardEnv application

end ValidMessages

theorem hands_valid_messages_repeated :
    HandsValidMessages (World.exec .small ValidMessages.env ValidMessages.application).trace ∧
      (World.exec .small ValidMessages.env ValidMessages.application).client.lastError =
        .protocolViolation :=
  ⟨hands_valid_messages .small ValidMessages.env ValidMessages.application (by decide +kernel),
    by decide +kernel⟩

/-- The fallback handler is given the topic `#`. -/
theorem wildcard_handed : ¬ HandsValidMessages ValidMessages.run.trace := by
  intro hands
  have invoked : ∃ event ∈ ValidMessages.run.trace,
      event.label = .onMessage none { topic := [0x23] } := by decide +kernel
  obtain ⟨event, member, isMessage⟩ := invoked
  have valid := (hands.handed event member none _ isMessage).topic
  exact absurd valid (by decide +kernel)

end Mqtt
