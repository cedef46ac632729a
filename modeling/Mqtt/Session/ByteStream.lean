import Mqtt.Client.Accounting
import Mqtt.Session.Outgoing
import Mqtt.Session.Stored
import Mqtt.Session.TransportUse

/-!
# The stream to the broker

What the transport takes over one connection is the front of the packets that were
queued since the `connect()` the connection belongs to, in order, and each of these
is a whole packet. The packets of a connection start with its CONNECT, because
`connect()` empties the queue and nothing is sent before the transport is open.
-/

namespace Mqtt

open Library Client

variable {cfg : Config}

/-- The bytes read as one packet of their own length. -/
def IsWhole (bytes : Bytes) : Prop :=
  ∃ p, peekHeader bytes = .ok p ∧ p.totalBytes = bytes.length

/-- The event is a `connect()` that succeeded. -/
def Library.Entry.Connects (event : Event cfg) : Prop :=
  ∃ opts now, event.label = .connect opts now ∧ event.reaction.error = .ok

/-- The packets queued over a stretch of history. -/
def packetsOver (trace : Trace cfg) : List Queued := trace.flatMap fun event =>
    event.reaction.queued

/-- Each connection carries the front of the packets queued since its `connect()`. -/
def StreamsPackets (trace : Trace cfg) : Prop :=
  ∀ before opening during after, trace = before ++ opening :: during ++ after →
    opening.label.opensTransport = true →
    (∀ event ∈ during, event.before.closesTransport event.label = false) →
    ∃ earlier request handshake, before = earlier ++ request :: handshake ∧ request.Connects ∧
      (∀ event ∈ handshake, ¬ event.Connects) ∧
      let packets := packetsOver (request :: handshake ++ opening :: during)
      acceptedOver during <+: packets.flatMap (·.bytes) ∧
      (∃ opts now, request.label = .connect opts now ∧
        packets.head? = some { bytes := connectPacket opts }) ∧
      ∀ packet ∈ packets, IsWhole packet.bytes

/-! ## Whole packets -/

theorem isWhole_of_framed {types : List PacketType} {bytes : Bytes} (framed : Framed types bytes) :
    IsWhole bytes := by
  obtain ⟨header, body, _, sendable, short, rfl⟩ := framed
  have found := peekHeader_bytes (Packet.of header body sendable short) []
  rw [List.append_nil] at found
  exact ⟨_, found, rfl⟩

/-- Every packet that is queued is whole. -/
theorem History.queued_whole {log : Log cfg} (history : History log)
    (small : cfg.maxPersistedMsgSize ≤ 65535) {label : Label} {packet : Queued}
    (member : packet ∈ (log.state.react label).queued) : IsWhole packet.bytes := by
  cases history.origin member with
  | encoded framed => exact isWhole_of_framed framed
  | stored slot rules inFlight isStored _ =>
    obtain ⟨_, sound⟩ := rules _ (slotRule_sound small)
    obtain ⟨_, topic, payload, retain, ⟨size, sized⟩, _, carries⟩ := sound inFlight
    rw [isStored]
    cases carries with
    | publish dup _ _ _ stored =>
      rw [stored]
      exact isWhole_of_framed (framed_publishPacket sized _ _ _)
    | pubrel _ _ _ _ stored =>
      rw [stored]
      exact isWhole_of_framed (@framed_ackPacket [.pubrel] .pubrel (by simp) (by decide) _)

/-! ## From `connect()` to the open transport -/

/-- A `connect()` that succeeds leaves its CONNECT alone on the queue. -/
theorem connects_cases {c : Client cfg} {opts : ConnectOptions} {now : UInt32}
    (accepted : (c.react (.connect opts now)).error = .ok) :
    c.state = .idle ∧ (c.react (.connect opts now)).queued = [{ bytes := connectPacket opts }] ∧
      (c.apply (.connect opts now)).tx.peek = connectPacket opts ∧
      (c.apply (.connect opts now)).state = .connecting := by
  rcases c.connect_cases opts now with
    ⟨_, bad, same⟩ | ⟨_, _, _, bad, _, same⟩ | ⟨idle, _, _, peek, same⟩
  · exact absurd (by simpa [react, same, refuse] using accepted) bad
  · exact absurd (by simpa [react, same, refuse] using accepted) bad
  · exact ⟨idle, by simp [react, same], by simp [apply, react, same, opened, peek],
      by simp [apply, react, same, opened]⟩

/-- A `connect()` that leaves `Idle` has succeeded. -/
theorem accepted_of_connecting {c : Client cfg} {opts : ConnectOptions} {now : UInt32}
    (idle : c.state = .idle) (moved : (c.apply (.connect opts now)).state = .connecting) :
    (c.react (.connect opts now)).error = .ok := by
  rcases c.connect_cases opts now with
    ⟨_, _, same⟩ | ⟨_, _, _, _, _, same⟩ | ⟨_, _, _, _, same⟩
  · simp [apply, react, same, refuse, idle] at moved
  · simp [apply, react, same, refuse, (c.prepare_frame opts).1, idle] at moved
  · simp [react, same]

section

variable {log : Log cfg} (history : History log)

include history

/-- While the client is connecting, it has been since a `connect()`. -/
theorem History.connecting_since (connecting : log.state.state = .connecting) :
    Since (fun event => event.Connects)
      (fun event => event.before.state ≠ .connecting ∨ event.EndsSession) log.trace := by
  refine history.invariant
    (fun log => log.state.state = .connecting → Since (fun event => event.Connects)
      (fun event => event.before.state ≠ .connecting ∨ event.EndsSession) log.trace)
    (fun log label prior permitted ih connecting => ?_) (by simp [Client.initial]) connecting
  rw [Logged.perform_trace, since_snoc]
  rw [Logged.perform_state] at connecting
  rcases log.state.apply_state_cases label with
    same | ⟨opts, now, rfl, idle, moved⟩ | ⟨_, _, _, moved⟩ | ⟨_, moved⟩ | ⟨now, rfl, moved⟩ |
      ⟨_, _, _, _, _, moved⟩
  · refine .inr ⟨ih (same.symm.trans connecting), ?_⟩
    rintro (other | ended)
    · exact other (same.symm.trans connecting)
    · exact absurd (connecting.symm.trans ended) (by simp)
  · exact .inl ⟨opts, now, rfl, accepted_of_connecting idle moved⟩
  all_goals exact absurd (moved.symm.trans connecting) (by simp)

/-- Nothing is sent while the client is connecting. -/
theorem History.accepted_of_connecting {label : Label} (permitted : Permitted log label)
    (connecting : log.state.state = .connecting) : log.state.accepted label = [] := by
  cases label with
  | send result written now =>
    have fits := history.fits
    rcases permitted.1 with place | place <;> rw [place] at fits
    · exact absurd connecting fits.2.2.1
    · exact absurd connecting fits.2.1
  | _ => rfl

/-- A connection is up from one end of an open stretch to the other. -/
theorem History.open_stretch {before during after : Trace cfg} {opening : Event cfg}
    (split : log.trace = before ++ opening :: during ++ after)
    (opens : opening.label.opensTransport = true)
    (stays : ∀ event ∈ during, event.before.closesTransport event.label = false) :
    ∀ event ∈ opening :: during, ¬ event.EndsSession := by
  intro event member ended
  obtain ⟨front, back, isSplit⟩ := List.append_of_mem member
  have whole : log.trace = (before ++ front) ++ event :: (back ++ after) := by
    rw [split, List.append_assoc, List.cons_append, ← List.cons_append, isSplit]
    simp
  obtain ⟨earlier, reached, trace, here, permitted, _⟩ := history.cut whole
  have live : TransportOpen (before ++ front ++ [event]) := by
    cases front with
    | nil =>
      obtain ⟨rfl, -⟩ := List.cons.inj isSplit
      exact ⟨before, opening, [], by simp, opens, by simp⟩
    | cons first rest =>
      obtain ⟨rfl, isDuring⟩ := List.cons.inj isSplit
      refine ⟨before, opening, rest ++ [event], by simp, opens, fun later inside closes => ?_⟩
      have unclosed := stays later (by
        rw [isDuring]
        rcases List.mem_append.mp inside with old | last
        · exact List.mem_append_left _ old
        · simp [List.mem_singleton.mp last])
      exact absurd (unclosed.symm.trans closes) (by simp)
  have next : History (earlier.perform Client.apply event.label) := reached.step permitted
  obtain ⟨state, label⟩ := event
  obtain rfl : state = earlier.state := here
  rw [← trace, ← Logged.perform_trace, next.transportOpen_iff, Client.isLive_iff] at live
  exact live.1 ended

/-- Nothing is accepted during the handshake, and no other `connect()` succeeds. -/
theorem History.handshake_quiet {earlier handshake : Trace cfg} {request : Event cfg}
    (split : log.trace = earlier ++ request :: handshake)
    (calm : ∀ event ∈ handshake, event.before.state = .connecting) :
    acceptedOver handshake = [] ∧ ∀ event ∈ handshake, ¬ event.Connects := by
  refine ⟨List.flatMap_eq_nil_iff.mpr fun event member => ?_, ?_⟩
  · obtain ⟨front, back, rfl⟩ := List.append_of_mem member
    obtain ⟨point, reached, _, here, permitted, _⟩ :=
      @History.cut _ _ history (earlier ++ request :: front) back event (by simpa using split)
    rw [here]
    exact reached.accepted_of_connecting permitted (here ▸ calm event member)
  · rintro event member ⟨opts, now, isConnect, accepted⟩
    rw [Entry.reaction, isConnect] at accepted
    exact absurd ((calm event member).symm.trans (connects_cases accepted).1) (by simp)

end

theorem wireOver_eq (trace : Trace cfg) : wireOver trace = (packetsOver trace).flatMap (·.bytes) := by
  rw [packetsOver, List.flatMap_assoc]
  rfl

theorem History.packets_whole {log : Log cfg} (history : History log)
    (small : cfg.maxPersistedMsgSize ≤ 65535) {packet : Queued}
    (member : packet ∈ packetsOver log.trace) : IsWhole packet.bytes := by
  obtain ⟨event, inside, queued⟩ := List.mem_flatMap.mp member
  obtain ⟨front, back, split⟩ := List.append_of_mem inside
  obtain ⟨point, reached, _, here, _⟩ := history.cut split
  rw [Entry.reaction, here] at queued
  exact reached.queued_whole small queued

/-- Every connection carries the front of the packets queued for it, whole and in
order, the CONNECT first. -/
theorem streams_packets (cfg : Config) (small : cfg.maxPersistedMsgSize ≤ 65535) (env : Env)
    (application : Script) : StreamsPackets (World.exec cfg env application).trace := by
  intro before opening during after split opens stays
  have history := World.exec_history cfg env application
  have unended := history.open_stretch split opens stays
  obtain ⟨atOpening, reached, rfl, here, permitted, _⟩ :=
    @History.cut _ _ history before (during ++ after) opening (split.trans (by simp))
  have connecting : atOpening.state.state = .connecting := by
    cases isLabel : opening.label <;>
      simp only [isLabel, Label.opensTransport, Bool.false_eq_true] at opens
    rw [isLabel] at permitted
    have fits := reached.fits
    rw [show Control.of atOpening.trace = .opening from permitted] at fits
    exact fits.2
  obtain ⟨earlier, request, handshake, isBefore, connects, calm⟩ := reached.connecting_since
    connecting
  simp only [not_or, not_not] at calm
  obtain ⟨silent, alone⟩ := reached.handshake_quiet isBefore fun event member =>
    (calm event member).1
  obtain ⟨opts, now, isConnect, accepted⟩ := connects
  -- The stretch from the `connect()` to the end of the connection.
  obtain ⟨finish, finishHistory, finishTrace, _⟩ :=
    @History.upTo _ _ history (earlier ++ request :: (handshake ++ opening :: during)) after
      (split.trans (by simp [isBefore]))
  obtain ⟨start, _, rfl, startHere, _, onward⟩ := finishHistory.cut finishTrace
  rw [Entry.reaction, isConnect, startHere] at accepted
  obtain ⟨_, queued, peek, moved⟩ := connects_cases accepted
  have stretch : ∀ event ∈ handshake ++ opening :: during, ¬ event.EndsSession := by
    intro event member
    rcases List.mem_append.mp member with first | second
    · exact (calm event first).2
    · exact unended event second
  rw [isConnect] at onward
  obtain ⟨accounted, _⟩ := @accounts_over _ _ _ _ onward (handshake ++ opening :: during)
    (by rw [finishTrace, Logged.perform_trace, ← isConnect, ← startHere]; simp) stretch
    (by rw [Logged.perform_state, moved]; simp)
  have wire : request.reaction.queued = [{ bytes := connectPacket opts }] := by
    rw [Entry.reaction, isConnect, startHere]
    exact queued
  refine ⟨start.trace, request, handshake, isBefore, ⟨opts, now, isConnect, ?_⟩, alone, ?_,
    ⟨opts, now, isConnect, ?_⟩, fun packet member => ?_⟩
  · rw [Entry.reaction, isConnect, startHere]
    exact accepted
  · refine ⟨finish.state.tx.peek, ?_⟩
    have opened : opening.before.accepted opening.label = [] := by
      rw [here]
      exact reached.accepted_of_connecting permitted connecting
    calc acceptedOver during ++ finish.state.tx.peek
        = acceptedOver (handshake ++ opening :: during) ++ finish.state.tx.peek := by
          rw [acceptedOver, acceptedOver, List.flatMap_append, List.flatMap_cons, opened,
            show handshake.flatMap _ = [] from silent]
          rfl
      _ = connectPacket opts ++ wireOver (handshake ++ opening :: during) := by
          rw [← accounted, Logged.perform_state, peek]
      _ = wireOver (request :: (handshake ++ opening :: during)) := by
          simp [wireOver, Reaction.wire, wire]
      _ = _ := wireOver_eq _
  · simp [packetsOver, wire]
  · refine finishHistory.packets_whole small ?_
    rw [finishTrace]
    rw [packetsOver, List.flatMap_append]
    exact List.mem_append_right _ member

/-! ## A connection that takes its bytes in pieces -/

namespace ByteStream

/-- The transport takes the CONNECT in two pieces; a QoS 2 message arrives and its
PUBREC goes out one byte at a time. -/
def env : Env where
  opens := [.ok]
  sends := [(.ok, 7), (.ok, 8), (.ok, 1), (.ok, 1)]
  recvs := [(.ok, [0x20, 2, 0, 0, 0x34, 5, 0, 1, 116, 0, 1])]

def run : World .small := World.exec .small env TransportUse.application

end ByteStream

theorem streams_packets_in_pieces :
    StreamsPackets ByteStream.run.trace ∧
      acceptedOver ByteStream.run.trace =
        connectPacket TransportUse.options ++ (ackPacket .pubrec 1).take 2 :=
  ⟨streams_packets .small (by decide) ByteStream.env TransportUse.application, by decide +kernel⟩

end Mqtt
