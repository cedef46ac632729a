import Mqtt.Client.Accounting
import Mqtt.Session.Arrivals

/-!
# The client and a broker

A client and a broker joined by one FIFO channel in each direction. The channels
carry bytes, and lose their contents when the client's session ends and at no
other time. The broker takes the client's packets one at a time, each once all
its bytes have been accepted by `Transport::send`, and the packets it sends reach
the client in whatever pieces `Transport::recv` returns.

Besides the bytes, the state records which packets they belong to: what the
client has queued and the broker not yet taken, and what the broker has sent and
the client not yet handled. Neither party looks at these records. That they
describe the bytes is `Net.Flows`.
-/

namespace Mqtt

open Library

/-- A packet the broker sent, and what it stands for. -/
structure Sent (Tag : Type) where
  packet : Packet
  tag : Tag

/-- A packet the client queued, and where in its history it did. -/
structure Posted where
  position : Nat
  packet : Queued

/-- A broker: how it answers a packet, and what it may send of its own accord. -/
structure Broker (Tag : Type) where
  State : Type
  initial : State
  Takes : State → Posted → State → List (Sent Tag) → Prop
  Offers : State → State → List (Sent Tag) → Prop

/-- A packet the client handled, where in its history it did, and what it did. -/
structure Handled (Tag : Type) where
  position : Nat
  sent : Sent Tag
  queued : List Queued
  callback : Option Callback

/-- Client, broker and the channels between them. -/
structure Net (cfg : Config) {Tag : Type} (broker : Broker Tag) where
  log : Log cfg
  state : broker.State
  /-- Bytes on the way to the broker, and the packets they and the transmit queue
  are made of. -/
  up : Bytes
  untaken : List Posted
  /-- Bytes on the way to the client, and the packets they and the receive buffer
  are made of. -/
  down : Bytes
  unhandled : List (Sent Tag)
  handled : List (Handled Tag)

/-- The bytes of the packets, in order. -/
def Posted.stream (posted : List Posted) : Bytes := posted.flatMap (·.packet.bytes)

def Sent.stream {Tag : Type} (sent : List (Sent Tag)) : Bytes := sent.flatMap (·.packet.bytes)

variable {cfg : Config} {Tag : Type} {broker : Broker Tag} {down : Bytes}

namespace Net

/-- A fresh client, and a broker that has not heard of it. -/
def start (cfg : Config) (broker : Broker Tag) : Net cfg broker where
  log := ⟨Client.initial cfg, []⟩
  state := broker.initial
  up := []
  untaken := []
  down := []
  unhandled := []
  handled := []

/-- The record of a packet handled by this label. -/
def record (net : Net cfg broker) (label : Label) : List (Handled Tag) :=
  if label.isHandle then
    net.unhandled.head?.toList.map fun sent =>
      { position := net.log.trace.length
        sent := sent
        queued := (net.log.state.react label).queued
        callback := (net.log.state.react label).callback }
  else []

/-- A piece of client code runs; `down` is what it leaves in the channel. -/
def clientStep (net : Net cfg broker) (label : Label) (down : Bytes) : Net cfg broker :=
  let before := net.log.state
  if (before.apply label).state = .idle then
    -- The connection, if there was one, is gone with all it carried.
    { net with
      log := net.log.perform Client.apply label
      up := [], untaken := [], down := [], unhandled := []
      handled := net.handled ++ net.record label }
  else
    { net with
      log := net.log.perform Client.apply label
      up := net.up ++ before.accepted label
      untaken := net.untaken ++
        (before.react label).queued.map fun packet => ⟨net.log.trace.length, packet⟩
      down := down
      unhandled := if label.isHandle then net.unhandled.tail else net.unhandled
      handled := net.handled ++ net.record label }

/-- The broker sends packets. -/
def send (net : Net cfg broker) (state : broker.State) (sent : List (Sent Tag)) : Net cfg broker :=
  { net with
    state := state
    down := net.down ++ Sent.stream sent
    unhandled := net.unhandled ++ sent }

/-- One move of either party. -/
inductive Step : Net cfg broker → Net cfg broker → Prop where
  | client (net : Net cfg broker) (label : Label) (down : Bytes)
      (permitted : Permitted net.log label) (arrives : net.down = label.arriving ++ down) :
      Step net (net.clientStep label down)
  | take (net : Net cfg broker) (posted : Posted) (rest : List Posted) (up : Bytes)
      (state : broker.State) (sent : List (Sent Tag))
      (live : net.log.state.isLive = true)
      (next : net.untaken = posted :: rest) (arrived : net.up = posted.packet.bytes ++ up)
      (takes : broker.Takes net.state posted state sent) :
      Step net ({ net with up := up, untaken := rest }.send state sent)
  | offer (net : Net cfg broker) (state : broker.State) (sent : List (Sent Tag))
      (live : net.log.state.isLive = true) (offers : broker.Offers net.state state sent) :
      Step net (net.send state sent)

/-- What a client and its broker can come to. -/
inductive Reachable : Net cfg broker → Prop where
  | start : Reachable (start cfg broker)
  | step {net next : Net cfg broker} (prior : Reachable net) (step : Step net next) :
      Reachable next

end Net

/-! ## One packet id -/

/-- The value, if it is for this packet id. -/
def under {α : Type} (k : UInt16) : Option (UInt16 × α) → Option α
  | some (id, value) => if id = k then some value else none
  | none => none

@[simp] theorem under_none {α : Type} (k : UInt16) : under k (none : Option (UInt16 × α)) = none :=
  rfl

@[simp] theorem under_self {α : Type} (k : UInt16) (value : α) :
    under k (some (k, value)) = some value :=
  if_pos rfl

theorem under_other {α : Type} {k id : UInt16} (other : id ≠ k) (value : α) :
    under k (some (id, value)) = none := if_neg other

theorem under_eq_some {α : Type} {k : UInt16} {value : α} {found : Option (UInt16 × α)} :
    under k found = some value ↔ found = some (k, value) := by
  cases found with
  | none => simp
  | some pair =>
    obtain ⟨id, other⟩ := pair
    by_cases here : id = k
    · subst here
      simp
    · simp [under_other here, here]

/-! ## The records describe the bytes -/

namespace Net

/-- The records describe the bytes: those the client has queued are in the channel
or still waiting, those the broker has sent are received or still in the channel.
Without a session there is nothing. -/
structure Flows (net : Net cfg broker) : Prop where
  history : History net.log
  up : net.log.state.state ≠ .idle →
    net.up ++ net.log.state.tx.peek = Posted.stream net.untaken
  down : net.log.state.state ≠ .idle →
    net.log.state.rx.drop (Control.of net.log.trace).offset ++ net.down =
      Sent.stream net.unhandled
  idle : net.log.state.state = .idle →
    net.up = [] ∧ net.untaken = [] ∧ net.down = [] ∧ net.unhandled = [] ∧ net.log.state.rx = []

theorem stream_append (first second : List Posted) :
    Posted.stream (first ++ second) = Posted.stream first ++ Posted.stream second := by
  simp [Posted.stream]

theorem sent_stream_append (first second : List (Sent Tag)) :
    Sent.stream (first ++ second) = Sent.stream first ++ Sent.stream second := by
  simp [Sent.stream]

theorem stream_post (position : Nat) (reaction : Reaction cfg) :
    Posted.stream (reaction.queued.map fun packet => ⟨position, packet⟩) = reaction.wire := by
  simp [Posted.stream, Reaction.wire, List.flatMap_map, List.flatten_eq_flatMap]

variable {net : Net cfg broker} {label : Label}

/-- The packet the client handles is the next one the broker sent. -/
theorem Flows.front (flows : net.Flows) {header : FixedHeader} {body : Bytes} {now : UInt32}
    (permitted : Permitted net.log (.handle header body now)) :
    net.log.state.state ≠ .idle ∧ ∃ sent rest, net.unhandled = sent :: rest ∧
      header = sent.packet.header ∧ body = sent.packet.body ∧
      Control.frontTotal net.log.state.rx = sent.packet.bytes.length ∧
      sent.packet.bytes.length ≤ net.log.state.rx.length := by
  obtain ⟨⟨place, isPlace⟩, p, peeked, complete, rfl, rfl⟩ := permitted
  have busy : net.log.state.state ≠ .idle := by
    intro idle
    rw [(flows.idle idle).2.2.2.2] at peeked
    cases peeked
  have stream := flows.down busy
  rw [isPlace, show (Control.draining place).offset = 0 from rfl, List.drop_zero] at stream
  refine ⟨busy, ?_⟩
  cases isUnhandled : net.unhandled with
  | nil =>
    rw [isUnhandled] at stream
    have emptied : net.log.state.rx = [] := (List.append_eq_nil_iff.mp stream).1
    rw [emptied] at peeked
    cases peeked
  | cons sent rest =>
    rw [isUnhandled] at stream
    have front : net.log.state.rx ++ net.down = sent.packet.bytes ++ Sent.stream rest := stream
    obtain ⟨isHeader, headerBytes, total⟩ := eq_of_peekHeader front peeked
    refine ⟨sent, rest, rfl, isHeader, ?_, by simp [Control.frontTotal, peeked, total],
      total ▸ complete⟩
    obtain ⟨split, _⟩ := eq_append_of_complete front (total ▸ complete)
    rw [headerBytes, isHeader, sent.packet.announced, split,
      List.drop_append_of_le_length (by rw [sent.packet.length_bytes]; omega),
      sent.packet.drop_bytes, List.take_left]

/-- A step that ends the connection empties the link. -/
theorem clientStep_of_ended (ended : (net.log.state.apply label).state = .idle) :
    net.clientStep label down =
      { net with
        log := net.log.perform Client.apply label
        up := [], untaken := [], down := [], unhandled := []
        handled := net.handled ++ net.record label } := by
  simp only [clientStep, if_pos ended]

theorem clientStep_of_goesOn (goesOn : (net.log.state.apply label).state ≠ .idle) :
    net.clientStep label down =
      { net with
        log := net.log.perform Client.apply label
        up := net.up ++ net.log.state.accepted label
        untaken := net.untaken ++ (net.log.state.react label).queued.map fun packet =>
          ⟨net.log.trace.length, packet⟩
        down := down
        unhandled := if label.isHandle then net.unhandled.tail else net.unhandled
        handled := net.handled ++ net.record label } := by
  simp only [clientStep, if_neg goesOn]

@[simp] theorem log_clientStep (net : Net cfg broker) (label : Label) (down : Bytes) :
    (net.clientStep label down).log = net.log.perform Client.apply label := by
  by_cases ended : (net.log.state.apply label).state = .idle
  · rw [clientStep_of_ended ended]
  · rw [clientStep_of_goesOn ended]

@[simp] theorem state_clientStep (net : Net cfg broker) (label : Label) (down : Bytes) :
    (net.clientStep label down).state = net.state := by
  by_cases ended : (net.log.state.apply label).state = .idle
  · rw [clientStep_of_ended ended]
  · rw [clientStep_of_goesOn ended]

@[simp] theorem handled_clientStep (net : Net cfg broker) (label : Label) (down : Bytes) :
    (net.clientStep label down).handled = net.handled ++ net.record label := by
  by_cases ended : (net.log.state.apply label).state = .idle
  · rw [clientStep_of_ended ended]
  · rw [clientStep_of_goesOn ended]

theorem unhandled_of_clientStep {sent : Sent Tag}
    (member : sent ∈ (net.clientStep label down).unhandled) : sent ∈ net.unhandled := by
  by_cases ended : (net.log.state.apply label).state = .idle
  · rw [clientStep_of_ended ended] at member
    cases member
  · rw [clientStep_of_goesOn ended] at member
    simp only at member
    split at member
    · exact List.mem_of_mem_tail member
    · exact member

/-- What the client queues joins the stream to the broker. -/
theorem Flows.up_goesOn (flows : net.Flows) (busy : net.log.state.state ≠ .idle)
    (goesOn : (net.log.state.apply label).state ≠ .idle) :
    (net.up ++ net.log.state.accepted label) ++ (net.log.state.apply label).tx.peek =
      Posted.stream net.untaken ++ (net.log.state.react label).wire := by
  rcases net.log.state.accounts_cases label with accounts | ⟨_, idle, _⟩ | ⟨_, _, _, idle, _⟩
  · rw [List.append_assoc, ← accounts, ← List.append_assoc, flows.up busy]
  · exact absurd idle goesOn
  · exact absurd idle busy

/-- What the client receives was the front of the stream from the broker, and what
it handles leaves it. -/
theorem Flows.down_goesOn (flows : net.Flows) (permitted : Permitted net.log label)
    (busy : net.log.state.state ≠ .idle) (goesOn : (net.log.state.apply label).state ≠ .idle)
    (arrives : net.down = label.arriving ++ down) :
    (net.log.state.apply label).rx.drop
        ((Control.of net.log.trace).after net.log.state label).offset ++ down =
      Sent.stream (if label.isHandle then net.unhandled.tail else net.unhandled) := by
  have stream := flows.down busy
  rcases net.log.state.rx_cases label with
    ⟨emptied, isDiscard | idle | idle⟩ | ⟨count, rfl, dropped, -⟩ |
    ⟨grown, notConsume, notDiscard, -⟩
  · subst isDiscard
    obtain ⟨rest, error, total, place, short⟩ := permitted
    rw [place, arrives] at stream
    rw [emptied, List.drop_nil]
    simpa [Control.offset, List.drop_eq_nil_of_le (Nat.le_of_lt short), Label.arriving,
      Label.isHandle] using stream
  · exact absurd idle busy
  · exact absurd idle goesOn
  · obtain ⟨rest, error, place, _⟩ := permitted
    have offset : ((Control.of net.log.trace).after net.log.state (.consume count)).offset = 0 := by
      rw [place]
      exact (Control.plain_orClose (Control.comes_drainStage _).plain).offset
    rw [place, arrives] at stream
    rw [offset, dropped, List.drop_zero]
    simpa [Control.offset, Label.arriving, Label.isHandle] using stream
  · rw [grown]
    by_cases isHandle : label.isHandle = true
    · cases label <;> simp only [Label.isHandle, Bool.false_eq_true] at isHandle
      case handle header body now =>
        obtain ⟨_, sent, rest, isUnhandled, _, _, total, complete⟩ := flows.front permitted
        obtain ⟨⟨place, isPlace⟩, _⟩ := permitted
        rw [isPlace, isUnhandled] at stream
        have front : net.log.state.rx ++ net.down = sent.packet.bytes ++ Sent.stream rest := stream
        have offset : ((Control.of net.log.trace).after net.log.state
            (.handle header body now)).offset = sent.packet.bytes.length := by
          rw [isPlace]
          exact total
        rw [offset, isUnhandled]
        obtain ⟨_, behind⟩ := eq_append_of_complete front complete
        rw [arrives] at behind
        simpa [Label.arriving, Label.isHandle] using behind
    · have sameOffset := Control.offset_after permitted
        (by rintro header body now rfl; exact isHandle rfl) notConsume notDiscard
      rw [sameOffset, if_neg isHandle, ← stream, arrives, ← List.append_assoc]
      congr 1
      by_cases isRecv : label.arriving = []
      · simp [isRecv]
      · -- Only `recv` brings anything, and no packet is being handled then.
        cases label <;> simp only [Label.arriving, not_true] at isRecv
        case recv result bytes now =>
          obtain ⟨⟨rest, place⟩, _⟩ := permitted
          simp [place, Control.offset]

/-- A client step keeps the streams and the records in step. -/
theorem Flows.client (flows : net.Flows) (permitted : Permitted net.log label)
    (arrives : net.down = label.arriving ++ down) : (net.clientStep label down).Flows := by
  have history : History (net.log.perform Client.apply label) :=
    Logged.Reaches.step flows.history permitted
  by_cases ended : (net.log.state.apply label).state = .idle
  · rw [clientStep_of_ended ended]
    refine ⟨history, absurd ended, absurd ended, fun _ => ⟨rfl, rfl, rfl, rfl, ?_⟩⟩
    rcases net.log.state.rx_cases label with
      ⟨emptied, _⟩ | ⟨count, _, dropped, same⟩ | ⟨grown, _, _, stays⟩
    · exact emptied
    · have wasEmpty := (flows.idle (same.symm.trans ended)).2.2.2.2
      exact dropped.trans (by rw [wasEmpty, List.drop_nil])
    · obtain ⟨_, _, noDown, _, wasEmpty⟩ := flows.idle (stays ended)
      have nothing : label.arriving = [] :=
        (List.append_eq_nil_iff.mp (arrives.symm.trans noDown)).1
      exact grown.trans (by rw [wasEmpty, nothing, List.append_nil])
  rw [clientStep_of_goesOn ended]
  by_cases idle : net.log.state.state = .idle
  · obtain ⟨⟨opts, now, rfl⟩, emptied, queue⟩ := flows.history.begin_cases permitted idle ended
    obtain ⟨noUp, noUntaken, noDown, noUnhandled, _⟩ := flows.idle idle
    refine ⟨history, fun _ => ?_, fun _ => ?_, fun down => absurd down ended⟩
    · simp only [noUp, noUntaken, List.nil_append, Client.accepted, Logged.perform_state]
      rw [stream_post, ← queue]
    · have empty : down = [] := (List.append_eq_nil_iff.mp (arrives.symm.trans noDown)).2
      simp [emptied, empty, noUnhandled, Sent.stream, Label.isHandle]
  · refine ⟨history, fun _ => ?_, fun _ => ?_, fun down => absurd down ended⟩
    · simp only [Logged.perform_state]
      rw [stream_append, stream_post]
      exact flows.up_goesOn idle ended
    · simp only [Logged.perform_state, Logged.perform_trace, Control.of_snoc]
      exact flows.down_goesOn permitted idle ended arrives

/-- So does what the broker sends. -/
theorem Flows.send (flows : net.Flows) (live : net.log.state.isLive = true)
    (state : broker.State) (sent : List (Sent Tag)) : (net.send state sent).Flows := by
  have busy := ((Client.isLive_iff net.log.state).mp live).1
  refine ⟨flows.history, flows.up, fun _ => ?_, fun idle => absurd idle busy⟩
  simp only [Net.send]
  rw [sent_stream_append, ← flows.down busy, List.append_assoc]

/-- So does what it takes. -/
theorem Flows.take (flows : net.Flows) (live : net.log.state.isLive = true) {posted : Posted}
    {rest : List Posted} {up : Bytes} (next : net.untaken = posted :: rest)
    (arrived : net.up = posted.packet.bytes ++ up) :
    ({ net with up := up, untaken := rest } : Net cfg broker).Flows := by
  have busy := ((Client.isLive_iff net.log.state).mp live).1
  refine ⟨flows.history, fun _ => ?_, flows.down, fun idle => absurd idle busy⟩
  have whole := flows.up busy
  rw [arrived, next, List.append_assoc] at whole
  exact List.append_cancel_left whole

/-- The records describe the bytes wherever the client and its broker come to. -/
theorem Reachable.flows {net : Net cfg broker} (reachable : Reachable net) : net.Flows := by
  induction reachable with
  | start =>
    exact ⟨Logged.Reaches.refl, absurd rfl, absurd rfl, fun _ => ⟨rfl, rfl, rfl, rfl, rfl⟩⟩
  | step prior step flows =>
    cases step with
    | client label down permitted arrives => exact flows.client permitted arrives
    | take posted rest up state sent live next arrived takes =>
      exact (flows.take live next arrived).send live state sent
    | offer state sent live offers => exact flows.send live state sent

end Net
end Mqtt
