import Mqtt.Session.Outgoing
import Mqtt.Session.RecycledIds
import Mqtt.Session.WholeCopies
import Mqtt.Session.WireDiscipline
import Mqtt.Wire.Reference

/-!
# Names and filters that go out

`connect()` and `publish()` check a topic with `is_valid_topic_name` and `subscribe()` its
filters with `is_valid_filter`, and what is sent again later is a copy of what was checked.
`unsubscribe()` leaves the check to the encoder, which asks for text that is not empty and
no more, so it takes an application that unsubscribes from filters only.
-/

namespace Mqtt

open Library Client

variable {cfg : Config} {now : UInt32} {packet : Queued} {log : Log cfg} {id : UInt16} {size : Nat}

/-! ## The contract -/

/-- The bytes begin as a packet of this type does. -/
def Begins (type : PacketType) (bytes : Bytes) : Prop :=
  ∃ first rest, bytes = first :: rest ∧ (first >>> 4) &&& 0x0F = type.toNibble

/-- The topic of a PUBLISH, as its receiver reads it. -/
def readTopic (bytes : Bytes) : Option Bytes := do
  let (header, body) ← readPacket bytes
  let m ← (decodePublish header body).toOption
  return m.topic

/-- A packet of this type is whole, and every name and filter its receiver finds in it is
well formed. -/
def NamesWell (bytes : Bytes) : PacketType → Prop
  | .connect => ∃ fields, Reference.connect bytes = some fields ∧
      ∀ will ∈ fields.will, isValidTopicName will.topic = true
  | .publish => ∃ topic, readTopic bytes = some topic ∧ isValidTopicName topic = true
  | .subscribe => ∃ id subs, Reference.subscribe bytes = some (id, subs) ∧
      ∀ sub ∈ subs, isValidFilter sub.filter = true
  | .unsubscribe => ∃ id filters, Reference.unsubscribe bytes = some (id, filters) ∧
      ∀ filter ∈ filters, isValidFilter filter = true
  | _ => True

/-- No name or filter that reaches the transmit queue is ill formed. -/
def SendsWellNamed (trace : Trace cfg) : Prop :=
  ∀ event ∈ trace, ∀ packet ∈ event.reaction.queued, ∀ type,
    Begins type packet.bytes → NamesWell packet.bytes type

/-- The event does not unsubscribe from what is no filter. -/
def Library.Entry.unsubscribesFilters (event : Event cfg) : Bool :=
  match event.label with
  | .unsubscribe filters _ => filters.all isValidFilter
  | _ => true

/-! ## What each call checked -/

namespace Client

variable {c : Client cfg}

theorem will_of_connect {opts : ConnectOptions} (queued : packet ∈ (c.connect opts now).queued)
    (given : opts.will.valid = true) : isValidTopicName opts.will.topic = true := by
  by_contra invalid
  have bad : opts.will.valid = true ∧ (!isValidTopicName opts.will.topic) = true :=
    ⟨given, by simpa using invalid⟩
  unfold connect at queued
  rw [if_pos bad] at queued
  split_ifs at queued <;> simp [refuse] at queued

/-- Only a valid topic is published. -/
theorem topic_of_publish {topic payload : Bytes} {qos : QoS} {retain : Bool}
    (queued : packet ∈ (c.publish topic payload qos retain now).queued) :
    isValidTopicName topic = true := by
  by_contra invalid
  have bad : (!isValidTopicName topic) = true := by simpa using invalid
  unfold publish at queued
  rw [if_pos bad] at queued
  split_ifs at queued <;> simp [refuse] at queued

end Client

/-! ## Filters that are remembered -/

/-- Every filter in the table is valid. -/
theorem History.filters_valid (history : History log) :
    ∀ key ∈ log.state.subscriptions.map Subscription.key, isValidFilter key.1 = true := by
  refine Logged.Reaches.invariant
    (fun log => ∀ key ∈ log.state.subscriptions.map Subscription.key, isValidFilter key.1 = true)
    (fun log label _ valid key member => ?_) history (by simp [Client.initial])
  rcases log.state.keys_cases label with fewer | ⟨subs, handler, now, _, checked, _, table⟩
  · exact valid key (fewer.subset member)
  · rw [Logged.perform_state, table] at member
    rcases log.state.enrolled_given subs handler member with
      old | ⟨front, asked, rest, rfl, _, rfl⟩
    · exact valid key old
    · exact (checkFilters_ok checked asked (by simp)).1

theorem History.resubRequest_valid (history : History log) :
    ∀ sub ∈ log.state.resubRequest, isValidFilter sub.filter = true := by
  intro sub member
  obtain ⟨s, inBatch, rfl⟩ := List.mem_map.mp member
  have inTable := (List.mem_filter.mp (List.mem_of_mem_take inBatch)).1
  exact history.filters_valid s.key (List.mem_map_of_mem inTable)

/-! ## Messages that are stored -/

/-- What `publish()` asks of a message it tracks. -/
structure Posting.Sound (m : Posting) : Prop where
  topic : isValidTopicName m.topic = true
  sized : ∃ size, publishRemainingLength m.topic m.payload.length m.qos = .ok size
  tracked : m.qos = .atLeastOnce ∨ m.qos = .exactlyOnce
  named : m.id ≠ 0

/-- Every slot in flight carries such a message. -/
def Client.CarriesSound (c : Client cfg) : Prop :=
  ∀ (index : Nat) (slot : OutboundSlot), c.outbound[index]? = some slot → slot.phase ≠ .free →
    ∃ m : Posting, m.Sound ∧ m.In slot

/-- A `publish()` that is given an id posts a message. -/
theorem sound_of_publish {c : Client cfg} {topic payload : Bytes} {qos : QoS} {retain : Bool}
    (queued : packet ∈ (c.publish topic payload qos retain now).queued)
    (returned : (c.publish topic payload qos retain now).packetId = some id) :
    Posting.Sound ⟨topic, payload, qos, retain, id⟩ := by
  have topicValid := topic_of_publish queued
  obtain ⟨rfl, nonzero⟩ := c.publish_packetId returned
  rcases c.publish_cases topic payload qos retain now with
    ⟨_, _, _, _, _, _, _, same⟩ | ⟨_, _, _, _, _, same⟩ | ⟨_, tracked, sized, _⟩
  · simp [same, refuse] at returned
  · simp [same] at returned
  · obtain ⟨size, isSize⟩ := sized
    exact ⟨topicValid, ⟨size, isSize⟩,
      tracked_cases tracked (publishRemainingLength_ok isSize).2.2.1, nonzero⟩

/-- A step keeps the stored messages well named. -/
theorem Client.CarriesSound.step {c : Client cfg} (carries : c.CarriesSound)
    (sized : c.SlotsSized) {label : Label}
    (short : Entry.publishesShort ⟨c, label⟩ = true) : (c.apply label).CarriesSound := by
  intro index after there flies
  have fate := slot_cases sized there flies
  by_cases fills : Entry.Fills index ⟨c, label⟩
  swap
  · obtain ⟨slot, here, flew, _⟩ := fate.inFlight flies fills
    obtain ⟨m, sound, holds⟩ := carries index slot here flew
    exact ⟨m, sound, carries_of_fate here holds sound.tracked fate⟩
  obtain ⟨topic, payload, qos, retain, now, slot, id, rfl, _, tracked, here, _, changed, queued,
    returned⟩ := fills_cases sized fills
  have brief := length_of_publishesShort short tracked (publish_ok_of_queued queued) id
  refine ⟨⟨topic, payload, qos, retain, id⟩,
    sound_of_publish (queued ▸ List.mem_singleton_self _) returned, ?_⟩
  rw [changed] at there
  rcases getElem?_set_cases there with ⟨_, rfl⟩ | ⟨different, _⟩
  · exact carries_filled now brief
  · exact absurd rfl different

/-- So does every history. -/
theorem History.carriesSound (history : History log)
    (short : PublishesShort log.trace) : log.state.CarriesSound := by
  refine Logged.Reaches.invariant_of
    (fun event : Event cfg => event.publishesShort = true)
    (fun log => log.state.CarriesSound)
    (fun log label prior _ brief carries => carries.step (History.slotsSized prior) brief)
    history rfl short ?_
  intro index slot here flies
  obtain rfl := List.eq_of_mem_replicate (List.mem_of_getElem? here)
  exact absurd rfl flies

/-! ## One packet -/

/-- The types of packet that carry names or filters. -/
def PacketType.carriesNames : PacketType → Bool
  | .connect | .publish | .subscribe | .unsubscribe => true
  | _ => false

theorem namesWell_of_nameless {type : PacketType} (nameless : type.carriesNames = false)
    (bytes : Bytes) : NamesWell bytes type := by
  cases type <;> trivial

/-- Acknowledgements carry none. -/
theorem nameless_of_handle {header : FixedHeader} {body : Bytes} {type : PacketType}
    (queues : type ∈ (Label.handle header body now).queues) : type.carriesNames = false := by
  simp only [Label.queues] at queues
  split at queues <;> fin_cases queues <;> rfl

theorem toNibble_injective {first second : PacketType}
    (same : first.toNibble = second.toNibble) : first = second := by
  have types := (ofNibble_toNibble first).symm.trans (same ▸ ofNibble_toNibble second)
  exact Option.some.inj types

/-- A packet is of one type only. -/
theorem namesWell_of_leads {type : PacketType} {bytes : Bytes} (leads : Leads type bytes)
    (names : NamesWell bytes type) {other : PacketType} (begins : Begins other bytes) :
    NamesWell bytes other := by
  obtain ⟨first, rest, rfl, nibble⟩ := begins
  rwa [← toNibble_injective ((leads first rfl).symm.trans nibble)]

section Packets

variable {bytes : Bytes} {type : PacketType}

theorem namesWell_connectPacket {opts : ConnectOptions}
    (sized : connectRemainingLength opts = .ok size)
    (valid : opts.will.valid = true → isValidTopicName opts.will.topic = true)
    (begins : Begins type (connectPacket opts)) : NamesWell (connectPacket opts) type := by
  refine namesWell_of_leads (leads_packetOf { type := .connect } _) ?_ begins
  refine ⟨_, Reference.connect_connectPacket sized, fun will given => ?_⟩
  simp only [Reference.fieldsOf, Option.mem_def] at given
  split at given
  · obtain rfl := Option.some.inj given
    exact valid ‹_›
  · cases given

theorem namesWell_publishPacket {topic payload : Bytes} {qos : QoS} {retain dup : Bool}
    (sized : publishRemainingLength topic payload.length qos = .ok size)
    (valid : isValidTopicName topic = true) (fresh : qos = .atMostOnce → dup = false)
    (named : qos ≠ .atMostOnce → id ≠ 0)
    (begins : Begins type (publishPacket topic payload qos retain dup id)) :
    NamesWell (publishPacket topic payload qos retain dup id) type := by
  have leads : Leads .publish (publishPacket topic payload qos retain dup id) :=
    leads_packetOf { type := .publish, dup := dup, qos := qos, retain := retain } _
  let header : FixedHeader :=
    { type := .publish, dup := dup, qos := qos, retain := retain, remainingLength := size }
  obtain ⟨m, decoded, isTopic⟩ : ∃ m,
      decodePublish header (publishBody topic payload qos id) = .ok m ∧ m.topic = topic := by
    by_cases untracked : qos = .atMostOnce
    · exact ⟨_, @decodePublish_publishBody_untracked topic payload header size sized untracked
        (fresh untracked) id, rfl⟩
    · exact ⟨_, @decodePublish_publishBody topic payload id size header sized untracked
        (named untracked), rfl⟩
  refine namesWell_of_leads leads ⟨topic, ?_, valid⟩ begins
  simp [readTopic, readPacket_publishPacket sized, header, decoded, isTopic, Except.toOption]

theorem namesWell_subscribePacket {subs : List TopicSubscription}
    (nonzero : id ≠ 0) (sized : subscribeRemainingLength subs = .ok size)
    (valid : ∀ sub ∈ subs, isValidFilter sub.filter = true)
    (begins : Begins type (subscribePacket id subs)) : NamesWell (subscribePacket id subs) type :=
  namesWell_of_leads (leads_packetOf { type := .subscribe } _)
    ⟨id, subs, Reference.subscribe_subscribePacket nonzero sized, valid⟩ begins

theorem namesWell_unsubscribePacket {filters : List Bytes}
    (nonzero : id ≠ 0) (sized : unsubscribeRemainingLength filters = .ok size)
    (valid : ∀ filter ∈ filters, isValidFilter filter = true)
    (begins : Begins type (unsubscribePacket id filters)) :
    NamesWell (unsubscribePacket id filters) type :=
  namesWell_of_leads (leads_packetOf { type := .unsubscribe } _)
    ⟨id, filters, Reference.unsubscribe_unsubscribePacket nonzero sized, valid⟩ begins

/-- A copy is the PUBLISH of its message, marked, or its PUBREL. -/
theorem namesWell_copy {m : Posting} (sound : m.Sound) {slot : OutboundSlot} (holds : m.In slot)
    (begins : Begins type slot.markDup.stored) : NamesWell slot.markDup.stored type := by
  obtain ⟨size, sized⟩ := sound.sized
  have tracked : m.qos ≠ .atMostOnce := by rcases sound.tracked with level | level <;> simp [level]
  have marked : m.In slot.markDup := Carries.marked holds
  cases marked with
  | publish dup _ _ _ stored =>
    rw [stored] at begins ⊢
    exact namesWell_publishPacket sized sound.topic (fun none => absurd none tracked)
      (fun _ => sound.named) begins
  | pubrel _ _ _ _ stored =>
    rw [stored] at begins ⊢
    exact namesWell_of_leads (leads_ackPacket .pubrel _) (namesWell_of_nameless rfl _) begins

end Packets

/-! ## Whole runs -/

/-- Every packet that is queued names well. -/
theorem History.namesWell (history : History log) (short : PublishesShort log.trace)
    {label : Label} (careful : Entry.unsubscribesFilters ⟨log.state, label⟩ = true)
    (member : packet ∈ (log.state.react label).queued) {type : PacketType}
    (begins : Begins type packet.bytes) : NamesWell packet.bytes type := by
  cases label with
  | connect opts now =>
    have valid := fun given => will_of_connect member given
    rcases log.state.connect_cases opts now with
      ⟨_, _, same⟩ | ⟨_, _, _, _, _, same⟩ | ⟨_, ⟨size, sized⟩, _, _, same⟩
    · simp [react, same, refuse] at member
    · simp [react, same, refuse] at member
    · obtain rfl : packet = _ := by simpa [react, same] using member
      exact namesWell_connectPacket sized valid begins
  | publish topic payload qos retain now =>
    have valid := topic_of_publish member
    rcases log.state.publish_cases topic payload qos retain now with
      ⟨_, _, _, _, _, _, _, same⟩ | ⟨_, untracked, ⟨size, sized⟩, _, _, same⟩ |
        ⟨_, tracked, ⟨size, sized⟩, _, _, id, _, _, _, _, _, _, nonzero, isPacket, _, _, _, same⟩
    · simp [react, same, refuse] at member
    · obtain rfl : packet = _ := by simpa [react, same] using member
      exact namesWell_publishPacket sized valid (fun _ => rfl)
        (fun tracked => absurd untracked tracked) begins
    · obtain rfl : packet = _ := by simpa [react, same] using member
      subst isPacket
      exact namesWell_publishPacket sized valid (fun _ => rfl) (fun _ => nonzero) begins
  | subscribe subs handler now =>
    rcases log.state.subscribe_cases subs handler now with
      ⟨_, _, _, _, _, same⟩ | ⟨_, _, checked, _, _, nonzero, ⟨size, sized⟩, _, _, same⟩
    · simp [react, same, refuse] at member
    · obtain rfl : packet = _ := by simpa [react, same] using member
      exact namesWell_subscribePacket nonzero sized
        (fun sub asked => (checkFilters_ok checked sub asked).1) begins
  | unsubscribe filters now =>
    rcases log.state.unsubscribe_cases filters now with
      ⟨_, _, _, _, _, same⟩ | ⟨_, _, _, nonzero, ⟨size, sized⟩, _, _, same⟩
    · simp [react, same, refuse] at member
    · obtain rfl : packet = _ := by simpa [react, same] using member
      exact namesWell_unsubscribePacket nonzero sized (List.all_eq_true.mp careful) begins
  | resubscribe now =>
    rcases log.state.pumpResubscribe_cases now with
      ⟨_, _, _, same⟩ | ⟨_, _, nonzero, ⟨size, sized⟩, _, _, same⟩
    · simp [react, same] at member
    · obtain rfl : packet = _ := by simpa [react, same] using member
      exact namesWell_subscribePacket nonzero sized history.resubRequest_valid begins
  | retransmit now =>
    obtain ⟨_, _, _, _, same, _, pass⟩ := log.state.pumpRetransmit_cases now
    rw [show log.state.react (.retransmit now) = _ from same] at member
    obtain ⟨index, slot, _, here, due, rfl, _⟩ := pass.due packet member
    obtain ⟨m, sound, holds⟩ := history.carriesSound short index slot here (phase_of_due due)
    exact namesWell_copy sound holds begins
  | handle header body now =>
    obtain ⟨other, queues, leads⟩ := history.queued_leads member
    exact namesWell_of_leads leads (namesWell_of_nameless (nameless_of_handle queues) _) begins
  | _ =>
    obtain ⟨other, queues, leads⟩ := history.queued_leads member
    refine namesWell_of_leads leads (namesWell_of_nameless ?_ _) begins
    fin_cases queues <;> rfl

/-- In every run whose calls of `unsubscribe()` name filters and whose tracked messages
fit the length a slot records, every name and filter that goes out is well formed. -/
theorem sends_well_named (cfg : Config) (env : Env) (application : Script)
    (careful : ∀ event ∈ (World.exec cfg env application).trace,
      event.unsubscribesFilters = true ∧ event.publishesShort = true) :
    SendsWellNamed (World.exec cfg env application).trace := by
  intro event member packet queued type begins
  obtain ⟨before, after, split⟩ := List.append_of_mem member
  obtain ⟨earlier, reached, rfl, here, _⟩ := (World.exec_history cfg env application).cut split
  obtain ⟨c, label⟩ := event
  obtain rfl : c = earlier.state := here
  refine reached.namesWell (fun prior seen => (careful prior ?_).2) (careful _ member).1 queued
    begins
  rw [split]
  exact List.mem_append_left _ seen

/-! ## A name in the place of a filter -/

namespace WellNamed

def options : ConnectOptions :=
  { clientId := [97], cleanSession := false }

/-- Connect, subscribe and publish at QoS 1; lose the connection, connect again, and
unsubscribe. -/
def application (filter : Bytes) : Script :=
  .connect options (.step (.subscribe [{ filter := [116] }] none (.step
    (.publish [116] [] .atLeastOnce false (.step (.connect options (.step
      (.unsubscribe [filter] .done))))))))

def env : Env where
  opens := [.ok, .ok]
  sends := [(.ok, 15), (.ok, 8), (.ok, 7), (.ok, 15), (.ok, 8), (.ok, 7)]
  recvs := [(.ok, [0x20, 2, 0, 0]), (.wouldBlock, []), (.ok, [0x90, 3, 0, 1, 0]),
    (.wouldBlock, []), (.transportClosed, []), (.ok, [0x20, 2, 0, 0])]

def run (filter : Bytes) : World .small := World.exec .small env (application filter)

end WellNamed

/-- The SUBSCRIBE and the PUBLISH go out twice. -/
theorem sends_well_named_again :
    SendsWellNamed (WellNamed.run [116]).trace ∧
      (∃ event ∈ (WellNamed.run [116]).trace,
        { bytes := [0x82, 6, 0, 3, 0, 1, 116, 0] } ∈ event.reaction.queued) ∧
      ∃ event ∈ (WellNamed.run [116]).trace,
        { slot := some 0, bytes := [0x3A, 5, 0, 1, 116, 0, 2] } ∈ event.reaction.queued :=
  ⟨sends_well_named .small WellNamed.env (WellNamed.application [116]) (by decide +kernel),
    by decide +kernel, by decide +kernel⟩

/-- The UNSUBSCRIBE names `a#`. -/
theorem ill_formed_filter_sent : ¬ SendsWellNamed (WellNamed.run [97, 0x23]).trace := by
  intro wellNamed
  have sent : ∃ event ∈ (WellNamed.run [97, 0x23]).trace,
      { bytes := [0xA2, 6, 0, 4, 0, 2, 97, 0x23] } ∈ event.reaction.queued := by decide +kernel
  obtain ⟨event, member, queued⟩ := sent
  obtain ⟨id, filters, read, valid⟩ :=
    wellNamed event member _ queued .unsubscribe ⟨_, _, rfl, by decide⟩
  have filter : Reference.unsubscribe [0xA2, 6, 0, 4, 0, 2, 97, 0x23] = some (4, [[97, 0x23]]) := by
    decide +kernel
  obtain ⟨rfl, rfl⟩ : 4 = id ∧ [[97, 0x23]] = filters := by
    simpa using filter.symm.trans read
  exact absurd (valid [97, 0x23] (by simp)) (by decide +kernel)

end Mqtt
