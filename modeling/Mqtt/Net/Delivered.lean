import Mqtt.Net.Receiving
import Mqtt.Net.Schedule

/-!
# Delivery reports, end to end

For each packet id the client, a broker that keeps the session, and the channels
between them are an instance of `Library.Courier`, with the client as the sender. The
messages under one id are told apart by how many had been given the id before. Every
move of the net is a move of each courier or leaves it alone, as long as a QoS 1
message is not given an id that another one has left traces of on the connection.
Where it is, a late PUBACK reports the delivery of a message that has not left the client.
-/

namespace Mqtt

open Library Library.Courier

variable {cfg : Config}

/-! ## One courier per packet id -/

/-- How many messages had been given the id when the packet was queued. -/
def Posted.number (trace : Trace cfg) (id : UInt16) (posted : Posted) : Nat :=
  issued id (trace.take (posted.position + 1))

/-- What a packet is to the courier of its id. -/
def Posted.item (trace : Trace cfg) (posted : Posted) : Option (UInt16 × Item Nat) :=
  match readMail posted.packet.bytes with
  | some (id, .message .atLeastOnce _ _) => some (id, .note (posted.number trace id))
  | some (id, .message .exactlyOnce _ _) => some (id, .offer (posted.number trace id))
  | some (id, .release) => some (id, .release)
  | _ => none

/-- The items for one packet id. -/
def mailUnder (trace : Trace cfg) (k : UInt16) (posted : List Posted) : List (Item Nat) :=
  posted.filterMap fun packet => under k (packet.item trace)

/-- The receipts for one packet id. -/
def receiptsUnder (k : UInt16) (sent : List (Sent Unit)) : List Receipt :=
  sent.filterMap fun packet => under k packet.receipt

namespace Net

def accepted (net : Net cfg Receiving.broker) : List Posted := Receiving.accepted net.state

/-- The courier that runs under one packet id. -/
def courier (net : Net cfg Receiving.broker) (k : UInt16) : System Nat where
  stage := (net.log.state.phaseOf k).stage (issued k net.log.trace)
  forward := mailUnder net.log.trace k net.untaken
  back := receiptsUnder k net.unhandled
  holds := decide (k ∈ Receiving.holds net.state)
  noted := (mailUnder net.log.trace k net.accepted).filterMap Item.noted
  delivered := (mailUnder net.log.trace k net.accepted).filterMap Item.offered

end Net

/-- The packet is one of the history, and a message it carries is the one its id stood
for when it was queued. -/
structure Posted.Placed (trace : Trace cfg) (posted : Posted) : Prop where
  within : posted.position < trace.length
  carries : ∀ id qos topic payload,
    readMail posted.packet.bytes = some (id, .message qos topic payload) →
    ∃ m before after, Latest (trace.take (posted.position + 1)) m before after ∧ m.id = id ∧
      ∃ dup, posted.packet.bytes = m.packet dup

/-- What holds of the client and a broker that keeps the session. -/
structure Net.Couriers (net : Net cfg Receiving.broker) : Prop where
  untaken : ∀ posted ∈ net.untaken, posted.Placed net.log.trace
  accepted : ∀ posted ∈ net.accepted, posted.Placed net.log.trace
  inv : ∀ k, Inv (net.courier k)

/-! ## Records and the growing history -/

section Records

variable {trace : Trace cfg} {posted : Posted}

theorem take_append_of_within (within : posted.position < trace.length) (more : Trace cfg) :
    (trace ++ more).take (posted.position + 1) = trace.take (posted.position + 1) :=
  List.take_append_of_le_length within

/-- A posted packet stays where the log placed it. -/
theorem Posted.Placed.append (placed : posted.Placed trace) (more : Trace cfg) :
    posted.Placed (trace ++ more) := by
  refine ⟨by have := placed.within; simp; omega, fun id qos topic payload reads => ?_⟩
  rw [take_append_of_within placed.within]
  exact placed.carries id qos topic payload reads

/-- What a posted packet means does not change as the log grows. -/
theorem item_append (within : posted.position < trace.length) (more : Trace cfg) :
    posted.item (trace ++ more) = posted.item trace := by
  simp only [Posted.item, Posted.number, take_append_of_within within]

/-- So the mail under an id does not either. -/
theorem mailUnder_append {records : List Posted}
    (placed : ∀ posted ∈ records, posted.Placed trace) (k : UInt16) (more : Trace cfg) :
    mailUnder (trace ++ more) k records = mailUnder trace k records :=
  List.filterMap_congr fun posted member => by rw [item_append (placed posted member).within]

theorem mailUnder_cons (trace : Trace cfg) (k : UInt16) (posted : Posted) (rest : List Posted) :
    mailUnder trace k (posted :: rest) =
      (under k (posted.item trace)).toList ++ mailUnder trace k rest := by
  simp only [mailUnder, List.filterMap_cons]
  cases under k (posted.item trace) <;> rfl

theorem mailUnder_snoc (trace : Trace cfg) (k : UInt16) (records : List Posted) (posted : Posted) :
    mailUnder trace k (records ++ [posted]) =
      mailUnder trace k records ++ (under k (posted.item trace)).toList := by
  rw [mailUnder, List.filterMap_append]
  exact congrArg _ ((mailUnder_cons trace k posted []).trans (List.append_nil _))

theorem receiptsUnder_singleton (k : UInt16) (sent : Sent Unit) :
    receiptsUnder k [sent] = (under k sent.receipt).toList := by
  cases found : under k sent.receipt <;> simp [receiptsUnder, found]

theorem receiptsUnder_cons (k : UInt16) (sent : Sent Unit) (rest : List (Sent Unit)) :
    receiptsUnder k (sent :: rest) = (under k sent.receipt).toList ++ receiptsUnder k rest := by
  simp only [receiptsUnder, List.filterMap_cons]
  cases under k sent.receipt <;> rfl

/-- What answers no publish brings no receipt. -/
theorem receiptsUnder_unrelated {sent : List (Sent Unit)} (unrelated : Receiving.Unrelated sent)
    (k : UInt16) : receiptsUnder k sent = [] := by
  refine List.filterMap_eq_nil_iff.mpr fun packet member => ?_
  rw [unrelated packet member]
  rfl

/-- A number is at most that of the message the id stands for now. -/
theorem number_le (trace : Trace cfg) (id : UInt16) (posted : Posted) :
    posted.number trace id ≤ issued id trace :=
  (List.take_sublist _ _).countP_le

/-- A PUBLISH on the way was issued. -/
theorem Posted.Placed.issued_pos (placed : posted.Placed trace) {id : UInt16} {qos : QoS}
    {topic payload : Bytes}
    (reads : readMail posted.packet.bytes = some (id, .message qos topic payload)) :
    0 < issued id trace := by
  obtain ⟨m, before, after, latest, rfl, _⟩ := placed.carries _ _ _ _ reads
  exact Nat.lt_of_lt_of_le latest.issued_pos (number_le trace m.id posted)

/-- The three kinds of packet that carry mail. -/
theorem item_cases {id : UInt16} {item : Item Nat} (isItem : posted.item trace = some (id, item)) :
    (∃ topic payload,
      readMail posted.packet.bytes = some (id, .message .atLeastOnce topic payload) ∧
      item = .note (posted.number trace id)) ∨
    (∃ topic payload,
      readMail posted.packet.bytes = some (id, .message .exactlyOnce topic payload) ∧
      item = .offer (posted.number trace id)) ∨
    (readMail posted.packet.bytes = some (id, .release) ∧ item = .release) := by
  unfold Posted.item at isItem
  split at isItem <;> cases isItem
  · exact .inl ⟨_, _, by assumption, rfl⟩
  · exact .inr (.inl ⟨_, _, by assumption, rfl⟩)
  · exact .inr (.inr ⟨by assumption, rfl⟩)

/-- What is known of a message among the items. -/
theorem mem_messages {k : UInt16} {records : List Posted} {number : Nat}
    (member : number ∈ (mailUnder trace k records).filterMap Item.noted ∨
      number ∈ (mailUnder trace k records).filterMap Item.offered) :
    ∃ posted ∈ records, posted.number trace k = number ∧ ∃ qos topic payload,
      readMail posted.packet.bytes = some (k, .message qos topic payload) := by
  obtain ⟨item, among, isMessage⟩ : ∃ item ∈ mailUnder trace k records,
      item.noted = some number ∨ item.offered = some number := by
    rcases member with member | member <;>
      obtain ⟨item, among, isMessage⟩ := List.mem_filterMap.mp member
    · exact ⟨item, among, .inl isMessage⟩
    · exact ⟨item, among, .inr isMessage⟩
  obtain ⟨posted, inRecords, isItem⟩ := List.mem_filterMap.mp among
  refine ⟨posted, inRecords, ?_⟩
  rcases item_cases (under_eq_some.mp isItem) with
    ⟨topic, payload, reads, rfl⟩ | ⟨topic, payload, reads, rfl⟩ | ⟨_, rfl⟩
  · exact ⟨by simpa [Item.noted, Item.offered] using isMessage, _, _, _, reads⟩
  · exact ⟨by simpa [Item.noted, Item.offered] using isMessage, _, _, _, reads⟩
  · simp [Item.noted, Item.offered] at isMessage

end Records

/-! ## The client's moves -/

section ClientMoves

variable {log : Log cfg} {label : Label}

/-- The records of what a label queues. -/
def postedBy (log : Log cfg) (label : Label) : List Posted :=
  (log.state.react label).queued.map fun packet => ⟨log.trace.length, packet⟩

theorem take_all (trace : Trace cfg) (event : Event cfg) :
    (trace ++ [event]).take (trace.length + 1) = trace ++ [event] :=
  List.take_of_length_le (by simp)

/-- What is queued is placed. -/
theorem placed_postedBy (history : History log)
    (short : PublishesShort (log.trace ++ [⟨log.state, label⟩]))
    {posted : Posted} (member : posted ∈ postedBy log label) :
    posted.Placed (log.perform Client.apply label).trace := by
  obtain ⟨packet, queued, rfl⟩ := List.mem_map.mp member
  refine ⟨by simp, fun id qos topic payload reads => ?_⟩
  simp only [Logged.perform_trace, take_all]
  rcases history.mail_cases short queued with nothing | ⟨_, after, _, _, isStored, stands⟩
  · simp [nothing] at reads
  · obtain ⟨m, before, since, underway, sound, holds⟩ := stands
    simp only [isStored] at reads ⊢
    rcases readMail_stored sound holds with ⟨_, isPacket, mail⟩ | ⟨_, mail⟩
    · obtain rfl : m.id = id := by
        have same := mail.symm.trans reads
        simp only [Option.some.injEq, Prod.mk.injEq] at same
        exact same.1
      exact ⟨m, before, since, underway.toLatest, rfl, isPacket⟩
    · simp [mail] at reads

/-- What is queued under an id is what the client repeats under it. -/
theorem copies_postedBy (history : History log)
    (short : PublishesShort (log.trace ++ [⟨log.state, label⟩])) {k : UInt16} {item : Item Nat}
    (member : item ∈ mailUnder (log.perform Client.apply label).trace k (postedBy log label)) :
    (((log.state.apply label).phaseOf k).stage
      (issued k (log.perform Client.apply label).trace)).item = some item := by
  obtain ⟨posted, inRecords, isItem⟩ := List.mem_filterMap.mp member
  obtain ⟨packet, queued, rfl⟩ := List.mem_map.mp inRecords
  have cases := item_cases (under_eq_some.mp isItem)
  simp only [Posted.number, Logged.perform_trace, take_all] at cases ⊢
  rcases history.mail_cases short queued with nothing | ⟨_, after, there, flies, isStored, stands⟩
  · simp [nothing] at cases
  · obtain ⟨m, _, _, _, sound, holds⟩ := stands
    have phase := (history.idsApart.step history.slotsSized label).phaseOf there flies
    rw [holds.named] at phase
    simp only [isStored] at cases
    rcases readMail_stored sound holds with ⟨waits, _, mail⟩ | ⟨waits, mail⟩ <;>
      simp only [mail, Option.some.injEq, Prod.mk.injEq, Mail.message.injEq, reduceCtorEq,
        and_false, false_and, exists_false, false_or, or_false] at cases
    · rcases cases with ⟨_, _, ⟨rfl, level, _⟩, rfl⟩ | ⟨_, _, ⟨rfl, level, _⟩, rfl⟩ <;>
        rw [phase, waits, level] <;> rfl
    · obtain ⟨⟨rfl, _⟩, rfl⟩ := cases
      rw [phase, waits]
      rfl

end ClientMoves

namespace Net

variable {net : Net cfg Receiving.broker} {label : Label}

/-- No QoS 1 message under this id and no PUBACK for one is on the connection. -/
def Settled (net : Net cfg Receiving.broker) (k : UInt16) : Prop :=
  (∀ posted ∈ net.untaken, ∀ topic payload,
    readMail posted.packet.bytes ≠ some (k, .message .atLeastOnce topic payload)) ∧
  ∀ sent ∈ net.unhandled, sent.receipt ≠ some (k, .note)

/-- A settled id has nothing on the way. -/
theorem Settled.clear {k : UInt16} (settled : net.Settled k) :
    (∀ other, .note other ∉ (net.courier k).forward) ∧ .note ∉ (net.courier k).back := by
  constructor
  · intro other member
    obtain ⟨posted, untaken, isItem⟩ := List.mem_filterMap.mp member
    rcases item_cases (under_eq_some.mp isItem) with
      ⟨_, _, reads, _⟩ | ⟨_, _, _, isOffer⟩ | ⟨_, isRelease⟩
    · exact settled.1 posted untaken _ _ reads
    · cases isOffer
    · cases isRelease
  · intro member
    obtain ⟨sent, unhandled, isReceipt⟩ := List.mem_filterMap.mp member
    exact settled.2 sent unhandled (under_eq_some.mp isReceipt)

/-- One courier after a piece of client code, the connection not yet given up. -/
def moved (net : Net cfg Receiving.broker) (label : Label) (k : UInt16) (back : List Receipt) :
    System Nat :=
  let log := net.log.perform Client.apply label
  { net.courier k with
    stage := (log.state.phaseOf k).stage (issued k log.trace)
    forward := (net.courier k).forward ++ mailUnder log.trace k (postedBy net.log label)
    back := back }

/-- A message that is given the id. -/
theorem Couriers.moved_posts (couriers : net.Couriers) (history : History net.log)
    (short : Entry.publishesShort ⟨net.log.state, label⟩ = true) {m : Posting}
    (posts : Entry.Posts ⟨net.log.state, label⟩ m)
    (settled : m.qos = .atLeastOnce → net.Settled m.id) :
    Inv (net.moved label m.id (net.courier m.id).back) := by
  have inv := couriers.inv m.id
  have sized := history.slotsSized
  have sound := posts.sound short
  obtain ⟨isFree, waits⟩ := Client.phaseOf_posts history.idsApart sized short posts
  obtain ⟨_, index, _, queued, _⟩ := posts.cases short
  obtain ⟨size, isSize⟩ := sound.sized
  have idle : (net.courier m.id).stage = .idle := by simp [courier, isFree, Phase.stage]
  have one : issued m.id (net.log.perform Client.apply label).trace =
      issued m.id net.log.trace + 1 := posts.issued_append net.log.trace
  have records : postedBy net.log label =
      [⟨net.log.trace.length, { slot := some index, bytes := m.packet false }⟩] := by
    simp only [postedBy, show (net.log.state.react label).queued = _ from queued, List.map_cons,
      List.map_nil]
  -- Both levels move their stage and send one item.
  have shape : ∀ {item : Item Nat},
      (⟨net.log.trace.length, { slot := some index, bytes := m.packet false }⟩ : Posted).item
        (net.log.perform Client.apply label).trace = some (m.id, item) →
      net.moved label m.id (net.courier m.id).back =
        { net.courier m.id with
          stage := (firstPhase m.qos).stage (issued m.id net.log.trace + 1)
          forward := (net.courier m.id).forward ++ [item] } := by
    intro item isItem
    simp only [Net.moved, records, mailUnder_cons, isItem, under_self, Logged.perform_state,
      waits, one]
    rfl
  have mail : ∀ level, m.qos = level → level ≠ .atMostOnce →
      readMail (m.packet false) = some (m.id, .message level m.topic m.payload) := by
    rintro level rfl tracked
    exact readMail_publishPacket isSize tracked _ _ sound.named
  have number : (⟨net.log.trace.length, { slot := some index, bytes := m.packet false }⟩ :
      Posted).number (net.log.perform Client.apply label).trace m.id =
        issued m.id net.log.trace + 1 := by
    rw [← one, Posted.number, Logged.perform_trace, take_all]
  rcases sound.tracked with level | level
  · rw [shape (by rw [Posted.item, mail _ level (by simp)]), number, level]
    exact (Courier.Step.note (net.courier m.id) _ idle (settled level).clear).inv inv
  · have fresh : issued m.id net.log.trace + 1 ∉ (net.courier m.id).delivered := by
      intro member
      obtain ⟨posted, _, isNumber, _⟩ := mem_messages (.inr member)
      have bound := number_le net.log.trace m.id posted
      omega
    rw [shape (by rw [Posted.item, mail _ level (by simp)]), number, level]
    exact (Courier.Step.offer (net.courier m.id) _ idle fresh).inv inv

/-- A message that is repeated, or acknowledged. -/
theorem Couriers.moved_aside (couriers : net.Couriers) (history : History net.log)
    (short : PublishesShort (net.log.trace ++ [⟨net.log.state, label⟩]))
    (spares : net.log.state.Spares label) {k : UInt16}
    (unposted : Entry.posts k ⟨net.log.state, label⟩ = false) {back : List Receipt}
    (heard : (net.courier k).back = (under k label.receipt).toList ++ back) :
    Inv (net.moved label k back) := by
  have inv := couriers.inv k
  have ids := history.idsApart
  have sized := history.slotsSized
  have same : issued k (net.log.perform Client.apply label).trace = issued k net.log.trace := by
    have nothing : issued k [(⟨net.log.state, label⟩ : Event cfg)] = 0 :=
      issued_eq_zero.mpr (by simpa using unposted)
    rw [Logged.perform_trace, issued_append, nothing, Nat.add_zero]
  have copies : ∀ item ∈ mailUnder (net.log.perform Client.apply label).trace k
      (postedBy net.log label), (((net.log.state.apply label).phaseOf k).stage
        (issued k net.log.trace)).item = some item := by
    intro item member
    rw [← same]
    exact copies_postedBy history short member
  cases isReceipt : under k label.receipt with
  | none =>
    have stays := Client.phaseOf_aside ids sized (short _ (by simp)) spares isReceipt unposted
    rw [isReceipt] at heard
    rw [stays] at copies
    have moved := (Courier.Step.again (net.courier k) _ copies).inv inv
    simp only [Net.moved, Logged.perform_state, same, stays, ← show _ = back from heard]
    exact moved
  | some receipt =>
    have hears := Client.phaseOf_heard ids sized (under_eq_some.mp isReceipt)
      (issued k net.log.trace)
    rw [isReceipt] at heard
    rw [hears] at copies
    have moved := (Courier.Step.again _ _ copies).inv
      ((Courier.Step.hear (net.courier k) receipt back heard).inv inv)
    simp only [Net.moved, Logged.perform_state, same, hears]
    exact moved

/-- What is left to be handled after a label. -/
def waiting (net : Net cfg Receiving.broker) (label : Label) : List (Sent Unit) :=
  if label.isHandle then net.unhandled.tail else net.unhandled

/-- A label hears the front of the channel, or nothing. -/
theorem Flows.heard (flows : net.Flows) (permitted : Permitted net.log label) (k : UInt16) :
    (net.courier k).back =
      (under k label.receipt).toList ++ receiptsUnder k (net.waiting label) := by
  cases isHandle : label.isHandle with
  | false =>
    have nothing : label.receipt = none := by
      cases label <;> simp_all [Label.isHandle, Label.receipt]
    simp [nothing, courier, waiting, isHandle]
  | true =>
    cases label <;> simp only [Label.isHandle, Bool.false_eq_true] at isHandle
    case handle header body now =>
      obtain ⟨_, sent, rest, next, rfl, rfl, _, _⟩ := flows.front permitted
      simp only [courier, next, receiptsUnder_cons, waiting, Label.isHandle, if_true,
        List.tail_cons]
      rfl

/-- A client step moves each id's courier as its protocol allows. -/
theorem Couriers.moved (couriers : net.Couriers) (flows : net.Flows)
    (short : PublishesShort (net.log.trace ++ [⟨net.log.state, label⟩]))
    (permitted : Permitted net.log label) (spares : net.log.state.Spares label)
    (settled : ∀ m, Entry.Posts ⟨net.log.state, label⟩ m → m.qos = .atLeastOnce → net.Settled m.id)
    (k : UInt16) : Inv (net.moved label k (receiptsUnder k (net.waiting label))) := by
  have heard := flows.heard permitted k
  cases posted : Entry.posts k ⟨net.log.state, label⟩ with
  | false => exact couriers.moved_aside flows.history short spares posted heard
  | true =>
    obtain ⟨m, posts, rfl⟩ := Entry.posts_iff.mp posted
    have nothing : label.receipt = none := by
      obtain ⟨now, isPublish⟩ := posts.1
      rw [show label = _ from isPublish]
      rfl
    rw [nothing] at heard
    rw [← show _ = receiptsUnder m.id (net.waiting label) from heard]
    exact couriers.moved_posts flows.history (short _ (by simp)) posts (settled m posts)

/-- A step of the client keeps the couriers. -/
theorem Couriers.client (couriers : net.Couriers) (flows : net.Flows)
    (short : PublishesShort (net.log.trace ++ [⟨net.log.state, label⟩]))
    (permitted : Permitted net.log label) (spares : net.log.state.Spares label)
    (settled : ∀ m, Entry.Posts ⟨net.log.state, label⟩ m → m.qos = .atLeastOnce → net.Settled m.id)
    (down : Bytes) : (net.clientStep label down).Couriers := by
  have untaken := mailUnder_append couriers.untaken
  have accepted := mailUnder_append couriers.accepted
  have moved := couriers.moved flows short permitted spares settled
  have keptAccepted : ∀ posted ∈ net.accepted,
      posted.Placed (net.log.perform Client.apply label).trace :=
    fun posted member => (couriers.accepted posted member).append _
  by_cases ended : (net.log.state.apply label).state = .idle
  · rw [clientStep_of_ended ended]
    refine ⟨by simp, keptAccepted, fun k => ?_⟩
    have lost := (Courier.Step.lose
      (net.moved label k (receiptsUnder k (net.waiting label)))).inv (moved k)
    have same : courier { net with
        log := net.log.perform Client.apply label
        up := [], untaken := [], down := [], unhandled := []
        handled := net.handled ++ net.record label } k =
        { net.moved label k (receiptsUnder k (net.waiting label)) with
          forward := [], back := [] } := by
      simp only [courier, Net.moved, Net.accepted, Logged.perform_trace] at accepted ⊢
      rw [accepted]
      rfl
    rwa [same]
  · rw [clientStep_of_goesOn ended]
    refine ⟨fun posted member => ?_, keptAccepted, fun k => ?_⟩
    · rcases List.mem_append.mp member with old | new
      · exact (couriers.untaken posted old).append _
      · exact placed_postedBy flows.history short new
    · have same : courier { net with
          log := net.log.perform Client.apply label
          up := net.up ++ net.log.state.accepted label
          untaken := net.untaken ++ (net.log.state.react label).queued.map fun packet =>
            ⟨net.log.trace.length, packet⟩
          down := down
          unhandled := if label.isHandle then net.unhandled.tail else net.unhandled
          handled := net.handled ++ net.record label } k =
          net.moved label k (receiptsUnder k (net.waiting label)) := by
        simp only [courier, Net.moved, Net.accepted, Logged.perform_trace, mailUnder,
          List.filterMap_append] at untaken accepted ⊢
        rw [accepted, untaken]
        rfl
      rw [same]
      exact moved k

/-! ## The broker's moves -/

/-- What a packet that the broker takes makes of one courier. -/
def taken (net : Net cfg Receiving.broker) (k : UInt16) (rest : List Posted) (state : Receiving)
    (sent : List (Sent Unit)) : System Nat where
  stage := (net.courier k).stage
  forward := mailUnder net.log.trace k rest
  back := (net.courier k).back ++ receiptsUnder k sent
  holds := decide (k ∈ state.holds)
  noted := (mailUnder net.log.trace k state.accepted).filterMap Item.noted
  delivered := (mailUnder net.log.trace k state.accepted).filterMap Item.offered

/-- What the broker sends lengthens the way back. -/
theorem courier_send (net : Net cfg Receiving.broker) (up : Bytes) (rest : List Posted)
    (state : Receiving) (sent : List (Sent Unit)) (k : UInt16) :
    (({ net with up := up, untaken := rest } :
      Net cfg Receiving.broker).send state sent).courier k =
      net.taken k rest state sent := by
  simp only [courier, Net.send, taken, Net.accepted, receiptsUnder, List.filterMap_append]
  rfl

section Takes

variable {k id : UInt16} {posted : Posted} {rest : List Posted} {state : Receiving}
  {sent : List (Sent Unit)} {answer : Sent Unit} {item : Item Nat} {receipt : Receipt}

/-- The oldest packet on its way heads the mail of its id. -/
theorem forward_eq (next : net.untaken = posted :: rest) (k : UInt16) :
    (net.courier k).forward =
      (under k (posted.item net.log.trace)).toList ++ mailUnder net.log.trace k rest := by
  rw [← mailUnder_cons, ← next]
  rfl

/-- A packet for another id does not change this courier. -/
theorem Couriers.taken_elsewhere (couriers : net.Couriers) (next : net.untaken = posted :: rest)
    (noItem : under k (posted.item net.log.trace) = none) (noReceipt : receiptsUnder k sent = [])
    (sameHolds : k ∈ state.holds ↔ k ∈ Receiving.holds net.state)
    (sameAccepted : mailUnder net.log.trace k state.accepted =
      mailUnder net.log.trace k net.accepted) : Inv (net.taken k rest state sent) := by
  have forward := forward_eq next k
  rw [noItem] at forward
  have same : net.taken k rest state sent = net.courier k := by
    simp only [taken, noReceipt, List.append_nil, sameHolds, sameAccepted]
    simp only [courier] at forward ⊢
    rw [forward]
    rfl
  rw [same]
  exact couriers.inv k

end Takes

/-- A packet the broker takes keeps each courier's invariant. -/
theorem Couriers.takes_inv (couriers : net.Couriers) {posted : Posted} {rest : List Posted}
    {state : Receiving} {sent : List (Sent Unit)} (next : net.untaken = posted :: rest)
    (takes : Receiving.Takes net.state posted state sent) (k : UInt16) :
    Inv (net.taken k rest state sent) := by
  have inv := couriers.inv k
  have forward := forward_eq next k
  -- A packet for another id has no item and no answer here.
  have elsewhere : ∀ {id : UInt16} {item : Item Nat} {answer : Sent Unit} {receipt : Receipt},
      posted.item net.log.trace = some (id, item) → answer.receipt = some (id, receipt) → id ≠ k →
      under k (posted.item net.log.trace) = none ∧ receiptsUnder k [answer] = [] := by
    intro id item answer receipt isItem isReceipt other
    rw [receiptsUnder_singleton, isItem, isReceipt, under_other other, under_other other]
    exact ⟨rfl, rfl⟩
  cases takes with
  | record id topic payload answer reads acknowledges =>
    have isItem : posted.item net.log.trace =
        some (id, .note (posted.number net.log.trace id)) := by simp [Posted.item, reads]
    by_cases here : id = k
    · subst here
      rw [isItem, under_self] at forward
      have moved := (Courier.Step.record (net.courier id) _ _ forward).inv inv
      simpa [taken, courier, Net.accepted, mailUnder_snoc, receiptsUnder_singleton, isItem,
        acknowledges, List.filterMap_cons] using moved
    · obtain ⟨noItem, noReceipt⟩ := elsewhere isItem acknowledges here
      exact couriers.taken_elsewhere next noItem noReceipt Iff.rfl
        (by simp [mailUnder_snoc, noItem, Net.accepted])
  | deliver id topic payload answer reads unknown acknowledges =>
    have isItem : posted.item net.log.trace =
        some (id, .offer (posted.number net.log.trace id)) := by simp [Posted.item, reads]
    by_cases here : id = k
    · subst here
      rw [isItem, under_self] at forward
      have free : (net.courier id).holds = false := by simpa [courier] using unknown
      have moved := (Courier.Step.deliver (net.courier id) _ _ forward free).inv inv
      simpa [taken, courier, Net.accepted, mailUnder_snoc, receiptsUnder_singleton, isItem,
        acknowledges, List.filterMap_cons] using moved
    · obtain ⟨noItem, noReceipt⟩ := elsewhere isItem acknowledges here
      exact couriers.taken_elsewhere next noItem noReceipt (by simp [Ne.symm here])
        (by simp [mailUnder_snoc, noItem, Net.accepted])
  | recognize id topic payload answer reads known acknowledges =>
    have isItem : posted.item net.log.trace =
        some (id, .offer (posted.number net.log.trace id)) := by simp [Posted.item, reads]
    by_cases here : id = k
    · subst here
      rw [isItem, under_self] at forward
      have held : (net.courier id).holds = true := by simpa [courier] using known
      have moved := (Courier.Step.recognize (net.courier id) _ _ forward held).inv inv
      simpa [taken, courier, Net.accepted, receiptsUnder_singleton, acknowledges] using moved
    · obtain ⟨noItem, noReceipt⟩ := elsewhere isItem acknowledges here
      exact couriers.taken_elsewhere next noItem noReceipt Iff.rfl rfl
  | finish id answer reads acknowledges =>
    have isItem : posted.item net.log.trace = some (id, .release) := by simp [Posted.item, reads]
    by_cases here : id = k
    · subst here
      rw [isItem, under_self] at forward
      have moved := (Courier.Step.finish (net.courier id) _ forward).inv inv
      simpa [taken, courier, Net.accepted, receiptsUnder_singleton, acknowledges] using moved
    · obtain ⟨noItem, noReceipt⟩ := elsewhere isItem acknowledges here
      exact couriers.taken_elsewhere next noItem noReceipt (by simp [Ne.symm here]) rfl
  | other answer reads unrelated =>
    exact couriers.taken_elsewhere next (by simp [Posted.item, reads])
      (receiptsUnder_unrelated unrelated k) Iff.rfl rfl

/-- A packet the broker takes keeps the couriers. -/
theorem Couriers.take (couriers : net.Couriers) {posted : Posted} {rest : List Posted} (up : Bytes)
    {state : Receiving} {sent : List (Sent Unit)} (next : net.untaken = posted :: rest)
    (takes : Receiving.Takes net.state posted state sent) :
    (({ net with up := up, untaken := rest } :
      Net cfg Receiving.broker).send state sent).Couriers := by
  have placed : ∀ posted ∈ net.untaken, posted.Placed net.log.trace := couriers.untaken
  rw [next] at placed
  refine ⟨fun other member => placed other (List.mem_cons_of_mem _ member), fun other member => ?_,
    fun k => ?_⟩
  · have among : other ∈ net.accepted ++ [posted] := by
      cases takes with
      | record | deliver => exact member
      | recognize | finish | other => exact List.mem_append_left _ member
    rcases List.mem_append.mp among with old | new
    · exact couriers.accepted other old
    · exact placed other (List.mem_singleton.mp new ▸ List.mem_cons_self)
  · rw [courier_send]
    exact couriers.takes_inv next takes k

/-- Packets of the broker's own keep the couriers. -/
theorem Couriers.offer (couriers : net.Couriers) {sent : List (Sent Unit)}
    (unrelated : Receiving.Unrelated sent) : (net.send net.state sent).Couriers := by
  refine ⟨couriers.untaken, couriers.accepted, fun k => ?_⟩
  have same : (net.send net.state sent).courier k = net.courier k := by
    simp only [courier, Net.send, receiptsUnder, List.filterMap_append]
    rw [show sent.filterMap _ = [] from receiptsUnder_unrelated unrelated k, List.append_nil]
    rfl
  rw [same]
  exact couriers.inv k

/-! ## Every delivery report -/

/-- Where the client and its broker come to if no QoS 1 message is given an id before
it is settled. -/
inductive Unhurried : Net cfg Receiving.broker → Prop where
  | start : Unhurried (start cfg Receiving.broker)
  | step {net next : Net cfg Receiving.broker} (prior : Unhurried net) (step : Net.Step net next)
      (settled : ∀ event m, next.log.trace = net.log.trace ++ [event] → event.Posts m →
        m.qos = .atLeastOnce → net.Settled m.id) : Unhurried next

theorem Unhurried.reachable (unhurried : net.Unhurried) : net.Reachable := by
  induction unhurried with
  | start => exact .start
  | step _ step _ reachable => exact reachable.step step

/-- Every unhurried network keeps the couriers. -/
theorem Unhurried.couriers (unhurried : net.Unhurried) (short : PublishesShort net.log.trace)
    (keeps : KeepsSessions net.log.trace) : net.Couriers := by
  induction unhurried with
  | start =>
    refine ⟨fun _ member => (by cases member), fun _ member => (by cases member), fun k => ?_⟩
    have fresh : (Net.start cfg Receiving.broker).courier k = ⟨.idle, [], [], false, [], []⟩ := by
      simp only [courier, Net.start, Client.phaseOf_initial]
      rfl
    rw [fresh]
    exact inv_initial
  | @step net next prior step settled couriers =>
    have flows := prior.reachable.flows
    cases step with
    | client label down permitted arrives =>
      rw [log_clientStep, Logged.perform_trace] at keeps short
      have kept : KeepsSessions net.log.trace :=
        fun event member => keeps event (List.mem_append_left _ member)
      have couriers := couriers (fun event member => short event (List.mem_append_left _ member))
        kept
      exact couriers.client flows short permitted
        (flows.history.spares kept (keeps ⟨net.log.state, label⟩ (by simp)))
        (fun m posts => settled _ m (by rw [log_clientStep, Logged.perform_trace]) posts) down
    | take posted rest up state sent live isNext arrived takes =>
      exact (couriers short keeps).take up isNext takes
    | offer state sent live offers =>
      obtain ⟨rfl, unrelated⟩ := offers
      exact (couriers short keeps).offer unrelated

/-- The broker has accepted the message that the id stands for, in a packet that was
queued for it, and its delivery has not been reported. -/
def Justified (net : Net cfg Receiving.broker) (id : UInt16) : Prop :=
  ∃ m before after, Underway net.log.trace m before after ∧ m.id = id ∧
    ∃ posted ∈ net.accepted, before.length ≤ posted.position ∧
      ∃ dup, posted.packet.bytes = m.packet dup

/-- A number that was accepted is that of a message. -/
theorem Couriers.justified (couriers : net.Couriers) {m : Posting} {before after : Trace cfg}
    (underway : Underway net.log.trace m before after)
    (arrived : issued m.id net.log.trace ∈ (net.courier m.id).noted ∨
      issued m.id net.log.trace ∈ (net.courier m.id).delivered) : net.Justified m.id := by
  obtain ⟨posted, accepted, isNumber, qos, topic, payload, reads⟩ := mem_messages arrived
  obtain ⟨m', before', after', latest, same, isPacket⟩ :=
    (couriers.accepted posted accepted).carries _ _ _ _ reads
  have unposted : issued m.id (net.log.trace.drop (posted.position + 1)) = 0 := by
    have whole := issued_append m.id (net.log.trace.take (posted.position + 1))
      (net.log.trace.drop (posted.position + 1))
    rw [List.take_append_drop] at whole
    have number : issued m.id (net.log.trace.take (posted.position + 1)) =
      issued m.id net.log.trace := isNumber
    omega
  have onward := latest.append (same ▸ issued_eq_zero.mp unposted)
  rw [List.take_append_drop] at onward
  obtain ⟨rfl, rfl, _⟩ := onward.unique underway.toLatest same
  refine ⟨m', before', after, underway, rfl, posted, accepted, ?_, isPacket⟩
  obtain ⟨⟨post, split, _⟩, _⟩ := latest
  have length := congrArg List.length split
  simp only [List.length_take, List.length_append, List.length_cons] at length
  omega

/-! ## Ids that are given out once -/

/-- An id that was never given out is settled. -/
theorem Couriers.settled (couriers : net.Couriers) {k : UInt16}
    (unissued : issued k net.log.trace = 0) : net.Settled k := by
  refine ⟨fun posted member topic payload reads => ?_, fun sent member isReceipt => ?_⟩
  · have some := (couriers.untaken posted member).issued_pos reads
    omega
  · have heard : .note ∈ (net.courier k).back :=
      List.mem_filterMap.mpr ⟨sent, member, by rw [isReceipt, under_self]⟩
    obtain ⟨number, noted⟩ := List.exists_mem_of_ne_nil _ ((couriers.inv k).receipt heard)
    obtain ⟨posted, accepted, _, qos, topic, payload, reads⟩ := mem_messages (.inl noted)
    have some := (couriers.accepted posted accepted).issued_pos reads
    omega

/-- As long as no id is given out twice, there is no hurry. -/
theorem Reachable.unhurried (reachable : net.Reachable) (short : PublishesShort net.log.trace)
    (keeps : KeepsSessions net.log.trace) (once : ∀ k, issued k net.log.trace ≤ 1) :
    net.Unhurried := by
  induction reachable with
  | start => exact .start
  | @step net next prior step ih =>
    obtain ⟨more, grown⟩ : ∃ more, next.log.trace = net.log.trace ++ more := by
      cases step with
      | client label down => exact ⟨_, by rw [log_clientStep, Logged.perform_trace]⟩
      | take | offer => exact ⟨[], (List.append_nil _).symm⟩
    have kept : KeepsSessions net.log.trace :=
      fun event member => keeps event (grown ▸ List.mem_append_left _ member)
    have shortly : PublishesShort net.log.trace :=
      fun event member => short event (grown ▸ List.mem_append_left _ member)
    have unhurried := ih shortly kept fun k => by
      have bound := once k
      rw [grown, issued_append] at bound
      omega
    refine .step unhurried step fun event m isNext posts _ => ?_
    refine (unhurried.couriers shortly kept).settled ?_
    have bound := once m.id
    rw [isNext, posts.issued_append] at bound
    omega

end Net

/-- While QoS 1 messages are given settled ids only, every delivery report is for a
message that the broker has accepted, and for each message there is at most one. -/
theorem delivery_reports_justified (cfg : Config) (net : Net cfg Receiving.broker)
    (unhurried : net.Unhurried) (short : PublishesShort net.log.trace)
    (keeps : KeepsSessions net.log.trace) (label : Label) (permitted : Permitted net.log label)
    (id : UInt16) (reports : (net.log.state.react label).callback = some (.onDelivery id)) :
    net.Justified id := by
  have couriers := unhurried.couriers short keeps
  have flows := unhurried.reachable.flows
  have history := flows.history
  obtain ⟨header, body, now, index, slot, rfl, awaited, decoded, here, rfl, -⟩ :=
    report_cases history.slotsSized reports
  have flies : slot.phase ≠ .free := by rcases awaited with ⟨_, phase⟩ | ⟨_, phase⟩ <;> simp [phase]
  obtain ⟨m, before, after, underway, _, holds⟩ := history.allStand short index slot here flies
  have phase := history.idsApart.phaseOf here flies
  rw [holds.named] at phase decoded ⊢
  refine couriers.justified underway ?_
  rcases awaited with ⟨type, waits⟩ | ⟨type, waits⟩
  · refine .inl ((couriers.inv m.id).arrived_of_note
      (by simp [Net.courier, phase, waits, Phase.stage]) ?_)
    rw [flows.heard permitted]
    simp [Label.receipt_handle _ (congrArg PacketType.receipt type) decoded]
  · exact .inr ((couriers.inv m.id).arrived_of_released (by
      simp [Net.courier, phase, waits, Phase.stage]))

/-! ## A message that is sent again -/

namespace Reports

/-- An acknowledgement. -/
def ack (type : PacketType) (sendable : ({ type := type } : FixedHeader).Sendable) (id : UInt16) :
    Sent Unit where
  packet := .of { type := type } (u16Bytes id) sendable (length_u16Bytes_le id)
  tag := ()

def puback (id : UInt16) : Sent Unit := ack .puback (by decide) id

def pubrec (id : UInt16) : Sent Unit := ack .pubrec (by decide) id

def pubcomp (id : UInt16) : Sent Unit := ack .pubcomp (by decide) id

/-- CONNACK, with the session if the broker has accepted anything. -/
def connack (s : Receiving) : Sent Unit where
  packet := .of { type := .connack } [if s.accepted.isEmpty then 0 else 1, 0]
    FixedHeader.sendable_connack (by simp [kMaxRemainingLength])
  tag := ()

/-- How the broker answers. -/
def take (s : Receiving) (posted : Posted) : Receiving × List (Sent Unit) :=
  match readMail posted.packet.bytes with
  | some (id, .message qos _ _) =>
    if qos = .atLeastOnce then ({ s with accepted := s.accepted ++ [posted] }, [puback id])
    else if id ∈ s.holds then (s, [pubrec id])
    else (⟨id :: s.holds, s.accepted ++ [posted]⟩, [pubrec id])
  | some (id, .release) => ({ s with holds := s.holds.filter (· ≠ id) }, [pubcomp id])
  | none => (s, if posted.packet.bytes.head? = some 0x10 then [connack s] else [])

/-- An acknowledgement reads back as its receipt. -/
theorem receipt_ack {type : PacketType} (sendable : ({ type := type } : FixedHeader).Sendable)
    {id : UInt16} (nonzero : id ≠ 0) {receipt : Receipt} (isReceipt : type.receipt = some receipt) :
    (ack type sendable id).receipt = some (id, receipt) := by
  simp only [Sent.receipt, readReceipt, ack, Packet.of, isReceipt, decodePacketId_u16Bytes nonzero]

/-- The acknowledging broker is one of those allowed. -/
theorem takes (s : Receiving) (posted : Posted) :
    Receiving.Takes s posted (take s posted).1 (take s posted).2 := by
  unfold take
  split
  · rename_i id qos topic payload reads
    obtain ⟨nonzero, kind⟩ := readMail_cases reads
    split_ifs with level known
    · exact .record s posted id topic payload _ (level ▸ reads) (receipt_ack _ nonzero rfl)
    all_goals
      obtain rfl : qos = .exactlyOnce := by
        rcases kind with kind | ⟨_, _, kind | kind⟩ <;> simp_all
    · exact .recognize s posted id topic payload _ reads known (receipt_ack _ nonzero rfl)
    · exact .deliver s posted id topic payload _ reads known (receipt_ack _ nonzero rfl)
  · rename_i id reads
    exact .finish s posted id _ reads (receipt_ack _ (readMail_cases reads).1 rfl)
  · rename_i reads
    refine .other s posted _ reads fun packet member => ?_
    split at member
    · obtain rfl : packet = connack s := by simpa using member
      rfl
    · cases member

def player : Player Receiving.broker Unit where
  take := take
  offer _ s := (s, [])
  takes := takes
  offers _ _ := ⟨rfl, by simp [Receiving.Unrelated]⟩

def options : ConnectOptions := { clientId := [97], cleanSession := false }

/-- Publish a QoS 1 message and wait for it to be acknowledged. -/
def application : Script :=
  .connect options (.step (.publish [116] [] .atLeastOnce false (.step (.step .done))))

/-- The retry interval elapses before the broker answers. -/
def env : Env where
  clock := [0, 0, 0, 0, 0, 0, 0, 0, 0, 20000]
  opens := [.ok]
  sends := [(.ok, 15), (.ok, 7), (.ok, 7)]
  recvs := [(.ok, [0x20, 2, 0, 0]), (.wouldBlock, []), (.wouldBlock, []), (.ok, [0x40, 2, 0, 1])]

def run : World .small := World.exec .small env application

/-- The client moves this many times. -/
def clients (count : Nat) : List (Turn Unit) := List.replicate count .client

/-- The broker takes both copies before the client hears of the first. -/
def schedule : List (Turn Unit) := clients 4 ++ .take :: clients 17 ++ [.take, .take] ++ clients 2

def played : Option (Net .small Receiving.broker) :=
  (Net.start .small Receiving.broker).play player run.log.trace schedule

/-- What playing it comes to. -/
theorem played_facts :
    (played.map fun net => (net.log.trace.length, net.accepted.length)) = some (23, 2) := by
  decide +kernel

theorem within : 23 < run.trace.length := by decide +kernel

/-- What the client does next. -/
theorem reports :
    (run.trace.get ⟨23, within⟩).reaction.callback = some (.onDelivery 1) := by decide +kernel

end Reports

/-- The message went out twice, and the first PUBACK is about to be handled. -/
theorem delivery_reports_justified_repeated :
    ∃ net label, Reports.played = some net ∧ Permitted net.log label ∧
      (net.log.state.react label).callback = some (.onDelivery 1) ∧ net.Justified 1 := by
  obtain ⟨net, played, facts⟩ := Option.map_eq_some_iff.mp Reports.played_facts
  have history := World.exec_history .small Reports.env Reports.application
  have follows := Net.Follows.play history ⟨.start, _, rfl⟩ played
  obtain ⟨rest, whole⟩ := follows.within
  have length : net.log.trace.length = 23 := congrArg Prod.fst facts
  have kept : KeepsSessions Reports.run.trace := by decide +kernel
  have keeps : KeepsSessions net.log.trace := fun event member =>
    kept event (by rw [show Reports.run.trace = _ from whole]; exact List.mem_append_left _ member)
  have short : PublishesShort net.log.trace :=
    follows.reachable.flows.history.publishesShort (by decide)
  have once : ∀ k, issued k net.log.trace ≤ 1 := by
    intro k
    have few : issued k Reports.run.trace ≤ 1 := by
      refine (List.countP_mono_left fun event _ posts => ?_).trans
        (show Reports.run.trace.countP (·.label.isPublish) ≤ 1 by decide +kernel)
      exact Entry.isPublish_of_posts posts
    rw [show Reports.run.trace = _ from whole, issued_append] at few
    omega
  -- The next thing the client does is handle the PUBACK.
  have split := split_at_position Reports.run.trace Reports.within
  have front : Reports.run.trace.take 23 = net.log.trace := by
    rw [show Reports.run.trace = _ from whole, ← length, List.take_left]
  rw [front] at split
  obtain ⟨earlier, reached, sameTrace, before, permitted, -⟩ := history.cut split
  obtain rfl : earlier = net.log := reached.log_eq follows.reachable.flows.history sameTrace
  have report := Reports.reports
  rw [Entry.reaction, before] at report
  exact ⟨net, _, played, permitted, report,
    delivery_reports_justified .small net (follows.reachable.unhurried short keeps once) short keeps _
      permitted 1 report⟩

/-! ## A report for a message the broker never saw

A PUBACK names a packet id and not a message. A retransmitted PUBLISH is answered twice, and
the second PUBACK may still be on the connection when the id it names is given to another
message: ids are handed out in turn, and calls that fail use them up as well. -/

/-- A SUBSCRIBE that is longer than the transmit queue only uses up an id. -/
theorem Client.subscribe_overlong {c : Client cfg} {subs : List TopicSubscription} {size : Nat}
    (handler : Option Nat) (now : UInt32) (up : c.state = .connected) (some : subs ≠ [])
    (few : subs.length ≤ cfg.maxTopicsPerRequest)
    (valid : checkFilters subs cfg.maxTopicLen = .ok) (room : c.ackTableFull = false)
    (space : c.subscriptions.length + c.newEntries subs ≤ cfg.maxSubscriptions)
    (sized : subscribeRemainingLength subs = .ok size)
    (overlong : cfg.txBufferSize < packetSize size) (unused : c.liveIds = []) :
    c.react (.subscribe subs handler now) =
      { error := .bufferTooSmall, client := { c with nextPacketId := nextId c.nextPacketId } } := by
  have given := @allocPacketId_next _ c (by simp [unused])
  have nonzero : nextId c.nextPacketId ≠ 0 := by
    intro zero
    have next := toNat_nextId c.nextPacketId
    rw [zero] at next
    simp at next
  simp [react, subscribe, up, some, Nat.not_lt.mpr few, valid, room, Nat.not_lt.mpr space, sized,
    given, nonzero, sendSubscribe, enqueueSized, overlong, refuse]

namespace StaleReceipt

/-- The client and its connection, without the history. -/
structure At (net : Net .small Receiving.broker) (c : Client .small) (control : Control)
    (down : Bytes) : Prop where
  reachable : net.Reachable
  keeps : KeepsSessions net.log.trace
  client : net.log.state = c
  control : Control.of net.log.trace = control
  down : net.down = down
  accepted : net.accepted.map (·.packet.bytes) =
    [publishPacket [116] [] .atLeastOnce false false 1,
      publishPacket [116] [] .atLeastOnce false true 1]

/-- One step of the client in the network. -/
theorem At.step {net : Net .small Receiving.broker} {c : Client .small} {control next : Control}
    {down : Bytes} (here : At net c control down) (label : Label) (rest : Bytes)
    (permits : control.Permits c label) (arrives : down = label.arriving ++ rest)
    (keeps : label.KeepsSession) (moves : control.after c label = next)
    (goesOn : (c.apply label).state ≠ .idle) :
    At (net.clientStep label rest) (c.apply label) next rest := by
  obtain ⟨reachable, kept, rfl, rfl, rfl, accepted⟩ := here
  refine ⟨reachable.step (.client net label rest permits arrives), ?_, ?_, ?_, ?_, ?_⟩
  · rw [Net.log_clientStep]
    intro event member
    rcases List.mem_append.mp member with old | new
    · exact kept event old
    · rw [List.mem_singleton.mp new]
      exact keeps
  · rw [Net.log_clientStep]
    rfl
  · rw [Net.log_clientStep, Logged.perform_trace, Control.of_snoc]
    exact moves
  · rw [Net.clientStep_of_goesOn goesOn]
  · rw [Net.accepted, Net.state_clientStep]
    exact accepted

/-- The first PUBACK has been handled and `step()` has returned. -/
def played : Option (Net .small Receiving.broker) :=
  (Net.start .small Receiving.broker).play Reports.player Reports.run.log.trace
    (Reports.schedule ++ Reports.clients 7)

def puback : Bytes := [0x40, 2, 0, 1]

theorem played_facts :
    (played.map fun net => (net.log.trace.length, net.down, net.accepted.map (·.packet.bytes))) =
      some (30, puback, [publishPacket [116] [] .atLeastOnce false false 1,
        publishPacket [116] [] .atLeastOnce false true 1]) := by
  decide +kernel

/-- The client this many ids later. -/
def later (c : Client .small) (count : Nat) : Client .small :=
  { c with nextPacketId := UInt16.ofNat (count + 1) }

theorem later_zero {c : Client .small} (position : c.nextPacketId = 1) : later c 0 = c := by
  rw [later, show UInt16.ofNat (0 + 1) = c.nextPacketId from position.symm]

/-- The run before the ids wrap, as a network. -/
theorem at_start : ∃ net, At net (later Reports.run.client 0) .outside puback := by
  obtain ⟨net, isPlayed, facts⟩ := Option.map_eq_some_iff.mp played_facts
  obtain ⟨length, down, accepted⟩ : _ ∧ _ ∧ _ := by simpa using facts
  have history : History Reports.run.log :=
    World.exec_history .small Reports.env Reports.application
  have follows := Net.Follows.play history ⟨.start, _, rfl⟩ isPlayed
  have total : Reports.run.log.trace.length = 30 := by decide +kernel
  have same : net.log = Reports.run.log := by
    obtain ⟨rest, whole⟩ := follows.within
    refine follows.reachable.flows.history.log_eq history ?_
    have lengths := congrArg List.length whole
    rw [List.length_append, length, total] at lengths
    obtain rfl : rest = [] := List.eq_nil_of_length_eq_zero (by omega)
    rw [whole, List.append_nil]
  have keeps : KeepsSessions Reports.run.log.trace := by decide +kernel
  have position : Reports.run.log.state = later Reports.run.client 0 :=
    (later_zero (by decide +kernel)).symm
  have outside : Control.of Reports.run.log.trace = .outside := by decide +kernel
  exact ⟨net, follows.reachable, same ▸ keeps, same ▸ position, same ▸ outside, down, accepted⟩

/-- A filter for which the queue is too small. -/
def filter : TopicSubscription := { filter := List.replicate 10 97, qos := .atMostOnce }

/-- What such a call finds. -/
structure Spare (c : Client .small) : Prop where
  up : c.state = .connected
  room : c.ackTableFull = false
  space : c.subscriptions.length + c.newEntries [filter] ≤ Config.small.maxSubscriptions
  unused : c.liveIds = []

/-- One more request that is allocated an id. -/
theorem later_subscribe {c : Client .small} (spare : Spare c) {count : Nat}
    (within : count < 65534) :
    (later c count).apply (.subscribe [filter] none 20000) = later c (count + 1) := by
  have next : nextId (UInt16.ofNat (count + 1)) = UInt16.ofNat (count + 1 + 1) := by
    apply UInt16.toNat_inj.mp
    rw [toNat_nextId, UInt16.toNat_ofNat_of_lt' (by rw [UInt16.size]; omega),
      UInt16.toNat_ofNat_of_lt' (by rw [UInt16.size]; omega)]
    omega
  have sized : subscribeRemainingLength [filter] = .ok 15 := by decide
  have failed := @Client.subscribe_overlong _ (later c count) [filter] 15 none 20000 spare.up
    (by simp) (by decide) (by decide) spare.room spare.space sized (by decide) spare.unused
  rw [Client.apply, failed]
  simp only [later, next]

/-- The application goes on asking for a subscription that does not fit. -/
theorem at_later {c : Client .small} (spare : Spare c)
    (start : ∃ net, At net (later c 0) .outside puback) {count : Nat} (within : count ≤ 65534) :
    ∃ net, At net (later c count) .outside puback := by
  induction count with
  | zero => exact start
  | succ count ih =>
    obtain ⟨net, here⟩ := ih (by omega)
    have applied := later_subscribe spare (show count < 65534 by omega)
    have busy : ((later c count).apply (.subscribe [filter] none 20000)).state ≠ .idle := by
      rw [applied, show (later c (count + 1)).state = .connected from spare.up]
      simp
    have moved := here.step (.subscribe [filter] none 20000) puback rfl rfl (by decide) rfl busy
    rw [applied] at moved
    exact ⟨_, moved⟩

/-- The client when every other id has been used up. -/
def wrapped : Client .small := later Reports.run.client 65534

/-- Another message. -/
def message : Posting := ⟨[117], [], .atLeastOnce, false, 1⟩

def publish : Label := .publish message.topic message.payload message.qos message.retain 20000

/-- It has id 1. -/
def published : Client .small := wrapped.apply publish

def entered : Client .small := published.apply .stepEnter

/-- It is still queued -/
def blocked : Client .small := entered.apply (.send .wouldBlock 0 20000)

/-- when the PUBACK arrives. -/
def received : Client .small := blocked.apply (.recv .ok puback 20000)

def handle : Label := .handle { type := .puback, remainingLength := 2 } [0, 1] 20000

/-- The second message is a posting. -/
theorem posts_publish : Entry.Posts (⟨wrapped, publish⟩ : Event .small) message :=
  ⟨⟨20000, rfl⟩, by decide, by decide +kernel, by decide +kernel⟩

/-- Where the last pass stands after each step. -/
theorem controls :
    Control.after .outside wrapped publish = .outside ∧
    Control.after .outside published .stepEnter = .sending ∧
    Control.after .sending entered (.send .wouldBlock 0 20000) = .receiving 7 ∧
    Control.after (.receiving 7) blocked (.recv .ok puback 20000) = .draining (some 7) := by
  decide +kernel

theorem states :
    published.state ≠ .idle ∧ entered.state ≠ .idle ∧
      blocked.state ≠ .idle ∧ received.state ≠ .idle ∧
      entered.tx.isEmpty = false ∧ blocked.rx = [] ∧ received.rx = puback ∧
      (received.react handle).callback = some (.onDelivery 1) := by
  decide +kernel

/-- Only a `publish()` gives the id to another message. -/
theorem latest_clientStep {net : Net .small Receiving.broker} {m : Posting}
    {before after : Trace .small} (latest : Latest net.log.trace m before after) {label : Label}
    (other : label.isPublish = false) (down : Bytes) :
    Latest (net.clientStep label down).log.trace m before (after ++ [⟨net.log.state, label⟩]) := by
  rw [Net.log_clientStep, Logged.perform_trace]
  refine latest.append fun event member => Bool.eq_false_iff.mpr fun posts => ?_
  have isPublish := Entry.isPublish_of_posts posts
  simp [List.mem_singleton.mp member, other] at isPublish

/-- The broker has taken both copies of the first message, and nothing of the second. -/
theorem not_justified {net : Net .small Receiving.broker} {c : Client .small} {control : Control}
    {down : Bytes} (here : At net c control down) {before after : Trace .small}
    (latest : Latest net.log.trace message before after) : ¬ net.Justified 1 := by
  rintro ⟨m, before', after', underway, named, posted, accepted, -, dup, isPacket⟩
  obtain ⟨rfl, -, -⟩ := underway.toLatest.unique latest named
  have among : message.packet dup ∈ net.accepted.map (·.packet.bytes) :=
    List.mem_map.mpr ⟨posted, accepted, isPacket⟩
  rw [here.accepted] at among
  have absent : ∀ dup, message.packet dup ∉ [publishPacket [116] [] .atLeastOnce false false 1,
      publishPacket [116] [] .atLeastOnce false true 1] := by decide
  exact absent dup among

end StaleReceipt

open StaleReceipt

/-- The PUBACK of the first message reports the delivery of the second. -/
theorem delivery_report_unjustified :
    ∃ (net : Net .small Receiving.broker) (label : Label), net.Reachable ∧
      KeepsSessions net.log.trace ∧ Permitted net.log label ∧
      (net.log.state.react label).callback = some (.onDelivery 1) ∧ ¬ net.Justified 1 := by
  have spare : Spare Reports.run.client :=
    ⟨by decide +kernel, by decide +kernel, by decide +kernel, by decide +kernel⟩
  obtain ⟨afterPublish, afterEnter, afterSend, afterRecv⟩ := controls
  obtain ⟨up₁, up₂, up₃, up₄, queued, empty, arrived, reports⟩ := states
  obtain ⟨net₀, at₀⟩ : ∃ net, At net wrapped .outside puback :=
    at_later spare at_start (Nat.le_refl 65534)
  have at₁ : At _ published .outside puback :=
    at₀.step publish puback rfl rfl (by decide) afterPublish up₁
  have at₂ : At _ entered .sending puback :=
    at₁.step .stepEnter puback rfl rfl (by decide) afterEnter up₂
  have at₃ : At _ blocked (.receiving 7) puback :=
    at₂.step (.send .wouldBlock 0 20000) puback ⟨.inl rfl, queued⟩ rfl (by decide) afterSend up₃
  have at₄ : At _ received (.draining (some 7)) [] :=
    at₃.step (.recv .ok puback 20000) []
      ⟨⟨7, rfl⟩, by rw [empty]; decide, by rw [empty]; decide⟩ rfl (by decide) afterRecv up₄
  have latest₁ : Latest (net₀.clientStep publish puback).log.trace message net₀.log.trace [] := by
    rw [Net.log_clientStep, Logged.perform_trace, at₀.client]
    exact posts_publish.latest _
  have latest₂ := latest_clientStep latest₁
    (show Label.isPublish .stepEnter = false from rfl) puback
  have latest₃ := latest_clientStep latest₂
    (show Label.isPublish (.send .wouldBlock 0 20000) = false from rfl) puback
  have latest₄ := latest_clientStep latest₃
    (show Label.isPublish (.recv .ok puback 20000) = false from rfl) []
  refine ⟨_, handle, at₄.reachable, at₄.keeps, ?_, ?_, not_justified at₄ latest₄⟩
  · rw [Permitted, at₄.control, at₄.client]
    refine ⟨⟨some 7, rfl⟩, ?_⟩
    rw [arrived]
    exact ⟨{ header := { type := .puback, remainingLength := 2 }, headerBytes := 2,
             totalBytes := 4 }, by decide, by decide, rfl, by decide⟩
  · rw [at₄.client]
    exact reports

end Mqtt
