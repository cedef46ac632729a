import Mqtt.Net.Schedule
import Mqtt.Net.Sending

/-!
# Inbound QoS 2 messages, end to end

For each packet id the client, a broker that keeps the session, and the channels
between them are an instance of `Library.Handshake`, with the client as the
receiver. Every move of the net is a move of each handshake or leaves it alone, so
the library's invariant holds of all of them.
-/

namespace Mqtt

open Library Library.Handshake

variable {cfg : Config}

/-! ## One handshake per packet id -/

/-- The item of a handshake a packet carries. -/
def Errand.item : Errand → Option (UInt16 × Item Nat)
  | .message id number => some (id, .offer number)
  | .release id => some (id, .release)
  | .other => none

namespace Net

/-- The handshake that runs under one packet id. -/
def handshake (net : Net cfg Sending.broker) (k : UInt16) : System Nat where
  stage := Sending.stage net.state k
  forward := net.unhandled.filterMap fun sent => under k sent.tag.item
  back := net.untaken.filterMap fun posted => under k (readAck posted.packet.bytes)
  holds := decide (k ∈ net.log.state.inboundIds)
  delivered := net.handled.filterMap fun handled => under k handled.dispatched

/-- What holds of the client and a broker that keeps the session. -/
structure Sound (net : Net cfg Sending.broker) : Prop where
  agrees : TableAgrees net.log
  errands : ∀ sent ∈ net.unhandled, sent.IsErrand
  inv : ∀ k, Inv (net.handshake k)
  offered : ∀ k number, Sending.stage net.state k = .offered number →
    number < Sending.next net.state
  delivered : ∀ k, ∀ number ∈ (net.handshake k).delivered, number < Sending.next net.state
  acknowledged : ∀ message ∈ net.handled.filterMap Handled.acknowledged,
    message ∈ net.handled.filterMap Handled.dispatched

variable {net : Net cfg Sending.broker}

variable {id k : UInt16} {state : Sending} {sent : List (Sent Errand)} {label : Label}
  {header : FixedHeader} {body down : Bytes}

/-! ### The broker's moves -/

/-- The items for one packet id among what the broker sends. -/
def itemsUnder (k : UInt16) (sent : List (Sent Errand)) : List (Item Nat) :=
  sent.filterMap fun sent => under k sent.tag.item

theorem itemsUnder_self {sent : Sent Errand} {item : Item Nat}
    (isItem : sent.tag.item = some (k, item)) : itemsUnder k [sent] = [item] := by
  simp [itemsUnder, isItem]

theorem itemsUnder_other {sent : Sent Errand} {item : Item Nat}
    (isItem : sent.tag.item = some (id, item)) (other : id ≠ k) : itemsUnder k [sent] = [] := by
  simp [itemsUnder, isItem, under_other other]

/-- What carries out no errand is no item of any id. -/
theorem itemsUnder_unrelated (unrelated : Sending.Unrelated sent)
    (k : UInt16) : itemsUnder k sent = [] := by
  refine List.filterMap_eq_nil_iff.mpr fun packet member => ?_
  simp [(unrelated packet member).1, Errand.item]

/-- An offering is an offer of its number. -/
theorem item_of_offering {number : Nat} {sent : Sent Errand}
    (offering : Sending.Offering id number sent) : sent.tag.item = some (id, .offer number) := by
  rw [offering.1]
  rfl

/-- A releasing is a release. -/
theorem item_of_releasing {sent : Sent Errand} (releasing : Sending.Releasing id sent) :
    sent.tag.item = some (id, .release) := by
  rw [releasing.1]
  rfl

/-- The broker's move on one id is a move of that id's handshake. -/
theorem inv_send {stage : Stage Nat} {items : List (Item Nat)} (isStage : state.stage k = stage)
    (isItems : itemsUnder k sent = items) (moved : Inv { net.handshake k with
      stage := stage, forward := (net.handshake k).forward ++ items }) :
    Inv ((net.send state sent).handshake k) := by
  have appended : (net.send state sent).handshake k =
      { net.handshake k with
        stage := stage, forward := (net.handshake k).forward ++ items } := by
    subst isStage isItems
    simp only [handshake, Net.send, List.filterMap_append]
    rfl
  rwa [appended]

/-- The other ids' handshakes stand still. -/
theorem inv_send_same
    (sameStage : state.stage k = Sending.stage net.state k) (noItems : itemsUnder k sent = [])
    (inv : Inv (net.handshake k)) : Inv ((net.send state sent).handshake k) :=
  inv_send sameStage noItems (by rwa [List.append_nil])

/-- What the broker offers keeps every handshake. -/
theorem Sound.offers_inv (sound : net.Sound) (offers : Sending.Offers net.state state sent)
    (k : UInt16) : Inv ((net.send state sent).handshake k) := by
  have inv := sound.inv k
  cases offers with
  | offer id sent idle offering =>
    by_cases here : id = k
    · subst here
      have fresh : Sending.next net.state ∉ (net.handshake id).delivered := fun member =>
        Nat.lt_irrefl _ (sound.delivered id _ member)
      exact inv_send (Function.update_self ..) (itemsUnder_self (item_of_offering offering))
        ((Handshake.Step.offer (net.handshake id) _ idle fresh).inv inv)
    · exact inv_send_same (Function.update_of_ne (Ne.symm here) ..)
        (itemsUnder_other (item_of_offering offering) here) inv
  | offerAgain id number sent waiting offering =>
    by_cases here : id = k
    · subst here
      exact inv_send rfl (itemsUnder_self (item_of_offering offering))
        ((Handshake.Step.offerAgain (net.handshake id) _ waiting).inv inv)
    · exact inv_send_same rfl (itemsUnder_other (item_of_offering offering) here) inv
  | releaseAgain id number sent waiting releasing =>
    by_cases here : id = k
    · subst here
      exact inv_send rfl (itemsUnder_self (item_of_releasing releasing))
        ((Handshake.Step.releaseAgain (net.handshake id) _ waiting).inv inv)
    · exact inv_send_same rfl (itemsUnder_other (item_of_releasing releasing) here) inv
  | other sent unrelated => exact inv_send_same rfl (itemsUnder_unrelated unrelated k) inv

/-- Taking a packet removes it from the channel. -/
theorem handshake_taken {posted : Posted} {rest : List Posted} (up : Bytes) (k : UInt16)
    (next : net.untaken = posted :: rest) :
    (net.handshake k).back =
      (under k (readAck posted.packet.bytes)).toList ++
        (({ net with up := up, untaken := rest } : Net cfg Sending.broker).handshake k).back := by
  simp only [handshake, next, List.filterMap_cons]
  cases under k (readAck posted.packet.bytes) <;> rfl

/-- An acknowledgement the broker takes keeps every handshake. -/
theorem Sound.takes_inv (sound : net.Sound) {posted : Posted} {rest : List Posted} {up : Bytes}
    (next : net.untaken = posted :: rest)
    (takes : Sending.Takes net.state posted state sent) (k : UInt16) :
    Inv ((({ net with up := up, untaken := rest } : Net cfg Sending.broker).send state
      sent).handshake k) := by
  have inv := sound.inv k
  have back := handshake_taken up k next
  -- An acknowledgement for another packet id does not change this handshake.
  have elsewhere : under k (readAck posted.packet.bytes) = none →
      Inv (({ net with up := up, untaken := rest } : Net cfg Sending.broker).handshake k) := by
    intro nothing
    rw [nothing] at back
    have same : ({ net with up := up, untaken := rest } : Net cfg Sending.broker).handshake k =
        net.handshake k := by
      simp only [handshake] at back ⊢
      rw [back]
      rfl
    rwa [same]
  cases takes with
  | accepted id number answer reads waiting releasing =>
    by_cases here : id = k
    · subst here
      rw [reads, under_self] at back
      exact inv_send (Function.update_self ..) (itemsUnder_self (item_of_releasing releasing))
        ((Handshake.Step.accepted (net.handshake id) _ _ _ waiting back (.inr rfl)).inv inv)
    · exact inv_send_same (Function.update_of_ne (Ne.symm here) ..)
        (itemsUnder_other (item_of_releasing releasing) here)
        (elsewhere (by rw [reads, under_other here]))
  | acceptedAgain id number answer reads waiting releasing =>
    by_cases here : id = k
    · subst here
      rw [reads, under_self] at back
      have permitted : itemsUnder id sent = [] ∨ itemsUnder id sent = [.release] := by
        rcases releasing with rfl | ⟨answer, rfl, releasing⟩
        · exact .inl rfl
        · exact .inr (itemsUnder_self (item_of_releasing releasing))
      exact inv_send rfl rfl
        ((Handshake.Step.acceptedAgain (net.handshake id) _ _ _ waiting back permitted).inv inv)
    · refine inv_send_same rfl ?_ (elsewhere (by rw [reads, under_other here]))
      rcases releasing with rfl | ⟨answer, rfl, releasing⟩
      · rfl
      · exact itemsUnder_other (item_of_releasing releasing) here
  | completed id number reads waiting =>
    by_cases here : id = k
    · subst here
      rw [reads, under_self] at back
      refine inv_send (Function.update_self ..) rfl ?_
      exact (List.append_nil _).symm ▸
        (Handshake.Step.completed (net.handshake id) _ _ waiting back).inv inv
    · exact inv_send_same (Function.update_of_ne (Ne.symm here) ..) rfl
        (elsewhere (by rw [reads, under_other here]))
  | ignored id round reads unexpected =>
    by_cases here : id = k
    · subst here
      rw [reads, under_self] at back
      exact inv_send_same rfl rfl
        ((Handshake.Step.ignored (net.handshake id) _ _ back unexpected).inv inv)
    · exact inv_send_same rfl rfl (elsewhere (by rw [reads, under_other here]))
  | other answer reads unrelated =>
    exact inv_send_same rfl (itemsUnder_unrelated unrelated k) (elsewhere (by rw [reads]; rfl))

/-! ### The client's moves -/

/-- What the client queues, as acknowledgements for one packet id. -/
def acksUnder (k : UInt16) (queued : List Queued) : List Round :=
  queued.filterMap fun packet => under k (readAck packet.bytes)

/-- A step that handles no packet acknowledges nothing. -/
theorem acksUnder_aside (flows : net.Flows) (aside : label.standsAside)
    (k : UInt16) : acksUnder k (net.log.state.react label).queued = [] := by
  refine List.filterMap_eq_nil_iff.mpr fun packet member => ?_
  rw [flows.history.readAck_aside aside member]
  rfl

/-- What handling a packet makes of one handshake. -/
def answered (shake : System Nat) (rest : List (Item Nat)) (acks : List Round) (holds : Bool)
    (delivered : Option Nat) : System Nat :=
  { stage := shake.stage
    forward := rest
    back := shake.back ++ acks
    holds := holds
    delivered := shake.delivered ++ delivered.toList }

/-- A packet leaves the channel to be handled, and what it makes the client do is
recorded. -/
theorem handshake_handle {now : UInt32}
    {sent : Sent Errand} {rest : List (Sent Errand)} (next : net.unhandled = sent :: rest)
    (goesOn : (net.log.state.apply (.handle header body now)).state ≠ .idle) (k : UInt16) :
    let reaction := net.log.state.react (.handle header body now)
    (net.clientStep (.handle header body now) down).handshake k =
      answered (net.handshake k) (itemsUnder k rest) (acksUnder k reaction.queued)
        (decide (k ∈ reaction.client.inboundIds))
        (under k (Handled.dispatched ⟨net.log.trace.length, sent, reaction.queued,
          reaction.callback⟩)) := by
  rw [clientStep_of_goesOn goesOn]
  have last : ∀ handled : Handled Errand,
      ([handled].filterMap fun handled => under k handled.dispatched) =
        (under k handled.dispatched).toList := by
    intro handled
    cases found : under k handled.dispatched <;> simp [found]
  simp only [handshake, record, Label.isHandle, if_true, next, List.tail_cons, List.head?_cons,
    Option.toList_some, List.map_cons, List.map_nil, List.filterMap_append, List.filterMap_map, last]
  rfl

/-- A packet of another handshake. -/
theorem answered_elsewhere (shake : System Nat) {holds : Bool} (same : holds = shake.holds) :
    answered shake shake.forward [] holds none = shake := by
  simp [answered, same]

/-- A packet that is not answered. -/
theorem answered_dropped {shake : System Nat} (inv : Inv shake) {item : Item Nat}
    {rest : List (Item Nat)} (next : shake.forward = item :: rest) {holds : Bool}
    (same : holds = shake.holds) : Inv (answered shake rest [] holds none) := by
  have moved := (Handshake.Step.drop shake item rest next).inv inv
  simpa [answered, same] using moved

/-- A PUBREC is the first answer, for its own id only. -/
theorem acksUnder_pubrec (nonzero : id ≠ 0) (k : UInt16) :
    acksUnder k [{ bytes := ackPacket .pubrec id }] = if id = k then [.first] else [] := by
  simp only [acksUnder, List.filterMap_cons, readAck_pubrec nonzero, List.filterMap_nil, under]
  split_ifs <;> rfl

/-- A PUBCOMP is the second. -/
theorem acksUnder_pubcomp (nonzero : id ≠ 0) (k : UInt16) :
    acksUnder k [{ bytes := ackPacket .pubcomp id }] = if id = k then [.second] else [] := by
  simp only [acksUnder, List.filterMap_cons, readAck_pubcomp nonzero, List.filterMap_nil, under]
  split_ifs <;> rfl

/-- A message is put off, recognized or delivered. -/
theorem message_inv {c : Client cfg} (now : UInt32)
    {m : Message} (isPublish : header.type = .publish)
    (decoded : decodePublish header body = .ok m) (level : m.qos = .exactlyOnce)
    {shake : System Nat} (inv : Inv shake) (holds : shake.holds = decide (k ∈ c.inboundIds))
    {number position : Nat} {packet : Packet} {rest : List (Item Nat)}
    (next : shake.forward = (under k (some (m.packetId, .offer number))).toList ++ rest) :
    let reaction := c.react (.handle header body now)
    Inv (answered shake rest (acksUnder k reaction.queued)
      (decide (k ∈ reaction.client.inboundIds))
      (under k (Handled.dispatched ⟨position, ⟨packet, .message m.packetId number⟩, reaction.queued,
        reaction.callback⟩))) := by
  intro reaction
  by_cases here : m.packetId = k
  · subst here
    rw [under_self] at next
    rcases c.message_cases now isPublish decoded level with
      ⟨quiet, silent, same⟩ | ⟨nonzero, queued, ⟨known, silent, same⟩ | ⟨unknown, spoken, added⟩⟩
    · rw [quiet, silent, same]
      exact answered_dropped inv next holds.symm
    · rw [queued, silent, same, acksUnder_pubrec nonzero, if_pos rfl]
      have held : shake.holds = true := by simpa [known] using holds
      have moved := (Handshake.Step.recognize shake number rest next held).inv inv
      simpa [answered, Handled.dispatched, known, held] using moved
    · rw [queued, spoken, added, acksUnder_pubrec nonzero, if_pos rfl]
      have free : shake.holds = false := by simpa [unknown] using holds
      have moved := (Handshake.Step.deliver shake number rest next free).inv inv
      simpa [answered, Handled.dispatched] using moved
  · rw [under_other here] at next
    have elsewhere : under k (Handled.dispatched ⟨position, ⟨packet, .message m.packetId number⟩,
        reaction.queued, reaction.callback⟩) = none := by
      simp only [Handled.dispatched]
      split
      · rename_i same _
        cases same
        exact under_other here _
      · rfl
    have noAcks : acksUnder k reaction.queued = [] := by
      rcases c.message_cases now isPublish decoded level with ⟨quiet, _⟩ | ⟨nonzero, queued, _⟩
      · rw [quiet]
        rfl
      · rw [queued, acksUnder_pubrec nonzero, if_neg here]
    have sameHolds : decide (k ∈ reaction.client.inboundIds) = shake.holds := by
      rw [holds]
      rcases c.message_cases now isPublish decoded level with
        ⟨_, _, same⟩ | ⟨_, _, ⟨_, _, same⟩ | ⟨_, _, added⟩⟩
      · rw [same]
      · rw [same]
      · simp [reaction, added, Ne.symm here]
    rw [elsewhere, noAcks, ← show shake.forward = rest from next,
      answered_elsewhere shake sameHolds]
    exact inv

/-- A release is put off or answered. -/
theorem release_inv {c : Client cfg} (now : UInt32) (isPubrel : header.type = .pubrel)
    (decoded : decodePacketId body = .ok id)
    {shake : System Nat} (inv : Inv shake)
    (holds : shake.holds = decide (k ∈ c.inboundIds)) (nodup : c.inboundIds.Nodup)
    {rest : List (Item Nat)} (next : shake.forward = (under k (some (id, .release))).toList ++ rest) :
    let reaction := c.react (.handle header body now)
    Inv (answered shake rest (acksUnder k reaction.queued)
      (decide (k ∈ reaction.client.inboundIds)) none) := by
  intro reaction
  rcases c.release_cases now isPubrel decoded with ⟨quiet, same⟩ | ⟨nonzero, queued, removed⟩ <;>
    by_cases here : id = k
  · subst here
    rw [under_self] at next
    rw [quiet, same]
    exact answered_dropped inv next holds.symm
  · rw [under_other here] at next
    rw [quiet, same, ← show shake.forward = rest from next]
    exact (answered_elsewhere shake holds.symm).symm ▸ inv
  · subst here
    rw [under_self] at next
    rw [queued, removed, acksUnder_pubcomp nonzero, if_pos rfl]
    have moved := (Handshake.Step.finish shake rest next).inv inv
    simpa [answered, nodup.mem_erase_iff] using moved
  · rw [under_other here] at next
    rw [queued, removed, acksUnder_pubcomp nonzero, if_neg here,
      ← show shake.forward = rest from next]
    have kept : decide (k ∈ c.inboundIds.erase id) = shake.holds := by
      simp [holds, nodup.mem_erase_iff, Ne.symm here]
    exact (answered_elsewhere shake kept).symm ▸ inv

/-- A packet the client handles keeps every handshake. -/
theorem Sound.handle_inv (sound : net.Sound) (flows : net.Flows) {now : UInt32}
    (permitted : Permitted net.log (.handle header body now))
    (keeps : (Label.handle header body now).KeepsSession) (k : UInt16) :
    Inv ((net.clientStep (.handle header body now) down).handshake k) := by
  obtain ⟨busy, sent, rest, next, isHeader, isBody, -, -⟩ := flows.front permitted
  have inv := sound.inv k
  have errand := sound.errands sent (by simp [next])
  have forward : (net.handshake k).forward =
      (under k sent.tag.item).toList ++ itemsUnder k rest := by
    simp only [handshake, itemsUnder, next, List.filterMap_cons]
    cases under k sent.tag.item <;> rfl
  rw [handshake_handle next (net.log.state.handle_goesOn busy header body now)]
  obtain ⟨packet, tag⟩ := sent
  subst isHeader isBody
  cases tag with
  | message id number =>
    obtain ⟨isPublish, m, decoded, level, rfl⟩ := errand
    exact message_inv now isPublish decoded level inv rfl forward
  | release id =>
    obtain ⟨isPubrel, decoded⟩ := errand
    exact release_inv now isPubrel decoded inv rfl flows.history.inboundIds_nodup forward
  | other =>
    have aside : (Label.handle packet.header packet.body now).standsAside := errand
    have sameHolds : decide (k ∈ (net.log.state.react
        (.handle packet.header packet.body now)).client.inboundIds) =
        (net.handshake k).holds := by
      rw [show (net.log.state.react _).client.inboundIds = _ from sound.agrees.aside aside keeps]
      rfl
    rw [acksUnder_aside flows aside, ← show (net.handshake k).forward = itemsUnder k rest from forward]
    have kept := (answered_elsewhere (net.handshake k) sameHolds).symm ▸ inv
    exact kept

/-- Everything but handling a packet leaves a handshake alone, or ends the connection
under it. -/
theorem Sound.quiet_inv (sound : net.Sound) (flows : net.Flows)
    (notHandle : label.isHandle = false) (aside : label.standsAside) (keeps : label.KeepsSession)
    (k : UInt16) : Inv ((net.clientStep label down).handshake k) := by
  have inv := sound.inv k
  have sameIds := sound.agrees.aside aside keeps
  by_cases ended : (net.log.state.apply label).state = .idle
  · have lost : (net.clientStep label down).handshake k =
        { net.handshake k with forward := [], back := [] } := by
      rw [clientStep_of_ended ended]
      simp only [handshake, record, notHandle, Bool.false_eq_true, if_false, List.append_nil,
        Logged.perform_state, sameIds]
      rfl
    rw [lost]
    exact (Handshake.Step.lose (net.handshake k)).inv inv
  · have same : (net.clientStep label down).handshake k = net.handshake k := by
      have noAcks := acksUnder_aside flows aside k
      rw [acksUnder] at noAcks
      rw [clientStep_of_goesOn ended]
      simp only [handshake, record, notHandle, Bool.false_eq_true, if_false, List.append_nil,
        Logged.perform_state, sameIds, List.filterMap_append, List.filterMap_map]
      rw [show ((net.log.state.react label).queued.filterMap
        ((fun posted : Posted => under k (readAck posted.packet.bytes)) ∘
          fun packet => ⟨net.log.trace.length, packet⟩)) = [] from noAcks, List.append_nil]
    rwa [same]

theorem standsAside_of_not_handle (notHandle : label.isHandle = false) : label.standsAside := by
  cases label with
  | handle => cases notHandle
  | _ => trivial

/-- So does every step of the client. -/
theorem Sound.client_inv (sound : net.Sound) (flows : net.Flows)
    (permitted : Permitted net.log label) (keeps : label.KeepsSession) (k : UInt16) :
    Inv ((net.clientStep label down).handshake k) := by
  cases isHandle : label.isHandle with
  | false => exact sound.quiet_inv flows isHandle (standsAside_of_not_handle isHandle) keeps k
  | true =>
    cases label <;> simp only [Label.isHandle, Bool.false_eq_true] at isHandle
    case handle header body now => exact sound.handle_inv flows permitted keeps k

/-! ### What the client has dispatched -/

/-- What a handshake delivered is what was dispatched under its id. -/
theorem mem_delivered {number : Nat} :
    number ∈ (net.handshake k).delivered ↔
      (k, number) ∈ net.handled.filterMap Handled.dispatched := by
  simp [handshake, List.mem_filterMap, under_eq_some]

section

variable (sound : net.Sound)

include sound

/-- The record of a handled message. -/
theorem Sound.recorded (flows : net.Flows) (permitted : Permitted net.log label)
    {handled : Handled Errand} (member : handled ∈ net.record label) :
    (∀ id number, handled.dispatched = some (id, number) →
      Sending.stage net.state id = .offered number) ∧
    ∀ message, handled.acknowledged = some message →
      message ∈ net.handled.filterMap Handled.dispatched ∨ handled.dispatched = some message := by
  cases isHandle : label.isHandle with
  | false => simp [record, isHandle] at member
  | true =>
    cases label <;> simp only [Label.isHandle, Bool.false_eq_true] at isHandle
    case handle header body now =>
      obtain ⟨busy, ⟨packet, tag⟩, rest, next, isHeader, isBody, -, -⟩ := flows.front permitted
      subst isHeader isBody
      have errand := sound.errands _ (by rw [next]; exact List.mem_cons_self)
      obtain rfl : handled = _ := by simpa [record, Label.isHandle, next] using member
      cases tag with
      | release id => simp [Handled.dispatched, Handled.acknowledged]
      | other => simp [Handled.dispatched, Handled.acknowledged]
      | message id number =>
        obtain ⟨isPublish, m, decoded, level, rfl⟩ := errand
        have front : (net.handshake m.packetId).forward =
            .offer number :: itemsUnder m.packetId rest := by
          simp [handshake, itemsUnder, next, Errand.item]
        have inv := sound.inv m.packetId
        rcases @Client.message_cases _ net.log.state _ _ _ now isPublish decoded level with
          ⟨quiet, silent, _⟩ | ⟨nonzero, queued, ⟨known, silent, _⟩ | ⟨unknown, spoken, _⟩⟩
        · simp [Handled.dispatched, Handled.acknowledged, quiet, silent]
        · refine ⟨by simp [Handled.dispatched, silent], fun message acknowledged => .inl ?_⟩
          have isMessage : message = (m.packetId, number) := by
            simp only [Handled.acknowledged, Option.ite_none_right_eq_some, Option.some.injEq]
              at acknowledged
            exact acknowledged.2.symm
          rw [isMessage, ← mem_delivered]
          exact inv.arrived_of_held (by simp [front]) (by simp [handshake, known])
        · refine ⟨fun id other dispatched => ?_, fun message acknowledged => .inr ?_⟩
          · simp only [Handled.dispatched, spoken, Option.some.injEq, Prod.mk.injEq] at dispatched
            obtain ⟨rfl, rfl⟩ := dispatched
            exact (inv.deliver_fresh front (by simp [handshake, unknown])).1
          · simp only [Handled.acknowledged, Option.ite_none_right_eq_some, Option.some.injEq]
              at acknowledged
            simp only [Handled.dispatched, spoken, acknowledged.2]

/-- A client step keeps the network sound. -/
theorem Sound.client (flows : net.Flows) (permitted : Permitted net.log label)
    (keeps : label.KeepsSession) : (net.clientStep label down).Sound where
  agrees := by
    rw [log_clientStep]
    exact sound.agrees.step flows.history permitted keeps
  errands sent member := sound.errands sent (unhandled_of_clientStep member)
  inv := sound.client_inv flows permitted keeps
  offered := by
    rw [state_clientStep]
    exact sound.offered
  delivered k number member := by
    rw [state_clientStep]
    rw [mem_delivered, handled_clientStep, List.filterMap_append, List.mem_append] at member
    rcases member with old | new
    · exact sound.delivered k number (mem_delivered.mpr old)
    · obtain ⟨handled, recorded, dispatched⟩ := List.mem_filterMap.mp new
      exact sound.offered k number
        ((sound.recorded flows permitted recorded).1 k number dispatched)
  acknowledged message member := by
    rw [handled_clientStep, List.filterMap_append, List.mem_append] at member ⊢
    rcases member with old | new
    · exact .inl (sound.acknowledged message old)
    · obtain ⟨handled, recorded, acknowledged⟩ := List.mem_filterMap.mp new
      rcases (sound.recorded flows permitted recorded).2 message acknowledged with old | now
      · exact .inl old
      · exact .inr (List.mem_filterMap.mpr ⟨handled, recorded, now⟩)

/-- A move of the broker keeps everything but the handshakes, of which it is told. -/
theorem Sound.broker (up : Bytes) (untaken : List Posted)
    (errands : ∀ packet ∈ sent, packet.IsErrand)
    (inv : ∀ k, Inv ((({ net with up := up, untaken := untaken } :
      Net cfg Sending.broker).send state sent).handshake k))
    (grows : Sending.next net.state ≤ state.next)
    (offered : ∀ k number, state.stage k = .offered number → number < state.next) :
    (({ net with up := up, untaken := untaken } : Net cfg Sending.broker).send state sent).Sound where
  agrees := sound.agrees
  errands packet member := by
    rcases List.mem_append.mp member with old | new
    · exact sound.errands packet old
    · exact errands packet new
  inv := inv
  offered := offered
  delivered k number member := Nat.lt_of_lt_of_le (sound.delivered k number member) grows
  acknowledged := sound.acknowledged

/-- So does an offer of the broker. -/
theorem Sound.offers
    (offers : Sending.Offers net.state state sent) : (net.send state sent).Sound := by
  have inv := sound.offers_inv offers
  cases offers with
  | offer id sent idle offering =>
    refine sound.broker net.up net.untaken (by simp [offering.2]) inv (Nat.le_succ _)
      fun k number waiting => ?_
    by_cases here : k = id
    · subst here
      simp only [Sending.set, Function.update_self, Stage.offered.injEq] at waiting
      exact waiting ▸ Nat.lt_succ_self _
    · simp only [Sending.set, Function.update_of_ne here] at waiting
      exact Nat.lt_succ_of_lt (sound.offered k number waiting)
  | offerAgain id number sent waiting offering =>
    exact sound.broker net.up net.untaken (by simp [offering.2]) inv (Nat.le_refl _) sound.offered
  | releaseAgain id number sent waiting releasing =>
    exact sound.broker net.up net.untaken (by simp [releasing.2]) inv (Nat.le_refl _) sound.offered
  | other sent unrelated =>
    exact sound.broker net.up net.untaken (fun packet member => (unrelated packet member).2) inv
      (Nat.le_refl _) sound.offered

/-- A stage that is not an offer leaves the numbers of the others. -/
theorem Sound.offered_set {stage : Stage Nat}
    (notOffer : ∀ number, stage ≠ .offered number) (k : UInt16) (number : Nat)
    (waiting : (Sending.set net.state id stage).stage k = .offered number) :
    number < Sending.next net.state := by
  by_cases here : k = id
  · subst here
    simp only [Sending.set, Function.update_self] at waiting
    exact absurd waiting (notOffer number)
  · simp only [Sending.set, Function.update_of_ne here] at waiting
    exact sound.offered k number waiting

/-- So does an acknowledgement it takes. -/
theorem Sound.takes {posted : Posted} {rest : List Posted} {up : Bytes}
    (next : net.untaken = posted :: rest) (takes : Sending.Takes net.state posted state sent) :
    (({ net with up := up, untaken := rest } : Net cfg Sending.broker).send state sent).Sound := by
  have inv := @Sound.takes_inv _ _ _ _ sound _ _ up next takes
  cases takes with
  | accepted id number answer reads waiting releasing =>
    exact sound.broker up rest (by simp [releasing.2]) inv (Nat.le_refl _)
      (sound.offered_set (by simp))
  | acceptedAgain id number answer reads waiting releasing =>
    refine sound.broker up rest (fun packet member => ?_) inv (Nat.le_refl _) sound.offered
    rcases releasing with rfl | ⟨answer, rfl, releasing⟩
    · cases member
    · exact List.mem_singleton.mp member ▸ releasing.2
  | completed id number reads waiting =>
    exact sound.broker up rest (by simp) inv (Nat.le_refl _) (sound.offered_set (by simp))
  | ignored id round reads unexpected =>
    exact sound.broker up rest (by simp) inv (Nat.le_refl _) sound.offered
  | other answer reads unrelated =>
    exact sound.broker up rest (fun packet member => (unrelated packet member).2) inv
      (Nat.le_refl _) sound.offered

end

/-- Where the client and a broker that keeps the session come to. -/
theorem Reachable.sound {net : Net cfg Sending.broker} (reachable : net.Reachable)
    (keeps : KeepsSessions net.log.trace) : net.Sound := by
  induction reachable with
  | start =>
    exact ⟨History.tableAgrees Logged.Reaches.refl keeps, fun _ => nofun, fun k => inv_initial,
      fun _ _ => nofun, fun _ _ => nofun, fun _ => nofun⟩
  | @step net next prior step sound =>
    have flows := prior.flows
    cases step with
    | client label down permitted arrives =>
      rw [log_clientStep, Logged.perform_trace] at keeps
      exact (sound fun event member => keeps event (List.mem_append_left _ member)).client flows
        permitted (keeps ⟨net.log.state, label⟩ (by simp))
    | take posted rest up state sent live isNext arrived takes =>
      exact (sound keeps).takes isNext takes
    | offer state sent live offers => exact (sound keeps).offers offers

/-- Messages that are distinct under each packet id are distinct. -/
theorem nodup_of_under {α : Type} {messages : List (UInt16 × α)}
    (each : ∀ k, (messages.filterMap fun message => under k (some message)).Nodup) :
    messages.Nodup := by
  induction messages with
  | nil => exact List.nodup_nil
  | cons message rest ih =>
    obtain ⟨id, value⟩ := message
    refine List.nodup_cons.mpr ⟨fun again => ?_, ih fun k => ?_⟩
    · have here := each id
      rw [List.filterMap_cons, under_self, List.nodup_cons] at here
      exact here.1 (List.mem_filterMap.mpr ⟨(id, value), again, under_self id value⟩)
    · exact (each k).sublist ((List.sublist_cons_self _ _).filterMap _)

/-- A sound network delivers exactly once. -/
theorem Sound.exactlyOnce (sound : net.Sound) : ExactlyOnce net where
  once := by
    refine nodup_of_under fun k => ?_
    have same : (fun handled : Handled Errand =>
        handled.dispatched.bind fun message => under k (some message)) =
        fun handled => under k handled.dispatched := by
      funext handled
      cases handled.dispatched <;> rfl
    rw [List.filterMap_filterMap, same]
    exact (sound.inv k).once
  acknowledged := sound.acknowledged
  released id number waiting := mem_delivered.mp ((sound.inv id).arrived_of_released waiting)

end Net

/-! ## The bookkeeping and what follows from it -/

/-- The bookkeeping for one packet id. -/
structure Bookkeeping (trace : Trace cfg) (k : UInt16) : Prop where
  /-- Between two deliveries there is a release. -/
  released : ∀ (before middle after : Trace cfg) (first second : Event cfg),
    trace = before ++ first :: middle ++ second :: after →
    first.before.Delivers first.label k → second.before.Delivers second.label k →
      ∃ event ∈ middle, event.before.Releases event.label k
  /-- What is acknowledged is delivered now, or was and is not released. -/
  acknowledged : ∀ (before after : Trace cfg) (event : Event cfg)
    (header : FixedHeader) (body : Bytes) (now : UInt32), trace = before ++ event :: after →
    event.label = .handle header body now → header.type = .publish →
    { bytes := ackPacket .pubrec k } ∈ event.reaction.queued →
      event.before.Delivers event.label k ∨ (k ∈ event.before.inboundIds ∧ Owed before k)
  /-- What cannot be tracked or acknowledged is left for later. -/
  deferred : ∀ event ∈ trace, ∀ (header : FixedHeader) (body : Bytes) (now : UInt32) (m : Message),
    event.label = .handle header body now →
    header.type = .publish → event.before.state = .connected →
    decodePublish header body = .ok m → m.qos = .exactlyOnce → m.packetId = k →
    (k ∉ event.before.inboundIds ∧ event.before.inboundTableFull = true) ∨
      ¬ event.before.HasRoom 4 →
    event.reaction.callback = none ∧ event.reaction.queued = [] ∧
      event.reaction.client.inboundIds = event.before.inboundIds ∧
      event.reaction.client.tx.peek = event.before.tx.peek

/-- Every history that keeps its sessions keeps the books. -/
theorem History.bookkeeping {log : Log cfg} (history : History log)
    (keeps : KeepsSessions log.trace) (k : UInt16) : Bookkeeping log.trace k where
  released before middle after first second split delivers again := by
    have alone : ∀ before event after, log.trace = before ++ event :: after →
        event.before.Delivers event.label k → ¬ Owed before k := ?_
    · exact exists_spoils_between alone split delivers again
    intro before event after split delivers owed
    obtain ⟨earlier, reached, rfl, here, _⟩ := history.cut split
    have agrees := reached.tableAgrees fun event member =>
      keeps event (by rw [split]; exact List.mem_append_left _ member)
    rw [here] at delivers
    have member := (agrees.owed k).mpr owed
    cases earlier.state.apply_inboundEffect event.label with
    | kept _ noDelivery => exact noDelivery k delivers
    | delivered j _ isNew _ delivery => exact isNew ((delivery k).mp delivers ▸ member)
    | released _ _ noDelivery => exact noDelivery k delivers
    | discarded _ _ noDelivery => exact noDelivery k delivers
  acknowledged before after event header body now split handled isPublish queued := by
    obtain ⟨earlier, reached, rfl, here, _⟩ := history.cut split
    have agrees := reached.tableAgrees fun event member =>
      keeps event (by rw [split]; exact List.mem_append_left _ member)
    rw [Entry.reaction, handled] at queued
    rw [handled]
    rcases Client.acknowledges_cases isPublish queued with delivers | known
    · exact .inl delivers
    · exact .inr ⟨known, (agrees.owed k).mp (here ▸ known)⟩
  deferred event member header body now m handled isPublish up decoded level isId put := by
    rw [Entry.reaction, handled]
    exact Client.deferred_cases isPublish up decoded level (isId ▸ put)

/-- While no `connect()` asks for a clean session, the bookkeeping holds for every
packet id, and against a broker that keeps the session every message is delivered at
most once and none is acknowledged that was not delivered. -/
theorem inbound_exactly_once (cfg : Config) (env : Env) (application : Script)
    (keeps : KeepsSessions (World.exec cfg env application).trace) :
    (∀ k, Bookkeeping (World.exec cfg env application).trace k) ∧
      ∀ net : Net cfg Sending.broker, net.Reachable → KeepsSessions net.log.trace →
        ExactlyOnce net := by
  refine ⟨fun k => (World.exec_history cfg env application).bookkeeping keeps k, ?_⟩
  intro net reachable keeps
  exact (reachable.sound keeps).exactlyOnce

/-! ## A message that is sent again -/

theorem readAck_nonzero {bytes : Bytes} {id : UInt16} {round : Round}
    (reads : readAck bytes = some (id, round)) : id ≠ 0 := by
  unfold readAck at reads
  split at reads
  · cases reads
  · split at reads <;> cases reads <;> exact decodePacketId_nonzero (by assumption)

namespace Redelivery

/-- A QoS 2 PUBLISH with id 1. -/
def packet (dup : Bool) : Packet :=
  .of { type := .publish, dup := dup, qos := .exactlyOnce } [0, 1, 116, 0, 1]
    (by cases dup <;> decide) (by decide)

theorem decodePublish_packet : ∀ dup : Bool,
    decodePublish (packet dup).header (packet dup).body =
      .ok { topic := [116], qos := .exactlyOnce, retain := false, dup := dup, packetId := 1 } := by
  decide +kernel

def message (dup : Bool) (number : Nat) : Sent Errand := ⟨packet dup, .message 1 number⟩

theorem message_isErrand (dup : Bool) (number : Nat) : (message dup number).IsErrand :=
  ⟨rfl, _, decodePublish_packet dup, rfl, rfl⟩

def release (id : UInt16) : Sent Errand where
  packet := .of { type := .pubrel } (u16Bytes id) (by decide) (length_u16Bytes_le id)
  tag := .release id

theorem release_isErrand {id : UInt16} (nonzero : id ≠ 0) : (release id).IsErrand :=
  ⟨rfl, decodePacketId_u16Bytes nonzero⟩

/-- CONNACK, with the session if the broker has sent anything. -/
def connack (s : Sending) : Sent Errand where
  packet := .of { type := .connack } [if s.next = 0 then 0 else 1, 0] FixedHeader.sendable_connack
    (by simp [kMaxRemainingLength])
  tag := .other

/-- How the broker answers. -/
def take (s : Sending) (posted : Posted) : Sending × List (Sent Errand) :=
  match readAck posted.packet.bytes with
  | some (id, .first) =>
    match s.stage id with
    | .idle => (s, [])
    | .offered number => (s.set id (.released number), [release id])
    | .released _ => (s, [release id])
  | some (id, .second) =>
    match s.stage id with
    | .released _ => (s.set id .idle, [])
    | _ => (s, [])
  | none => (s, if posted.packet.bytes.head? = some 0x10 then [connack s] else [])

/-- It sends its message under id 1, and again until it is acknowledged. -/
def offer (_ : Unit) (s : Sending) : Sending × List (Sent Errand) :=
  match s.stage 1 with
  | .idle => ({ s.set 1 (.offered s.next) with next := s.next + 1 }, [message false s.next])
  | .offered number => (s, [message true number])
  | .released _ => (s, [release 1])

/-- The retrying broker takes as the rules allow. -/
theorem takes (s : Sending) (posted : Posted) :
    Sending.Takes s posted (take s posted).1 (take s posted).2 := by
  unfold take
  split
  · rename_i id reads
    have releasing : Sending.Releasing id (release id) :=
      ⟨rfl, release_isErrand (readAck_nonzero reads)⟩
    split
    · rename_i idle
      exact .ignored s posted id .first reads (.inl idle)
    · rename_i number waiting
      exact .accepted s posted id number _ reads waiting releasing
    · rename_i number waiting
      exact .acceptedAgain s posted id number _ reads waiting (.inr ⟨_, rfl, releasing⟩)
  · rename_i id reads
    split
    · rename_i number waiting
      exact .completed s posted id number reads waiting
    · rename_i notReleased
      refine .ignored s posted id .second reads ?_
      cases stage : s.stage id with
      | idle => exact .inl rfl
      | offered number => exact .inr ⟨number, rfl, rfl⟩
      | released number => exact absurd stage (notReleased number)
  · rename_i reads
    refine .other s posted _ reads fun packet member => ?_
    split at member
    · obtain rfl : packet = connack s := by simpa using member
      exact ⟨rfl, by simp [connack, Packet.of], by simp [connack, Packet.of]⟩
    · cases member

/-- It offers as the rules allow. -/
theorem offers (choice : Unit) (s : Sending) :
    Sending.Offers s (offer choice s).1 (offer choice s).2 := by
  unfold offer
  split
  · rename_i idle
    exact .offer s 1 _ idle ⟨rfl, message_isErrand _ _⟩
  · rename_i number waiting
    exact .offerAgain s 1 number _ waiting ⟨rfl, message_isErrand _ _⟩
  · rename_i number waiting
    exact .releaseAgain s 1 number _ waiting ⟨rfl, release_isErrand (by decide)⟩

def player : Player Sending.broker Unit := ⟨take, offer, takes, offers⟩

/-- The connection is lost before the PUBREC is sent. -/
def env : Env where
  opens := [.ok, .ok]
  sends := [(.ok, 15), (.wouldBlock, 0), (.wouldBlock, 0), (.ok, 15), (.ok, 4), (.ok, 4)]
  recvs := [(.ok, [0x20, 2, 0, 0, 0x34, 5, 0, 1, 116, 0, 1]), (.wouldBlock, []),
    (.transportClosed, []), (.ok, [0x20, 2, 1, 0, 0x3C, 5, 0, 1, 116, 0, 1]), (.wouldBlock, []),
    (.ok, [0x62, 2, 0, 1])]

def options : ConnectOptions := { clientId := [97], cleanSession := false }

def application : Script :=
  .connect options (.step (.step (.connect options (.step (.step .done)))))

def run : World .small := World.exec .small env application

/-- The client moves this many times. -/
def clients (count : Nat) : List (Turn Unit) := List.replicate count .client

/-- Who moves when. -/
def schedule : List (Turn Unit) :=
  [clients 4, [.take, .offer ()], clients 21, [.take, .offer ()], clients 11, [.take], clients 10,
    [.take]].flatten

/-- What the client and the broker come to. -/
def played : Option (Net .small Sending.broker) :=
  (Net.start .small Sending.broker).play player run.log.trace schedule

/-- Playing it to its end takes the message once. -/
theorem played_facts :
    (played.map fun net => (net.log.trace.length, net.handled.filterMap Handled.acknowledged,
      net.handled.filterMap Handled.dispatched)) = some (46, [(1, 0), (1, 0)], [(1, 0)]) := by
  decide +kernel

end Redelivery

/-- The message is delivered before the connection is lost, sent again after the
reconnect, and recognized. -/
theorem inbound_exactly_once_redelivery :
    (∀ k, Bookkeeping Redelivery.run.trace k) ∧
      ∃ net, Redelivery.played = some net ∧ ExactlyOnce net ∧
        net.handled.filterMap Handled.acknowledged = [(1, 0), (1, 0)] ∧
        net.handled.filterMap Handled.dispatched = [(1, 0)] := by
  have keeps : KeepsSessions Redelivery.run.trace := by decide +kernel
  obtain ⟨net, played, facts⟩ := Option.map_eq_some_iff.mp Redelivery.played_facts
  obtain ⟨length, acknowledged, dispatched⟩ : _ ∧ _ ∧ _ := by simpa using facts
  have follows := Net.Follows.play (World.exec_history .small Redelivery.env Redelivery.application)
    ⟨.start, _, rfl⟩ played
  obtain ⟨rest, whole⟩ := follows.within
  have keepsHere : KeepsSessions net.log.trace := fun event member =>
    keeps event (by rw [show Redelivery.run.trace = _ from whole]; exact List.mem_append_left _ member)
  refine ⟨(inbound_exactly_once .small Redelivery.env Redelivery.application keeps).1, net, played,
    ?_, acknowledged, dispatched⟩
  exact (inbound_exactly_once .small Redelivery.env Redelivery.application keeps).2 net
    follows.reachable keepsHere

end Mqtt
