import Mqtt.Library.Courier
import Mqtt.Net.Link
import Mqtt.Session.Postings

/-!
# A broker that receives messages

A broker that keeps the session takes the client's packets in the order in which they
arrive. It accepts every QoS 1 PUBLISH and answers it with PUBACK. A QoS 2 PUBLISH it
accepts unless it holds the packet id, which it does from then until the PUBREL. It may
send anything else at any time. Here is the broker, and what each of its
acknowledgements makes of the client.
-/

namespace Mqtt

open Library Library.Courier

/-- The kind of acknowledgement for a message of the client. -/
def PacketType.receipt : PacketType → Option Receipt
  | .puback => some .note
  | .pubrec => some (.round .first)
  | .pubcomp => some (.round .second)
  | _ => none

/-- The packet id and kind of an acknowledgement for a message of the client. -/
def readReceipt (header : FixedHeader) (body : Bytes) : Option (UInt16 × Receipt) :=
  match header.type.receipt, decodePacketId body with
  | some receipt, .ok id => some (id, receipt)
  | _, _ => none

def Sent.receipt (sent : Sent Unit) : Option (UInt16 × Receipt) :=
  readReceipt sent.packet.header sent.packet.body

/-- The broker's side of the session: the ids it holds, and the packets whose messages
it accepted. -/
structure Receiving where
  holds : List UInt16
  accepted : List Posted

namespace Receiving

/-- Anything but an acknowledgement. -/
def Unrelated (sent : List (Sent Unit)) : Prop := ∀ packet ∈ sent, packet.receipt = none

/-- How it takes a packet. -/
inductive Takes : Receiving → Posted → Receiving → List (Sent Unit) → Prop where
  | record (s : Receiving) (posted : Posted) (id : UInt16) (topic payload : Bytes)
      (answer : Sent Unit)
      (reads : readMail posted.packet.bytes = some (id, .message .atLeastOnce topic payload))
      (acknowledges : answer.receipt = some (id, .note)) :
      Takes s posted { s with accepted := s.accepted ++ [posted] } [answer]
  | deliver (s : Receiving) (posted : Posted) (id : UInt16) (topic payload : Bytes)
      (answer : Sent Unit)
      (reads : readMail posted.packet.bytes = some (id, .message .exactlyOnce topic payload))
      (unknown : id ∉ s.holds) (acknowledges : answer.receipt = some (id, .round .first)) :
      Takes s posted ⟨id :: s.holds, s.accepted ++ [posted]⟩ [answer]
  | recognize (s : Receiving) (posted : Posted) (id : UInt16) (topic payload : Bytes)
      (answer : Sent Unit)
      (reads : readMail posted.packet.bytes = some (id, .message .exactlyOnce topic payload))
      (known : id ∈ s.holds) (acknowledges : answer.receipt = some (id, .round .first)) :
      Takes s posted s [answer]
  | finish (s : Receiving) (posted : Posted) (id : UInt16) (answer : Sent Unit)
      (reads : readMail posted.packet.bytes = some (id, .release))
      (acknowledges : answer.receipt = some (id, .round .second)) :
      Takes s posted { s with holds := s.holds.filter (· ≠ id) } [answer]
  | other (s : Receiving) (posted : Posted) (answer : List (Sent Unit))
      (reads : readMail posted.packet.bytes = none) (unrelated : Unrelated answer) :
      Takes s posted s answer

/-- A broker that keeps the session. -/
def broker : Broker Unit where
  State := Receiving
  initial := ⟨[], []⟩
  Takes := Takes
  Offers before after sent := after = before ∧ Unrelated sent

end Receiving

/-- Every message or release that can be read is of one of these kinds. -/
theorem readMail_cases {bytes : Bytes} {id : UInt16} {mail : Mail}
    (reads : readMail bytes = some (id, mail)) :
    id ≠ 0 ∧ (mail = .release ∨
      ∃ topic payload, mail = .message .atLeastOnce topic payload ∨
        mail = .message .exactlyOnce topic payload) := by
  unfold readMail at reads
  split at reads
  · cases reads
  · rename_i header body isPacket
    split at reads
    · rename_i isPublish
      split at reads
      · cases reads
      · rename_i m decoded
        split_ifs at reads with untracked
        cases reads
        obtain ⟨sameLevel, identified⟩ := decodePublish_ok decoded
        refine ⟨identified untracked, .inr ⟨m.topic, m.payload, ?_⟩⟩
        have sendable := readPacket_sendable isPacket
        simp only [FixedHeader.Sendable, isPublish, if_true, ← sameLevel] at sendable
        rcases tracked_cases untracked sendable.2 with level | level
        · exact .inl (by rw [level])
        · exact .inr (by rw [level])
    · split at reads
      · cases reads
      · cases reads
        exact ⟨decodePacketId_nonzero (by assumption), .inl rfl⟩
    · cases reads

variable {cfg : Config}

/-! ## The client under one packet id -/

/-- What a slot in this phase says of the message its id stands for. -/
def Phase.stage (number : Nat) : Phase → Stage Nat
  | .free => .idle
  | .waitPuback => .noted number
  | .waitPubrec => .offered number
  | .waitPubcomp => .released number

/-- The acknowledgement a label hands to its handler. -/
def Label.receipt : Label → Option (UInt16 × Receipt)
  | .handle header body _ => readReceipt header body
  | _ => none

theorem Label.receipt_handle {header : FixedHeader} {body : Bytes} (now : UInt32) {id : UInt16}
    {receipt : Receipt} (isReceipt : header.type.receipt = some receipt)
    (decoded : decodePacketId body = .ok id) :
    (Label.handle header body now).receipt = some (id, receipt) := by
  simp only [Label.receipt, readReceipt, isReceipt, decoded]

theorem Label.receipt_eq_some {label : Label} {id : UInt16} {receipt : Receipt}
    (heard : label.receipt = some (id, receipt)) :
    ∃ header body now, label = .handle header body now ∧ decodePacketId body = .ok id ∧
      ((header.type = .puback ∧ receipt = .note) ∨
        (header.type = .pubrec ∧ receipt = .round .first) ∨
          (header.type = .pubcomp ∧ receipt = .round .second)) := by
  cases label <;> simp only [Label.receipt, reduceCtorEq] at heard
  case handle header body now =>
    refine ⟨header, body, now, rfl, ?_⟩
    unfold readReceipt at heard
    split at heard
    · rename_i decoded isKind
      cases heard
      refine ⟨isKind, ?_⟩
      cases type : header.type <;> simp_all [PacketType.receipt]
    · cases heard

namespace Client

variable (c : Client cfg)

/-- The phase of the message in flight under the id. -/
def phaseOf (k : UInt16) : Phase :=
  match c.findOutbound k with
  | none => .free
  | some index => (c.slotAt index).phase

variable {c} {label : Label} {index : Nat} {slot : OutboundSlot} {k : UInt16}

theorem IdsApart.phaseOf (ids : c.IdsApart) (here : c.outbound[index]? = some slot)
    (flies : slot.phase ≠ .free) : c.phaseOf slot.packetId = slot.phase := by
  simp only [Client.phaseOf, ids.findOutbound here flies, slotAt_of_getElem? here]

/-- The slot in flight under the id, if there is one. -/
theorem phaseOf_cases (c : Client cfg) (k : UInt16) :
    (c.findOutbound k = none ∧ c.phaseOf k = .free) ∨
    ∃ (index : Nat) (slot : OutboundSlot), c.findOutbound k = some index ∧
      c.outbound[index]? = some slot ∧ c.slotAt index = slot ∧ slot.phase ≠ .free ∧
      slot.packetId = k ∧ c.phaseOf k = slot.phase := by
  cases found : c.findOutbound k with
  | none => exact .inl ⟨rfl, by simp [phaseOf, found]⟩
  | some index =>
    obtain ⟨slot, here, stored, flies, named⟩ := findOutbound_some found
    exact .inr ⟨index, slot, rfl, here, stored, flies, named, by simp [phaseOf, found, stored]⟩

theorem phaseOf_initial (cfg : Config) (k : UInt16) : (Client.initial cfg).phaseOf k = .free := by
  rcases (Client.initial cfg).phaseOf_cases k with ⟨_, isFree⟩ | ⟨_, slot, _, here, _, flies, _⟩
  · exact isFree
  · obtain rfl := List.eq_of_mem_replicate (List.mem_of_getElem? here)
    exact absurd rfl flies

/-- The label does not discard a message in flight. -/
def Spares (c : Client cfg) (label : Label) : Prop := c.Discards label → ∀ index, ¬ c.InFlight index

/-- A slot in flight that is not acknowledged stays as it is. -/
theorem survives (sized : c.SlotsSized) (spares : c.Spares label)
    (here : c.outbound[index]? = some slot) (flies : slot.phase ≠ .free)
    (unheard : under slot.packetId label.receipt = none) :
    ∃ after, (c.apply label).outbound[index]? = some after ∧
      after.packetId = slot.packetId ∧ after.phase = slot.phase := by
  have aside : ∀ {other : Nat} {new : OutboundSlot}, other ≠ index →
      (c.apply label).outbound = c.outbound.set other new →
      ∃ after, (c.apply label).outbound[index]? = some after ∧
        after.packetId = slot.packetId ∧ after.phase = slot.phase := by
    intro other new different changed
    exact ⟨slot, by rw [changed, List.getElem?_set_ne different, here], rfl, rfl⟩
  have same : ∀ {other}, c.outbound[index]? = some other → other = slot :=
    fun there => Option.some.inj (there.symm.trans here)
  -- The slot an acknowledgement names is another one.
  have elsewhere : ∀ {other : Nat} {otherSlot : OutboundSlot} {receipt : Receipt},
      label.receipt = some (otherSlot.packetId, receipt) →
      c.outbound[other]? = some otherSlot → other ≠ index := by
    rintro other otherSlot receipt heard there rfl
    rw [← same there, heard, under_self] at unheard
    cases unheard
  cases c.apply_outboundEffect sized label with
  | kept aloof => exact ⟨slot, by rw [apply, aloof.same, here], rfl, rfl⟩
  | scribbled other otherSlot _ there isFree _ changed =>
    refine aside ?_ changed
    rintro rfl
    exact flies (same there ▸ isFree)
  | filled _ _ _ _ _ other _ _ _ _ _ _ _ there isFree _ _ _ _ changed =>
    refine aside ?_ changed
    rintro rfl
    exact flies (same there ▸ isFree)
  | advanced header body now id other otherSlot isHandle isPubrec decoded there named _ outcome =>
    have heard := Label.receipt_handle now (congrArg PacketType.receipt isPubrec) decoded
    have different := elsewhere (isHandle ▸ named ▸ heard) there
    rcases outcome with ⟨_, changed, _⟩ | ⟨_, changed, _⟩ <;> exact aside different changed
  | repeated header body now id other otherSlot isHandle isPubrec decoded there named _ outcome =>
    have heard := Label.receipt_handle now (congrArg PacketType.receipt isPubrec) decoded
    have different := elsewhere (isHandle ▸ named ▸ heard) there
    rcases outcome with ⟨_, changed, _⟩ | ⟨_, changed, _⟩
    · exact aside different changed
    · exact ⟨slot, by rw [changed, here], rfl, rfl⟩
  | completed header body now id other otherSlot isHandle awaited decoded there named changed =>
    refine aside ?_ changed
    rcases awaited with ⟨type, _⟩ | ⟨type, _⟩ <;>
    · have heard := Label.receipt_handle now (congrArg PacketType.receipt type) decoded
      exact elsewhere (isHandle ▸ named ▸ heard) there
  | passed now _ pass =>
    obtain ⟨refreshed, there, outcome⟩ := pass.slots index slot here
    refine ⟨refreshed, there, ?_⟩
    rcases outcome with rfl | ⟨_, _, rfl | ⟨rfl, _⟩⟩ <;> simp
  | discarded discards => exact absurd ⟨slot, here, flies⟩ (spares discards index)

/-- A label that neither acknowledges the id nor gives it out leaves its phase alone. -/
theorem phaseOf_aside (ids : c.IdsApart) (sized : c.SlotsSized)
    (short : Entry.publishesShort ⟨c, label⟩ = true) (spares : c.Spares label)
    (unheard : under k label.receipt = none) (unposted : Entry.posts k ⟨c, label⟩ = false) :
    (c.apply label).phaseOf k = c.phaseOf k := by
  have ids' := ids.step sized label
  rcases c.phaseOf_cases k with ⟨absent, isFree⟩ | ⟨index, slot, _, here, _, flies, rfl, isPhase⟩
  · rw [isFree]
    rcases (c.apply label).phaseOf_cases k with
      ⟨_, isFree'⟩ | ⟨index, after, _, there, _, flies, rfl, _⟩
    · exact isFree'
    · have fate := slot_cases sized there flies
      by_cases fills : Entry.Fills index ⟨c, label⟩
      · obtain ⟨m, posts, _, holds⟩ := posts_of_fills sized short fills there
        have isPost : Entry.posts after.packetId ⟨c, label⟩ = true :=
          Entry.posts_iff.mpr ⟨m, posts, holds.named.symm⟩
        simp [isPost] at unposted
      · obtain ⟨slot, here, flew, same⟩ := fate.inFlight flies fills
        simp [← same, ids.findOutbound here flew] at absent
  · obtain ⟨after, there, sameId, samePhase⟩ := survives sized spares here flies unheard
    rw [isPhase, ← sameId, ids'.phaseOf there (samePhase ▸ flies), samePhase]

/-- A slot that is released takes its id out of flight. -/
theorem phaseOf_of_release (ids : c.IdsApart) (here : c.outbound[index]? = some slot)
    (flies : slot.phase ≠ .free) {c' : Client cfg}
    (changed : c'.outbound = c.outbound.set index slot.release) :
    c'.phaseOf slot.packetId = .free := by
  rcases c'.phaseOf_cases slot.packetId with
    ⟨_, isFree⟩ | ⟨other, after, _, there, _, flies', named, _⟩
  · exact isFree
  · rw [changed] at there
    rcases getElem?_set_cases there with ⟨_, rfl⟩ | ⟨different, was⟩
    · exact absurd rfl flies'
    · exact absurd (ids.slots here was flies flies' named.symm) different

/-- The last acknowledgement takes the id out of flight if it is waited for. -/
theorem phaseOf_completeDelivery (ids : c.IdsApart) {body : Bytes}
    (decoded : decodePacketId body = .ok k) (awaited : Phase) :
    (c.completeDelivery body awaited).client.phaseOf k =
      if c.phaseOf k = awaited then .free else c.phaseOf k := by
  rcases c.phaseOf_cases k with
    ⟨absent, isFree⟩ | ⟨index, slot, found, here, stored, flies, rfl, isPhase⟩
  · simp [completeDelivery, decoded, absent, isFree]
  · rw [isPhase]
    split
    · rename_i waits
      refine phaseOf_of_release ids here flies ?_
      simp [completeDelivery, decoded, found, stored, waits, setSlot]
    · rename_i waits
      simp [completeDelivery, decoded, found, stored, waits, isPhase]

/-- Sending a slot's PUBREL leaves its id and phase alone. -/
theorem phaseOf_sendPubrel {now : UInt32} (ids' : (c.sendPubrel index now).client.IdsApart)
    (here : c.outbound[index]? = some slot) (flies : slot.phase ≠ .free) :
    (c.sendPubrel index now).client.phaseOf slot.packetId = slot.phase := by
  have stored := slotAt_of_getElem? here
  obtain ⟨after, there, named, phase⟩ : ∃ after,
      (c.sendPubrel index now).client.outbound[index]? = some after ∧
        after.packetId = slot.packetId ∧ after.phase = slot.phase := by
    rcases c.sendPubrel_cases index now with ⟨_, _, _, sent⟩ | ⟨_, _, _, sent⟩
    · rw [sent, stored]
      exact ⟨_, List.getElem?_set_self (List.getElem?_eq_some_iff.mp here).1, rfl, rfl⟩
    · rw [sent]
      exact ⟨slot, here, rfl, rfl⟩
  rw [← named, ids'.phaseOf there (phase ▸ flies), phase]

/-- PUBREC moves a message that waits for it on to its release. -/
theorem phaseOf_handlePubrec (ids : c.IdsApart) (sized : c.SlotsSized) {header : FixedHeader}
    {body : Bytes} {now : UInt32} (isPubrec : header.type = .pubrec)
    (decoded : decodePacketId body = .ok k) :
    (c.apply (.handle header body now)).phaseOf k =
      if c.phaseOf k = .waitPubrec then .waitPubcomp else c.phaseOf k := by
  have ids' := ids.step sized (.handle header body now)
  have handled : c.react (.handle header body now) = c.handlePubrec body now := by
    simp [react, handlePacket, isPubrec]
  rw [apply, handled] at ids' ⊢
  rcases c.phaseOf_cases k with
    ⟨absent, isFree⟩ | ⟨index, slot, found, here, stored, flies, rfl, isPhase⟩
  · simp [handlePubrec, decoded, absent, isFree]
  · rw [isPhase]
    cases phase : slot.phase with
    | free => exact absurd phase flies
    | waitPuback => simp [handlePubrec, decoded, found, stored, phase, isPhase]
    | waitPubrec =>
      have first := c.handlePubrec_first now decoded found (by rw [stored, phase])
        (by rw [stored]; exact sized.four_le here)
      rw [first, stored] at ids' ⊢
      have moved : (c.setSlot index (pubrelSlot slot slot.packetId)).outbound[index]? =
          some (pubrelSlot slot slot.packetId) :=
        List.getElem?_set_self (List.getElem?_eq_some_iff.mp here).1
      exact phaseOf_sendPubrel ids' moved (by simp [pubrelSlot])
    | waitPubcomp =>
      have again : c.handlePubrec body now = c.sendPubrel index now := by
        simp [handlePubrec, decoded, found, stored, phase]
      rw [again] at ids' ⊢
      exact (phaseOf_sendPubrel ids' here flies).trans phase

/-- An acknowledgement the message waits for moves it on, and any other does not. -/
theorem phaseOf_heard (ids : c.IdsApart) (sized : c.SlotsSized) {receipt : Receipt}
    (heard : label.receipt = some (k, receipt)) (number : Nat) :
    ((c.apply label).phaseOf k).stage number = ((c.phaseOf k).stage number).hear receipt := by
  obtain ⟨header, body, now, rfl, decoded, kind⟩ := Label.receipt_eq_some heard
  rcases kind with ⟨type, rfl⟩ | ⟨type, rfl⟩ | ⟨type, rfl⟩
  · have handled : c.apply (.handle header body now) =
        (c.completeDelivery body .waitPuback).client := by
      simp [apply, react, handlePacket, type, handlePuback]
    rw [handled, phaseOf_completeDelivery ids decoded]
    cases c.phaseOf k <;> rfl
  · rw [phaseOf_handlePubrec ids sized type decoded]
    cases c.phaseOf k <;> rfl
  · have handled : c.apply (.handle header body now) =
        (c.completeDelivery body .waitPubcomp).client := by
      simp [apply, react, handlePacket, type, handlePubcomp]
    rw [handled, phaseOf_completeDelivery ids decoded]
    cases c.phaseOf k <;> rfl

/-- A `publish()` takes an id that is not in flight, and its message starts to wait. -/
theorem phaseOf_posts (ids : c.IdsApart) (sized : c.SlotsSized)
    (short : Entry.publishesShort ⟨c, label⟩ = true) {m : Posting}
    (posts : Entry.Posts ⟨c, label⟩ m) :
    c.phaseOf m.id = .free ∧ (c.apply label).phaseOf m.id = firstPhase m.qos := by
  constructor
  · rcases c.phaseOf_cases m.id with ⟨_, isFree⟩ | ⟨_, slot, _, here, _, flies, named, _⟩
    · exact isFree
    · have isPost : Entry.posts slot.packetId ⟨c, label⟩ = true :=
        Entry.posts_iff.mpr ⟨m, posts, named.symm⟩
      simp [posts_of_inFlight here flies] at isPost
  · obtain ⟨_, index, slot, _, holding⟩ := posts.cases short
    have phase := (ids.step sized label).phaseOf holding.here holding.carries.inFlight
    rw [holding.carries.named] at phase
    rw [phase]
    cases holding.carries with
    | publish _ _ _ waits => exact waits
    | pubrel _ _ waits => simpa [Received] using (holding.moved.mp waits).2

end Client

/-! ## Sessions that are kept -/

/-- While sessions are kept, none is marked clean with a message in flight. -/
theorem History.none_inFlight {log : Log cfg} (history : History log)
    (keeps : KeepsSessions log.trace) (clean : log.state.cleanSession = true) (index : Nat) :
    ¬ log.state.InFlight index := by
  revert index
  refine Logged.Reaches.invariant_of
    (fun event : Event cfg => event.label.KeepsSession)
    (fun log => TableAgrees log ∧
      (log.state.cleanSession = true → ∀ index, ¬ log.state.InFlight index))
    (fun log label prior permitted keeps inv => ?_) history rfl keeps ?_ |>.2 clean
  · obtain ⟨agrees, none⟩ := inv
    refine ⟨agrees.step prior permitted keeps, fun clean index inFlight => ?_⟩
    have was : log.state.cleanSession = true := by
      rcases log.state.apply_cleanSession label with same | ⟨opts, now, isConnect, same⟩
      · exact same ▸ clean
      · exact absurd clean (by simp [same, keeps opts now isConnect])
    obtain ⟨after, there, flies⟩ := inFlight
    by_cases fills : Entry.Fills index ⟨log.state, label⟩
    · obtain ⟨_, _, _, _, _, _, _, _, up, _⟩ := fills_cases (History.slotsSized prior) fills
      simp [(agrees.clean was).1] at up
    · obtain ⟨slot, here, flew, _⟩ :=
        (Client.slot_cases (History.slotsSized prior) there flies).inFlight flies fills
      exact none was index ⟨slot, here, flew⟩
  · refine ⟨History.tableAgrees Logged.Reaches.refl (by simp [KeepsSessions]),
      fun _ index inFlight => ?_⟩
    obtain ⟨slot, here, flies⟩ := inFlight
    obtain rfl := List.eq_of_mem_replicate (List.mem_of_getElem? here)
    exact flies rfl

theorem History.spares {log : Log cfg} (history : History log) (keeps : KeepsSessions log.trace)
    {label : Label} (kept : label.KeepsSession) : log.state.Spares label := by
  rintro (⟨opts, now, isConnect, clean⟩ | ⟨clean, -⟩)
  · simp [kept opts now isConnect] at clean
  · exact history.none_inFlight keeps clean

end Mqtt
