import Mqtt.Session.WellNamed

/-!
# The message under a packet id

A packet id comes to stand for one message after another. The message it stands for
is the one of the last `publish()` that returned it; a slot in flight holds that
message, and what is queued for the slot is what the slot stores.
-/

namespace Mqtt

open Library Client

variable {cfg : Config} {event : Event cfg} {log : Log cfg}

/-! ## Which message it is -/

/-- The event is a `publish()` that returned this id. -/
def Library.Entry.posts (k : UInt16) (event : Event cfg) : Bool :=
  match event.label with
  | .publish _ _ qos _ _ =>
    qos ≠ .atMostOnce && event.reaction.error = .ok && event.reaction.packetId = some k
  | _ => false

theorem Library.Entry.posts_iff {k : UInt16} :
    event.posts k = true ↔ ∃ m, event.Posts m ∧ m.id = k := by
  obtain ⟨c, label⟩ := event
  constructor
  · intro posts
    cases label <;> simp only [Entry.posts, Bool.false_eq_true] at posts
    case publish topic payload qos retain now =>
      obtain ⟨⟨tracked, fine⟩, returned⟩ : (qos ≠ .atMostOnce ∧ _) ∧ _ := by simpa using posts
      exact ⟨⟨topic, payload, qos, retain, k⟩, ⟨⟨now, rfl⟩, tracked, fine, returned⟩, rfl⟩
  · rintro ⟨m, ⟨⟨now, isPublish⟩, tracked, fine, returned⟩, rfl⟩
    obtain rfl : label = .publish m.topic m.payload m.qos m.retain now := isPublish
    simp [Entry.posts, tracked, fine, returned]

theorem Library.Entry.isPublish_of_posts {k : UInt16}
    (posts : event.posts k = true) : event.label.isPublish = true := by
  obtain ⟨m, ⟨⟨now, isPublish⟩, _⟩, _⟩ := Entry.posts_iff.mp posts
  rw [isPublish]
  rfl

theorem Library.Entry.Posts.unique {m other : Posting}
    (posts : event.Posts m) (again : event.Posts other) : m = other := by
  obtain ⟨⟨now, isPublish⟩, _, _, returned⟩ := posts
  obtain ⟨⟨now', isPublish'⟩, _, _, returned'⟩ := again
  obtain ⟨topic, payload, qos, retain, id⟩ := m
  obtain ⟨topic', payload', qos', retain', id'⟩ := other
  obtain ⟨rfl, rfl, rfl, rfl, rfl⟩ : topic = topic' ∧ payload = payload' ∧ qos = qos' ∧
      retain = retain' ∧ now = now' := by simpa using isPublish.symm.trans isPublish'
  obtain rfl : id = id' := by simpa using returned.symm.trans returned'
  rfl

/-- How many messages have been given this id. -/
def issued (k : UInt16) (trace : Trace cfg) : Nat := trace.countP (·.posts k)

theorem issued_append (k : UInt16) (trace more : Trace cfg) :
    issued k (trace ++ more) = issued k trace + issued k more := List.countP_append

theorem issued_eq_zero {k : UInt16} {trace : Trace cfg} :
    issued k trace = 0 ↔ ∀ event ∈ trace, event.posts k = false := by
  simp [issued, List.countP_eq_zero]

theorem Library.Entry.Posts.issued_append {m : Posting} (posts : event.Posts m)
    (trace : Trace cfg) : issued m.id (trace ++ [event]) = issued m.id trace + 1 := by
  have counted : event.posts m.id = true := Entry.posts_iff.mpr ⟨m, posts, rfl⟩
  rw [issued, List.countP_append, List.countP_singleton, if_pos counted]
  rfl

/-- The message was the last to be given its id; what came before its `publish()`, and
what since. -/
structure Latest (trace : Trace cfg) (m : Posting) (before after : Trace cfg) : Prop where
  split : ∃ post, trace = before ++ post :: after ∧ post.Posts m
  last : ∀ event ∈ after, event.posts m.id = false

section Latest

variable {trace before after : Trace cfg} {m : Posting}

theorem Library.Entry.Posts.latest (posts : event.Posts m)
    (trace : Trace cfg) : Latest (trace ++ [event]) m trace [] :=
  ⟨⟨event, rfl, posts⟩, by simp⟩

theorem Latest.append (latest : Latest trace m before after) {more : Trace cfg}
    (others : ∀ event ∈ more, event.posts m.id = false) :
    Latest (trace ++ more) m before (after ++ more) := by
  obtain ⟨⟨post, rfl, posts⟩, last⟩ := latest
  refine ⟨⟨post, by simp, posts⟩, fun event member => ?_⟩
  rcases List.mem_append.mp member with old | new
  · exact last event old
  · exact others event new

theorem Latest.issued_pos (latest : Latest trace m before after) : 0 < issued m.id trace := by
  obtain ⟨⟨post, rfl, posts⟩, _⟩ := latest
  exact List.countP_pos_iff.mpr ⟨post, by simp, Entry.posts_iff.mpr ⟨m, posts, rfl⟩⟩

/-- The later of two publications under one id is not the last but for one reason. -/
theorem Latest.eq_of_split {m' : Posting} {before' after' between : Trace cfg}
    {post : Event cfg} (posts : post.Posts m) (same : m.id = m'.id)
    (last : ∀ event ∈ after', event.posts m'.id = false)
    {post' : Event cfg} (posts' : post'.Posts m')
    (whole : before = before' ++ between) (rest : post' :: after' = between ++ post :: after) :
    m = m' ∧ before = before' ∧ after = after' := by
  cases between with
  | nil =>
    obtain ⟨rfl, rfl⟩ : post' = post ∧ after' = after := by simpa using rest
    exact ⟨posts.unique posts', by simpa using whole, rfl⟩
  | cons first between =>
    obtain ⟨rfl, rfl⟩ : post' = first ∧ after' = between ++ post :: after := by
      simpa using rest
    have isPost : post.posts m'.id = true := Entry.posts_iff.mpr ⟨m, posts, same⟩
    simp [last post (by simp)] at isPost

theorem Latest.unique {m' : Posting} {before' after' : Trace cfg}
    (latest : Latest trace m before after) (other : Latest trace m' before' after')
    (same : m.id = m'.id) : m = m' ∧ before = before' ∧ after = after' := by
  obtain ⟨⟨post, whole, posts⟩, last⟩ := latest
  obtain ⟨⟨post', whole', posts'⟩, last'⟩ := other
  rcases List.append_eq_append_iff.mp (whole.symm.trans whole') with
    ⟨between, isBefore, rest⟩ | ⟨between, isBefore, rest⟩
  · obtain ⟨rfl, rfl, rfl⟩ := Latest.eq_of_split posts' same.symm last posts isBefore rest
    exact ⟨rfl, rfl, rfl⟩
  · exact Latest.eq_of_split posts same last' posts' isBefore rest

end Latest

/-! ## What a slot in flight holds -/

/-- A message that was the last to be given its id and has not been reported. -/
structure Underway (trace : Trace cfg) (m : Posting) (before after : Trace cfg) : Prop
    extends Latest trace m before after where
  unreported : ∀ event ∈ after, event.reaction.callback ≠ some (.onDelivery m.id)

section Step

variable {c : Client cfg} {label : Label} {index : Nat} {slot : OutboundSlot}

/-- An id in flight is not given to another message. -/
theorem posts_of_inFlight (here : c.outbound[index]? = some slot) (flies : slot.phase ≠ .free) :
    Entry.posts slot.packetId ⟨c, label⟩ = false := by
  refine Bool.eq_false_iff.mpr fun posts => ?_
  obtain ⟨m, ⟨⟨now, isPublish⟩, _, _, returned⟩, named⟩ := Entry.posts_iff.mp posts
  obtain rfl : label = .publish m.topic m.payload m.qos m.retain now := isPublish
  obtain ⟨given, nonzero⟩ := c.publish_packetId returned
  refine c.allocPacketId_unused nonzero ?_
  rw [← given, named]
  exact mem_liveIds_of_slot here flies

/-- A slot that is in flight afterwards was not reported. -/
theorem unreported_of_inFlight (ids : c.IdsApart) (sized : c.SlotsSized)
    (here : c.outbound[index]? = some slot) (flies : slot.phase ≠ .free)
    (landed : (c.apply label).InFlight index) :
    (c.react label).callback ≠ some (.onDelivery slot.packetId) := by
  intro reports
  obtain ⟨_, _, _, other, otherSlot, _, awaited, _, there, named, changed⟩ :=
    report_cases sized reports
  have otherFlies : otherSlot.phase ≠ .free := by rcases awaited with ⟨_, p⟩ | ⟨_, p⟩ <;> simp [p]
  obtain rfl : other = index := ids.slots there here otherFlies flies named
  exact not_inFlight_of_release changed (List.getElem?_eq_some_iff.mp there).1 landed

theorem Library.Entry.Posts.sound {m : Posting} (posts : Entry.Posts ⟨c, label⟩ m)
    (short : Entry.publishesShort ⟨c, label⟩ = true) : m.Sound := by
  obtain ⟨_, _, _, queued, _⟩ := posts.cases short
  obtain ⟨⟨now, isPublish⟩, _, _, returned⟩ := posts
  obtain rfl : label = .publish m.topic m.payload m.qos m.retain now := isPublish
  exact sound_of_publish (queued ▸ List.mem_singleton_self _) returned

/-- A slot that a `publish()` filled. -/
theorem posts_of_fills (sized : c.SlotsSized) (short : Entry.publishesShort ⟨c, label⟩ = true)
    (fills : Entry.Fills index ⟨c, label⟩) (there : (c.apply label).outbound[index]? = some slot) :
    ∃ m : Posting, Entry.Posts ⟨c, label⟩ m ∧ m.Sound ∧ m.In slot := by
  obtain ⟨topic, payload, qos, retain, now, _, id, rfl, _, tracked, _, _, _, queued, returned⟩ :=
    fills_cases sized fills
  have fine : (c.react (.publish topic payload qos retain now)).error = .ok :=
    publish_ok_of_queued queued
  have posts : Entry.Posts (⟨c, .publish topic payload qos retain now⟩ : Event cfg)
      ⟨topic, payload, qos, retain, id⟩ := ⟨⟨now, rfl⟩, tracked, fine, returned⟩
  refine ⟨_, posts, posts.sound short, ?_⟩
  obtain ⟨_, other, _, queued', holding⟩ := posts.cases short
  obtain rfl : index = other := by
    have same := queued.symm.trans queued'
    simp only [List.cons.injEq, Queued.mk.injEq, Option.some.injEq, and_true] at same
    exact same.1
  rw [show slot = _ from Option.some.inj (there.symm.trans holding.here)]
  exact holding.carries

end Step

/-- The slot holds the message its id stands for. -/
def Stands (trace : Trace cfg) (slot : OutboundSlot) : Prop :=
  ∃ (m : Posting) (before after : Trace cfg), Underway trace m before after ∧ m.Sound ∧ m.In slot

/-- Every slot in flight holds the message its id stands for. -/
def AllStand (log : Log cfg) : Prop :=
  ∀ (index : Nat) (slot : OutboundSlot), log.state.outbound[index]? = some slot →
    slot.phase ≠ .free → Stands log.trace slot

theorem AllStand.step (stand : AllStand log) (history : History log)
    {label : Label} (short : Entry.publishesShort ⟨log.state, label⟩ = true) :
    AllStand (log.perform Client.apply label) := by
  intro index after there flies
  have sized := history.slotsSized
  have fate := slot_cases sized there flies
  by_cases fills : Entry.Fills index ⟨log.state, label⟩
  · obtain ⟨m, posts, sound, holds⟩ := posts_of_fills sized short fills there
    exact ⟨m, _, _, ⟨posts.latest log.trace, by simp⟩, sound, holds⟩
  · obtain ⟨slot, here, flew, -⟩ := fate.inFlight flies fills
    obtain ⟨m, before, since, underway, sound, holds⟩ := stand index slot here flew
    have unposted : Entry.posts m.id ⟨log.state, label⟩ = false :=
      holds.named ▸ posts_of_inFlight here flew
    refine ⟨m, before, since ++ [⟨log.state, label⟩], ⟨?_, fun event member => ?_⟩, sound,
      carries_of_fate here holds sound.tracked fate⟩
    · exact underway.append fun event member => List.mem_singleton.mp member ▸ unposted
    · rcases List.mem_append.mp member with old | new
      · exact underway.unreported event old
      · rw [List.mem_singleton.mp new, ← holds.named]
        exact unreported_of_inFlight history.idsApart sized here flew ⟨after, there, flies⟩

theorem History.allStand (history : History log)
    (short : PublishesShort log.trace) : AllStand log := by
  refine Logged.Reaches.invariant_of (fun event : Event cfg => event.publishesShort = true) AllStand
    (fun log label prior _ short stand => stand.step prior short) history rfl short ?_
  intro index slot here flies
  obtain rfl := List.eq_of_mem_replicate (List.mem_of_getElem? here)
  exact absurd rfl flies

/-! ## What is queued -/

/-- What is queued for a slot is what the slot then stores. -/
theorem stored_of_tracked {c : Client cfg} (sized : c.SlotsSized)
    {label : Label} (short : Entry.publishesShort ⟨c, label⟩ = true) {packet : Queued}
    (member : packet ∈ (c.react label).queued) {index : Nat} (tagged : packet.slot = some index) :
    ∃ after, (c.apply label).outbound[index]? = some after ∧ after.phase ≠ .free ∧
      packet.bytes = after.stored := by
  have within : ∀ {slot}, c.outbound[index]? = some slot → index < c.outbound.length :=
    fun here => (List.getElem?_eq_some_iff.mp here).1
  cases c.apply_outboundEffect sized label with
  | kept aloof => simp [aloof.untracked packet member] at tagged
  | scribbled _ _ _ _ _ _ _ quiet => simp [quiet] at member
  | filled topic payload qos retain now other slot id bytes isPublish _ tracked _ here _ _ _ isPacket
      fits changed queued =>
    subst isPublish isPacket
    have short := length_of_publishesShort short tracked (publish_ok_of_queued queued) id
    rw [queued, List.mem_singleton] at member
    obtain rfl : other = index := by simpa [member] using tagged
    refine ⟨_, by rw [changed, List.getElem?_set_self (within here)], ?_, ?_⟩
    · simp only [filledSlot]
      split <;> simp
    · rw [member, stored_filledSlot short]
  | advanced _ _ now id other slot _ _ _ here _ _ outcome =>
    rcases outcome with ⟨_, changed, queued⟩ | ⟨_, _, quiet⟩
    · rw [queued, List.mem_singleton] at member
      obtain rfl : other = index := by simpa [member] using tagged
      refine ⟨_, by rw [changed, List.getElem?_set_self (within here)], by simp [pubrelSlot], ?_⟩
      rw [member]
      exact (stored_pubrelSlot slot id).symm
    · simp [quiet] at member
  | repeated _ _ now _ other slot _ _ _ here _ waiting outcome =>
    rcases outcome with ⟨_, changed, queued⟩ | ⟨_, _, quiet⟩
    · rw [queued, List.mem_singleton] at member
      obtain rfl : other = index := by simpa [member] using tagged
      exact ⟨_, by rw [changed, List.getElem?_set_self (within here)], by simp [waiting],
        by rw [member]; rfl⟩
    · simp [quiet] at member
  | completed _ _ _ _ _ _ _ _ _ _ _ _ quiet => simp [quiet] at member
  | passed now _ pass =>
    obtain ⟨other, slot, _, here, due, rfl, stamped⟩ := pass.due packet member
    obtain rfl : other = index := by simpa [copyOf] using tagged
    exact ⟨_, stamped, by simpa using phase_of_due due, rfl⟩
  | discarded _ _ untracked => simp [untracked packet member] at tagged

/-- What other packets lead with is no message and no release. -/
theorem readMail_of_leads {type : PacketType} {bytes : Bytes} (leads : Leads type bytes)
    (notPublish : type ≠ .publish) (notPubrel : type ≠ .pubrel) : readMail bytes = none := by
  unfold readMail
  cases isPacket : readPacket bytes with
  | none => rfl
  | some packet =>
    obtain ⟨header, body⟩ := packet
    obtain rfl : header.type = type := leads.readPacket_type isPacket
    simp only

/-- What is queued for no slot is no tracked message and no release of one. -/
theorem History.readMail_untracked (history : History log)
    {label : Label} {packet : Queued} (member : packet ∈ (log.state.react label).queued)
    (untracked : packet.slot = none) : readMail packet.bytes = none := by
  obtain ⟨type, isType, leads⟩ := history.queued_leads member
  cases label with
  | publish topic payload qos retain now =>
    rcases log.state.publish_cases topic payload qos retain now with
      ⟨_, _, _, _, _, _, _, same⟩ | ⟨_, rfl, ⟨_, fits⟩, _, _, same⟩ |
        ⟨_, _, _, _, _, _, _, _, _, _, _, _, _, _, _, _, _, same⟩
    · simp [react, same, refuse] at member
    · obtain rfl : packet = _ := by simpa [react, same] using member
      exact readMail_publishPacket_untracked fits _ _ _
    · obtain rfl : packet = _ := by simpa [react, same] using member
      cases untracked
  | retransmit now =>
    obtain ⟨_, _, _, _, same, _, pass⟩ := log.state.pumpRetransmit_cases now
    rw [show log.state.react (.retransmit now) = _ from same] at member
    obtain ⟨_, _, _, _, _, rfl, _⟩ := pass.due packet member
    cases untracked
  | handle header body now =>
    obtain ⟨reaction, handled, outcome⟩ := log.state.handlePacket_cases header body now
    rw [show log.state.react (.handle header body now) = reaction from handled] at member
    cases outcome with
    | acknowledged | recorded | recognized | released =>
      rw [List.mem_singleton.mp member]
      exact readMail_of_leads (leads_ackPacket _ _) (by simp) (by simp)
    | advanced | repeated =>
      rw [List.mem_singleton.mp member] at untracked
      cases untracked
    | _ => cases member
  | _ =>
    refine readMail_of_leads leads ?_ ?_ <;> rintro rfl <;> simp [Label.queues] at isType

/-- What a slot that holds a message stores. -/
theorem readMail_stored {m : Posting} (sound : m.Sound) {slot : OutboundSlot} (holds : m.In slot) :
    (slot.phase = firstPhase m.qos ∧ (∃ dup, slot.stored = m.packet dup) ∧
        readMail slot.stored = some (m.id, .message m.qos m.topic m.payload)) ∨
      (slot.phase = .waitPubcomp ∧ readMail slot.stored = some (m.id, .release)) := by
  have tracked : m.qos ≠ .atMostOnce := by rcases sound.tracked with level | level <;> simp [level]
  cases holds with
  | publish dup _ _ phase stored =>
    obtain ⟨size, isSize⟩ := sound.sized
    refine .inl ⟨phase, ⟨dup, stored⟩, ?_⟩
    rw [stored]
    exact readMail_publishPacket isSize tracked _ _ sound.named
  | pubrel _ _ phase _ stored =>
    refine .inr ⟨phase, ?_⟩
    rw [stored]
    exact readMail_pubrel sound.named

/-- A tracked message or a release that is queued is what a slot in flight stores. -/
theorem History.mail_cases (history : History log)
    {label : Label} (short : PublishesShort (log.trace ++ [⟨log.state, label⟩])) {packet : Queued}
    (member : packet ∈ (log.state.react label).queued) :
    readMail packet.bytes = none ∨ ∃ (index : Nat) (after : OutboundSlot),
      (log.state.apply label).outbound[index]? = some after ∧ after.phase ≠ .free ∧
        packet.bytes = after.stored ∧ Stands (log.trace ++ [⟨log.state, label⟩]) after := by
  cases tagged : packet.slot with
  | none => exact .inl (history.readMail_untracked member tagged)
  | some index =>
    have last := short _ (List.mem_append_right _ (List.mem_singleton_self _))
    obtain ⟨after, there, flies, isStored⟩ :=
      stored_of_tracked history.slotsSized last member tagged
    have stand := history.allStand fun event member =>
      short event (List.mem_append_left _ member)
    exact .inr ⟨index, after, there, flies, isStored,
      stand.step history last index after there flies⟩

end Mqtt
