import Mqtt.Client.CallEffects

/-!
# What a timer does

One statement per timer of a pass, naming every case with its condition and the
whole resulting reaction. The retransmission loop has a step lemma for one slot
and a run lemma for the whole table.
-/

namespace Mqtt

variable {cfg : Config} {forced : Bool} {now : UInt32}

/-! ## One slot -/

theorem phase_of_due {slot : OutboundSlot}
    (due : Client.retransmitDue cfg forced now slot = true) : slot.phase ≠ .free := by
  simp only [Client.retransmitDue, Bool.and_eq_true, decide_eq_true_eq] at due
  exact due.1

theorem markDup_cases (slot : OutboundSlot) :
    slot.markDup = slot ∨ ∃ first rest, slot.packetLen ≠ 0 ∧ slot.packet = first :: rest ∧
      (first >>> 4) &&& 0x0F = PacketType.publish.toNibble ∧
      slot.markDup = { slot with packet := (first ||| 0x08) :: rest } := by
  unfold OutboundSlot.markDup
  split
  · exact .inl rfl
  · split
    · exact .inl rfl
    · rename_i filled _ first rest isPacket
      split
      · rename_i isPublish
        exact .inr ⟨first, rest, filled, isPacket, isPublish, rfl⟩
      · exact .inl rfl

theorem length_markDup (slot : OutboundSlot) : slot.markDup.packet.length = slot.packet.length := by
  rcases markDup_cases slot with same | ⟨first, rest, _, isPacket, _, same⟩
  · rw [same]
  · simp [same, isPacket]

@[simp] theorem packetId_markDup (slot : OutboundSlot) : slot.markDup.packetId = slot.packetId := by
  rcases markDup_cases slot with same | ⟨first, rest, _, _, _, same⟩ <;> rw [same]

@[simp] theorem phase_markDup (slot : OutboundSlot) : slot.markDup.phase = slot.phase := by
  rcases markDup_cases slot with same | ⟨first, rest, _, _, _, same⟩ <;> rw [same]

@[simp] theorem lastSentMs_markDup (slot : OutboundSlot) :
    slot.markDup.lastSentMs = slot.lastSentMs := by
  rcases markDup_cases slot with same | ⟨first, rest, _, _, _, same⟩ <;> rw [same]

@[simp] theorem packetLen_markDup (slot : OutboundSlot) :
    slot.markDup.packetLen = slot.packetLen := by
  rcases markDup_cases slot with same | ⟨first, rest, _, _, _, same⟩ <;> rw [same]

namespace Client

variable (c : Client cfg)

/-- A PINGREQ is due: the timer runs, none is outstanding, and the transport has
accepted nothing for the threshold. -/
def PingDue (now : UInt32) : Prop :=
  c.keepAliveMs ≠ 0 ∧ c.pingOutstanding = false ∧
    ¬ elapsedMs now c.lastSentMs < c.keepAliveMs - c.keepAliveMs / 4

instance (now : UInt32) : Decidable (c.PingDue now) := inferInstanceAs (Decidable (_ ∧ _ ∧ _))

/-- Everything the keep-alive timer can do. -/
inductive KeepAliveOutcome (c : Client cfg) (now : UInt32) : Reaction cfg → Prop where
  | off (disabled : c.keepAliveMs = 0) : KeepAliveOutcome c now { client := c }
  | expired (enabled : c.keepAliveMs ≠ 0) (waiting : c.pingOutstanding = true)
      (late : elapsedMs now c.pingSentMs > c.keepAliveMs) :
      KeepAliveOutcome c now { error := .keepAliveTimeout, readClock := true, client := c }
  | waits (enabled : c.keepAliveMs ≠ 0) (waiting : c.pingOutstanding = true)
      (intime : ¬ elapsedMs now c.pingSentMs > c.keepAliveMs) :
      KeepAliveOutcome c now { readClock := true, client := c }
  | rests (enabled : c.keepAliveMs ≠ 0) (idle : c.pingOutstanding = false)
      (recent : elapsedMs now c.lastSentMs < c.keepAliveMs - c.keepAliveMs / 4) :
      KeepAliveOutcome c now { readClock := true, client := c }
  | pings (tx : TxQueue cfg.txBufferSize) (due : c.PingDue now) (room : c.HasRoom 2)
      (peek : tx.peek = c.tx.peek ++ emptyPacket .pingreq) :
      KeepAliveOutcome c now
        { queued := [{ bytes := emptyPacket .pingreq }]
          readClock := true
          client := { c with tx := tx, pingOutstanding := true, pingSentMs := now } }
  /-- The queue has no room: the pass goes on as if nothing were due. -/
  | skips (tx : TxQueue cfg.txBufferSize) (due : c.PingDue now) (full : ¬ c.HasRoom 2)
      (peek : tx.peek = c.tx.peek) :
      KeepAliveOutcome c now { readClock := true, client := { c with tx := tx } }

theorem pumpKeepAlive_outcome (now : UInt32) : c.KeepAliveOutcome now (c.pumpKeepAlive now) := by
  unfold pumpKeepAlive
  by_cases disabled : c.keepAliveMs = 0
  · rw [if_pos disabled]
    exact .off disabled
  rw [if_neg disabled]
  by_cases waiting : c.pingOutstanding = true
  · rw [if_pos waiting]
    split
    · exact .expired disabled waiting ‹_›
    · exact .waits disabled waiting ‹_›
  rw [if_neg waiting]
  have idle : c.pingOutstanding = false := by simpa using waiting
  by_cases recent : elapsedMs now c.lastSentMs < c.keepAliveMs - c.keepAliveMs / 4
  · rw [if_pos recent]
    exact .rests disabled idle recent
  rw [if_neg recent]
  by_cases room : c.HasRoom 2
  · obtain ⟨tx, sent, peek⟩ := enqueueEmpty_of_room .pingreq (.inl rfl) room
    rw [sent]
    exact .pings tx ⟨disabled, idle, recent⟩ room peek
  · obtain ⟨error, tx, sent, _, peek⟩ := enqueueEmpty_of_full .pingreq room
    rw [sent]
    exact .skips tx ⟨disabled, idle, recent⟩ room peek

/-- The keep-alive queues at most a PINGREQ. -/
theorem pumpKeepAlive_cases (now : UInt32) :
    (∃ error readClock tx, tx.peek = c.tx.peek ∧
      c.pumpKeepAlive now =
        { error := error, readClock := readClock, client := { c with tx := tx } }) ∨
    (c.HasRoom 2 ∧ ∃ tx, tx.peek = c.tx.peek ++ emptyPacket .pingreq ∧
      c.pumpKeepAlive now =
        { queued := [{ bytes := emptyPacket .pingreq }]
          readClock := true
          client := { c with tx := tx, pingOutstanding := true, pingSentMs := now } }) := by
  have outcome := c.pumpKeepAlive_outcome now
  generalize c.pumpKeepAlive now = reaction at outcome
  cases outcome with
  | off => exact .inl ⟨.ok, false, c.tx, rfl, rfl⟩
  | expired => exact .inl ⟨.keepAliveTimeout, true, c.tx, rfl, rfl⟩
  | waits | rests => exact .inl ⟨.ok, true, c.tx, rfl, rfl⟩
  | pings tx _ room peek => exact .inr ⟨room, tx, peek, rfl⟩
  | skips tx _ _ peek => exact .inl ⟨.ok, true, tx, peek, rfl⟩

/-- Clearing flags changes the table only. -/
theorem foldl_clearFlags_shape (ids : List UInt16) (c : Client cfg) :
    ∃ subscriptions,
      ids.foldl (fun c sid => c.updateBySubId sid fun s => { s with needsResub := false }) c =
        { c with subscriptions := subscriptions } := by
  induction ids generalizing c with
  | nil => exact ⟨c.subscriptions, rfl⟩
  | cons sid rest ih =>
    obtain ⟨first, step⟩ : ∃ subscriptions,
        (c.updateBySubId sid fun s => { s with needsResub := false }) =
          { c with subscriptions := subscriptions } := by
      cases found : c.findBySubId sid with
      | none => exact ⟨c.subscriptions, by simp only [updateBySubId, found]⟩
      | some index => exact ⟨_, by simp only [updateBySubId, found]; rfl⟩
    obtain ⟨last, run⟩ := ih { c with subscriptions := first }
    exact ⟨last, by rw [List.foldl_cons, step, run]⟩

/-- The client a successful re-subscription leaves. -/
def resubscribed (tx : TxQueue cfg.txBufferSize) (now : UInt32) : Client cfg :=
  let ids := c.resubBatch.map (·.subId)
  { ids.foldl (fun c sid => c.updateBySubId sid fun s => { s with needsResub := false })
      { c.allocPacketId.2 with tx := tx } with
    pending := c.pending ++
      [{ subs := ids, sentMs := now, packetId := c.allocPacketId.1, expected := .suback }] }

theorem resubscribed_shape (tx : TxQueue cfg.txBufferSize) (now : UInt32) :
    ∃ n subscriptions pending, c.resubscribed tx now =
      { c with tx := tx, nextPacketId := n, subscriptions := subscriptions,
               pending := pending } := by
  obtain ⟨subscriptions, run⟩ := foldl_clearFlags_shape (c.resubBatch.map (·.subId))
    { c.allocPacketId.2 with tx := tx }
  refine ⟨c.allocPacketId.2.nextPacketId, subscriptions, (c.resubscribed tx now).pending, ?_⟩
  simp only [resubscribed, run]
  rfl

/-- A re-subscription pass queues nothing, or one SUBSCRIBE for its batch. -/
theorem pumpResubscribe_cases (now : UInt32) :
    (∃ tx n, tx.peek = c.tx.peek ∧
      c.pumpResubscribe now = { client := { c with tx := tx, nextPacketId := n } }) ∨
    (c.ackTableFull = false ∧ c.resubBatch ≠ [] ∧ c.allocPacketId.1 ≠ 0 ∧
      (∃ size, subscribeRemainingLength c.resubRequest = .ok size) ∧ ∃ tx,
      tx.peek = c.tx.peek ++ subscribePacket c.allocPacketId.1 c.resubRequest ∧
      c.pumpResubscribe now =
        { queued := [{ bytes := subscribePacket c.allocPacketId.1 c.resubRequest }]
          readClock := true
          client := c.resubscribed tx now }) := by
  by_cases full : c.ackTableFull = true
  · exact .inl ⟨c.tx, c.nextPacketId, rfl, by simp only [pumpResubscribe, if_pos full]⟩
  by_cases nothing : c.resubBatch.isEmpty = true
  · exact .inl ⟨c.tx, c.nextPacketId, rfl,
      by simp only [pumpResubscribe, if_neg full, if_pos nothing]⟩
  cases sized : subscribeRemainingLength c.resubRequest with
  | error error =>
    exact .inl ⟨c.tx, c.nextPacketId, rfl,
      by simp only [pumpResubscribe, if_neg full, if_neg nothing, sized]⟩
  | ok size =>
    by_cases exhausted : c.allocPacketId.1 = 0
    · refine .inl ⟨c.tx, c.allocPacketId.2.nextPacketId, rfl, ?_⟩
      simp only [pumpResubscribe, if_neg full, if_neg nothing, sized, if_pos exhausted]
      rfl
    · have unfolded : c.pumpResubscribe now =
          c.allocPacketId.2.sendResubscribe c.allocPacketId.1 size now := by
        simp only [pumpResubscribe, if_neg full, if_neg nothing, sized, if_neg exhausted]
      have sameRequest : c.allocPacketId.2.resubRequest = c.resubRequest := rfl
      have sameBatch : c.allocPacketId.2.resubBatch = c.resubBatch := rfl
      by_cases room : c.allocPacketId.2.HasRoom (packetSize size)
      · obtain ⟨tx, sent, peek⟩ := enqueueSized_of_room
          (encodes_subscribe exhausted sized) (length_subscribePacket sized) room
        refine .inr ⟨by simpa using full, by simpa using nothing, exhausted, ⟨size, rfl⟩,
          tx, peek, ?_⟩
        obtain ⟨subscriptions, run⟩ := foldl_clearFlags_shape (c.resubBatch.map (·.subId))
          { c.allocPacketId.2 with tx := tx }
        simp only [unfolded, sendResubscribe, sameRequest, sameBatch, sent, resubscribed, run]
        rfl
      · obtain ⟨error, tx, sent, bad, peek⟩ :=
          enqueueSized_of_full (encodeSubscribe · c.allocPacketId.1 c.resubRequest) room
        refine .inl ⟨tx, c.allocPacketId.2.nextPacketId, peek, ?_⟩
        simp only [unfolded, sendResubscribe, sameRequest, sent]
        rfl

/-! ## Retransmission -/

/-- The copy a pass makes of a slot. -/
def copyOf (index : Nat) (slot : OutboundSlot) : Queued :=
  { slot := some index, bytes := slot.markDup.stored }

/-- Only a slot of the table can be due. -/
theorem getElem?_of_due {c : Client cfg} {index : Nat}
    (due : retransmitDue cfg forced now (c.slotAt index) = true) :
    c.outbound[index]? = some (c.slotAt index) := by
  cases here : c.outbound[index]? with
  | none => simp [slotAt, List.getD, here, retransmitDue] at due
  | some slot => rw [slotAt_of_getElem? here]

/-- One slot of the loop: it is passed over, copied, or only marked for want of
room. -/
theorem retransmitSlot_cases (forced : Bool) (now : UInt32) (reaction : Reaction cfg)
    (index : Nat) : let slot := reaction.client.slotAt index
    (retransmitDue cfg forced now slot = false ∧
      retransmitSlot forced now reaction index = reaction) ∨
    (retransmitDue cfg forced now slot = true ∧
      reaction.client.HasRoom slot.markDup.stored.length ∧ ∃ tx,
      tx.peek = reaction.client.tx.peek ++ slot.markDup.stored ∧
      retransmitSlot forced now reaction index =
        { reaction with
          queued := reaction.queued ++ [copyOf index slot]
          client := { reaction.client with
            tx := tx
            outbound := reaction.client.outbound.set index
              { slot.markDup with lastSentMs := now } } }) ∨
    (retransmitDue cfg forced now slot = true ∧
      ¬ reaction.client.HasRoom slot.markDup.stored.length ∧ ∃ tx,
      tx.peek = reaction.client.tx.peek ∧
      retransmitSlot forced now reaction index =
        { reaction with
          client := { reaction.client with
            tx := tx
            outbound := reaction.client.outbound.set index slot.markDup } }) := by
  intro slot
  by_cases due : retransmitDue cfg forced now slot = true
  · by_cases room : reaction.client.HasRoom slot.markDup.stored.length
    · obtain ⟨tx, sent, peek⟩ := @enqueue_of_room cfg
        (reaction.client.setSlot index slot.markDup) _ room
      refine .inr (.inl ⟨due, room, tx, peek, ?_⟩)
      simp only [retransmitSlot]
      rw [if_pos due, sent]
      simp only [setSlot, List.set_set, copyOf, slot]
    · obtain ⟨tx, sent, peek⟩ := @enqueue_of_full cfg
        (reaction.client.setSlot index slot.markDup) _ room
      refine .inr (.inr ⟨due, room, tx, peek, ?_⟩)
      simp only [retransmitSlot]
      rw [if_pos due, sent]
      simp only [setSlot]
  · refine .inl ⟨by simpa using due, ?_⟩
    simp only [retransmitSlot]
    rw [if_neg due]

/-- What a pass over some slots did to the table, and the copies it queued. -/
structure Pass (cfg : Config) (forced : Bool) (now : UInt32) (indices : List Nat)
    (before after : List OutboundSlot) (copies : List Queued) : Prop where
  /-- Every slot is untouched, or was due and marked, and if copied also stamped. -/
  slots : ∀ index slot, before[index]? = some slot → ∃ refreshed,
    after[index]? = some refreshed ∧
      (refreshed = slot ∨ (index ∈ indices ∧ retransmitDue cfg forced now slot = true ∧
        (refreshed = slot.markDup ∨
          (refreshed = { slot.markDup with lastSentMs := now } ∧
            copyOf index slot ∈ copies))))
  length : after.length = before.length
  /-- Every copy is of a slot that was due, and stamped. -/
  due : ∀ copy ∈ copies, ∃ index slot, index ∈ indices ∧ before[index]? = some slot ∧
    retransmitDue cfg forced now slot = true ∧ copy = copyOf index slot ∧
    after[index]? = some { slot.markDup with lastSentMs := now }
  /-- No slot is copied twice. -/
  once : (copies.map (·.slot)).Nodup

theorem Pass.refl (forced : Bool) (now : UInt32) (indices : List Nat)
    (before : List OutboundSlot) : Pass cfg forced now indices before before [] where
  slots _ slot here := ⟨slot, here, .inl rfl⟩
  length := rfl
  due _ member := by simp at member
  once := by simp

/-- A pass is also one over more indices. -/
theorem Pass.mono {fewer more : List Nat}
    {before after : List OutboundSlot} {copies : List Queued} (included : fewer ⊆ more)
    (pass : Pass cfg forced now fewer before after copies) :
    Pass cfg forced now more before after copies where
  slots index slot here := by
    obtain ⟨refreshed, found, outcome⟩ := pass.slots index slot here
    exact ⟨refreshed, found, outcome.imp_right fun rest => ⟨included rest.1, rest.2⟩⟩
  length := pass.length
  due copy member := by
    obtain ⟨index, slot, inFewer, rest⟩ := pass.due copy member
    exact ⟨index, slot, included inFewer, rest⟩
  once := pass.once

/-- Treat one due slot, then the rest of the indices. -/
theorem Pass.cons {index : Nat} {rest : List Nat} {before after : List OutboundSlot}
    {copies front : List Queued} {slot changed : OutboundSlot} (fresh : index ∉ rest)
    (here : before[index]? = some slot) (isDue : retransmitDue cfg forced now slot = true)
    (change : (changed = slot.markDup ∧ front = []) ∨
      (changed = { slot.markDup with lastSentMs := now } ∧ front = [copyOf index slot]))
    (pass : Pass cfg forced now rest (before.set index changed) after copies) :
    Pass cfg forced now (index :: rest) before after (front ++ copies) := by
  have within : index < before.length := by
    rw [List.getElem?_eq_some_iff] at here
    exact here.1
  have unused : ∀ copy ∈ copies, copy.slot ≠ some index := by
    intro copy member same
    obtain ⟨other, _, later, _, _, rfl, _⟩ := pass.due copy member
    simp only [copyOf, Option.some.injEq] at same
    exact fresh (same ▸ later)
  have untouched : after[index]? = some changed := by
    obtain ⟨refreshed, found, rfl | ⟨later, _⟩⟩ := pass.slots index changed (by simp [within])
    · exact found
    · exact absurd later fresh
  refine ⟨?_, ?_, ?_, ?_⟩
  · intro other otherSlot otherHere
    by_cases same : other = index
    · subst same
      rw [here] at otherHere
      injection otherHere with sameSlot
      subst sameSlot
      refine ⟨changed, untouched, .inr ⟨by simp, isDue, ?_⟩⟩
      rcases change with ⟨rfl, _⟩ | ⟨rfl, rfl⟩
      · exact .inl rfl
      · exact .inr ⟨rfl, by simp⟩
    · obtain ⟨refreshed, found, outcome⟩ := pass.slots other otherSlot
        (by rwa [List.getElem?_set_ne (Ne.symm same)])
      refine ⟨refreshed, found, ?_⟩
      rcases outcome with rfl | ⟨later, due, marked | ⟨stamped, copied⟩⟩
      · exact .inl rfl
      · exact .inr ⟨List.mem_cons_of_mem _ later, due, .inl marked⟩
      · exact .inr ⟨List.mem_cons_of_mem _ later, due,
          .inr ⟨stamped, List.mem_append_right _ copied⟩⟩
  · rw [pass.length, List.length_set]
  · intro copy member
    rcases List.mem_append.mp member with first | later
    · rcases change with ⟨_, rfl⟩ | ⟨rfl, rfl⟩
      · simp at first
      · rw [List.mem_singleton] at first
        exact ⟨index, slot, by simp, here, isDue, first, untouched⟩
    · obtain ⟨other, otherSlot, otherLater, otherHere, due, same, stamped⟩ := pass.due copy later
      have different : index ≠ other := fun equal => fresh (equal ▸ otherLater)
      rw [List.getElem?_set_ne different] at otherHere
      exact ⟨other, otherSlot, List.mem_cons_of_mem _ otherLater, otherHere, due, same, stamped⟩
  · rcases change with ⟨_, rfl⟩ | ⟨_, rfl⟩
    · exact pass.once
    · rw [List.singleton_append, List.map_cons, List.nodup_cons]
      refine ⟨?_, pass.once⟩
      rw [List.mem_map]
      rintro ⟨copy, member, same⟩
      exact unused copy member same

/-- The loop over distinct slots is a pass, and queues what it copied. -/
theorem foldl_retransmitSlot (forced : Bool) (now : UInt32) (indices : List Nat)
    (distinct : indices.Nodup) (reaction : Reaction cfg) :
    ∃ tx outbound copies,
      indices.foldl (retransmitSlot forced now) reaction =
        { reaction with
          queued := reaction.queued ++ copies
          client := { reaction.client with tx := tx, outbound := outbound } } ∧
      tx.peek = reaction.client.tx.peek ++ (copies.map (·.bytes)).flatten ∧
      Pass cfg forced now indices reaction.client.outbound outbound copies := by
  induction indices generalizing reaction with
  | nil =>
    exact ⟨reaction.client.tx, reaction.client.outbound, [], by simp, by simp,
      Pass.refl forced now [] _⟩
  | cons index rest ih =>
    obtain ⟨fresh, restDistinct⟩ := List.nodup_cons.mp distinct
    rw [List.foldl_cons]
    rcases retransmitSlot_cases forced now reaction index with
      ⟨_, step⟩ | ⟨due, _, tx, peek, step⟩ | ⟨due, _, tx, peek, step⟩
    · obtain ⟨tx, outbound, copies, run, wire, pass⟩ :=
        ih restDistinct reaction
      exact ⟨tx, outbound, copies, by rw [step, run], wire,
        pass.mono (List.subset_cons_self _ _)⟩
    · obtain ⟨tx', outbound, copies, run, wire, pass⟩ := ih restDistinct
        (retransmitSlot forced now reaction index)
      rw [step] at run wire pass ⊢
      refine ⟨tx', outbound, [copyOf index (reaction.client.slotAt index)] ++ copies, ?_, ?_,
        pass.cons fresh (getElem?_of_due due) due (.inr ⟨rfl, rfl⟩)⟩
      · rw [run]
        simp
      · rw [wire, peek]
        simp [copyOf]
    · obtain ⟨tx', outbound, copies, run, wire, pass⟩ := ih restDistinct
        (retransmitSlot forced now reaction index)
      rw [step] at run wire pass ⊢
      refine ⟨tx', outbound, copies, run, by rw [wire, peek], ?_⟩
      exact pass.cons fresh (getElem?_of_due due) due (.inl ⟨rfl, rfl⟩)

/-- A retransmission pass over the whole table. -/
theorem pumpRetransmit_cases (now : UInt32) :
    ∃ tx outbound copies readClock,
      c.pumpRetransmit now =
        { queued := copies
          readClock := readClock
          client := { c with tx := tx, outbound := outbound, retransmitNow := false } } ∧
      tx.peek = c.tx.peek ++ (copies.map (·.bytes)).flatten ∧
      Pass cfg c.retransmitNow now (List.range cfg.maxInflightOut) c.outbound outbound copies := by
  unfold pumpRetransmit
  simp only
  split
  · exact ⟨c.tx, c.outbound, [], false, rfl, by simp, Pass.refl _ _ _ _⟩
  · obtain ⟨tx, outbound, copies, run, wire, pass⟩ :=
      foldl_retransmitSlot c.retransmitNow now (List.range cfg.maxInflightOut)
        List.nodup_range { readClock := true, client := { c with retransmitNow := false } }
    exact ⟨tx, outbound, copies, true, by rw [run]; simp, wire, pass⟩

end Client
end Mqtt
