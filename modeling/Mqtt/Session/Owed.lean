import Mqtt.Session.Retransmission

/-!
# Packets owed to the broker

With timed retransmission disabled, a slot's packet goes out when it is stored
or in the pass a CONNACK schedules. Either attempt may find the transmit queue
full. A PUBREL that did not fit, and a copy the scheduled pass had no room for,
are then owed until the connection ends.
-/

namespace Mqtt

open Library Client

variable {cfg : Config}

/-- The packet without the mark of a repetition. -/
def clearDup : Bytes → Bytes
  | [] => []
  | first :: rest => (first &&& 0xF7) :: rest

/-- The slot's packet has been queued on this connection since the slot was
filled. -/
def QueuedHere (index : Nat) (slot : OutboundSlot) (trace : Trace cfg) : Prop :=
  Since (fun event => ∃ packet ∈ event.reaction.queued, packet.slot = some index ∧
      clearDup packet.bytes = clearDup slot.stored)
    (fun event => event.EndsSession ∨ event.Fills index) trace

/-- Between `step()` calls of an established session, the packet of every slot in
flight has been queued on this connection, or a pass is scheduled. -/
def NoneStranded (log : Log cfg) : Prop :=
  Throughout (fun c trace => Control.of trace = .outside → c.state = .connected →
    ∀ index slot, c.outbound[index]? = some slot → slot.phase ≠ .free →
      QueuedHere index slot trace ∨ c.retransmitNow = true) log

/-- Total size of the packets in flight. -/
def Client.owedBytes (c : Client cfg) : Nat :=
  (c.outbound.map fun slot => if slot.phase = .free then 0 else slot.stored.length).sum

/-- A scheduled pass finds room for every packet in flight, and the first PUBREC
of a message finds room for its PUBREL unless a pass is scheduled. -/
def Library.Entry.findsRoom (event : Event cfg) : Bool :=
  match event.label with
  | .retransmit _ =>
    !event.before.retransmitNow || decide (event.before.HasRoom event.before.owedBytes)
  | .handle header body _ =>
    header.type ≠ .pubrec || event.before.retransmitNow || decide (event.before.HasRoom 4) ||
      event.before.outbound.all fun slot =>
        !(slot.phase = .waitPubrec && decodePacketId body = .ok slot.packetId)
  | _ => true

/-! ## A pass that finds room -/

theorem length_stored_markDup (slot : OutboundSlot) :
    slot.markDup.stored.length = slot.stored.length := by
  simp [OutboundSlot.stored, length_markDup]

theorem clearDup_bit : ∀ byte : Fin 256,
    (UInt8.ofNat byte ||| 0x08) &&& 0xF7 = UInt8.ofNat byte &&& 0xF7 := by decide +kernel

/-- The mark is all that tells a repetition from the packet. -/
theorem clearDup_markDup (slot : OutboundSlot) :
    clearDup slot.markDup.stored = clearDup slot.stored := by
  rcases markDup_cases slot with same | ⟨first, rest, filled, isPacket, _, same⟩
  · rw [same]
  · obtain ⟨count, isCount⟩ : ∃ count, slot.packetLen.toNat = count + 1 :=
      Nat.exists_eq_succ_of_ne_zero fun zero => filled (UInt16.toNat_inj.mp zero)
    have bit : (first ||| 0x08) &&& 0xF7 = first &&& 0xF7 := by
      simpa using clearDup_bit ⟨first.toNat, first.toNat_lt⟩
    simp only [OutboundSlot.stored, same, isPacket, isCount, List.take_succ_cons, clearDup, bit]

/-- What a pass is to copy of a slot. -/
def dueBytes (cfg : Config) (forced : Bool) (now : UInt32) (slot : OutboundSlot) : Nat :=
  if retransmitDue cfg forced now slot then slot.stored.length else 0

theorem slotAt_set {c d : Client cfg} {index other : Nat}
    {changed : OutboundSlot} (isTable : d.outbound = c.outbound.set other changed)
    (different : index ≠ other) : d.slotAt index = c.slotAt index := by
  simp [slotAt, isTable, List.getD, List.getElem?_set_ne (Ne.symm different)]

/-- If the queue has room for all that is due, everything due is copied. -/
theorem foldl_retransmitSlot_of_room {forced : Bool} {now : UInt32} {indices : List Nat}
    (distinct : indices.Nodup) {reaction : Reaction cfg} (room : reaction.client.HasRoom
      ((indices.map fun index => dueBytes cfg forced now (reaction.client.slotAt index)).sum))
    {index : Nat} (member : index ∈ indices)
    (due : retransmitDue cfg forced now (reaction.client.slotAt index) = true) :
    copyOf index (reaction.client.slotAt index) ∈
      (indices.foldl (retransmitSlot forced now) reaction).queued := by
  induction indices generalizing reaction with
  | nil => cases member
  | cons first rest ih =>
    obtain ⟨fresh, restDistinct⟩ := List.nodup_cons.mp distinct
    rw [List.map_cons, List.sum_cons] at room
    rw [List.foldl_cons]
    rcases retransmitSlot_cases forced now reaction first with
      ⟨notDue, step⟩ | ⟨isDue, _, tx, peek, step⟩ | ⟨isDue, full, _⟩
    · rw [step]
      rcases List.mem_cons.mp member with rfl | later
      · exact absurd due (by simp [notDue])
      · exact ih restDistinct
          (by unfold HasRoom at room ⊢; omega) later due
    · rcases List.mem_cons.mp member with rfl | later
      · obtain ⟨_, _, _, run, _⟩ := foldl_retransmitSlot forced now rest restDistinct
          (retransmitSlot forced now reaction index)
        rw [run, step]
        simp
      · have elsewhere : ∀ other ∈ rest,
            (retransmitSlot forced now reaction first).client.slotAt other =
              reaction.client.slotAt other := by
          intro other inRest
          exact slotAt_set (congrArg (·.client.outbound) step) fun same => fresh (same ▸ inRest)
        have sameIndex := elsewhere index later
        rw [← sameIndex] at due ⊢
        refine ih restDistinct ?_ later due
        rw [List.map_congr_left fun other inRest => by rw [elsewhere other inRest], step]
        simp only [dueBytes, isDue, if_true] at room
        unfold HasRoom at room ⊢
        simp only [peek, List.length_append, length_stored_markDup, dueBytes]
        omega
    · refine absurd ?_ full
      rw [length_stored_markDup]
      simp only [dueBytes, isDue, if_true] at room
      unfold HasRoom at room ⊢
      omega

/-- A scheduled pass that finds room for everything in flight copies it. -/
theorem pumpRetransmit_of_room {c : Client cfg} (sized : c.SlotsSized) (now : UInt32)
    (scheduled : c.retransmitNow = true) (room : c.HasRoom c.owedBytes) {index : Nat}
    {slot : OutboundSlot} (here : c.outbound[index]? = some slot) (inFlight : slot.phase ≠ .free) :
    copyOf index slot ∈ (c.react (.retransmit now)).queued := by
  have due : ∀ slot : OutboundSlot, retransmitDue cfg true now slot = decide (slot.phase ≠ .free) := by
    simp [retransmitDue]
  have total : ((List.range cfg.maxInflightOut).map fun index =>
      dueBytes cfg true now (c.slotAt index)).sum = c.owedBytes := by
    rw [owedBytes, ← sized.count]
    congr 1
    refine List.ext_getElem (by simp) fun position _ within => ?_
    have inTable : position < c.outbound.length := by simpa using within
    simp [dueBytes, due, slotAt_of_getElem? (List.getElem?_eq_getElem inTable)]
  have inTable := (List.getElem?_eq_some_iff.mp here).1
  have isSlot : c.slotAt index = slot := slotAt_of_getElem? here
  have notOff : ¬ (cfg.retryIntervalMs = 0 ∧ (!c.retransmitNow) = true) := by simp [scheduled]
  simp only [react, pumpRetransmit]
  rw [if_neg notOff, scheduled, ← isSlot]
  refine @foldl_retransmitSlot_of_room cfg true now _ List.nodup_range
    { readClock := true, client := { c with retransmitNow := false } } ?_ index ?_ ?_
  · exact total ▸ room
  · rw [List.mem_range, ← sized.count]
    exact inTable
  · rw [due, decide_eq_true_eq]
    exact isSlot ▸ inFlight

/-! ## Why nothing is stranded -/

section Step

variable {c : Client cfg} {label : Label} {index : Nat} {slot : OutboundSlot} {trace : Trace cfg}

/-- A packet queued for a slot that stores it. -/
theorem queuedHere_of_queued {packet : Queued} (member : packet ∈ (c.react label).queued)
    (tagged : packet.slot = some index) (same : clearDup packet.bytes = clearDup slot.stored) :
    QueuedHere index slot (trace ++ [⟨c, label⟩]) :=
  since_snoc.mpr (.inl ⟨packet, member, tagged, same⟩)

theorem QueuedHere.snoc {before : OutboundSlot} (queued : QueuedHere index before trace)
    (same : clearDup before.stored = clearDup slot.stored)
    (goesOn : (c.apply label).state ≠ .idle) (untagged : c.Untagged label index) :
    QueuedHere index slot (trace ++ [⟨c, label⟩]) := by
  refine since_snoc.mpr (.inr ⟨?_, ?_⟩)
  · simpa only [QueuedHere, same] using queued
  · rintro (ends | fills)
    · exact goesOn ends
    · exact absurd fills.2 (by simp [queuesFor_of_untagged untagged])

theorem hasRoom_of_findsRoom {header : FixedHeader} {body : Bytes} {now : UInt32}
    (room : Entry.findsRoom ⟨c, .handle header body now⟩ = true) (isPubrec : header.type = .pubrec)
    (unscheduled : c.retransmitNow = false) (member : slot ∈ c.outbound)
    (waiting : slot.phase = .waitPubrec) (decoded : decodePacketId body = .ok slot.packetId) :
    c.HasRoom 4 := by
  simp only [Entry.findsRoom, isPubrec, unscheduled, ne_eq, not_true, decide_false, Bool.or_false,
    Bool.false_or, Bool.or_eq_true, decide_eq_true_eq, List.all_eq_true] at room
  refine room.resolve_right fun none => ?_
  simpa [waiting, decoded] using none slot member

end Step

/-- If every attempt finds room, then in an established session the packet of every
slot in flight has been queued, or a pass is scheduled. -/
theorem History.queuedHere {log : Log cfg} (history : History log)
    (short : PublishesShort log.trace) (room : ∀ event ∈ log.trace, event.findsRoom = true)
    (up : log.state.state = .connected) (unscheduled : log.state.retransmitNow = false)
    {index : Nat} {slot : OutboundSlot} (here : log.state.outbound[index]? = some slot)
    (inFlight : slot.phase ≠ .free) : QueuedHere index slot log.trace := by
  refine Logged.Reaches.invariant_of
    (fun event : Event cfg => event.publishesShort = true ∧ event.findsRoom = true)
    (fun log => log.state.state = .connected → log.state.retransmitNow = false →
      ∀ index slot, log.state.outbound[index]? = some slot → slot.phase ≠ .free →
        QueuedHere index slot log.trace)
    (fun log label prior permitted ⟨short, room⟩ queued up unscheduled index after there inFlight => ?_)
    history rfl (fun event member => ⟨short event member, room event member⟩)
    (by simp [Client.initial]) up unscheduled index slot here inFlight
  have sized := History.slotsSized prior
  simp only [Logged.perform_trace, Logged.perform_state] at up unscheduled there ⊢
  have goesOn : (log.state.apply label).state ≠ .idle := by simp [up]
  obtain ⟨stayed, used⟩ := (log.state.apply_retransmitNow label).resolve_left
    fun established => by simp [unscheduled] at established
  have wasUp := stayed up
  -- A pass that was scheduled copies the slot.
  have copied : ∀ {before : OutboundSlot}, log.state.outbound[index]? = some before →
      before.phase ≠ .free → log.state.Untagged label index →
      log.state.retransmitNow = false := by
    intro before wasHere busy untagged
    rcases used with ⟨now, rfl, _⟩ | ⟨flag, _⟩
    · by_contra scheduled
      simp only [Bool.not_eq_false] at scheduled
      have fits : log.state.HasRoom log.state.owedBytes := by
        simpa [Entry.findsRoom, scheduled] using room
      exact untagged _ (pumpRetransmit_of_room sized now scheduled fits wasHere busy) rfl
    · exact flag.symm.trans unscheduled
  cases slot_cases sized there inFlight with
  | untouched wasHere untagged =>
    exact (queued wasUp (copied wasHere inFlight untagged) index after wasHere inFlight).snoc rfl
      goesOn untagged
  | filled topic payload qos retain now before id isPublish _ tracked _ _ _ _ isAfter single =>
    subst isPublish
    refine queuedHere_of_queued (by rw [single]; exact List.mem_singleton.mpr rfl) rfl ?_
    rw [isAfter, stored_filledSlot
      (length_of_publishesShort short tracked (publish_ok_of_queued single) id)]
  | advanced header body now before isHandle isPubrec decoded wasHere waiting outcome =>
    rcases outcome with ⟨rfl, single⟩ | ⟨full, rfl, quiet⟩
    · refine queuedHere_of_queued (by rw [single]; exact List.mem_singleton.mpr rfl) rfl ?_
      exact congrArg clearDup (stored_pubrelSlot before before.packetId).symm
    · have notScheduled := copied wasHere (by simp [waiting]) (untagged_of_quiet quiet)
      subst isHandle
      exact absurd (hasRoom_of_findsRoom room isPubrec notScheduled
        (List.mem_of_getElem? wasHere) waiting decoded) full
  | repeated header body now before _ _ wasHere waiting isAfter single =>
    refine queuedHere_of_queued (by rw [single]; exact List.mem_singleton.mpr rfl) rfl ?_
    rw [isAfter]
    rfl
  | marked now before _ wasHere due isAfter untagged =>
    have busy := phase_of_due due
    refine (queued wasUp (copied wasHere busy untagged) index before wasHere busy).snoc ?_ goesOn
      untagged
    rw [isAfter, clearDup_markDup]
  | copied now before _ wasHere due isAfter copy =>
    refine queuedHere_of_queued copy rfl ?_
    rw [isAfter]
    rfl

/-- In a run in which every attempt to queue a packet in flight finds room, none is
stranded. -/
theorem none_stranded (cfg : Config) (env : Env) (application : Script)
    (short : PublishesShort (World.exec cfg env application).trace)
    (room : ∀ event ∈ (World.exec cfg env application).trace, event.findsRoom = true) :
    NoneStranded (World.exec cfg env application).log := by
  refine @History.throughout _ _
    (fun trace => PublishesShort trace ∧ ∀ event ∈ trace, event.findsRoom = true) _
    (World.exec_history cfg env application) ⟨short, room⟩
    (fun before after all => ⟨fun event member => all.1 event (List.mem_append_left _ member),
      fun event member => all.2 event (List.mem_append_left _ member)⟩)
    fun log history meets _ up index slot here inFlight => ?_
  by_cases scheduled : log.state.retransmitNow = true
  · exact .inr scheduled
  · exact .inl (history.queuedHere meets.1 meets.2 up (by simpa using scheduled) here inFlight)

/-! ## A full queue at the reconnect -/

namespace Owed

/-- As for the forced copy, but `on_connect` fills the queue on the second
connection. -/
def env : Env :=
  { Retransmission.patientEnv with
    scripts := [.done, .done, .publish (List.replicate 12 116) [] .atMostOnce false .done] }

def run : World .untimed := World.exec .untimed env Retransmission.patientApplication

end Owed

theorem none_stranded_reconnect :
    NoneStranded (World.exec .untimed Retransmission.patientEnv
      Retransmission.patientApplication).log :=
  none_stranded .untimed Retransmission.patientEnv Retransmission.patientApplication
    (by decide +kernel) (by decide +kernel)

/-- The pass after the reconnect has no room for the copy and is not repeated. -/
theorem publish_stranded : ¬ NoneStranded Owed.run.log := by
  intro none
  obtain ⟨slot, here⟩ : ∃ slot, Owed.run.log.state.outbound[0]? = some slot :=
    ⟨_, List.getElem?_eq_getElem (show 0 < Owed.run.log.state.outbound.length by decide +kernel)⟩
  have stranded : ∀ slot ∈ Owed.run.log.state.outbound, slot.phase ≠ .free ∧
      ¬ QueuedHere 0 slot Owed.run.log.trace := by
    unfold QueuedHere
    decide +kernel
  obtain ⟨busy, absent⟩ := stranded slot (List.mem_of_getElem? here)
  rcases none.2 (by decide +kernel) (by decide +kernel) 0 slot here busy with queued | scheduled
  · exact absent queued
  · exact absurd scheduled (by decide +kernel)

end Mqtt
