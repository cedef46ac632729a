import Mqtt.Session.Retransmission

/-!
# The order of retransmissions

A pass walks the slots by index. It therefore re-sends messages in the order they
were published exactly as long as slots are filled in index order, which first-free
allocation does not ensure: an acknowledgement can free a slot below one that is
still in flight.
-/

namespace Mqtt

open Library

variable {cfg : Config} {index : Nat} {label : Label}

/-! ## The contract -/

/-- The position of the last `publish()` that filled the slot. -/
def lastFill (index : Nat) (trace : Trace cfg) : Option Nat :=
  (trace.foldl (fun (seen : Nat × Option Nat) event =>
    (seen.1 + 1, if event.Fills index then some seen.1 else seen.2)) (0, none)).2

/-- The position of the `publish()` that a queued packet is a copy of. -/
def publishedAt (trace : Trace cfg) (packet : Queued) : Option Nat :=
  packet.slot.bind fun index => lastFill index trace

/-- The packet is a PUBLISH. -/
def Queued.isPublish (packet : Queued) : Bool :=
  packet.bytes.head?.any fun first : UInt8 => (first >>> 4) &&& 0x0F = PacketType.publish.toNibble

/-- Every pass queues its PUBLISH packets in the order of their `publish()` calls. -/
def RetransmitsInOrder (trace : Trace cfg) : Prop :=
  ∀ before event after now, trace = before ++ event :: after → event.label = .retransmit now →
    ∃ positions : List Nat,
      (event.reaction.queued.filter Queued.isPublish).map (publishedAt before) =
        positions.map some ∧ positions.Pairwise (· < ·)

/-- A `publish()` above QoS 0 finds no message in flight above the first free slot. -/
def Library.Entry.fillsInTurn (event : Event cfg) : Bool :=
  match event.label, event.before.freeOutboundSlot with
  | .publish _ _ qos _ _, some index =>
    qos = .atMostOnce || (event.before.outbound.drop index).all fun slot => slot.phase = .free
  | _, _ => true

/-! ## Why it holds -/

open Client

theorem foldl_lastFill_fst (index : Nat) (trace : Trace cfg) :
    (trace.foldl (fun (seen : Nat × Option Nat) event =>
      (seen.1 + 1, if event.Fills index then some seen.1 else seen.2)) (0, none)).1 =
      trace.length := by
  induction trace using List.reverseRecOn with
  | nil => rfl
  | append_singleton trace event ih => simp [ih]

theorem lastFill_snoc (index : Nat) (trace : Trace cfg) (event : Event cfg) :
    lastFill index (trace ++ [event]) =
      if event.Fills index then some trace.length else lastFill index trace := by
  simp only [lastFill, List.foldl_append, List.foldl_cons, List.foldl_nil, foldl_lastFill_fst]

theorem lastFill_lt {position : Nat} {trace : Trace cfg}
    (filled : lastFill index trace = some position) : position < trace.length := by
  induction trace using List.reverseRecOn with
  | nil => simp [lastFill] at filled
  | append_singleton trace event ih =>
    rw [lastFill_snoc] at filled
    rw [List.length_append, List.length_singleton]
    split at filled
    · simp only [Option.some.injEq] at filled
      omega
    · have := ih filled
      omega

/-- Slots in flight were filled in index order. -/
structure InTurn (log : Log cfg) : Prop where
  filled : ∀ index, log.state.InFlight index → ∃ position, lastFill index log.trace = some position
  ordered : ∀ {first second p q}, first < second → log.state.InFlight first →
    log.state.InFlight second → lastFill first log.trace = some p →
    lastFill second log.trace = some q → p < q

theorem inFlight_before {c : Client cfg} (sized : c.SlotsSized)
    (flies : (c.apply label).InFlight index) (notFilled : ¬ Entry.Fills index ⟨c, label⟩) :
    c.InFlight index := by
  obtain ⟨after, there, busy⟩ := flies
  obtain ⟨slot, here, wasBusy, _⟩ := (slot_cases sized there busy).inFlight busy notFilled
  exact ⟨slot, here, wasBusy⟩

/-- A `publish()` fills the first free slot. -/
theorem freeOutboundSlot_of_fills {c : Client cfg} (fills : Entry.Fills index ⟨c, label⟩) :
    c.freeOutboundSlot = some index ∧
      ∃ topic payload qos retain now, label = .publish topic payload qos retain now ∧
        qos ≠ .atMostOnce := by
  obtain ⟨isPublish, queues⟩ := fills
  obtain ⟨topic, payload, qos, retain, now, rfl⟩ :
      ∃ topic payload qos retain now, label = .publish topic payload qos retain now := by
    cases label <;> simp_all [Label.isPublish]
  simp only [Entry.queuesFor, Entry.reaction, react, List.any_eq_true, decide_eq_true_eq] at queues
  obtain ⟨packet, member, tagged⟩ := queues
  rcases c.publish_cases topic payload qos retain now with
    ⟨_, _, _, _, _, _, _, same⟩ | ⟨_, _, _, _, _, same⟩ |
      ⟨_, tracked, _, other, _, _, _, _, first, _, _, _, _, _, _, _, _, same⟩
  · simp [same, refuse] at member
  · rw [same, List.mem_singleton] at member
    simp [member] at tagged
  · rw [same, List.mem_singleton] at member
    obtain rfl : other = index := by simpa [member] using tagged
    exact ⟨first, topic, payload, qos, retain, now, rfl, tracked⟩

theorem not_inFlight_above {c : Client cfg} {other : Nat}
    (turn : Entry.fillsInTurn ⟨c, label⟩ = true) (fills : Entry.Fills index ⟨c, label⟩)
    (above : index ≤ other) : ¬ c.InFlight other := by
  obtain ⟨first, topic, payload, qos, retain, now, rfl, tracked⟩ := freeOutboundSlot_of_fills fills
  simp only [Entry.fillsInTurn, first, Bool.or_eq_true, decide_eq_true_eq, tracked, false_or,
    List.all_eq_true] at turn
  rintro ⟨slot, here, busy⟩
  refine busy (turn slot (List.mem_iff_getElem?.mpr ⟨other - index, ?_⟩))
  rw [List.getElem?_drop, Nat.add_sub_cancel' above, here]

/-- Slots filled in turn stay in the order of their messages. -/
theorem InTurn.step {log : Log cfg} (turn : InTurn log)
    (sized : log.state.SlotsSized) (fillsInTurn : Entry.fillsInTurn ⟨log.state, label⟩ = true) :
    InTurn (log.perform Client.apply label) where
  filled index flies := by
    rw [Logged.perform_trace, lastFill_snoc]
    by_cases fills : Entry.Fills index ⟨log.state, label⟩
    · exact ⟨_, if_pos fills⟩
    · rw [if_neg fills]
      exact turn.filled index (inFlight_before sized flies fills)
  ordered {first second p q} order firstFlies secondFlies firstFilled secondFilled := by
    rw [Logged.perform_trace, lastFill_snoc] at firstFilled secondFilled
    by_cases fillsFirst : Entry.Fills first ⟨log.state, label⟩
    · -- Whatever is above the slot just filled would have been in flight above it.
      have one := (freeOutboundSlot_of_fills fillsFirst).1
      have notSecond : ¬ Entry.Fills second ⟨log.state, label⟩ := by
        intro fillsSecond
        have other := (freeOutboundSlot_of_fills fillsSecond).1
        rw [one, Option.some.injEq] at other
        omega
      exact absurd (inFlight_before sized secondFlies notSecond)
        (not_inFlight_above fillsInTurn fillsFirst order.le)
    · rw [if_neg fillsFirst] at firstFilled
      by_cases fillsSecond : Entry.Fills second ⟨log.state, label⟩
      · rw [if_pos fillsSecond, Option.some.injEq] at secondFilled
        exact secondFilled ▸ lastFill_lt firstFilled
      · rw [if_neg fillsSecond] at secondFilled
        exact turn.ordered order (inFlight_before sized firstFlies fillsFirst)
          (inFlight_before sized secondFlies fillsSecond) firstFilled secondFilled

/-- So they are in every history. -/
theorem History.inTurn {log : Log cfg} (history : History log)
    (fillsInTurn : ∀ event ∈ log.trace, event.fillsInTurn = true) : InTurn log := by
  have idle : ∀ index, ¬ (Client.initial cfg).InFlight index := by
    rintro index ⟨slot, here, busy⟩
    obtain rfl := List.eq_of_mem_replicate (List.mem_of_getElem? here)
    exact busy rfl
  exact Logged.Reaches.invariant_of
    (fun event : Event cfg => event.fillsInTurn = true) InTurn
    (fun log label prior _ meets turn => turn.step (History.slotsSized prior) meets) history rfl
    fillsInTurn ⟨fun index flies => absurd flies (idle index),
      fun _ flies => absurd flies (idle _)⟩

/-! ## The order of a pass -/

/-- The loop appends its copies in the order of the indices. -/
theorem foldl_retransmitSlot_tags (forced : Bool) (now : UInt32) (indices : List Nat)
    (reaction : Reaction cfg) :
    ∃ copied : List Nat,
      (indices.foldl (retransmitSlot forced now) reaction).queued.map (·.slot) =
        reaction.queued.map (·.slot) ++ copied.map some ∧ copied.Sublist indices := by
  induction indices generalizing reaction with
  | nil => exact ⟨[], by simp, .refl _⟩
  | cons index rest ih =>
    obtain ⟨copied, tags, inOrder⟩ :=
      ih (retransmitSlot forced now reaction index)
    rw [List.foldl_cons, tags]
    rcases retransmitSlot_cases forced now reaction index with
      ⟨_, step⟩ | ⟨_, _, _, _, step⟩ | ⟨_, _, _, _, step⟩ <;> rw [step]
    · exact ⟨copied, rfl, inOrder.cons _⟩
    · exact ⟨index :: copied, by simp [copyOf], inOrder.cons_cons _⟩
    · exact ⟨copied, rfl, inOrder.cons _⟩

/-- One pass repeats the slots from the first to the last. -/
theorem pumpRetransmit_tags (c : Client cfg) (now : UInt32) :
    ∃ copied : List Nat, (c.pumpRetransmit now).queued.map (·.slot) = copied.map some ∧
      copied.Pairwise (· < ·) := by
  unfold pumpRetransmit
  simp only
  split
  · exact ⟨[], by simp, .nil⟩
  · obtain ⟨copied, tags, inOrder⟩ := foldl_retransmitSlot_tags c.retransmitNow now
      (List.range cfg.maxInflightOut)
      { readClock := true, client := { c with retransmitNow := false } }
    exact ⟨copied, by simpa using tags, List.pairwise_lt_range.sublist inOrder⟩

/-- A pass copies slots in flight. -/
theorem inFlight_of_copied {c : Client cfg} (now : UInt32)
    (tagged : some index ∈ (c.pumpRetransmit now).queued.map (·.slot)) : c.InFlight index := by
  obtain ⟨packet, member, isTag⟩ := List.mem_map.mp tagged
  obtain ⟨_, _, _, _, same, _, pass⟩ := c.pumpRetransmit_cases now
  rw [same] at member
  obtain ⟨other, slot, _, here, due, rfl, _⟩ := pass.due packet member
  obtain rfl : other = index := by simpa [copyOf] using isTag
  exact ⟨slot, here, phase_of_due due⟩

/-- In every run in which publishing fills slots in turn, retransmissions keep the
order of publication. -/
theorem retransmits_in_order (cfg : Config) (env : Env) (application : Script)
    (fillsInTurn : ∀ event ∈ (World.exec cfg env application).trace, event.fillsInTurn = true) :
    RetransmitsInOrder (World.exec cfg env application).trace := by
  intro before event after now split isPass
  obtain ⟨log, reached, rfl, here, _, _⟩ := (World.exec_history cfg env application).cut split
  obtain ⟨state, label⟩ := event
  obtain rfl : state = log.state := here
  obtain rfl : label = .retransmit now := isPass
  have turn := reached.inTurn fun event inside => fillsInTurn event (by
    rw [split]
    exact List.mem_append_left _ inside)
  have called : Entry.reaction ⟨log.state, .retransmit now⟩ = log.state.pumpRetransmit now := rfl
  rw [called]
  obtain ⟨copied, tags, ascending⟩ := pumpRetransmit_tags log.state now
  have flies : ∀ index ∈ copied, log.state.InFlight index := fun index member =>
    inFlight_of_copied now (by rw [tags]; exact List.mem_map_of_mem member)
  obtain ⟨kept, among, keptTags⟩ : ∃ kept : List Nat, kept.Sublist copied ∧
      ((log.state.pumpRetransmit now).queued.filter Queued.isPublish).map (·.slot) =
        kept.map some := by
    have fewer := (List.filter_sublist (p := Queued.isPublish)
      (l := (log.state.pumpRetransmit now).queued)).map (·.slot)
    rw [tags, List.sublist_map_iff] at fewer
    exact fewer
  refine ⟨kept.map fun index => (lastFill index log.trace).getD 0, ?_, ?_⟩
  · have mapped : ((log.state.pumpRetransmit now).queued.filter Queued.isPublish).map
        (publishedAt log.trace) = kept.map fun index => lastFill index log.trace := by
      have through := congrArg (List.map fun slot : Option Nat =>
        slot.bind fun index => lastFill index log.trace) keptTags
      rw [List.map_map, List.map_map] at through
      exact through
    rw [mapped, List.map_map]
    refine List.map_congr_left fun index member => ?_
    obtain ⟨position, filled⟩ := turn.filled index (flies index (among.subset member))
    simp [filled]
  · rw [List.pairwise_map]
    refine (ascending.sublist among).imp_of_mem fun {first second} inFirst inSecond order => ?_
    have firstFlies := flies first (among.subset inFirst)
    have secondFlies := flies second (among.subset inSecond)
    obtain ⟨p, firstFilled⟩ := turn.filled first firstFlies
    obtain ⟨q, secondFilled⟩ := turn.filled second secondFlies
    simpa [firstFilled, secondFilled] using
      turn.ordered order firstFlies secondFlies firstFilled secondFilled

/-! ## A slot reused below one in flight -/

namespace RetransmitOrder

def config : Config :=
  { Config.small with maxInflightOut := 2, maxInflightIn := 4, persistedHoldsHeader := by decide }

/-- Publish twice, get one acknowledgement, publish again, and lose the connection. -/
def application : Script :=
  .connect Retransmission.options (.step
    (.publish [97] [] .atLeastOnce false (.publish [98] [] .atLeastOnce false (.step
      (.publish [99] [] .atLeastOnce false (.step
        (.connect Retransmission.options (.step .done))))))))

/-- The broker acknowledges the message with this id. -/
def env (acknowledged : UInt8) : Env where
  opens := [.ok, .ok]
  sends := [(.ok, 15), (.ok, 14), (.ok, 7), (.ok, 15), (.ok, 14)]
  recvs := [(.ok, [0x20, 2, 0, 0]), (.wouldBlock, []), (.ok, [0x40, 2, 0, acknowledged]),
    (.wouldBlock, []), (.transportClosed, []), (.ok, [0x20, 2, 1, 0])]

def run (acknowledged : UInt8) : World config := World.exec config (env acknowledged) application

end RetransmitOrder

/-- Two messages in turn, repeated in order. -/
theorem retransmits_in_order_in_turn : RetransmitsInOrder (RetransmitOrder.run 2).trace :=
  retransmits_in_order RetransmitOrder.config (RetransmitOrder.env 2) RetransmitOrder.application
    (by decide +kernel)

/-- The third message took the slot of the first, and is re-sent before the second. -/
theorem retransmits_out_of_order : ¬ RetransmitsInOrder (RetransmitOrder.run 1).trace := by
  intro inOrder
  have split := split_at_position (RetransmitOrder.run 1).trace
    (show 40 < (RetransmitOrder.run 1).trace.length by decide +kernel)
  obtain ⟨positions, same, ascending⟩ := inOrder _ _ _ 0 split (by decide +kernel)
  have published : (((RetransmitOrder.run 1).trace.get ⟨40,
      by decide +kernel⟩).reaction.queued.filter
      Queued.isPublish).map (publishedAt ((RetransmitOrder.run 1).trace.take 40)) =
        [24, 13].map some := by decide +kernel
  rw [published] at same
  obtain rfl : [24, 13] = positions := List.map_injective_iff.mpr (Option.some_injective _) same
  exact absurd ascending (by decide)

end Mqtt
