import Mqtt.Library.Custody
import Mqtt.Session.Indistinguishable

/-!
# No message is lost

The outbound table holds packet ids. A `publish()` above QoS 0 that is accepted takes a
place, a delivery report gives it back, and a discarded session clears the table.
-/

namespace Mqtt

open Library Client

variable {cfg : Config}

/-- The packet id a slot is held under. -/
def OutboundSlot.holder (slot : OutboundSlot) : Option UInt16 :=
  if slot.phase = .free then none else some slot.packetId

/-- The packet ids in flight, by slot. -/
def Client.inFlight (c : Client cfg) : List (Option UInt16) := c.outbound.map (·.holder)

/-- Whether the piece of code may discard the session. -/
def Client.discards (c : Client cfg) : Label → Bool
  | .connect opts _ => opts.cleanSession
  | .disconnect | .abort | .shutdown _ => c.cleanSession
  | _ => false

/-- What an event does to the messages in flight: a delivery report, a message accepted
above QoS 0, or the end of a session that is not kept. -/
def Library.Entry.turn (event : Event cfg) : Turn UInt16 :=
  match event.reaction.callback with
  | some (.onDelivery id) => .returned id
  | _ =>
    match event.label with
    | .publish _ _ qos _ _ =>
      if qos = .atMostOnce then .kept else event.reaction.packetId.elim .kept .taken
    | label =>
      if event.before.discards label ∧ event.reaction.client.inflightCount = 0 then .cleared
      else .kept

/-- The messages accepted so far are those reported, those discarded and those in flight,
and each is in flight until its delivery is reported or the session is discarded. -/
structure Conserves (trace : Trace cfg) (c : Client cfg) : Prop where
  balance : (trace.map (·.turn.takes)).sum =
    (trace.map (·.turn.returns)).sum + (trace.map fun e => e.turn.loses e.before.inFlight).sum +
      c.inflightCount
  lasts : ∀ id, Since (fun e : Event cfg => e.turn = .taken id)
    (fun e => e.turn.Ends id) trace → some id ∈ c.inFlight

section Turns

variable {c : Client cfg} {label : Label}

theorem held_inFlight (c : Client cfg) : held c.inFlight = c.inflightCount := by
  simp only [held, inFlight, inflightCount, List.countP_map]
  refine List.countP_congr fun slot _ => ?_
  by_cases free : slot.phase = .free <;> simp [OutboundSlot.holder, free]

theorem inFlight_set {place : Nat} {slot : OutboundSlot}
    (changed : (c.apply label).outbound = c.outbound.set place slot) :
    (c.apply label).inFlight = c.inFlight.set place slot.holder := by
  rw [inFlight, changed, List.map_set, inFlight]

/-- A slot whose holder stays. -/
theorem inFlight_of_set {place : Nat} {slot new : OutboundSlot}
    (here : c.outbound[place]? = some slot)
    (changed : (c.apply label).outbound = c.outbound.set place new)
    (same : new.holder = slot.holder) : (c.apply label).inFlight = c.inFlight := by
  obtain ⟨within, rfl⟩ := List.getElem?_eq_some_iff.mp here
  rw [inFlight_set changed, same, inFlight, ← List.map_set, List.set_getElem_self]

theorem inFlight_of_pass {forced : Bool} {now : UInt32} {indices : List Nat} {copies : List Queued}
    (pass : Pass cfg forced now indices c.outbound (c.apply label).outbound copies) :
    (c.apply label).inFlight = c.inFlight := by
  refine List.ext_getElem? fun index => ?_
  simp only [inFlight, List.getElem?_map]
  cases here : c.outbound[index]? with
  | none => rw [List.getElem?_eq_none (pass.length ▸ List.getElem?_eq_none_iff.mp here)]
  | some slot =>
    obtain ⟨refreshed, there, outcome⟩ := pass.slots index slot here
    rw [there]
    rcases outcome with rfl | ⟨_, _, rfl | ⟨rfl, _⟩⟩ <;> simp [OutboundSlot.holder]

/-- An accepted message takes a free slot. -/
theorem turns_publish {topic payload : Bytes} {qos : QoS} {retain : Bool} {now : UInt32}
    {id : UInt16} (tracked : qos ≠ .atMostOnce)
    (returned : (c.publish topic payload qos retain now).packetId = some id) :
    Turns c.inFlight (.taken id) (c.apply (.publish topic payload qos retain now)).inFlight := by
  rcases c.publish_cases topic payload qos retain now with
    ⟨_, _, _, _, _, _, _, same⟩ | ⟨_, untracked, _⟩ |
      ⟨_, _, _, place, slot, other, _, packet, _, here, isFree, _, _, _, _, _, _, same⟩
  · simp [same, refuse] at returned
  · exact absurd untracked tracked
  · obtain rfl : other = id := by simpa [same] using returned
    have empty : c.inFlight[place]? = some none := by
      simp [inFlight, here, OutboundSlot.holder, isFree]
    have changed : (c.apply (.publish topic payload qos retain now)).outbound =
        c.outbound.set place (filledSlot slot packet qos other now) := by
      rw [apply, react, same]
    have holder : (filledSlot slot packet qos other now).holder = some other := by
      rw [OutboundSlot.holder, if_neg]
      · rfl
      · simp only [filledSlot]
        split <;> simp
    rw [inFlight_set changed, holder]
    exact .taken place other empty

/-- A piece of code that changes no holder and reports nothing. -/
theorem turns_same (same : (c.apply label).inFlight = c.inFlight)
    (silent : ∀ id, (c.react label).callback ≠ some (.onDelivery id)) :
    Turns c.inFlight (Entry.turn ⟨c, label⟩) (c.apply label).inFlight := by
  unfold Entry.turn
  split
  · rename_i id reported
    exact absurd reported (silent id)
  split
  · rename_i topic payload qos retain now isLabel
    obtain rfl : label = .publish topic payload qos retain now := isLabel
    split
    · exact same ▸ .kept
    · rename_i tracked
      cases returned : (c.publish topic payload qos retain now).packetId with
      | none => simpa [Entry.reaction, react, returned, same] using Turns.kept
      | some id => simpa [Entry.reaction, react, returned] using turns_publish tracked returned
  · split
    · rename_i cleared
      exact .cleared _ ((held_inFlight _).trans cleared.2)
    · exact same ▸ .kept

/-- Every piece of code takes one turn. -/
theorem turns_apply (sized : c.SlotsSized) (label : Label) :
    Turns c.inFlight (Entry.turn ⟨c, label⟩) (c.apply label).inFlight := by
  cases c.apply_outboundEffect sized label with
  | kept aloof => exact turns_same (by rw [inFlight, apply, aloof.same, inFlight]) aloof.unreported
  | scribbled place slot packet here _ _ changed _ silent =>
    exact turns_same (inFlight_of_set here changed rfl) (by simp [silent])
  | filled topic payload qos retain now _ _ id _ isPublish _ tracked _ _ _ _ _ _ _ _ _ returned
      silent =>
    subst isPublish
    have isTurn : Entry.turn ⟨c, .publish topic payload qos retain now⟩ = .taken id := by
      simp [Entry.turn, Entry.reaction, silent, tracked, returned]
    exact isTurn ▸ turns_publish tracked returned
  | advanced _ _ _ id place slot _ _ _ here _ waiting outcome silent =>
    rcases outcome with ⟨_, changed, _⟩ | ⟨_, changed, _⟩ <;>
      exact turns_same (inFlight_of_set here changed (by
        simp [OutboundSlot.holder, pubrelSlot, waiting])) (by simp [silent])
  | repeated _ _ _ id place slot _ _ _ here _ _ outcome silent =>
    refine turns_same ?_ (by simp [silent])
    rcases outcome with ⟨_, changed, _⟩ | ⟨_, changed, _⟩
    · exact inFlight_of_set here changed rfl
    · rw [inFlight, changed, inFlight]
  | completed _ _ _ id place slot _ awaited _ here named changed _ reported =>
    have isTurn : Entry.turn ⟨c, label⟩ = .returned id := by
      simp [Entry.turn, Entry.reaction, reported]
    have holder : slot.holder = some id := by
      rcases awaited with ⟨_, phase⟩ | ⟨_, phase⟩ <;> simp [OutboundSlot.holder, phase, named]
    have free : slot.release.holder = none := rfl
    rw [isTurn, inFlight_set changed, free]
    exact .returned place id (by simp [inFlight, here, holder])
  | passed _ _ pass silent => exact turns_same (inFlight_of_pass pass) (by simp [silent])
  | discarded discards changed _ unreported =>
    have none : (c.apply label).inflightCount = 0 := by
      rw [inflightCount, changed]
      refine List.countP_eq_zero.mpr fun slot member => ?_
      obtain ⟨_, _, rfl⟩ := List.mem_map.mp member
      simp [OutboundSlot.release]
    have isTurn : Entry.turn ⟨c, label⟩ = .cleared := by
      unfold Entry.turn
      split
      · rename_i id reported
        exact absurd reported (unreported id)
      rcases discards with ⟨opts, now, rfl, clean⟩ | ⟨clean, rfl | rfl | ⟨reason, rfl⟩⟩ <;>
        exact if_pos ⟨clean, none⟩
    exact isTurn ▸ .cleared _ ((held_inFlight _).trans none)

end Turns

theorem History.conserves {log : Log cfg} (history : History log) :
    Conserves log.trace log.state := by
  refine history.invariant (fun log => Conserves log.trace log.state)
    (fun log label prior _ conserves => ?_)
    ⟨by simp [inflightCount, Client.initial, List.countP_replicate],
      fun id since => absurd since since_nil⟩
  have turns := turns_apply prior.slotsSized label
  refine ⟨?_, fun id since => ?_⟩
  · have step := turns.balance
    have before := conserves.balance
    rw [held_inFlight, held_inFlight] at step
    simp only [Logged.perform_trace, Logged.perform_state, List.map_append, List.sum_append,
      List.map_singleton, List.sum_singleton]
    omega
  · rw [Logged.perform_trace, since_snoc] at since
    rcases since with taken | ⟨since, lasts⟩
    · exact (taken ▸ turns : Turns _ (.taken id) _).holds
    · exact turns.stays (conserves.lasts id since) lasts

/-- At every moment of every run, each message that `publish()` accepted above QoS 0 is in
flight unless its delivery was reported or its session discarded, and the numbers add up. -/
theorem messages_conserved (cfg : Config) (env : Env) (application : Script) :
    Conserves (World.exec cfg env application).trace (World.exec cfg env application).client ∧
      ∀ past event after, (World.exec cfg env application).trace = past ++ event :: after →
        Conserves past event.before := by
  have history := World.exec_history cfg env application
  refine ⟨history.conserves, fun past event after split => ?_⟩
  obtain ⟨earlier, reached, rfl, isBefore, _⟩ := history.cut split
  exact isBefore ▸ reached.conserves

end Mqtt
