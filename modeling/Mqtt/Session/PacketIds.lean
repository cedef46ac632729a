import Mqtt.Session.Retransmission
import Mqtt.Session.SubscriptionTable

/-!
# Packet ids in use

A packet id is handed out only while nothing in flight and no awaited request has
it, so no two of them ever share one.
-/

namespace Mqtt

open Library

variable {cfg : Config}

namespace Client

variable (c : Client cfg)

/-- Requests leave the list, or one with a fresh id joins it. -/
theorem pending_cases (label : Label) :
    (c.apply label).pending.Sublist c.pending ∨
    ∃ ack : PendingAck, (c.apply label).pending = c.pending ++ [ack] ∧
      ack.packetId = c.allocPacketId.1 ∧ c.allocPacketId.1 ≠ 0 ∧ c.ackTableFull = false ∧
      label.isPublish = false := by
  cases c.apply_tableEffect label with
  | kept _ pending => exact .inl (by rw [pending])
  | subscribed _ _ _ isSubscribe _ _ room _ nonzero _ _ pending =>
    exact .inr ⟨_, pending, rfl, nonzero, room, by rw [isSubscribe]; rfl⟩
  | unsubscribed _ _ isUnsubscribe _ room nonzero _ _ pending =>
    exact .inr ⟨_, pending, rfl, nonzero, room, by rw [isUnsubscribe]; rfl⟩
  | resubscribed _ isResubscribe room nonzero _ _ pending =>
    exact .inr ⟨_, pending, rfl, nonzero, room, by rw [isResubscribe]; rfl⟩
  | answered _ _ _ _ _ _ _ _ _ _ _ pending =>
    exact .inl (by rw [pending]; exact List.eraseP_sublist)
  | withdrawn _ _ _ _ _ _ _ _ _ _ pending =>
    exact .inl (by rw [pending]; exact List.eraseP_sublist)
  | forgotten _ _ _ pending => exact .inl (by rw [pending])
  | ended _ _ pending => exact .inl (by rw [pending]; exact List.nil_sublist _)

/-- An id a `publish()` returns was free. -/
theorem publish_packetId {topic payload : Bytes} {qos : QoS} {retain : Bool} {now : UInt32}
    {id : UInt16} (returned : (c.publish topic payload qos retain now).packetId = some id) :
    id = c.allocPacketId.1 ∧ c.allocPacketId.1 ≠ 0 := by
  rcases c.publish_cases topic payload qos retain now with
    ⟨_, _, _, _, _, _, _, same⟩ | ⟨_, _, _, _, _, same⟩ |
      ⟨_, _, _, _, _, given, _, _, _, _, _, allocated, nonzero, _, _, _, _, same⟩
  · simp [same, refuse] at returned
  · simp [same] at returned
  · obtain rfl : given = id := by simpa [same] using returned
    exact ⟨allocated.symm, allocated ▸ nonzero⟩

/-- A slot in flight keeps its id; only a `publish()` gives it a new one. -/
theorem slot_id_cases (sized : c.SlotsSized) {label : Label} {index : Nat} {after : OutboundSlot}
    (there : (c.apply label).outbound[index]? = some after) (inFlight : after.phase ≠ .free) :
    (∃ slot, c.outbound[index]? = some slot ∧ slot.phase ≠ .free ∧
      slot.packetId = after.packetId) ∨
    (label.isPublish = true ∧ after.packetId = c.allocPacketId.1 ∧ c.allocPacketId.1 ≠ 0 ∧
      ∃ bytes, (c.react label).queued = [{ slot := some index, bytes := bytes }]) := by
  have fate := slot_cases sized there inFlight
  by_cases fills : Entry.Fills index ⟨c, label⟩
  · obtain ⟨topic, payload, qos, retain, now, slot, id, rfl, _, _, _, _, changed, queued,
      returned⟩ := fills_cases sized fills
    obtain ⟨rfl, nonzero⟩ := c.publish_packetId returned
    refine .inr ⟨rfl, ?_, nonzero, _, queued⟩
    rw [changed] at there
    rcases getElem?_set_cases there with ⟨_, rfl⟩ | ⟨different, _⟩
    · rfl
    · exact absurd rfl different
  · exact .inl (fate.inFlight inFlight fills)

/-- No two live packet ids are the same. -/
structure IdsApart (c : Client cfg) : Prop where
  slots : ∀ {first second : Nat} {one other : OutboundSlot},
    c.outbound[first]? = some one → c.outbound[second]? = some other → one.phase ≠ .free →
    other.phase ≠ .free → one.packetId = other.packetId → first = second
  pending : (c.pending.map (·.packetId)).Nodup
  apart : ∀ {index : Nat} {slot : OutboundSlot}, c.outbound[index]? = some slot →
    slot.phase ≠ .free → ∀ ack ∈ c.pending, slot.packetId ≠ ack.packetId

variable {c}

theorem mem_liveIds_of_slot {index : Nat} {slot : OutboundSlot}
    (here : c.outbound[index]? = some slot) (inFlight : slot.phase ≠ .free) :
    slot.packetId ∈ c.liveIds := by
  refine List.mem_append_left _ (List.mem_map_of_mem (List.mem_filter.mpr ⟨?_, by simpa⟩))
  exact List.mem_of_getElem? here

theorem mem_liveIds_of_pending {ack : PendingAck} (member : ack ∈ c.pending) :
    ack.packetId ∈ c.liveIds :=
  List.mem_append_right _ (List.mem_map_of_mem member)

/-- One piece of code keeps them so. -/
theorem IdsApart.step (ids : c.IdsApart) (sized : c.SlotsSized) (label : Label) :
    (c.apply label).IdsApart where
  slots := by
    intro first second one other here there oneFlies otherFlies same
    rcases c.slot_id_cases sized here oneFlies with
      ⟨old, was, flew, kept⟩ | ⟨_, given, nonzero, _, queued⟩ <;>
      rcases c.slot_id_cases sized there otherFlies with
        ⟨old', was', flew', kept'⟩ | ⟨_, given', nonzero', _, queued'⟩
    · exact ids.slots was was' flew flew' (kept.trans (same.trans kept'.symm))
    · have live := mem_liveIds_of_slot was flew
      rw [kept, same, given'] at live
      exact absurd live (c.allocPacketId_unused nonzero')
    · have live := mem_liveIds_of_slot was' flew'
      rw [kept', ← same, given] at live
      exact absurd live (c.allocPacketId_unused nonzero)
    · have tags := queued.symm.trans queued'
      simp only [List.cons.injEq, Queued.mk.injEq, Option.some.injEq, and_true] at tags
      exact tags.1
  pending := by
    rcases c.pending_cases label with fewer | ⟨ack, joined, fresh, nonzero, _⟩
    · exact ids.pending.sublist (fewer.map _)
    · rw [joined, List.map_append, List.nodup_append]
      refine ⟨ids.pending, by simp, fun id member last isLast same => ?_⟩
      obtain ⟨older, among, rfl⟩ := List.mem_map.mp member
      have live := mem_liveIds_of_pending among
      obtain rfl : last = ack.packetId := by simpa using isLast
      rw [same, fresh] at live
      exact c.allocPacketId_unused nonzero live
  apart := by
    intro index slot there inFlight ack member same
    rcases c.slot_id_cases sized there inFlight with
      ⟨old, was, flew, kept⟩ | ⟨isPublish, given, nonzero, _⟩ <;>
      rcases c.pending_cases label with fewer | ⟨new, joined, fresh, nonzero', _, notPublish⟩
    · exact ids.apart was flew ack (fewer.subset member) (kept.trans same)
    · rw [joined, List.mem_append, List.mem_singleton] at member
      rcases member with among | rfl
      · exact ids.apart was flew ack among (kept.trans same)
      · have live := mem_liveIds_of_slot was flew
        rw [kept, same, fresh] at live
        exact c.allocPacketId_unused nonzero' live
    · have live := mem_liveIds_of_pending (fewer.subset member)
      rw [← same, given] at live
      exact c.allocPacketId_unused nonzero live
    · simp [isPublish] at notPublish

end Client

open Client

/-- In every history live packet ids are apart. -/
theorem History.idsApart {log : Log cfg} (history : History log) : log.state.IdsApart := by
  refine history.invariant (fun log => log.state.IdsApart)
    (fun log label prior _ ids => ids.step prior.slotsSized label)
    ⟨?_, by simp [Client.initial], ?_⟩
  · intro first second one other here there flies
    obtain rfl := List.eq_of_mem_replicate (List.mem_of_getElem? here)
    exact absurd rfl flies
  · intro index slot here flies
    obtain rfl := List.eq_of_mem_replicate (List.mem_of_getElem? here)
    exact absurd rfl flies

/-- The slot found under an id is the one in flight with it. -/
theorem Client.IdsApart.findOutbound {c : Client cfg} (ids : c.IdsApart) {index : Nat}
    {slot : OutboundSlot} (here : c.outbound[index]? = some slot) (inFlight : slot.phase ≠ .free) :
    c.findOutbound slot.packetId = some index := by
  cases found : c.findOutbound slot.packetId with
  | none =>
    unfold Client.findOutbound at found
    have absent := List.findIdx?_eq_none_iff.mp found slot (List.mem_of_getElem? here)
    simp [inFlight] at absent
  | some other =>
    obtain ⟨otherSlot, there, _, flies, named⟩ := findOutbound_some found
    rw [ids.slots there here flies inFlight named]

end Mqtt
