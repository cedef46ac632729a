import Mathlib.Order.Interval.Finset.Nat
import Mqtt.Client.State

/-!
# What the allocators hand out

Both allocators walk the ring of the 65535 non-zero identifiers. A value they hand
out is not in use, and they fail only when every value is.
-/

namespace Mqtt

variable {cfg : Config}

theorem toNat_nextId (id : UInt16) : (nextId id).toNat = id.toNat % 65535 + 1 := by
  have bound := id.toNat_lt
  unfold nextId
  split
  · rename_i last
    subst last
    rfl
  · rename_i inside
    have other : id.toNat ≠ 65535 := fun same => inside (UInt16.toNat_inj.mp same)
    rw [UInt16.toNat_add, UInt16.toNat_one]
    omega

/-- How many values the walk from `position` passes before it comes to `id`. -/
def idsBetween (position id : UInt16) : Nat :=
  (id.toNat + 65534 - position.toNat % 65535) % 65535

theorem idsBetween_first (position : UInt16) : idsBetween position (nextId position) = 0 := by
  have next := toNat_nextId position
  unfold idsBetween
  omega

/-- One step of the walk passes one value. -/
theorem idsBetween_nextId {position id : UInt16} (nonzero : id ≠ 0) (apart : id ≠ nextId position) :
    idsBetween position id = idsBetween (nextId position) id + 1 := by
  have next := toNat_nextId position
  have apart : id.toNat ≠ (nextId position).toNat := fun same => apart (UInt16.toNat_inj.mp same)
  have positive : id.toNat ≠ 0 := fun zero => nonzero (UInt16.toNat_inj.mp zero)
  have bound := id.toNat_lt
  unfold idsBetween
  omega

/-- The walk stops at the first free value and hands it out, or found every value it
came to in use. -/
theorem allocLoop_cases (inUse : UInt16 → Bool) (tries : Nat) (position : UInt16) :
    (∃ id ≠ 0, allocLoop inUse tries position = (id, id) ∧ inUse id = false ∧
      ∀ other : UInt16, other ≠ 0 → idsBetween position other < idsBetween position id →
        inUse other = true) ∨
    ((allocLoop inUse tries position).1 = 0 ∧
      ∀ id : UInt16, id ≠ 0 → idsBetween position id < tries → inUse id = true) := by
  induction tries generalizing position with
  | zero => exact .inr ⟨rfl, by simp⟩
  | succ tries ih =>
    rw [allocLoop]
    by_cases taken : inUse (nextId position) = true
    · -- Whatever is known of the values passed later holds of this one too.
      have further : ∀ {count : Nat},
          (∀ id : UInt16, id ≠ 0 → idsBetween (nextId position) id < count → inUse id = true) →
          ∀ id : UInt16, id ≠ 0 → idsBetween position id < count + 1 → inUse id = true := by
        intro count passed id nonzero near
        by_cases here : id = nextId position
        · rw [here, taken]
        · rw [idsBetween_nextId nonzero here] at near
          exact passed id nonzero (by omega)
      rw [if_neg (by simp [taken])]
      rcases ih (nextId position) with
        ⟨id, nonzero, found, free, passed⟩ | ⟨failed, passed⟩
      · have apart : id ≠ nextId position := by
          rintro rfl
          rw [taken] at free
          cases free
        refine .inl ⟨id, nonzero, found, free, ?_⟩
        rw [idsBetween_nextId nonzero apart]
        exact further passed
      · exact .inr ⟨failed, further passed⟩
    · have free : inUse (nextId position) = false := by simpa using taken
      have nonzero : nextId position ≠ 0 := fun zero => by
        have next := toNat_nextId position
        simp [zero] at next
      rw [if_pos (by simp [free])]
      refine .inl ⟨_, nonzero, rfl, free, fun other _ near => ?_⟩
      rw [idsBetween_first] at near
      exact absurd near (Nat.not_lt_zero _)

theorem allocLoop_unused {inUse : UInt16 → Bool} {tries : Nat} {position : UInt16}
    (given : (allocLoop inUse tries position).1 ≠ 0) :
    inUse (allocLoop inUse tries position).1 = false := by
  rcases allocLoop_cases inUse tries position with ⟨id, _, found, free, _⟩ | ⟨failed, _⟩
  · rwa [found]
  · exact absurd failed given

/-- A full trip fails only when nothing is free. -/
theorem allocLoop_ne_zero {inUse : UInt16 → Bool} {id : UInt16} (position : UInt16)
    (nonzero : id ≠ 0) (free : inUse id = false) : (allocLoop inUse 65535 position).1 ≠ 0 := by
  intro failed
  rcases allocLoop_cases inUse 65535 position with ⟨id, given, found, _⟩ | ⟨_, passed⟩
  · rw [found] at failed
    exact given failed
  · have taken := passed id nonzero (Nat.mod_lt _ (by decide))
    rw [free] at taken
    exact Bool.noConfusion taken

/-- The value the walk comes to after passing `count` others. -/
def idAfter (position : UInt16) (count : Nat) : UInt16 :=
  UInt16.ofNat ((position.toNat + count) % 65535 + 1)

theorem toNat_idAfter (position : UInt16) (count : Nat) :
    (idAfter position count).toNat = (position.toNat + count) % 65535 + 1 :=
  UInt16.toNat_ofNat_of_lt' (by rw [UInt16.size]; omega)

/-- Fewer values in use than the walk can pass leave one of those free. -/
theorem exists_unused_between {live : List UInt16} {count : Nat} (position : UInt16)
    (few : live.length < count) (within : count ≤ 65535) :
    ∃ id : UInt16, id ≠ 0 ∧ idsBetween position id < count ∧ id ∉ live := by
  by_contra crowded
  push Not at crowded
  have distinct : ((List.range count).map (idAfter position)).Nodup := by
    refine List.Nodup.map_on (fun first inFirst second inSecond same => ?_) List.nodup_range
    have sameValue := congrArg UInt16.toNat same
    rw [toNat_idAfter, toNat_idAfter] at sameValue
    rw [List.mem_range] at inFirst inSecond
    omega
  have covered : (List.range count).map (idAfter position) ⊆ live := by
    intro id member
    obtain ⟨passed, inRange, rfl⟩ := List.mem_map.mp member
    rw [List.mem_range] at inRange
    have value := toNat_idAfter position passed
    refine crowded _ (fun zero => ?_) ?_
    · rw [zero] at value
      exact Nat.succ_ne_zero _ value.symm
    · unfold idsBetween
      omega
  have counted := (distinct.subperm covered).length_le
  rw [List.length_map, List.length_range] at counted
  omega

/-- Fewer than 65535 values in use leave one free. -/
theorem exists_unused {live : List UInt16} (few : live.length < 65535) :
    ∃ id : UInt16, id ≠ 0 ∧ id ∉ live := by
  obtain ⟨id, nonzero, _, free⟩ := exists_unused_between 0 few (Nat.le_refl _)
  exact ⟨id, nonzero, free⟩

/-- There are 65535 values to hand out. -/
theorem length_le_of_nonzero {ids : List UInt16} (distinct : ids.Nodup)
    (nonzero : ∀ id ∈ ids, id ≠ 0) : ids.length ≤ 65535 := by
  have values : (ids.map UInt16.toNat).Nodup := distinct.map fun _ _ => UInt16.toNat_inj.mp
  have within : (ids.map UInt16.toNat).toFinset ⊆ Finset.Icc 1 65535 := by
    intro value member
    rw [List.mem_toFinset] at member
    obtain ⟨id, given, rfl⟩ := List.mem_map.mp member
    have positive : id.toNat ≠ 0 := fun zero => nonzero id given (UInt16.toNat_inj.mp zero)
    have bound := id.toNat_lt
    rw [Finset.mem_Icc]
    omega
  have counted := Finset.card_le_card within
  rwa [List.toFinset_card_of_nodup values, List.length_map, Nat.card_Icc] at counted

namespace Client

/-! ## Packet ids -/

/-- The ids of what is in flight and of what is awaited. -/
def liveIds (c : Client cfg) : List UInt16 :=
  (c.outbound.filter fun slot => slot.phase ≠ .free).map (·.packetId) ++
    c.pending.map (·.packetId)

theorem packetIdInUse_iff (c : Client cfg) (id : UInt16) :
    c.packetIdInUse id = true ↔ id ∈ c.liveIds := by
  simp only [packetIdInUse, liveIds, Bool.or_eq_true, List.any_eq_true, Bool.and_eq_true,
    decide_eq_true_eq, List.mem_append, List.mem_map, List.mem_filter, and_assoc]

theorem allocPacketId_unused (c : Client cfg) (given : c.allocPacketId.1 ≠ 0) :
    c.allocPacketId.1 ∉ c.liveIds := by
  rw [← c.packetIdInUse_iff, Bool.not_eq_true]
  exact allocLoop_unused given

/-- A packet id that is free is given when its turn comes. -/
theorem allocPacketId_next {c : Client cfg} (free : nextId c.nextPacketId ∉ c.liveIds) :
    c.allocPacketId =
      (nextId c.nextPacketId, { c with nextPacketId := nextId c.nextPacketId }) := by
  have unused : c.packetIdInUse (nextId c.nextPacketId) = false := by
    rwa [← Bool.not_eq_true, c.packetIdInUse_iff]
  unfold allocPacketId
  rw [show 65535 = 65534 + 1 from rfl, allocLoop, unused]
  rfl

theorem allocPacketId_ne_zero (c : Client cfg) (few : c.liveIds.length < 65535) :
    c.allocPacketId.1 ≠ 0 := by
  obtain ⟨id, nonzero, free⟩ := exists_unused few
  refine allocLoop_ne_zero c.nextPacketId nonzero ?_
  rwa [← Bool.not_eq_true, c.packetIdInUse_iff]

/-! ## Subscription ids -/

theorem findBySubId_isSome_iff (c : Client cfg) (sid : UInt16) :
    (c.findBySubId sid).isSome = true ↔ sid ∈ c.subscriptions.map (·.subId) := by
  simp [findBySubId, List.findIdx?_isSome, List.any_eq_true]

theorem allocSubId_unused (c : Client cfg) (given : c.allocSubId.1 ≠ 0) :
    c.allocSubId.1 ∉ c.subscriptions.map (·.subId) := by
  rw [← c.findBySubId_isSome_iff, Bool.not_eq_true]
  exact allocLoop_unused given

/-- Every identity that was passed is in the table. -/
theorem allocSubId_first (c : Client cfg) (given : c.allocSubId.1 ≠ 0) :
    c.allocSubId.2.nextSubId = c.allocSubId.1 ∧ ∀ sid : UInt16, sid ≠ 0 →
      idsBetween c.nextSubId sid < idsBetween c.nextSubId c.allocSubId.1 →
      sid ∈ c.subscriptions.map (·.subId) := by
  unfold allocSubId at given ⊢
  rcases allocLoop_cases (fun sid => (c.findBySubId sid).isSome) 65535 c.nextSubId with
    ⟨id, _, found, _, passed⟩ | ⟨failed, _⟩
  · simp only [found]
    refine ⟨trivial, fun sid nonzero near => ?_⟩
    rw [← c.findBySubId_isSome_iff]
    exact passed sid nonzero near
  · exact absurd failed given

theorem allocSubId_ne_zero (c : Client cfg) (few : c.subscriptions.length < 65535) :
    c.allocSubId.1 ≠ 0 := by
  obtain ⟨sid, nonzero, free⟩ :=
    @exists_unused (c.subscriptions.map (·.subId)) (by rwa [List.length_map])
  refine allocLoop_ne_zero c.nextSubId nonzero ?_
  rwa [← Bool.not_eq_true, c.findBySubId_isSome_iff]

/-- The allocator gives up only when all 65535 values are in use, and then zero is
not, unless the table is larger still. -/
theorem allocSubId_fresh (c : Client cfg) (few : c.subscriptions.length ≤ 65535) :
    c.allocSubId.1 ∉ c.subscriptions.map (·.subId) := by
  by_cases failed : c.allocSubId.1 = 0
  · rw [failed]
    intro present
    have shorter := List.length_erase_of_mem present
    have positive := List.length_pos_of_mem present
    rw [List.length_map] at shorter positive
    obtain ⟨sid, nonzero, free⟩ :=
      @exists_unused ((c.subscriptions.map (·.subId)).erase 0) (by omega)
    refine allocLoop_ne_zero c.nextSubId nonzero ?_ failed
    rw [← Bool.not_eq_true, c.findBySubId_isSome_iff]
    exact fun member => free ((List.mem_erase_of_ne nonzero).mpr member)
  · exact c.allocSubId_unused failed

end Client
end Mqtt
