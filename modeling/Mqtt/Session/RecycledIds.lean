import Mqtt.Session.AckIdentity

/-!
# Identities handed out again

`alloc_sub_id` passes over the identities of the entries in the table, not over those
that `pending_` still names after their entries have gone. An identity is handed out
under an awaited acknowledgement where the counter comes round to one of the latter. It
cannot come that far in one `subscribe()` while more identities lie ahead of it than the
table will hold. With 65535 entries it does.
-/

namespace Mqtt

open Library

variable {cfg : Config} {sid : UInt16} {s : Subscription}

/-! ## The contract -/

/-- The packet id of the request that a SUBACK or an UNSUBACK answers. -/
def Label.acknowledges : Label → Option UInt16
  | .handle header body _ =>
    match header.type with
    | .suback => (decodeSuback body).toOption.map (·.packetId)
    | .unsuback => (decodePacketId body).toOption
    | _ => none
  | _ => none

/-- No identity is handed out while `pending_` names it, and an acknowledgement changes
only entries that have been there since its request. -/
structure NeverRecycled (trace : Trace cfg) : Prop where
  fresh : ∀ event ∈ trace, event.reissues = false
  applied : ∀ before event after id, trace = before ++ event :: after →
    event.label.acknowledges = some id → ∀ s ∈ event.before.subscriptions,
    s ∉ (event.before.apply event.label).subscriptions →
    ∃ request sent between, request.packetId = some id ∧
      Outstanding before request sent between ∧ KeptThrough between s.filter

/-- A `subscribe()` finds each identity that `pending_` names on an entry of the table, or
further ahead than its own entries can take the counter. -/
def Library.Entry.outruns (event : Event cfg) : Bool :=
  match event.label with
  | .subscribe subs _ _ =>
    event.before.pending.all fun ack => ack.subs.all fun sid =>
      (sid ≠ 0 && sid ∈ event.before.subscriptions.map (·.subId)) ||
        event.before.subscriptions.length + event.before.newEntries subs ≤
          idsBetween event.before.nextSubId sid
  | _ => true

/-! ## The counter -/

/-- The counter has come no further than `limit` from where it was, and every identity it
has come to is in the table. -/
def Client.Walked (start : UInt16) (limit : Nat) (c : Client cfg) : Prop :=
  ∃ walked ≤ limit, c.nextSubId.toNat % 65535 = (start.toNat + walked) % 65535 ∧
    ∀ sid : UInt16, sid ≠ 0 → idsBetween start sid < walked →
      sid ∈ c.subscriptions.map (·.subId)

/-- A table smaller than the limit has an identity free before it, so the next one handed
out lies before it. -/
theorem Client.Walked.alloc {start : UInt16} {limit : Nat} {c : Client cfg}
    (walked : c.Walked start limit) (small : c.subscriptions.length < limit)
    (within : limit < 65535) :
    idsBetween start c.allocSubId.1 < limit ∧
      ∀ d : Client cfg, d.nextSubId = c.allocSubId.2.nextSubId →
        (∀ sid ∈ c.allocSubId.1 :: c.subscriptions.map (·.subId),
          sid ∈ d.subscriptions.map (·.subId)) → d.Walked start limit := by
  obtain ⟨steps, bound, position, passed⟩ := walked
  have given : c.allocSubId.1 ≠ 0 := c.allocSubId_ne_zero (by omega)
  obtain ⟨stops, between⟩ := c.allocSubId_first given
  have positive : c.allocSubId.1.toNat ≠ 0 := fun zero => given (UInt16.toNat_inj.mp zero)
  have small16 := c.allocSubId.1.toNat_lt
  -- Seen from the start, the walk goes on where it stood.
  have onward : ∀ sid : UInt16, sid ≠ 0 → steps ≤ idsBetween start sid →
      idsBetween start sid = steps + idsBetween c.nextSubId sid := by
    intro sid nonzero beyond
    have sidPositive : sid.toNat ≠ 0 := fun zero => nonzero (UInt16.toNat_inj.mp zero)
    have sidBound := sid.toNat_lt
    unfold idsBetween at beyond ⊢
    omega
  have inUse : ∀ sid : UInt16, sid ≠ 0 →
      idsBetween start sid < steps + idsBetween c.nextSubId c.allocSubId.1 →
      sid ∈ c.subscriptions.map (·.subId) := by
    intro sid nonzero near
    by_cases early : idsBetween start sid < steps
    · exact passed sid nonzero early
    · have distance := onward sid nonzero (by omega)
      exact between sid nonzero (by omega)
  have before : steps + idsBetween c.nextSubId c.allocSubId.1 < limit := by
    by_contra reached
    obtain ⟨sid, nonzero, near, free⟩ := @exists_unused_between (c.subscriptions.map (·.subId))
      limit start (by rwa [List.length_map]) (by omega)
    exact free (inUse sid nonzero (by omega))
  have distance : idsBetween start c.allocSubId.1 =
      steps + idsBetween c.nextSubId c.allocSubId.1 := by
    unfold idsBetween at before ⊢
    omega
  refine ⟨by omega, fun d isNext holds =>
    ⟨steps + idsBetween c.nextSubId c.allocSubId.1 + 1, before, ?_, fun sid nonzero near => ?_⟩⟩
  · rw [isNext, stops]
    unfold idsBetween
    omega
  · by_cases isGiven : sid = c.allocSubId.1
    · exact holds sid (by simp [isGiven])
    · refine holds sid (List.mem_cons_of_mem _ (inUse sid nonzero ?_))
      have apart : sid.toNat ≠ c.allocSubId.1.toNat := fun same =>
        isGiven (UInt16.toNat_inj.mp same)
      have sidPositive : sid.toNat ≠ 0 := fun zero => nonzero (UInt16.toNat_inj.mp zero)
      have sidBound := sid.toNat_lt
      unfold idsBetween at near distance ⊢
      omega

/-! ## Registering a request -/

namespace Client

variable (c : Client cfg)

theorem newEntries_pos {subs : List TopicSubscription} {asked : TopicSubscription}
    (absent : asked.filter ∉ c.subscriptions.map (·.filter)) : 0 < c.newEntries (asked :: subs) := by
  have isNew := (c.isNone_findSubscription asked.filter).mpr absent
  simp [newEntries, isNew]

theorem keys_subset_enrolled (subs : List TopicSubscription) (handler : Option Nat) :
    c.subscriptions.map Subscription.key ⊆
      (c.enrolled subs handler).1.subscriptions.map Subscription.key := by
  induction subs using List.reverseRecOn with
  | nil => exact List.Subset.refl _
  | append_singleton subs asked ih =>
    rw [enrolled_snoc]
    rcases (c.enrolled subs handler).1.registerFilter_keys handler (c.enrolled subs handler).2
        asked with ⟨_, keys⟩ | ⟨_, keys⟩ <;> rw [keys]
    · exact ih
    · exact List.Subset.trans ih (List.subset_append_left _ _)

/-- Every new key was handed out when its filter's turn came. -/
theorem enrolled_given (subs : List TopicSubscription) (handler : Option Nat)
    {key : Bytes × UInt16}
    (member : key ∈ (c.enrolled subs handler).1.subscriptions.map Subscription.key) :
    key ∈ c.subscriptions.map Subscription.key ∨
      ∃ front asked rest, subs = front ++ asked :: rest ∧
        asked.filter ∉ (c.enrolled front handler).1.subscriptions.map (·.filter) ∧
        key = (asked.filter, (c.enrolled front handler).1.allocSubId.1) := by
  induction subs using List.reverseRecOn with
  | nil => exact .inl member
  | append_singleton subs asked ih =>
    rw [enrolled_snoc] at member
    rcases (c.enrolled subs handler).1.registerFilter_keys handler (c.enrolled subs handler).2
        asked with ⟨_, keys⟩ | ⟨absent, keys⟩ <;> rw [keys] at member
    case inl =>
      refine (ih member).imp_right ?_
      rintro ⟨front, other, rest, split, given⟩
      exact ⟨front, other, rest ++ [asked], by simp [split], given⟩
    case inr =>
      rcases List.mem_append.mp member with old | new
      · refine (ih old).imp_right ?_
        rintro ⟨front, other, rest, split, given⟩
        exact ⟨front, other, rest ++ [asked], by simp [split], given⟩
      · exact .inr ⟨subs, asked, [], rfl, absent, List.mem_singleton.mp new⟩

/-- The counter stays within the room that a request was found to need. -/
theorem enrolled_walked {limit : Nat} (within : limit < 65535) (subs rest : List TopicSubscription)
    (handler : Option Nat)
    (room : c.subscriptions.length + c.newEntries (subs ++ rest) ≤ limit) :
    (c.enrolled subs handler).1.Walked c.nextSubId limit := by
  induction subs using List.reverseRecOn generalizing rest with
  | nil => exact ⟨0, Nat.zero_le _, rfl, fun _ _ near => absurd near (Nat.not_lt_zero _)⟩
  | append_singleton subs asked ih =>
    rw [List.append_assoc, List.singleton_append] at room
    have walked := ih (asked :: rest) room
    have budget := c.enrolled_budget subs (asked :: rest) handler
    rw [enrolled_snoc]
    rcases registerFilter_cases handler (c.enrolled subs handler).1
        (c.enrolled subs handler).2 asked with
      ⟨old, member, named, same⟩ | ⟨absent, same⟩ <;> rw [same]
    · have sameIds : (updateFirst (fun s => s.filter = asked.filter)
          (Subscription.refreshed asked handler) (c.enrolled subs handler).1.subscriptions).map
            (·.subId) = (c.enrolled subs handler).1.subscriptions.map (·.subId) :=
        @map_updateFirst _ _ _ (Subscription.refreshed asked handler) (·.subId) (fun _ _ => rfl) _
      obtain ⟨steps, bound, position, passed⟩ := walked
      exact ⟨steps, bound, position, fun sid nonzero near => sameIds ▸ passed sid nonzero near⟩
    · have isNew : asked.filter ∉ (c.enrolled subs handler).1.subscriptions.map (·.filter) := by
        rintro present
        obtain ⟨old, member, named⟩ := List.mem_map.mp present
        exact absent old member named
      have positive := @newEntries_pos _ (c.enrolled subs handler).1 rest asked isNew
      refine (walked.alloc (by omega) within).2 _ rfl fun sid member => ?_
      rw [List.map_append]
      rcases List.mem_cons.mp member with rfl | old
      · exact List.mem_append_right _ (List.mem_singleton_self _)
      · exact List.mem_append_left _ old

variable {c}

/-- An identity on an entry, or far enough ahead, is not handed out. -/
theorem allocSubId_ne {subs front rest : List TopicSubscription} {asked : TopicSubscription}
    {handler : Option Nat} (split : subs = front ++ asked :: rest)
    (absent : asked.filter ∉ (c.enrolled front handler).1.subscriptions.map (·.filter))
    (clear : (sid ≠ 0 ∧ sid ∈ c.subscriptions.map (·.subId)) ∨
      c.subscriptions.length + c.newEntries subs ≤ idsBetween c.nextSubId sid) :
    (c.enrolled front handler).1.allocSubId.1 ≠ sid := by
  rcases clear with ⟨nonzero, present⟩ | far
  · rintro rfl
    refine allocSubId_unused _ nonzero ?_
    rw [← subIds_eq] at present ⊢
    exact (List.map_subset _ (c.keys_subset_enrolled front handler)) present
  · have within : idsBetween c.nextSubId sid < 65535 := Nat.mod_lt _ (by decide)
    have budget := c.enrolled_budget front (asked :: rest) handler
    have positive := @newEntries_pos _ (c.enrolled front handler).1 rest asked absent
    rw [split] at far
    have walked := c.enrolled_walked within front (asked :: rest) handler far
    have near := (walked.alloc (by omega) within).1
    rintro rfl
    exact absurd near (Nat.lt_irrefl _)

end Client

theorem reissues_eq_false {event : Event cfg} (outruns : event.outruns = true) :
    event.reissues = false := by
  obtain ⟨c, label⟩ := event
  by_contra reissues
  rw [Bool.not_eq_false] at reissues
  obtain ⟨sid, handed, among⟩ := List.any_eq_true.mp reissues
  obtain ⟨ack, awaited, named⟩ := List.any_eq_true.mp among
  obtain ⟨s, inAfter, rfl⟩ := List.mem_map.mp handed
  obtain ⟨member, unheld⟩ := List.mem_filter.mp inAfter
  have isNew : s.key ∉ c.subscriptions.map Subscription.key := by
    intro old
    have inFilters := List.mem_map_of_mem (f := Prod.fst) old
    rw [filters_eq] at inFilters
    exact of_decide_eq_true unheld inFilters
  have inKeys := List.mem_map_of_mem (f := Subscription.key) member
  -- Only `subscribe()` adds an entry.
  rcases c.keys_cases label with fewer | ⟨subs, handler, now, rfl, _, _, table⟩
  · exact isNew (fewer.subset inKeys)
  simp only [Entry.outruns, List.all_eq_true, Bool.or_eq_true, Bool.and_eq_true,
    decide_eq_true_eq] at outruns
  rcases c.enrolled_given subs handler (table ▸ inKeys) with
    old | ⟨front, asked, rest, split, absent, given⟩
  · exact isNew old
  · exact Client.allocSubId_ne split absent
      (outruns ack awaited s.subId (of_decide_eq_true named)) (congrArg Prod.snd given).symm

/-! ## Acknowledgements -/

/-- An entry no answer is about stays as it is. -/
theorem mem_answers_of_unnamed {answers : List (UInt8 × UInt16)} {table : List Subscription}
    (member : s ∈ table) (unnamed : s.subId ∉ answers.map Prod.snd) :
    s ∈ answers.foldl answerOne table := by
  induction answers generalizing table with
  | nil => exact member
  | cons answer rest ih =>
    rw [List.map_cons, List.mem_cons, not_or] at unnamed
    refine ih ?_ unnamed.2
    unfold answerOne
    split
    · exact (List.mem_eraseP_of_neg (by simpa using unnamed.1)).mpr member
    · exact mem_updateFirst_of_neg member (by simpa using unnamed.1)

theorem mem_eraseAll_of_unnamed {ids : List UInt16} {table : List Subscription}
    (member : s ∈ table) (unnamed : s.subId ∉ ids) : s ∈ eraseAll ids table := by
  induction ids generalizing table with
  | nil => exact member
  | cons sid rest ih =>
    rw [List.mem_cons, not_or] at unnamed
    rw [eraseAll, List.foldl_cons, ← eraseAll]
    exact ih
      ((List.mem_eraseP_of_neg (by simpa using unnamed.1)).mpr member) unnamed.2

theorem Label.acknowledges_cases {label : Label} {id : UInt16}
    (acknowledges : label.acknowledges = some id) :
    ∃ header body now, label = .handle header body now ∧
      ((header.type = .suback ∧ ∃ v, decodeSuback body = .ok v ∧ v.packetId = id) ∨
        (header.type = .unsuback ∧ decodePacketId body = .ok id)) := by
  cases label with
  | handle header body now =>
    refine ⟨header, body, now, rfl, ?_⟩
    simp only [Label.acknowledges] at acknowledges
    split at acknowledges
    · rename_i isSuback
      cases decoded : decodeSuback body with
      | error error => simp [decoded, Except.toOption] at acknowledges
      | ok v => exact .inl ⟨isSuback, v, rfl, by simpa [decoded, Except.toOption] using
        acknowledges⟩
    · rename_i isUnsuback
      cases decoded : decodePacketId body with
      | error error => simp [decoded, Except.toOption] at acknowledges
      | ok other =>
        obtain rfl : other = id := by simpa [decoded, Except.toOption] using acknowledges
        exact .inr ⟨isUnsuback, rfl⟩
    · cases acknowledges
  | _ => cases acknowledges

/-- An acknowledgement changes only entries that its request is about. -/
theorem Client.changed_named {c : Client cfg} {label : Label} {id : UInt16}
    (acknowledges : label.acknowledges = some id) (member : s ∈ c.subscriptions)
    (changed : s ∉ (c.apply label).subscriptions) :
    ∃ ack ∈ c.pending, ack.packetId = id ∧ s.subId ∈ ack.subs := by
  obtain ⟨header, body, now, rfl, ⟨isSuback, v, decoded, rfl⟩ | ⟨isUnsuback, decoded⟩⟩ :=
    Label.acknowledges_cases acknowledges
  · rw [Client.apply, Client.react, Client.handlePacket, isSuback] at changed
    simp only [Client.handleSuback, decoded] at changed
    cases found : c.findPending v.packetId .suback with
    | none => exact absurd member (by simpa only [found] using changed)
    | some ack =>
      obtain ⟨awaited, isId, _⟩ := Client.findPending_mem found
      refine ⟨ack, awaited, isId, ?_⟩
      by_contra unnamed
      simp only [found] at changed
      split at changed
      · exact changed member
      · simp only [Client.removePending, Client.foldl_applyReturnCode_eq] at changed
        refine changed (mem_answers_of_unnamed member fun inZip => unnamed ?_)
        obtain ⟨answer, inAnswers, same⟩ := List.mem_map.mp inZip
        exact same ▸ (List.of_mem_zip inAnswers).2
  · rw [Client.apply, Client.react, Client.handlePacket, isUnsuback] at changed
    simp only [Client.handleUnsuback, decoded] at changed
    cases found : c.findPending id .unsuback with
    | none => exact absurd member (by simpa only [found] using changed)
    | some ack =>
      obtain ⟨awaited, isId, _⟩ := Client.findPending_mem found
      refine ⟨ack, awaited, isId, ?_⟩
      by_contra unnamed
      simp only [found, Client.removePending, Client.foldl_eraseSubscription_eq] at changed
      exact changed (mem_eraseAll_of_unnamed member unnamed)

/-- In every run whose `subscribe()` calls outrun the awaited acknowledgements, no identity
is recycled under one. -/
theorem never_recycled (cfg : Config) (env : Env) (application : Script)
    (outruns : ∀ event ∈ (World.exec cfg env application).trace, event.outruns = true) :
    NeverRecycled (World.exec cfg env application).trace where
  fresh event member := reissues_eq_false (outruns event member)
  applied before event after id split acknowledges s member changed := by
    obtain ⟨earlier, reached, rfl, here, _⟩ := (World.exec_history cfg env application).cut split
    obtain ⟨ack, awaited, rfl, named⟩ := Client.changed_named acknowledges member changed
    rw [here] at awaited member
    obtain ⟨start, sent, between, _, _, opens, outstanding, _, descends⟩ :=
      reached.request_of_awaited awaited
    obtain ⟨request, sends, isId⟩ : ∃ request, sent.Sends request ∧
        request.packetId = some ack.packetId := by
      cases opens with
      | subscribe filters _ sends => exact ⟨_, sends, rfl⟩
      | unsubscribe filters _ sends => exact ⟨_, sends, rfl⟩
    have awaitedRequest := outstanding request sends isId
    refine ⟨request, sent, between, isId, awaitedRequest, descends.named ?_ s member named⟩
    obtain ⟨front, isBefore⟩ := awaitedRequest.split
    intro event among
    exact reissues_eq_false (outruns event (by rw [split, isBefore]; simp [among]))

namespace RecycledIds

/-- A filter is refused while the end of its subscription is awaited, then taken again. -/
def application : Script :=
  .connect { clientId := [97] } (.step (.subscribe [{ filter := [97] }] none
    (.unsubscribe [[97]] (.step (.subscribe [{ filter := [97] }] none (.step .done))))))

/-- The UNSUBACK arrives last. -/
def env : Env where
  opens := [.ok]
  sends := [(.ok, 15), (.ok, 15), (.ok, 8)]
  recvs := [(.ok, [0x20, 2, 0, 0]), (.wouldBlock, []), (.ok, [0x90, 3, 0, 1, 0x80]),
    (.wouldBlock, []), (.ok, [0xb0, 2, 0, 2])]

def run : World .small := World.exec .small env application

end RecycledIds

theorem never_recycled_late_unsuback :
    NeverRecycled RecycledIds.run.trace ∧
      RecycledIds.run.client.pending.map (·.packetId) = [3] ∧
      RecycledIds.run.client.subscriptions.map Subscription.key = [([97], 2)] :=
  ⟨never_recycled .small RecycledIds.env RecycledIds.application (by decide +kernel),
    by decide +kernel, by decide +kernel⟩

/-! ## An identity handed out again

The handler of the refusal asks for one filter more. Its entry is given the identity that the
refusal has freed, which the first request's acknowledgement still names. -/

/-- Every entry of a table that was empty is one the acknowledgement names. -/
theorem Client.mem_enrolled_ids {c : Client cfg} (empty : c.subscriptions = [])
    {subs : List TopicSubscription}
    (member : s ∈ (c.enrolled subs none).1.subscriptions) : s.subId ∈ (c.enrolled subs none).2 := by
  have enrolled := c.enrolled_spec (by simp [empty]) subs none
  rcases enrolled.entries s member with ⟨old, _⟩ | ⟨_, named⟩
  · rw [empty] at old
    cases old
  obtain ⟨asked, among, isFilter, _⟩ := mem_of_askedLast named
  obtain ⟨place, within, rfl⟩ := List.getElem_of_mem among
  have within' : place < (c.enrolled subs none).2.length := enrolled.ids.length_eq ▸ within
  have key := (List.forall₂_iff_get.mp enrolled.ids).2 place within within'
  obtain ⟨other, inTable, sameKey⟩ := List.mem_map.mp key
  obtain ⟨sameFilter, sameId⟩ := Prod.mk.inj sameKey
  have same : other = s := List.inj_on_of_nodup_map enrolled.filters inTable member
    (sameFilter.trans isFilter)
  rw [← same, sameId]
  exact List.get_mem _ _

/-- A table of 65535 entries uses every identity. -/
theorem KeysSound.mem_subIds {keys : List (Bytes × UInt16)} (sound : KeysSound cfg keys)
    (few : cfg.maxSubscriptions ≤ 65535) (crowded : 65535 ≤ keys.length)
    (nonzero : sid ≠ 0) : sid ∈ keys.map Prod.snd := by
  by_contra absent
  have counted := length_le_of_nonzero (List.nodup_cons.mpr ⟨absent, sound.subIds⟩) (by
    intro other member
    rcases List.mem_cons.mp member with rfl | inKeys
    · exact nonzero
    · obtain ⟨key, isKey, rfl⟩ := List.mem_map.mp inKeys
      exact sound.nonzero few key isKey)
  rw [List.length_cons, List.length_map] at counted
  omega

namespace CrowdedAcks

open Crowded

/-- What the handler of the refusal asks for. -/
def another : TopicSubscription := { filter := [97] }

/-- A `subscribe()` while every identity is awaited reissues one. -/
theorem reissues_of_crowded {c : Client cfg} {now : UInt32} {ack : PendingAck} {id : UInt16}
    {size : Nat}
    (accepted : Accepted c (c.apply (.subscribe [another] none now)) [another] now id size)
    (isNew : another.filter ∉ c.subscriptions.map (·.filter))
    (few : c.subscriptions.length < 65535) (pending : ack ∈ c.pending)
    (awaited : ∀ sid : UInt16, sid ≠ 0 → sid ∈ ack.subs) :
    Entry.reissues (⟨c, .subscribe [another] none now⟩ : Event cfg) = true := by
  have added : (c.apply (.subscribe [another] none now)).subscriptions =
      c.subscriptions ++ [Subscription.added another none c.allocSubId.1] := by
    rw [accepted.table]
    rcases Client.registerFilter_cases none c [] another with ⟨old, member, named, _⟩ | ⟨_, same⟩
    · exact absurd (named ▸ List.mem_map_of_mem member) isNew
    · exact congrArg (fun result => result.1.subscriptions) same
  have handed : c.allocSubId.1 ∈
      Entry.handsOut (⟨c, .subscribe [another] none now⟩ : Event cfg) := by
    refine List.mem_map.mpr ⟨Subscription.added another none c.allocSubId.1,
      List.mem_filter.mpr ⟨?_, decide_eq_true isNew⟩, rfl⟩
    show _ ∈ (c.apply (.subscribe [another] none now)).subscriptions
    rw [added]
    exact List.mem_append_right _ (List.mem_singleton_self _)
  exact List.any_eq_true.mpr ⟨_, handed, List.any_eq_true.mpr
    ⟨ack, pending, decide_eq_true (awaited _ (c.allocSubId_ne_zero few))⟩⟩

/-- The refusal frees one entry. -/
theorem Awaiting.length_handled {again : World cfg} {ack : PendingAck}
    {onSuback : Script} (awaiting : Awaiting again ack sid onSuback)
    (present : sid ∈ again.client.subscriptions.map (·.subId)) :
    (handled again).client.subscriptions.length + 1 = again.client.subscriptions.length := by
  obtain ⟨s, member, rfl⟩ := List.mem_map.mp present
  have shorter : (again.client.subscriptions.eraseP fun other => other.subId = s.subId).length =
      again.client.subscriptions.length - 1 :=
    List.length_eraseP_of_mem member (by simp)
  have positive := List.length_pos_of_mem member
  rw [awaiting.client_handled]
  show (again.client.subscriptions.eraseP _).length + 1 = _
  omega

section Recycled

variable {count index : Nat} {w : World (config count 2)} {onSuback : Script}
  (ready : Ready w onSuback)

include ready

/-- The first acknowledgement names every identity. -/
theorem awaited_everywhere (few : count ≤ 65535) (all : 65535 ≤ count)
    (nonzero : sid ≠ 0) : sid ∈ (firstAck w count).subs := by
  have small : count ≤ 65537 := by omega
  have crowded : 65535 ≤ (table w count).length :=
    all.trans (words_crowd (by simp [ready.bare]) small)
  have sound : KeysSound (config count 2) ((table w count).map Subscription.key) := by
    refine w.client.enrolled_keysSound (few.trans (by decide)) ?_ (words count) none
      (Client.checkFilters_ok (words_checked small (by simp [config, Config.default]))) ?_
    · rw [ready.bare]
      exact ⟨by simp, by simp, by simp, by simp, by simp⟩
    · rw [ready.bare]
      exact (Nat.zero_add _).trans_le (newEntries_words_le _ count)
  have named := sound.mem_subIds few (by rwa [List.length_map]) nonzero
  rw [subIds_eq] at named
  obtain ⟨s, member, rfl⟩ := List.mem_map.mp named
  exact Client.mem_enrolled_ids ready.bare member

variable (small : count ≤ 65537) (inside : index < count)

include small inside

/-- The handler's request is accepted. -/
theorem another_accepted {again : World (config count 2)}
    (isAgain : again = askedAgain w count index) (awaiting : Awaiting again (firstAck w count) sid
    onSuback)
    (free : (handled again).client.subscriptions.length < count) (now : UInt32) :
    Accepted (handled again).client ((handled again).client.apply (.subscribe [another] none now))
      [another] now 3 6 := by
  have first := asked_accepted ready small inside
  have second := askedAgain_accepted ready small inside
  rw [← isAgain] at second
  have client := awaiting.client_handled
  have pending : (handled again).client.pending = [firstAck w count] := by rw [client]
  have outbound : (handled again).client.outbound = [] := by
    rw [client]
    exact second.outbound.trans (first.outbound.trans ready.untracked)
  have next : nextId (handled again).client.nextPacketId = 3 := by
    rw [client, show (received again).client.nextPacketId = 2 from second.counter]
    rfl
  have live := liveIds_eq outbound
  rw [pending] at live
  have space : (handled again).client.HasRoom (packetSize 6) := by
    have room := words_fit small
    have waiting : (received again).client.tx.peek.length = _ := second.waiting
    rw [first.waiting, ready.sent] at waiting
    rw [Client.HasRoom, client, waiting]
    show 0 + packetSize (2 + 6 * count) + 10 + 8 ≤ 400000
    omega
  have counted : (handled again).client.newEntries [another] ≤ 1 := List.countP_le_length
  have result := @accepted _ (handled again).client [another] 6 now
    (by rw [client]; exact second.state.trans (first.state.trans ready.up)) (by simp)
    (show 1 ≤ 65537 by decide) rfl (by rw [Client.ackTableFull, pending]; rfl)
    (show _ ≤ count by omega) rfl (by rw [next]; decide)
    (by rw [next, live]; exact (show (3 : UInt16) ∉ [(1 : UInt16)] by decide)) space
  rwa [next] at result

/-- What the handler asks for is no word. -/
theorem another_new :
    another.filter ∉ (askedAgain w count index).client.subscriptions.map (·.filter) := by
  rw [← filters_eq, keys_askedAgain ready small inside, filters_eq,
    (asked_accepted ready small inside).table]
  intro present
  obtain ⟨s, member, same⟩ := List.mem_map.mp present
  obtain ⟨index, _, isWord⟩ := words_only ready.bare member
  have lengths := congrArg List.length (same.symm.trans isWord)
  rw [length_word] at lengths
  exact absurd lengths (by decide)

end Recycled

/-- The handler's request is given an identity that the first acknowledgement names. -/
theorem not_neverRecycled {count index : Nat} {w : World (config count 2)}
    (ready : Ready w (.subscribe [another] none .done)) (few : count ≤ 65535) (all : 65535 ≤ count)
    (inside : index < count) : ¬ NeverRecycled (askedAgain w count index).step.2.trace := by
  have small : count ≤ 65537 := by omega
  have isNew := another_new ready small inside
  have keys := keys_askedAgain ready small inside
  rw [(asked_accepted ready small inside).table] at keys
  obtain ⟨old, member, named, awaiting⟩ := awaiting_askedAgain ready small inside
  have accepts := another_accepted ready small inside rfl awaiting
  generalize askedAgain w count index = again at *
  have length : again.client.subscriptions.length ≤ count := by
    have counted := congrArg List.length keys
    rw [List.length_map, List.length_map] at counted
    exact counted.trans_le (length_words_le ready.bare count)
  have shorter := awaiting.length_handled (by
    rw [← subIds_eq, keys, subIds_eq]
    exact List.mem_map_of_mem member)
  have accepted := accepts (by omega) (handled again).env.now
  obtain ⟨later, grown⟩ := awaiting.step (accepted.rx ▸ awaiting.length_rx)
  have stillNew : another.filter ∉ (handled again).client.subscriptions.map (·.filter) := by
    rw [awaiting.client_handled]
    exact fun present => isNew ((List.eraseP_sublist.map _).subset present)
  have reissues := reissues_of_crowded accepted stillNew (by omega)
    (show firstAck w count ∈ (handled again).client.pending by
      rw [awaiting.client_handled]
      exact List.mem_singleton_self _)
    fun sid nonzero => awaited_everywhere ready few all nonzero
  intro never
  have unissued := never.fresh
    ⟨(handled again).client, .subscribe [another] none (handled again).env.now⟩ (by
      rw [grown]
      exact List.mem_append_left _ (List.mem_append_left _
        (List.mem_append_right _ (List.mem_singleton_self _))))
  rw [reissues] at unissued
  cases unissued

theorem ready_crowded : Ready (opened 65535 (.subscribe [another] none .done))
    (.subscribe [another] none .done) :=
  ⟨by decide +kernel, by decide +kernel, by decide +kernel, by decide +kernel, by decide +kernel,
    by decide +kernel, by decide +kernel, by decide +kernel, by decide +kernel, by decide +kernel,
    rfl, by decide +kernel, by decide +kernel⟩

end CrowdedAcks

/-- A client that remembers 65535 filters gives a new subscription an identity that an
awaited acknowledgement names. -/
theorem identity_recycled : ∃ env application,
    ¬ NeverRecycled (World.exec (Crowded.config 65535 2) env application).trace := by
  refine ⟨CrowdedAcks.env (.subscribe [CrowdedAcks.another] none .done),
    CrowdedAcks.application 65535 0, ?_⟩
  rw [CrowdedAcks.exec_trace]
  exact CrowdedAcks.not_neverRecycled CrowdedAcks.ready_crowded (Nat.le_refl _) (Nat.le_refl _)
    (by decide)

end Mqtt
