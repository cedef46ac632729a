import Mqtt.Session.PacketIds

/-!
# The remembered filters

A filter has at most one entry, and an entry keeps its filter and its identity
for as long as it is there. Registering a request refreshes the entries of the
filters it names and adds those that are missing; everything else drops entries or
changes their flags and levels.
-/

namespace Mqtt

open Library

variable {cfg : Config} {s : Subscription} {filter : Bytes}

/-- What an entry keeps. -/
def Subscription.key (s : Subscription) : Bytes × UInt16 := (s.filter, s.subId)

/-- The keys the table may hold. The identity zero is handed out only when every
other one is in use. -/
structure KeysSound (cfg : Config) (keys : List (Bytes × UInt16)) : Prop where
  filters : (keys.map Prod.fst).Nodup
  subIds : (keys.map Prod.snd).Nodup
  valid : ∀ key ∈ keys, isValidFilter key.1 = true ∧ key.1.length ≤ cfg.maxTopicLen
  count : keys.length ≤ cfg.maxSubscriptions
  nonzero : cfg.maxSubscriptions ≤ 65535 → ∀ key ∈ keys, key.2 ≠ 0

theorem KeysSound.sublist {keys fewer : List (Bytes × UInt16)} (sound : KeysSound cfg keys)
    (sub : fewer.Sublist keys) : KeysSound cfg fewer where
  filters := sound.filters.sublist (sub.map _)
  subIds := sound.subIds.sublist (sub.map _)
  valid key member := sound.valid key (sub.subset member)
  count := sub.length_le.trans sound.count
  nonzero few key member := sound.nonzero few key (sub.subset member)

/-- A fresh id and a new filter keep the keys sound. -/
theorem KeysSound.add {keys : List (Bytes × UInt16)} (sound : KeysSound cfg keys)
    {sid : UInt16} (absent : filter ∉ keys.map Prod.fst) (fresh : sid ∉ keys.map Prod.snd)
    (checked : isValidFilter filter = true ∧ filter.length ≤ cfg.maxTopicLen)
    (room : keys.length < cfg.maxSubscriptions) (given : cfg.maxSubscriptions ≤ 65535 → sid ≠ 0) :
    KeysSound cfg (keys ++ [(filter, sid)]) where
  filters := by
    rw [List.map_append, List.nodup_append]
    refine ⟨sound.filters, by simp, ?_⟩
    rintro other present _ last rfl
    obtain rfl : other = filter := by simpa using last
    exact absent present
  subIds := by
    rw [List.map_append, List.nodup_append]
    refine ⟨sound.subIds, by simp, ?_⟩
    rintro other present _ last rfl
    obtain rfl : other = sid := by simpa using last
    exact fresh present
  valid key member := by
    rcases List.mem_append.mp member with old | new
    · exact sound.valid key old
    · obtain rfl : key = (filter, sid) := by simpa using new
      exact checked
  count := by
    rw [List.length_append, List.length_singleton]
    omega
  nonzero few key member := by
    rcases List.mem_append.mp member with old | new
    · exact sound.nonzero few key old
    · obtain rfl : key = (filter, sid) := by simpa using new
      exact given few

/-! ## Changes that keep the keys -/

section Keys

variable (table : List Subscription)

theorem keys_updateFirst {wanted : Subscription → Bool} {change : Subscription → Subscription}
    (keeps : ∀ s, (change s).key = s.key) :
    (updateFirst wanted change table).map Subscription.key = table.map Subscription.key :=
  map_updateFirst (fun s _ => keeps s) table

theorem keys_unflagAll (ids : List UInt16) :
    (unflagAll ids table).map Subscription.key = table.map Subscription.key := by
  induction ids generalizing table with
  | nil => rfl
  | cons sid rest ih =>
    rw [unflagAll, List.foldl_cons, ← unflagAll, ih]
    exact keys_updateFirst table fun _ => rfl

theorem keys_flagged :
    (table.map Subscription.flagged).map Subscription.key = table.map Subscription.key := by
  rw [List.map_map]
  rfl

/-- Erasing only removes. -/
theorem eraseAll_sublist (ids : List UInt16) : (eraseAll ids table).Sublist table := by
  induction ids generalizing table with
  | nil => exact List.Sublist.refl _
  | cons sid rest ih =>
    rw [eraseAll, List.foldl_cons, ← eraseAll]
    exact (ih _).trans List.eraseP_sublist

theorem keys_answerOne (answer : UInt8 × UInt16) :
    ((answerOne table answer).map Subscription.key).Sublist (table.map Subscription.key) := by
  unfold answerOne
  split
  · exact List.eraseP_sublist.map _
  · rw [@keys_updateFirst table _ (Subscription.granted answer.1) fun _ => rfl]

/-- What the return codes leave of an entry: at most its flag and its granted level
change, and only if one of them is about it. -/
theorem answers_origin {answers : List (UInt8 × UInt16)} {table : List Subscription}
    {after : Subscription} (member : after ∈ answers.foldl answerOne table) :
    ∃ s ∈ table, after.key = s.key ∧ after.requestedQos = s.requestedQos ∧
      (after.needsResub = s.needsResub ∨
        after.needsResub = false ∧ s.subId ∈ answers.map Prod.snd) := by
  induction answers generalizing table with
  | nil => exact ⟨after, member, rfl, rfl, .inl rfl⟩
  | cons answer rest ih =>
    obtain ⟨s, inAnswered, key, level, flag⟩ := ih member
    have origin : ∃ old ∈ table, s.key = old.key ∧ s.requestedQos = old.requestedQos ∧
        (s = old ∨ s.needsResub = false ∧ old.subId = answer.2) := by
      unfold answerOne at inAnswered
      split at inAnswered
      · exact ⟨s, List.mem_of_mem_eraseP inAnswered, rfl, rfl, .inl rfl⟩
      · rcases mem_updateFirst inAnswered with kept | ⟨old, inTable, named, rfl⟩
        · exact ⟨s, kept, rfl, rfl, .inl rfl⟩
        · exact ⟨old, inTable, rfl, rfl, .inr ⟨rfl, by simpa using named⟩⟩
    obtain ⟨old, inTable, oldKey, oldLevel, same⟩ := origin
    refine ⟨old, inTable, key.trans oldKey, level.trans oldLevel, ?_⟩
    rw [List.map_cons, List.mem_cons]
    rcases same with rfl | ⟨cleared, named⟩
    · exact flag.imp_right fun ⟨off, inRest⟩ => ⟨off, .inr inRest⟩
    · refine .inr ⟨?_, .inl named⟩
      rcases flag with same | ⟨off, _⟩
      · exact same.trans cleared
      · exact off

/-- Return codes only remove entries. -/
theorem keys_answers (answers : List (UInt8 × UInt16)) :
    ((answers.foldl answerOne table).map Subscription.key).Sublist
      (table.map Subscription.key) := by
  induction answers generalizing table with
  | nil => exact List.Sublist.refl _
  | cons answer rest ih =>
    exact (ih _).trans (keys_answerOne table answer)

/-- Answers that refuse nothing erase nothing. -/
theorem keys_answers_of_granted {answers : List (UInt8 × UInt16)}
    (granted : ∀ answer ∈ answers, answer.1 ≠ kSubackFailure) :
    (answers.foldl answerOne table).map Subscription.key = table.map Subscription.key := by
  induction answers generalizing table with
  | nil => rfl
  | cons answer rest ih =>
    rw [List.foldl_cons,
      ih _ fun other member => granted other (List.mem_cons_of_mem _ member),
      answerOne, if_neg (granted answer List.mem_cons_self)]
    exact @keys_updateFirst table _ (Subscription.granted answer.1) fun _ => rfl

end Keys

theorem filters_eq (table : List Subscription) :
    (table.map Subscription.key).map Prod.fst = table.map (·.filter) := by
  rw [List.map_map]
  rfl

theorem subIds_eq (table : List Subscription) :
    (table.map Subscription.key).map Prod.snd = table.map (·.subId) := by
  rw [List.map_map]
  rfl

/-- No filter stands twice in the table. -/
theorem KeysSound.filters_nodup {table : List Subscription}
    (sound : KeysSound cfg (table.map Subscription.key)) : (table.map (·.filter)).Nodup :=
  filters_eq table ▸ sound.filters

/-- No id does. -/
theorem KeysSound.subIds_nodup {table : List Subscription}
    (sound : KeysSound cfg (table.map Subscription.key)) : (table.map (·.subId)).Nodup :=
  subIds_eq table ▸ sound.subIds

/-- With distinct identities, erasing leaves exactly the other entries. -/
theorem eraseAll_eq_filter (ids : List UInt16) {table : List Subscription}
    (distinct : (table.map (·.subId)).Nodup) :
    eraseAll ids table = table.filter fun s => s.subId ∉ ids := by
  induction ids generalizing table with
  | nil => simp [eraseAll]
  | cons sid rest ih =>
    have step : (table.eraseP fun s => s.subId = sid) = table.filter fun s => s.subId ≠ sid :=
      eraseP_eq_filter sid distinct
    have kept : ((table.eraseP fun s => s.subId = sid).map (·.subId)).Nodup :=
      distinct.sublist (List.eraseP_sublist.map _)
    rw [eraseAll, List.foldl_cons, ← eraseAll, ih kept, step, List.filter_filter]
    refine List.filter_congr fun s _ => ?_
    simp [Bool.and_comm]

/-- Where ids are distinct, exactly the named entries go. -/
theorem mem_eraseAll {ids : List UInt16} {table : List Subscription}
    (distinct : (table.map (·.subId)).Nodup) :
    s ∈ eraseAll ids table ↔ s ∈ table ∧ s.subId ∉ ids := by
  rw [eraseAll_eq_filter ids distinct, List.mem_filter, decide_eq_true_eq]

/-- With distinct identities, clearing flags is a `map`. -/
theorem unflagAll_eq_map (ids : List UInt16) {table : List Subscription}
    (distinct : (table.map (·.subId)).Nodup) :
    unflagAll ids table = table.map fun s => if s.subId ∈ ids then s.unflagged else s := by
  induction ids generalizing table with
  | nil => simp [unflagAll]
  | cons sid rest ih =>
    have step : updateFirst (fun s => s.subId = sid) Subscription.unflagged table =
        table.map fun s => if s.subId = sid then s.unflagged else s :=
      updateFirst_eq_map sid _ distinct
    have kept : ((updateFirst (fun s => s.subId = sid) Subscription.unflagged table).map
        (·.subId)).Nodup := by
      rw [← subIds_eq, @keys_updateFirst table _ Subscription.unflagged fun _ => rfl, subIds_eq]
      exact distinct
    rw [unflagAll, List.foldl_cons, ← unflagAll, ih kept, step, List.map_map]
    refine List.map_congr_left fun s _ => ?_
    by_cases here : s.subId = sid <;> by_cases later : s.subId ∈ rest <;>
      simp [Subscription.unflagged, here, later]

/-! ## Registering a request -/

/-- The level the request asks for a filter; a filter named twice gets the last. -/
def askedLast (filter : Bytes) (subs : List TopicSubscription) : Option QoS :=
  (subs.reverse.find? fun asked => asked.filter = filter).map (·.qos)

theorem askedLast_snoc (filter : Bytes) (subs : List TopicSubscription)
    (asked : TopicSubscription) :
    askedLast filter (subs ++ [asked]) =
      if asked.filter = filter then some asked.qos else askedLast filter subs := by
  unfold askedLast
  rw [List.reverse_append, List.reverse_singleton, List.singleton_append, List.find?_cons]
  by_cases same : asked.filter = filter <;> simp [same]

/-- A filter nobody asked for has no last level. -/
theorem askedLast_eq_none_iff {subs : List TopicSubscription} :
    askedLast filter subs = none ↔ ∀ asked ∈ subs, asked.filter ≠ filter := by
  simp [askedLast]

/-- The last level asked for is one asked for. -/
theorem mem_of_askedLast {subs : List TopicSubscription} {level : QoS}
    (asked : askedLast filter subs = some level) :
    ∃ s ∈ subs, s.filter = filter ∧ s.qos = level := by
  obtain ⟨s, found, isLevel⟩ := Option.map_eq_some_iff.mp asked
  refine ⟨s, List.mem_reverse.mp (List.mem_of_find?_eq_some found), ?_, isLevel⟩
  simpa using List.find?_some found

/-- A filter named once gets the level it is named with. -/
theorem askedLast_of_mem {subs : List TopicSubscription} {asked : TopicSubscription}
    (distinct : (subs.map (·.filter)).Nodup) (member : asked ∈ subs) :
    askedLast asked.filter subs = some asked.qos := by
  induction subs using List.reverseRecOn with
  | nil => cases member
  | append_singleton subs last ih =>
    rw [askedLast_snoc]
    rw [List.map_append, List.nodup_append] at distinct
    rcases List.mem_append.mp member with earlier | isLast
    · have other : last.filter ≠ asked.filter := fun same =>
        distinct.2.2 _ (List.mem_map_of_mem earlier) last.filter (by simp) same.symm
      rw [if_neg other]
      exact ih distinct.1 earlier
    · obtain rfl : asked = last := by simpa using isLast
      rw [if_pos rfl]

namespace Client

variable (c : Client cfg)

/-- What registering a request makes of the table, and the identities it returns. -/
structure Enrolled (subs : List TopicSubscription) (table : List Subscription)
    (ids : List UInt16) : Prop where
  filters : (table.map (·.filter)).Nodup
  keys : ∃ added, table.map Subscription.key = c.subscriptions.map Subscription.key ++ added ∧
    ∀ key ∈ added, ∃ asked ∈ subs, asked.filter = key.1
  entries : ∀ s ∈ table,
    (s ∈ c.subscriptions ∧ askedLast s.filter subs = none) ∨
      (s.needsResub = false ∧ askedLast s.filter subs = some s.requestedQos)
  ids : List.Forall₂ (fun asked sid => (asked.filter, sid) ∈ table.map Subscription.key) subs ids

theorem enrolled_snoc (subs : List TopicSubscription) (asked : TopicSubscription)
    (handler : Option Nat) :
    c.enrolled (subs ++ [asked]) handler =
      registerFilter handler (c.enrolled subs handler) asked := by
  rw [enrolled, enrolled, List.foldl_append]
  rfl

variable {c}

section

variable {subs : List TopicSubscription} {table : List Subscription} {ids : List UInt16}
  (enrolled : c.Enrolled subs table ids)

include enrolled

/-- One more filter that has an entry. -/
theorem Enrolled.refresh (asked : TopicSubscription) (handler : Option Nat) {old : Subscription}
    (member : old ∈ table) (named : old.filter = asked.filter) :
    c.Enrolled (subs ++ [asked])
      (updateFirst (fun s => s.filter = asked.filter) (Subscription.refreshed asked handler) table)
      (ids ++ [old.subId]) := by
  have sameKeys : (updateFirst (fun s => s.filter = asked.filter)
      (Subscription.refreshed asked handler) table).map Subscription.key =
        table.map Subscription.key :=
    keys_updateFirst table fun _ => rfl
  refine ⟨?_, ?_, fun s present => ?_, ?_⟩
  · rw [← filters_eq, sameKeys, filters_eq]
    exact enrolled.filters
  · obtain ⟨added, keys, asks⟩ := enrolled.keys
    refine ⟨added, sameKeys.trans keys, fun key inAdded => ?_⟩
    obtain ⟨other, among, same⟩ := asks key inAdded
    exact ⟨other, List.mem_append_left _ among, same⟩
  · rw [updateFirst_eq_map asked.filter _ enrolled.filters, List.mem_map] at present
    obtain ⟨before, inTable, rfl⟩ := present
    rw [askedLast_snoc]
    by_cases same : before.filter = asked.filter
    · simp [same, Subscription.refreshed]
    · simpa [same, Ne.symm same] using enrolled.entries before inTable
  · rw [sameKeys]
    refine List.rel_append enrolled.ids (.cons ?_ .nil)
    rw [← named]
    exact List.mem_map_of_mem member

/-- One more filter that has none. -/
theorem Enrolled.add (asked : TopicSubscription)
    (handler : Option Nat) (sid : UInt16) (absent : ∀ old ∈ table, old.filter ≠ asked.filter) :
    c.Enrolled (subs ++ [asked]) (table ++ [Subscription.added asked handler sid])
      (ids ++ [sid]) := by
  refine ⟨?_, ?_, fun s present => ?_, ?_⟩
  · rw [List.map_append, List.nodup_append]
    refine ⟨enrolled.filters, by simp, ?_⟩
    rintro filter inTable _ isNew rfl
    obtain ⟨old, among, rfl⟩ := List.mem_map.mp inTable
    exact absent old among (by simpa [Subscription.added] using isNew)
  · obtain ⟨added, keys, asks⟩ := enrolled.keys
    refine ⟨added ++ [(asked.filter, sid)], ?_, fun key member => ?_⟩
    · rw [List.map_append, keys, List.append_assoc]
      rfl
    · rcases List.mem_append.mp member with old | new
      · obtain ⟨other, among, same⟩ := asks key old
        exact ⟨other, List.mem_append_left _ among, same⟩
      · obtain rfl : key = (asked.filter, sid) := by simpa using new
        exact ⟨asked, by simp, rfl⟩
  · rw [askedLast_snoc]
    rcases List.mem_append.mp present with old | new
    · simpa [(absent s old).symm] using enrolled.entries s old
    · obtain rfl : s = Subscription.added asked handler sid := by simpa using new
      simp [Subscription.added]
  · refine List.rel_append (enrolled.ids.imp fun _ _ inTable => ?_) (.cons ?_ .nil)
    · rw [List.map_append]
      exact List.mem_append_left _ inTable
    · simp [Subscription.key, Subscription.added]

/-- Each identity belongs to the entry of a filter the request names. -/
theorem Enrolled.origin {sid : UInt16} (member : sid ∈ ids) :
    ∃ s ∈ table, s.subId = sid ∧ s.filter ∈ subs.map (·.filter) := by
  have origin : ∀ {subs : List TopicSubscription} {ids : List UInt16},
      List.Forall₂ (fun asked sid => (asked.filter, sid) ∈ table.map Subscription.key) subs ids →
      ∀ sid ∈ ids, ∃ asked ∈ subs, (asked.filter, sid) ∈ table.map Subscription.key := by
    intro subs ids pairs
    induction pairs with
    | nil => simp
    | cons first _ ih =>
      rintro sid (_ | ⟨_, later⟩)
      · exact ⟨_, by simp, first⟩
      · obtain ⟨asked, member, key⟩ := ih sid later
        exact ⟨asked, by simp [member], key⟩
  obtain ⟨asked, among, key⟩ := origin enrolled.ids sid member
  obtain ⟨s, inTable, same⟩ := List.mem_map.mp key
  obtain ⟨sameFilter, sameId⟩ := Prod.mk.inj same
  exact ⟨s, inTable, sameId, sameFilter ▸ List.mem_map_of_mem among⟩

/-- An entry a request names is one it asked for. -/
theorem Enrolled.named (distinct : (table.map (·.subId)).Nodup)
    (present : s ∈ table) (named : s.subId ∈ ids) : ∃ asked ∈ subs, asked.filter = s.filter := by
  obtain ⟨other, inTable, sameId, asked⟩ := enrolled.origin named
  obtain rfl := List.inj_on_of_nodup_map distinct inTable present sameId
  exact List.mem_map.mp asked

/-- Every filter the request names has an entry. -/
theorem Enrolled.exists
    (named : filter ∈ subs.map (·.filter)) : ∃ s ∈ table, s.filter = filter := by
  obtain ⟨asked, member, rfl⟩ := List.mem_map.mp named
  obtain ⟨index, within, rfl⟩ := List.getElem_of_mem member
  have key := List.forall₂_iff_get.mp enrolled.ids |>.2 index within
    (enrolled.ids.length_eq ▸ within)
  obtain ⟨s, inTable, same⟩ := List.mem_map.mp key
  exact ⟨s, inTable, congrArg Prod.fst same⟩

/-- An entry the request does not name stays as it is. -/
theorem Enrolled.mem_of_unnamed (distinct : (c.subscriptions.map (·.filter)).Nodup)
    (member : s ∈ c.subscriptions) (unnamed : s.filter ∉ subs.map (·.filter)) : s ∈ table := by
  obtain ⟨added, keys, _⟩ := enrolled.keys
  have inKeys : s.key ∈ table.map Subscription.key := by
    rw [keys]
    exact List.mem_append_left _ (List.mem_map_of_mem member)
  obtain ⟨other, inTable, same⟩ := List.mem_map.mp inKeys
  have sameFilter : other.filter = s.filter := congrArg Prod.fst same
  rcases enrolled.entries other inTable with ⟨old, _⟩ | ⟨_, asked⟩
  · exact List.inj_on_of_nodup_map distinct old member sameFilter ▸ inTable
  · obtain ⟨asked, among, isFilter, _⟩ := mem_of_askedLast asked
    exact absurd (sameFilter ▸ isFilter ▸ List.mem_map_of_mem among) unnamed

end

variable (c)

/-- The whole request. -/
theorem enrolled_spec (distinct : (c.subscriptions.map (·.filter)).Nodup)
    (subs : List TopicSubscription) (handler : Option Nat) :
    c.Enrolled subs (c.enrolled subs handler).1.subscriptions (c.enrolled subs handler).2 := by
  induction subs using List.reverseRecOn with
  | nil =>
    exact ⟨distinct, ⟨[], by simp [enrolled], by simp⟩,
      fun s member => .inl ⟨member, rfl⟩, .nil⟩
  | append_singleton subs asked ih =>
    rw [enrolled_snoc]
    rcases registerFilter_cases handler (c.enrolled subs handler).1
        (c.enrolled subs handler).2 asked with
      ⟨old, member, named, same⟩ | ⟨absent, same⟩ <;> rw [same]
    · exact ih.refresh asked handler member named
    · exact ih.add asked handler _ absent

theorem isNone_findSubscription (filter : Bytes) :
    (c.findSubscription filter).isNone = true ↔ filter ∉ c.subscriptions.map (·.filter) := by
  simp only [findSubscription, Option.isNone_iff_eq_none, List.findIdx?_eq_none_iff, List.mem_map,
    not_exists, not_and, decide_eq_false_iff_not]

/-- A table with more filters needs no more new entries. -/
theorem newEntries_le {d : Client cfg} {subs : List TopicSubscription}
    (more : ∀ filter ∈ c.subscriptions.map (·.filter), filter ∈ d.subscriptions.map (·.filter)) :
    d.newEntries subs ≤ c.newEntries subs := by
  refine List.countP_mono_left fun asked _ => ?_
  rw [isNone_findSubscription, isNone_findSubscription]
  exact fun absent present => absent (more _ present)

/-- One filter adds a key exactly if it is new. -/
theorem registerFilter_keys (handler : Option Nat) (ids : List UInt16) (asked : TopicSubscription) :
    (asked.filter ∈ c.subscriptions.map (·.filter) ∧
      (registerFilter handler (c, ids) asked).1.subscriptions.map Subscription.key =
        c.subscriptions.map Subscription.key) ∨
    (asked.filter ∉ c.subscriptions.map (·.filter) ∧
      (registerFilter handler (c, ids) asked).1.subscriptions.map Subscription.key =
        c.subscriptions.map Subscription.key ++ [(asked.filter, c.allocSubId.1)]) := by
  rcases registerFilter_cases handler c ids asked with
    ⟨old, member, named, same⟩ | ⟨absent, same⟩ <;> rw [same]
  · exact .inl ⟨List.mem_map.mpr ⟨old, member, named⟩,
      keys_updateFirst c.subscriptions fun _ => rfl⟩
  · refine .inr ⟨fun present => ?_, ?_⟩
    · obtain ⟨old, member, named⟩ := List.mem_map.mp present
      exact absent old member named
    · rw [List.map_append]
      rfl

/-- One filter takes the entry it was counted for, or none. -/
theorem registerFilter_budget (handler : Option Nat) (ids : List UInt16)
    (asked : TopicSubscription) (rest : List TopicSubscription) :
    (registerFilter handler (c, ids) asked).1.subscriptions.length +
        (registerFilter handler (c, ids) asked).1.newEntries rest ≤
      c.subscriptions.length + c.newEntries (asked :: rest) := by
  have counted : c.newEntries (asked :: rest) =
      c.newEntries rest + if (c.findSubscription asked.filter).isNone then 1 else 0 :=
    List.countP_cons
  rcases c.registerFilter_keys handler ids asked with ⟨_, keys⟩ | ⟨absent, keys⟩
  · have sameLength := congrArg List.length keys
    have fewer := @newEntries_le _ c (registerFilter handler (c, ids) asked).1 rest (by
      rw [← filters_eq, ← filters_eq, keys]
      exact fun _ => id)
    rw [List.length_map, List.length_map] at sameLength
    omega
  · have sameLength := congrArg List.length keys
    have fewer := @newEntries_le _ c (registerFilter handler (c, ids) asked).1 rest (by
      rw [← filters_eq, ← filters_eq, keys, List.map_append]
      exact fun _ => List.mem_append_left _)
    rw [if_pos ((c.isNone_findSubscription _).mpr absent)] at counted
    rw [List.length_append, List.length_map, List.length_map, List.length_singleton] at sameLength
    omega

/-- The room a request was found to need is enough all the way through it. -/
theorem enrolled_budget (subs rest : List TopicSubscription) (handler : Option Nat) :
    (c.enrolled subs handler).1.subscriptions.length +
        (c.enrolled subs handler).1.newEntries rest ≤
      c.subscriptions.length + c.newEntries (subs ++ rest) := by
  induction subs using List.reverseRecOn generalizing rest with
  | nil => exact Nat.le_refl _
  | append_singleton subs asked ih =>
    rw [enrolled_snoc, List.append_assoc]
    exact (registerFilter_budget _ handler _ asked rest).trans (ih (asked :: rest))

/-- The keys stay sound all the way through a request that was accepted. -/
theorem enrolled_keysSound (few : cfg.maxSubscriptions ≤ 65536)
    (sound : KeysSound cfg (c.subscriptions.map Subscription.key)) (subs : List TopicSubscription)
    (handler : Option Nat) (checked : ∀ asked ∈ subs, isValidFilter asked.filter = true ∧
      asked.filter.length ≤ cfg.maxTopicLen)
    (slots : c.subscriptions.length + c.newEntries subs ≤ cfg.maxSubscriptions) :
    KeysSound cfg ((c.enrolled subs handler).1.subscriptions.map Subscription.key) := by
  induction subs using List.reverseRecOn with
  | nil => exact sound
  | append_singleton subs asked ih =>
    have budget := c.enrolled_budget subs [asked] handler
    have fewer : c.newEntries subs ≤ c.newEntries (subs ++ [asked]) := by
      simp [newEntries, List.countP_append]
    have before := ih (fun other member => checked other (by simp [member]))
      (by omega)
    rw [enrolled_snoc]
    rcases registerFilter_keys (c.enrolled subs handler).1 handler
        (c.enrolled subs handler).2 asked with ⟨_, keys⟩ | ⟨absent, keys⟩ <;> rw [keys]
    · exact before
    · have isNew := ((c.enrolled subs handler).1.isNone_findSubscription _).mpr absent
      have one : (c.enrolled subs handler).1.newEntries [asked] = 1 := by
        simp [newEntries, isNew]
      have room : (c.enrolled subs handler).1.subscriptions.length < cfg.maxSubscriptions := by
        omega
      refine before.add ?_ ?_ (checked asked (by simp)) (by rwa [List.length_map])
        fun fewer => allocSubId_ne_zero _ (by omega)
      · rwa [filters_eq]
      · rw [subIds_eq]
        exact allocSubId_fresh _ (by omega)

end Client

/-! ## Re-subscribing -/

namespace Client

variable (c : Client cfg)

theorem needsResub_of_mem_resubBatch (member : s ∈ c.resubBatch) : s.needsResub = true :=
  (List.mem_filter.mp (List.mem_of_mem_take member)).2

theorem resubBatch_sublist : c.resubBatch.Sublist c.subscriptions :=
  (List.take_sublist _ _).trans List.filter_sublist

/-- A batch asks for the filters of its entries, at their levels, and for no others. -/
theorem askedLast_resubRequest (distinct : (c.subscriptions.map (·.filter)).Nodup)
    (member : s ∈ c.subscriptions) :
    askedLast s.filter c.resubRequest = if s ∈ c.resubBatch then some s.requestedQos else none := by
  have named : c.resubRequest.map (·.filter) = c.resubBatch.map (·.filter) := by
    rw [resubRequest, List.map_map]
    rfl
  by_cases inBatch : s ∈ c.resubBatch
  · rw [if_pos inBatch]
    have asked : ({ filter := s.filter, qos := s.requestedQos } : TopicSubscription) ∈
        c.resubRequest := List.mem_map.mpr ⟨s, inBatch, rfl⟩
    exact askedLast_of_mem (named ▸ distinct.sublist (c.resubBatch_sublist.map _)) asked
  · rw [if_neg inBatch, askedLast_eq_none_iff]
    intro asked inRequest same
    obtain ⟨other, among, rfl⟩ := List.mem_map.mp inRequest
    exact inBatch (List.inj_on_of_nodup_map distinct (c.resubBatch_sublist.subset among) member
      same ▸ among)

/-- An entry is in the batch exactly if its identity is. -/
theorem mem_resubBatch_iff (distinct : (c.subscriptions.map (·.subId)).Nodup)
    (member : s ∈ c.subscriptions) : s ∈ c.resubBatch ↔ s.subId ∈ c.resubBatch.map (·.subId) := by
  refine ⟨fun inBatch => List.mem_map_of_mem inBatch, fun named => ?_⟩
  obtain ⟨other, among, same⟩ := List.mem_map.mp named
  exact List.inj_on_of_nodup_map distinct (c.resubBatch_sublist.subset among) member same ▸ among

/-- A batch clears the flags of its entries and changes nothing else. -/
theorem mem_unflagAll_resubBatch (distinct : (c.subscriptions.map (·.subId)).Nodup) :
    s ∈ unflagAll (c.resubBatch.map (·.subId)) c.subscriptions ↔
      (s ∈ c.subscriptions ∧ s ∉ c.resubBatch) ∨ ∃ old ∈ c.resubBatch, s = old.unflagged := by
  rw [unflagAll_eq_map _ distinct, List.mem_map]
  constructor
  · rintro ⟨old, member, rfl⟩
    have named := c.mem_resubBatch_iff distinct member
    by_cases inBatch : old ∈ c.resubBatch
    · exact .inr ⟨old, inBatch, if_pos (named.mp inBatch)⟩
    · rw [if_neg (named.not.mp inBatch)]
      exact .inl ⟨member, inBatch⟩
  · rintro (⟨member, notBatch⟩ | ⟨old, inBatch, rfl⟩)
    · exact ⟨s, member, if_neg ((c.mem_resubBatch_iff distinct member).not.mp notBatch)⟩
    · exact ⟨old, c.resubBatch_sublist.subset inBatch, if_pos (List.mem_map_of_mem inBatch)⟩

end Client

/-- The identities an UNSUBSCRIBE is about are those of the entries it names. -/
theorem Client.mem_knownSubIds {c : Client cfg} {filters : List Bytes}
    (keys : KeysSound cfg (c.subscriptions.map Subscription.key)) (member : s ∈ c.subscriptions) :
    s.subId ∈ c.knownSubIds filters ↔ s.filter ∈ filters := by
  have distinct := keys.filters_nodup
  have subIds := keys.subIds_nodup
  rw [Client.knownSubIds, List.mem_filterMap]
  constructor
  · rintro ⟨filter, named, found⟩
    obtain ⟨other, isOther, sameId⟩ := Option.map_eq_some_iff.mp found
    have isFilter : other.filter = filter := by simpa using List.find?_some isOther
    obtain rfl := List.inj_on_of_nodup_map subIds (List.mem_of_find?_eq_some isOther) member sameId
    exact isFilter ▸ named
  · exact fun named => ⟨s.filter, named,
      congrArg (Option.map (·.subId)) (find?_of_mem distinct member)⟩

/-! ## In every history -/

/-- Filters that pass are valid and short. -/
theorem Client.checkFilters_ok {subs : List TopicSubscription} {maxTopicLen : Nat}
    (checked : Client.checkFilters subs maxTopicLen = .ok) :
    ∀ asked ∈ subs, isValidFilter asked.filter = true ∧ asked.filter.length ≤ maxTopicLen := by
  induction subs with
  | nil => simp
  | cons asked rest ih =>
    unfold Client.checkFilters at checked
    split at checked
    · cases checked
    · split at checked
      · cases checked
      · rename_i valid short
        rintro other (_ | ⟨_, member⟩)
        · exact ⟨by simpa using valid, by omega⟩
        · exact ih checked other member

/-- Valid short filters pass. -/
theorem Client.checkFilters_of_valid {subs : List TopicSubscription} {maxTopicLen : Nat}
    (valid : ∀ asked ∈ subs, isValidFilter asked.filter = true ∧ asked.filter.length ≤ maxTopicLen) :
    Client.checkFilters subs maxTopicLen = .ok := by
  induction subs with
  | nil => rfl
  | cons asked rest ih =>
    rw [List.forall_mem_cons] at valid
    unfold Client.checkFilters
    rw [if_neg (by simp [valid.1.1]), if_neg (by omega), ih valid.2]

/-- Keys only go, except by a `subscribe()` that is accepted. -/
theorem Client.keys_cases (c : Client cfg) (label : Label) :
    ((c.apply label).subscriptions.map Subscription.key).Sublist
        (c.subscriptions.map Subscription.key) ∨
      ∃ subs handler now, label = .subscribe subs handler now ∧
        Client.checkFilters subs cfg.maxTopicLen = .ok ∧
        c.subscriptions.length + c.newEntries subs ≤ cfg.maxSubscriptions ∧
        (c.apply label).subscriptions = (c.enrolled subs handler).1.subscriptions := by
  cases c.apply_tableEffect label with
  | kept table => exact .inl (by rw [table])
  | subscribed subs handler now isSubscribe _ checked _ slots _ _ table =>
    exact .inr ⟨subs, handler, now, isSubscribe, checked, slots, table⟩
  | unsubscribed _ _ _ _ _ _ _ table => exact .inl (by rw [table])
  | resubscribed _ _ _ _ _ table => exact .inl (by rw [table, keys_unflagAll])
  | answered _ _ _ _ _ _ _ _ _ _ table => exact .inl (by rw [table]; exact keys_answers _ _)
  | withdrawn _ _ _ _ _ _ _ _ _ table =>
    exact .inl (by rw [table]; exact (eraseAll_sublist _ _).map _)
  | forgotten _ _ table => exact .inl (by rw [table, keys_flagged])
  | ended _ table => exact .inl (by rw [table, keys_flagged])

/-- One piece of code keeps the keys sound. -/
theorem KeysSound.step {c : Client cfg} (few : cfg.maxSubscriptions ≤ 65536)
    (sound : KeysSound cfg (c.subscriptions.map Subscription.key)) (label : Label) :
    KeysSound cfg ((c.apply label).subscriptions.map Subscription.key) := by
  rcases c.keys_cases label with fewer | ⟨subs, handler, now, _, checked, slots, table⟩
  · exact sound.sublist fewer
  · rw [table]
    exact c.enrolled_keysSound few sound subs handler (Client.checkFilters_ok checked) slots

/-- In every history the keys are sound. -/
theorem History.keysSound (few : cfg.maxSubscriptions ≤ 65536) {log : Log cfg}
    (history : History log) : KeysSound cfg (log.state.subscriptions.map Subscription.key) :=
  Logged.Reaches.invariant
    (fun log => KeysSound cfg (log.state.subscriptions.map Subscription.key))
    (fun _ label _ sound => sound.step few label) history
    ⟨by simp [Client.initial], by simp [Client.initial], by simp [Client.initial],
      by simp [Client.initial], by simp [Client.initial]⟩

end Mqtt
