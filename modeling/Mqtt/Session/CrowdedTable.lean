import Mqtt.Session.Filters

/-!
# Crowded tables

There are 65535 identities other than zero. `subscribe()` gives an entry whatever
`alloc_sub_id()` returns, also the zero that says that all of them are taken. So a table of
65537 entries has two with identity zero, and what is meant for the second happens to the
first. A table of 65535 uses every identity. Both are reached with one request, for as many
words of three letters.
-/

namespace Mqtt

open Library

variable {cfg : Config}

/-! ## Two entries with one identity -/

/-- Identities other than zero are given once. -/
def GivenOnce (table : List Subscription) : Prop :=
  ((table.map (·.subId)).filter (· ≠ 0)).Nodup

theorem GivenOnce.registerFilter {c : Client cfg} (once : GivenOnce c.subscriptions)
    (handler : Option Nat) (ids : List UInt16) (asked : TopicSubscription) :
    GivenOnce (Client.registerFilter handler (c, ids) asked).1.subscriptions := by
  have keys := c.registerFilter_keys handler ids asked
  unfold GivenOnce at once ⊢
  rw [← subIds_eq] at once ⊢
  rcases keys with ⟨_, keys⟩ | ⟨_, keys⟩ <;> rw [keys]
  · exact once
  rw [List.map_append, List.filter_append]
  by_cases given : c.allocSubId.1 = 0
  · simpa [given] using once
  · have unused := c.allocSubId_unused given
    rw [← subIds_eq] at unused
    refine List.nodup_append.mpr ⟨once, by simp [given], fun id earlier other last same => ?_⟩
    have isLast : other = c.allocSubId.1 := by simpa [given] using last
    exact unused (isLast ▸ same ▸ (List.mem_filter.mp earlier).1)

theorem GivenOnce.enrolled {c : Client cfg} (once : GivenOnce c.subscriptions)
    (subs : List TopicSubscription) (handler : Option Nat) :
    GivenOnce (c.enrolled subs handler).1.subscriptions := by
  induction subs using List.reverseRecOn with
  | nil => exact once
  | append_singleton subs asked ih =>
    rw [c.enrolled_snoc]
    exact ih.registerFilter handler _ asked

/-- Two entries have identity zero: `first` before every other, and `second`. -/
structure Doubled (table : List Subscription) (first second : Subscription) : Prop where
  distinct : (table.map (·.filter)).Nodup
  split : ∃ front middle back, table = front ++ first :: (middle ++ second :: back) ∧
    ∀ s ∈ front, s.subId ≠ 0
  firstZero : first.subId = 0
  secondZero : second.subId = 0

/-- There are 65535 identities other than zero. -/
theorem GivenOnce.length_le {table : List Subscription} (once : GivenOnce table) :
    ((table.map (·.subId)).filter (· ≠ 0)).length ≤ 65535 :=
  length_le_of_nonzero once fun _ given => by simpa using (List.mem_filter.mp given).2

/-- More entries than ids: two entries share one. -/
theorem exists_doubled {table : List Subscription} (once : GivenOnce table)
    (distinct : (table.map (·.filter)).Nodup) (crowded : 65537 ≤ table.length) :
    ∃ first second, Doubled table first second := by
  have atMost := once.length_le
  rw [List.filter_map, List.length_map] at atMost
  have counted := List.length_eq_length_filter_add (l := table) fun s => decide (s.subId = 0)
  have two : 2 ≤ (table.filter fun s => decide (s.subId = 0)).length := by
    simp only [Function.comp_def, decide_not] at atMost
    omega
  match zeros : table.filter fun s => decide (s.subId = 0) with
  | [] => simp [zeros] at two
  | [_] => simp [zeros] at two
  | first :: second :: more =>
    obtain ⟨front, rest, split, unseen, zero, later⟩ := List.filter_eq_cons_iff.mp zeros
    obtain ⟨middle, back, rfl, _, alsoZero, _⟩ := List.filter_eq_cons_iff.mp later
    exact ⟨first, second, distinct, ⟨front, middle, back, split, by simpa using unseen⟩,
      by simpa using zero, by simpa using alsoZero⟩

namespace Doubled

variable {table : List Subscription} {first second : Subscription}

theorem filters_ne (doubled : Doubled table first second) : first.filter ≠ second.filter := by
  obtain ⟨front, middle, back, rfl, _⟩ := doubled.split
  have distinct := doubled.distinct
  rw [List.map_append, List.map_cons] at distinct
  have apart := (List.nodup_cons.mp distinct.of_append_right).1
  exact fun same => apart (same ▸ List.mem_map_of_mem (by simp))

theorem flagged (doubled : Doubled table first second) :
    Doubled (table.map Subscription.flagged) first.flagged second.flagged := by
  obtain ⟨front, middle, back, rfl, unseen⟩ := doubled.split
  refine ⟨?_, ⟨front.map Subscription.flagged, middle.map Subscription.flagged,
    back.map Subscription.flagged, by simp, ?_⟩, doubled.firstZero, doubled.secondZero⟩
  · rw [List.map_map]
    exact doubled.distinct
  · intro s member
    obtain ⟨old, inFront, rfl⟩ := List.mem_map.mp member
    exact unseen old inFront

/-- Asking for the second filter again returns identity zero. -/
theorem enrolled {c : Client cfg} (doubled : Doubled c.subscriptions first second)
    (handler : Option Nat) (level : QoS) :
    ∃ table', c.enrolled [{ filter := second.filter, qos := level }] handler =
      ({ c with subscriptions := table' }, [0]) ∧
        Doubled table' first
          (Subscription.refreshed { filter := second.filter, qos := level } handler second) := by
  obtain ⟨front, middle, back, split, unseen⟩ := doubled.split
  have present : second ∈ c.subscriptions := by simp [split]
  rcases Client.registerFilter_cases handler c [] { filter := second.filter, qos := level } with
    ⟨old, member, named, same⟩ | ⟨absent, _⟩
  swap
  · exact absurd rfl (absent second present)
  obtain rfl := List.inj_on_of_nodup_map doubled.distinct member present named
  rw [doubled.secondZero] at same
  have stillDistinct := (c.enrolled_spec doubled.distinct [{ filter := old.filter, qos := level }]
    handler).filters
  have asked : c.enrolled [{ filter := old.filter, qos := level }] handler = _ := same
  rw [asked] at stillDistinct
  refine ⟨_, asked, stillDistinct, ⟨front, middle, back, ?_, unseen⟩, doubled.firstZero,
    doubled.secondZero⟩
  have regrouped : c.subscriptions = (front ++ first :: middle) ++ old :: back := by simp [split]
  have distinct := doubled.distinct
  rw [regrouped, List.map_append, List.map_cons] at distinct
  rw [regrouped, updateFirst_append_cons _ (by simp)]
  · simp
  · intro other earlier
    simp only [decide_eq_false_iff_not]
    exact fun sameFilter => (List.nodup_append.mp distinct).2.2 _ (List.mem_map_of_mem earlier) _
      (by simp) sameFilter

/-- A grant for identity zero is entered for the first filter. -/
theorem answerOne (doubled : Doubled table first second) {code : UInt8}
    (granted : code ≠ kSubackFailure) : first.granted code ∈ answerOne table (code, 0) := by
  obtain ⟨front, middle, back, rfl, unseen⟩ := doubled.split
  unfold Mqtt.answerOne
  rw [if_neg granted, updateFirst_append_cons (by simpa using unseen) (by simp [doubled.firstZero])]
  simp

/-- Refusing identity zero ends the first entry that has it. -/
theorem not_mem_eraseP (doubled : Doubled table first second) :
    first ∉ table.eraseP fun s => s.subId = 0 := by
  obtain ⟨front, middle, back, rfl, unseen⟩ := doubled.split
  have distinct := doubled.distinct
  rw [List.map_append, List.map_cons, List.nodup_middle] at distinct
  rw [List.eraseP_append_right _ (by simpa using unseen),
    List.eraseP_cons_of_pos (by simp [doubled.firstZero])]
  intro member
  refine (List.nodup_cons.mp distinct).1 ?_
  rw [← List.map_append]
  exact List.mem_map_of_mem member

end Doubled

/-! ## One request for many filters -/

namespace Crowded

/-- Room for this many filters, which can all be asked for at once, and for this many
acknowledgements. -/
def config (slots acks : Nat) : Config :=
  { Config.default with
    txBufferSize := 400000
    maxInflightOut := 0
    maxSubscriptions := slots
    maxPendingAcks := acks
    maxTopicsPerRequest := 65537
    txHoldsConnect := by decide
    topicsPerRequestPositive := by decide
    persistedHoldsHeader := by decide }

/-- The filters are words of three letters. -/
def word (index : Nat) : Bytes :=
  [UInt8.ofNat (65 + index % 41), UInt8.ofNat (65 + index / 41 % 41),
    UInt8.ofNat (65 + index / 1681)]

/-- One request for some of them. -/
def words (count : Nat) : List TopicSubscription :=
  (List.range count).map fun index => { filter := word index }

@[simp] theorem length_word (index : Nat) : (word index).length = 3 := rfl

@[simp] theorem length_words (count : Nat) : (words count).length = count := by
  rw [words, List.length_map, List.length_range]

/-- The words are distinct. -/
theorem word_injective {first second : Nat} (small : first < 65537) (alsoSmall : second < 65537)
    (same : word first = word second) : first = second := by
  have spelled := congrArg (List.map UInt8.toNat) same
  simp only [word, List.map_cons, UInt8.toNat_ofNat', List.map_nil, List.cons.injEq, and_true]
    at spelled
  omega

theorem words_distinct {count : Nat} (small : count ≤ 65537) :
    ((words count).map (·.filter)).Nodup := by
  rw [words, List.map_map]
  refine List.Nodup.map_on (fun first inFirst second inSecond same => ?_) List.nodup_range
  rw [List.mem_range] at inFirst inSecond
  exact word_injective (by omega) (by omega) same

theorem mem_words {count : Nat} {asked : TopicSubscription} (member : asked ∈ words count) :
    ∃ index < count, asked.filter = word index := by
  obtain ⟨index, inside, rfl⟩ := List.mem_map.mp member
  exact ⟨index, List.mem_range.mp inside, rfl⟩

/-- A byte that stands for a character of its own with no special meaning. -/
def IsPlain (byte : UInt8) : Prop :=
  byte < 0x80 ∧ byte ≠ 0 ∧ byte ≠ slash ∧ byte ≠ plus ∧ byte ≠ hash

instance : DecidablePred IsPlain := fun _ => inferInstanceAs (Decidable (_ ∧ _))

theorem isPlain_of_letter {value : Nat} (small : value < 41) : IsPlain (UInt8.ofNat (65 + value)) := by
  decide +revert

theorem isPlain_of_mem_word {index : Nat} (small : index < 65537) :
    ∀ byte ∈ word index, IsPlain byte := by
  simp only [word, List.mem_cons, List.not_mem_nil, or_false]
  rintro byte (rfl | rfl | rfl)
  all_goals exact isPlain_of_letter (by omega)

theorem mqttStringLoop_of_plain {s : Bytes} (plain : ∀ byte ∈ s, IsPlain byte) :
    mqttStringLoop s.length s = true := by
  induction s with
  | nil => rfl
  | cons byte rest ih =>
    rw [List.forall_mem_cons] at plain
    obtain ⟨⟨short, nonzero, _⟩, others⟩ := plain
    have bound : byte.toNat < 0x80 := UInt8.lt_iff_toNat_lt.mp short
    simp only [List.length_cons, mqttStringLoop, if_neg nonzero, leadByte, if_pos short,
      continuationBytes]
    rw [if_neg (by simp [kSmallestFor]), if_neg (by simp [kSurrogateFirst]; omega),
      if_neg (by simp [kMaxCodePoint]; omega)]
    exact ih others

theorem filterLoop_of_plain {level s : Bytes} (plain : ∀ byte ∈ s, IsPlain byte) :
    filterLoop level s = filterLevelOk (level ++ s) true := by
  induction s generalizing level with
  | nil => simp [filterLoop]
  | cons byte rest ih =>
    rw [List.forall_mem_cons] at plain
    obtain ⟨⟨_, nonzero, separate, _⟩, others⟩ := plain
    simp only [filterLoop, if_pos separate, if_neg nonzero, ih others,
      List.append_assoc, List.singleton_append]

variable {count : Nat}

section

variable {index : Nat} (small : index < 65537)

include small

theorem isValidMqttString_word : isValidMqttString (word index) = true :=
  mqttStringLoop_of_plain (isPlain_of_mem_word small)

/-- Every word is a filter. -/
theorem isValidFilter_word : isValidFilter (word index) = true := by
  have plain := isPlain_of_mem_word small
  unfold isValidFilter
  rw [if_neg (by simp [word]), isValidMqttString_word small, filterLoop_of_plain plain]
  simp only [List.nil_append, filterLevelOk, Bool.not_true, Bool.false_eq_true, if_false]
  rw [if_pos (by simp [word]), List.all_eq_true]
  intro byte member
  obtain ⟨_, _, _, notPlus, notHash⟩ := plain byte member
  simp [notPlus, notHash]

/-- Each filter takes six bytes of the packet. -/
theorem addFilter_word {total : Nat} (room : total + 6 ≤ kMaxRemainingLength) :
    addFilter total (word index) .atMostOnce 1 = .ok (total + 6) := by
  have fits : ¬ total + (utf8Size (word index).length + 1) > kMaxRemainingLength := by
    simp [utf8Size, word]
    omega
  have shape : ¬ ((word index).isEmpty = true ∨ (word index).length > kMaxStringLen) := by
    simp [word, kMaxStringLen]
  simp only [addFilter, if_neg shape, isValidMqttString_word small, checkedAdd, if_neg fits]
  rfl

theorem word_sized : subscribeRemainingLength [{ filter := word index }] = .ok 8 := by
  unfold subscribeRemainingLength
  rw [if_neg (by simp), List.foldlM_cons, addFilter_word small (by decide)]
  rfl

end

/-- The size of a request for the words. -/
theorem words_sized (small : count ≤ 65537) (some : count ≠ 0) :
    subscribeRemainingLength (words count) = .ok (2 + 6 * count) := by
  have counted : ∀ front ≤ count, (words front).foldlM
      (fun total s => addFilter total s.filter s.qos 1) 2 = Except.ok (2 + 6 * front) := by
    intro front
    induction front with
    | zero => exact fun _ => rfl
    | succ front ih =>
      intro within
      have last := @addFilter_word front (by omega) (2 + 6 * front)
        (by simp [kMaxRemainingLength]; omega)
      rw [words, List.range_succ, List.map_append, ← words, List.foldlM_append,
        ih (by omega)]
      simp only [List.map_cons, List.map_nil, List.foldlM_cons, List.foldlM_nil, bind_pure]
      exact last
  unfold subscribeRemainingLength
  rw [if_neg (by simpa [words] using some)]
  exact counted count (Nat.le_refl _)

/-- The words pass the client's check. -/
theorem words_checked {maxTopicLen : Nat} (small : count ≤ 65537) (roomy : 3 ≤ maxTopicLen) :
    Client.checkFilters (words count) maxTopicLen = .ok := by
  refine Client.checkFilters_of_valid fun asked member => ?_
  obtain ⟨index, inside, isWord⟩ := mem_words member
  rw [isWord]
  exact ⟨isValidFilter_word (by omega), roomy⟩

/-- Every word gets an entry. -/
theorem words_crowd {c : Client cfg} (distinct : (c.subscriptions.map (·.filter)).Nodup)
    (small : count ≤ 65537) : count ≤ (c.enrolled (words count) none).1.subscriptions.length := by
  have enrolled := c.enrolled_spec distinct (words count) none
  have covered : ((words count).map (·.filter)) ⊆
      (c.enrolled (words count) none).1.subscriptions.map (·.filter) := by
    intro filter named
    obtain ⟨s, member, rfl⟩ := enrolled.exists named
    exact List.mem_map_of_mem member
  have counted := ((words_distinct small).subperm covered).length_le
  rwa [List.length_map, List.length_map, length_words] at counted

/-- Every entry of a table that was empty is for a word. -/
theorem words_only {c : Client cfg} (empty : c.subscriptions = []) {s : Subscription}
    (member : s ∈ (c.enrolled (words count) none).1.subscriptions) :
    ∃ index < count, s.filter = word index := by
  have enrolled := c.enrolled_spec (by simp [empty]) (words count) none
  rcases enrolled.entries s member with ⟨old, _⟩ | ⟨_, asked⟩
  · rw [empty] at old
    cases old
  · obtain ⟨asked, among, same, _⟩ := mem_of_askedLast asked
    exact same ▸ mem_words among

/-- More words than there are identities leave two entries with identity zero. -/
theorem words_doubled {c : Client cfg} (empty : c.subscriptions = [])
    (small : count ≤ 65537) (many : 65537 ≤ count) :
    ∃ first second, Doubled (c.enrolled (words count) none).1.subscriptions first second ∧
      ∃ index < count, second.filter = word index := by
  have distinct : (c.subscriptions.map (·.filter)).Nodup := by simp [empty]
  have once := @GivenOnce.enrolled _ c (by simp [GivenOnce, empty]) (words count) none
  obtain ⟨first, second, doubled⟩ := exists_doubled once
    (c.enrolled_spec distinct (words count) none).filters (many.trans (words_crowd distinct small))
  obtain ⟨front, middle, back, split, _⟩ := doubled.split
  exact ⟨first, second, doubled, words_only empty (by rw [split]; simp)⟩

/-- No more entries are needed than were asked for. -/
theorem newEntries_words_le (c : Client cfg) (count : Nat) : c.newEntries (words count) ≤ count := by
  have counted : c.newEntries (words count) ≤ (words count).length := List.countP_le_length
  rwa [length_words] at counted

/-- An empty table gets no more entries than were asked for. -/
theorem length_words_le {c : Client cfg} (empty : c.subscriptions = []) (count : Nat) :
    (c.enrolled (words count) none).1.subscriptions.length ≤ count := by
  have budget := c.enrolled_budget (words count) [] none
  have counted := newEntries_words_le c count
  rw [empty, List.length_nil, List.append_nil] at budget
  omega

/-- The request fits a buffer of 400000 bytes and leaves room for others. -/
theorem words_fit (small : count ≤ 65537) : packetSize (2 + 6 * count) ≤ 399000 := by
  simp only [packetSize]
  split_ifs <;> omega

end Crowded

end Mqtt
