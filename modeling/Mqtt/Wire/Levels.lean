import Mqtt.Wire.Utf8

/-!
# Topic names and filters by levels

The validators and the matcher walk their strings byte by byte. This module says
what they compute in terms of levels, the pieces between separators: where
wildcards may stand in a filter, and which topics a filter covers.
-/

namespace Mqtt

/-- The levels of a topic name or filter. -/
def levels (s : Bytes) : List Bytes := s.splitOn slash

/-- Wildcards stand alone in their level, and the multi-level one stands last. -/
def WellPlaced (filter : List Bytes) : Prop :=
  ∀ before level after, filter = before ++ level :: after →
    (plus ∉ level ∧ hash ∉ level) ∨ level = [plus] ∨ (level = [hash] ∧ after = [])

/-- A level of a filter matches a level of a topic. -/
def LevelMatches (filterLevel topicLevel : Bytes) : Prop :=
  filterLevel = topicLevel ∨ filterLevel = [plus]

/-- The levels of a filter cover those of a topic: pairwise, or up to a last
level that stands for any number of them. -/
def Covers (filter topic : List Bytes) : Prop :=
  ([hash] ∉ filter ∧ List.Forall₂ LevelMatches filter topic) ∨
  ∃ leading, filter = leading ++ [[hash]] ∧ leading.length ≤ topic.length ∧
    List.Forall₂ LevelMatches leading (topic.take leading.length)

/-! ## Levels -/

theorem levels_cons (c : UInt8) (rest : Bytes) :
    levels (c :: rest) =
      if c = slash then [] :: levels rest else (levels rest).modifyHead (List.cons c) := by
  simp only [levels, List.splitOn, List.splitOnP_cons_eq_if_modifyHead, beq_iff_eq]

theorem levels_ne_nil (s : Bytes) : levels s ≠ [] := List.splitOnP_ne_nil _ _

theorem levels_injective : Function.Injective levels := by
  intro left right same
  have joined := congrArg [slash].intercalate same
  simpa only [levels, List.intercalate_splitOn] using joined

/-- A string is its first level and the levels behind the separator that ends it. -/
theorem levels_eq (s : Bytes) :
    levels s = firstLevel s ::
      match afterLevel s with
      | [] => []
      | _ :: rest => levels rest := by
  induction s with
  | nil => rfl
  | cons c rest ih =>
    rw [levels_cons, firstLevel, afterLevel]
    by_cases separator : c = slash
    · rw [if_pos separator]
      simp [separator]
    · rw [if_neg separator, ih]
      simp [separator, firstLevel, afterLevel]

theorem firstLevel_cons (c : UInt8) (rest : Bytes) :
    firstLevel (c :: rest) = if c = slash then [] else c :: firstLevel rest := by
  by_cases separator : c = slash <;> simp [firstLevel, separator]

theorem mem_of_mem_levels {s level : Bytes} {c : UInt8} (member : level ∈ levels s)
    (inside : c ∈ level) : c ∈ s := by
  induction s generalizing level with
  | nil =>
    obtain rfl := List.mem_singleton.mp member
    exact absurd inside List.not_mem_nil
  | cons d rest ih =>
    rw [levels_cons] at member
    by_cases separator : d = slash
    · rw [if_pos separator] at member
      cases member with
      | head => exact absurd inside List.not_mem_nil
      | tail _ member => exact List.mem_cons_of_mem d (ih member inside)
    · obtain ⟨first, others, split⟩ := List.exists_cons_of_ne_nil (levels_ne_nil rest)
      rw [if_neg separator, split, List.modifyHead_cons] at member
      rw [split] at ih
      cases member with
      | head =>
        refine (List.mem_cons.mp inside).elim (fun here => ?_) (fun below => ?_)
        · exact List.mem_cons.mpr (.inl here)
        · exact List.mem_cons_of_mem d (ih List.mem_cons_self below)
      | tail _ member =>
        exact List.mem_cons_of_mem d (ih (List.mem_cons_of_mem first member) inside)

/-! ## Where wildcards stand -/

theorem wellPlaced_cons_iff {level : Bytes} {rest : List Bytes} :
    WellPlaced (level :: rest) ↔
      ((plus ∉ level ∧ hash ∉ level) ∨ level = [plus] ∨ (level = [hash] ∧ rest = [])) ∧
      WellPlaced rest := by
  constructor
  · intro placed
    refine ⟨placed [] level rest rfl, fun before inner after split => ?_⟩
    exact placed (level :: before) inner after (by rw [split, List.cons_append])
  · rintro ⟨here, placed⟩ before inner after split
    cases before with
    | nil =>
      obtain ⟨rfl, rfl⟩ := List.cons.inj split
      exact here
    | cons first before => exact placed before inner after (List.cons.inj split).2

/-- The check at a level boundary is the rule for that level. -/
theorem filterLevelOk_iff {level : Bytes} {atEnd : Bool} :
    filterLevelOk level atEnd = true ↔
      (plus ∉ level ∧ hash ∉ level) ∨ level = [plus] ∨ (level = [hash] ∧ atEnd = true) := by
  match level with
  | [] => simp [filterLevelOk]
  | [c] =>
    by_cases isHash : c = hash
    · subst isHash
      simp [filterLevelOk, hash, plus]
    · rw [filterLevelOk, if_neg (by simp), if_neg (by simpa using isHash)]
      refine iff_of_true rfl ?_
      by_cases isPlus : c = plus
      · exact .inr (.inl (by rw [isPlus]))
      · exact .inl (by simp [Ne.symm isHash, Ne.symm isPlus])
  | c :: d :: rest =>
    rw [filterLevelOk, if_pos (by simp)]
    simp only [List.all_eq_true, Bool.not_eq_true', Bool.or_eq_false_iff, decide_eq_false_iff_not]
    constructor
    · intro free
      exact .inl ⟨fun member => (free plus member).1 rfl, fun member => (free hash member).2 rfl⟩
    · rintro (⟨noPlus, noHash⟩ | alone | ⟨alone, _⟩)
      · exact fun e member => ⟨fun isPlus => noPlus (isPlus ▸ member),
          fun isHash => noHash (isHash ▸ member)⟩
      · cases alone
      · cases alone

/-- The validator's loop, with a level begun, decides the rule for all the levels. -/
theorem filterLoop_iff {begun rest : Bytes} (nonzero : 0 ∉ rest) :
    filterLoop begun rest = true ↔ WellPlaced ((levels rest).modifyHead (begun ++ ·)) := by
  induction rest generalizing begun with
  | nil =>
    rw [filterLoop, filterLevelOk_iff, show levels [] = [[]] from rfl, List.modifyHead_cons,
      List.append_nil, wellPlaced_cons_iff]
    simp [WellPlaced]
  | cons c rest ih =>
    rw [List.mem_cons, not_or] at nonzero
    rw [filterLoop, levels_cons]
    by_cases separator : c = slash
    · have more := levels_ne_nil rest
      have resumed : (levels rest).modifyHead (([] : Bytes) ++ ·) = levels rest := by
        cases levels rest <;> rfl
      rw [if_neg (not_not.mpr separator), if_pos separator, List.modifyHead_cons,
        List.append_nil, wellPlaced_cons_iff, Bool.and_eq_true, filterLevelOk_iff,
        ih nonzero.2, resumed]
      simp [more]
    · have carried : ((levels rest).modifyHead (List.cons c)).modifyHead (begun ++ ·) =
          (levels rest).modifyHead (begun ++ [c] ++ ·) := by
        cases levels rest <;> simp
      rw [if_pos separator, if_neg (Ne.symm nonzero.1), if_neg separator, carried, ih nonzero.2]

/-- A filter is accepted exactly when it has a legal size, spells text and has its
wildcards in place. -/
theorem isValidFilter_iff {filter : Bytes} :
    isValidFilter filter = true ↔
      1 ≤ filter.length ∧ filter.length ≤ 65535 ∧ SpellsText filter ∧
        WellPlaced (levels filter) := by
  have whole : (levels filter).modifyHead (([] : Bytes) ++ ·) = levels filter := by
    cases levels filter <;> rfl
  rw [isValidFilter]
  split
  case isTrue size =>
    rw [List.isEmpty_iff_length_eq_zero] at size
    exact iff_of_false Bool.false_ne_true fun ⟨nonempty, short, _⟩ => by omega
  case isFalse size =>
    rw [List.isEmpty_iff_length_eq_zero] at size
    rw [← isValidMqttString_iff]
    cases valid : isValidMqttString filter with
    | false => simp
    | true =>
      have nonzero := (isValidMqttString_iff.mp valid).zero_not_mem
      rw [Bool.not_true, if_neg Bool.false_ne_true, filterLoop_iff nonzero, whole]
      exact ⟨fun placed => ⟨by omega, by omega, rfl, placed⟩, fun accepted => accepted.2.2.2⟩

/-! ## What a filter covers -/

theorem covers_hash (topic : List Bytes) : Covers [[hash]] topic :=
  .inr ⟨[], rfl, Nat.zero_le _, .nil⟩

theorem covers_nil_left {topic : List Bytes} : Covers [] topic ↔ topic = [] := by
  simp [Covers]

theorem covers_nil_right {filter : List Bytes} :
    Covers filter [] ↔ filter = [] ∨ filter = [[hash]] := by
  constructor
  · rintro (⟨_, pairwise⟩ | ⟨leading, rfl, short, _⟩)
    · exact .inl (List.forall₂_nil_right_iff.mp pairwise)
    · obtain rfl := List.length_eq_zero_iff.mp (Nat.le_zero.mp short)
      exact .inr rfl
  · rintro (rfl | rfl)
    · exact covers_nil_left.mpr rfl
    · exact covers_hash []

theorem covers_cons_cons {f t : Bytes} {filter topic : List Bytes} (single : f ≠ [hash]) :
    Covers (f :: filter) (t :: topic) ↔ LevelMatches f t ∧ Covers filter topic := by
  constructor
  · rintro (⟨noHash, pairwise⟩ | ⟨leading, split, short, pairwise⟩)
    · rw [List.mem_cons, not_or] at noHash
      obtain ⟨here, below⟩ := List.forall₂_cons.mp pairwise
      exact ⟨here, .inl ⟨noHash.2, below⟩⟩
    · cases leading with
      | nil => exact absurd (List.cons.inj split).1 single
      | cons first leading =>
        obtain ⟨rfl, rfl⟩ := List.cons.inj split
        obtain ⟨here, below⟩ := List.forall₂_cons.mp pairwise
        exact ⟨here, .inr ⟨leading, rfl, Nat.le_of_succ_le_succ short, below⟩⟩
  · rintro ⟨here, ⟨noHash, below⟩ | ⟨leading, rfl, short, below⟩⟩
    · exact .inl ⟨by simp [noHash, Ne.symm single], .cons here below⟩
    · exact .inr ⟨f :: leading, rfl, Nat.succ_le_succ short, .cons here below⟩

/-- The matcher's loop decides coverage for a filter with its wildcards in place. -/
theorem topicMatchesLoop_iff {rounds : Nat} {filter topic : Bytes}
    (enough : filter.length < rounds) (placed : WellPlaced (levels filter)) :
    topicMatchesLoop rounds filter topic = true ↔ Covers (levels filter) (levels topic) := by
  induction rounds generalizing filter topic with
  | zero => cases enough
  | succ rounds ih =>
    rw [topicMatchesLoop, levels_eq filter, levels_eq topic]
    rw [levels_eq filter, wellPlaced_cons_iff] at placed
    dsimp only
    split
    case isTrue multi =>
      obtain ⟨-, last⟩ : firstLevel filter = [hash] ∧ _ = [] := by
        refine placed.1.resolve_left (fun plain => plain.2 ?_) |>.resolve_left fun isPlus => ?_
        · rw [multi]
          exact List.mem_cons_self
        · exact absurd (multi.symm.trans isPlus) (by decide)
      rw [multi, last]
      exact iff_of_true rfl (covers_hash _)
    case isFalse single =>
      rw [covers_cons_cons single]
      split
      case isTrue differs =>
        refine iff_of_false Bool.false_ne_true fun ⟨here, _⟩ => ?_
        exact here.elim differs.2 differs.1
      case isFalse agrees =>
        have here : LevelMatches (firstLevel filter) (firstLevel topic) := by
          rw [LevelMatches]
          tauto
        cases remaining : afterLevel filter with
        | nil => cases afterLevel topic <;> simp [here, covers_nil_left, levels_ne_nil]
        | cons separator filterRest =>
          cases afterLevel topic with
          | nil =>
            have trailing : levels filterRest = [[hash]] ↔ filterRest = [hash] :=
              levels_injective.eq_iff (b := [hash])
            simp [here, covers_nil_right, levels_ne_nil, trailing]
          | cons _ topicRest =>
            have shorter : (afterLevel filter).length ≤ filter.length :=
              (List.dropWhile_sublist _).length_le
            rw [remaining] at shorter placed
            rw [List.length_cons] at shorter
            rw [ih (by omega) placed.2, and_iff_right here]

/-! ## Whole strings -/

theorem isValidTopicName_iff {name : Bytes} :
    isValidTopicName name = true ↔
      1 ≤ name.length ∧ name.length ≤ 65535 ∧ SpellsText name ∧ plus ∉ name ∧ hash ∉ name := by
  rw [isValidTopicName]
  split
  case isTrue size =>
    rw [List.isEmpty_iff_length_eq_zero] at size
    exact iff_of_false Bool.false_ne_true fun ⟨nonempty, short, _⟩ => by omega
  case isFalse size =>
    rw [List.isEmpty_iff_length_eq_zero] at size
    rw [← isValidMqttString_iff]
    cases valid : isValidMqttString name with
    | false => simp
    | true =>
      have nonzero := (isValidMqttString_iff.mp valid).zero_not_mem
      simp only [Bool.not_true, Bool.false_eq_true, if_false, List.all_eq_true,
        Bool.not_eq_true', Bool.or_eq_false_iff, decide_eq_false_iff_not, true_and]
      constructor
      · intro free
        exact ⟨by omega, by omega, fun member => (free plus member).1.1 rfl,
          fun member => (free hash member).1.2 rfl⟩
      · rintro ⟨-, -, noPlus, noHash⟩ c member
        exact ⟨⟨fun isPlus => noPlus (isPlus ▸ member), fun isHash => noHash (isHash ▸ member)⟩,
          fun isZero => nonzero (isZero ▸ member)⟩

/-- A wildcard at the front of a filter is its whole first level. -/
theorem firstLevel_eq_singleton_iff {wildcard first : UInt8} {rest : Bytes}
    (isWildcard : wildcard = plus ∨ wildcard = hash)
    (placed : WellPlaced (levels (first :: rest))) :
    firstLevel (first :: rest) = [wildcard] ↔ first = wildcard := by
  rw [levels_eq, wellPlaced_cons_iff] at placed
  constructor
  · intro alone
    rw [firstLevel_cons] at alone
    split at alone
    · cases alone
    · exact (List.cons.inj alone).1
  · rintro rfl
    have leads : firstLevel (first :: rest) = first :: firstLevel rest := by
      rw [firstLevel_cons, if_neg]
      obtain rfl | rfl := isWildcard <;> decide
    rw [leads] at placed ⊢
    obtain plain | alone | ⟨alone, -⟩ := placed.1
    · exfalso
      obtain rfl | rfl := isWildcard
      · exact plain.1 List.mem_cons_self
      · exact plain.2 List.mem_cons_self
    all_goals rw [(List.cons.inj alone).2]

/-- The matcher is true exactly when the levels of the filter cover those of the
topic, and a wildcard in front does not reach a topic that begins with a dollar. -/
theorem topicMatches_exact {filter topic : Bytes} (validFilter : isValidFilter filter = true)
    (validName : isValidTopicName topic = true) :
    topicMatches filter topic = true ↔
      Covers (levels filter) (levels topic) ∧
      ¬ (topic.head? = some dollar ∧
        ((levels filter).head? = some [plus] ∨ (levels filter).head? = some [hash])) := by
  obtain ⟨someFilter, -, -, placed⟩ := isValidFilter_iff.mp validFilter
  obtain ⟨someTopic, -⟩ := isValidTopicName_iff.mp validName
  cases filter with
  | nil => cases someFilter
  | cons f filterRest =>
    cases topic with
    | nil => cases someTopic
    | cons t topicRest =>
      have leads : (levels (f :: filterRest)).head? = some (firstLevel (f :: filterRest)) := by
        rw [levels_eq, List.head?_cons]
      rw [topicMatches, leads, List.head?_cons, Option.some.injEq, Option.some.injEq,
        Option.some.injEq, firstLevel_eq_singleton_iff (.inl rfl) placed,
        firstLevel_eq_singleton_iff (.inr rfl) placed,
        ← topicMatchesLoop_iff (Nat.lt_succ_self _) placed]
      split
      case isTrue reserved =>
        exact iff_of_false Bool.false_ne_true fun matched => matched.2 reserved
      case isFalse free => exact (and_iff_left free).symm

/-- `a/#` reaches its parent `a`. -/
theorem topicMatches_exact_parent :
    isValidFilter [0x61, slash, hash] = true ∧ isValidTopicName [0x61] = true ∧
      Covers (levels [0x61, slash, hash]) (levels [0x61]) :=
  have matched := @topicMatches_exact [0x61, slash, hash] [0x61] (by decide) (by decide)
  ⟨by decide, by decide, (matched.mp (by decide)).1⟩

/-- The validator of filters accepts exactly the grammar; every topic name is a
filter, and matches itself. -/
theorem isValidFilter_exact (filter : Bytes) :
    (isValidFilter filter = true ↔
      1 ≤ filter.length ∧ filter.length ≤ 65535 ∧ isValidMqttString filter = true ∧
        WellPlaced (levels filter)) ∧
    (isValidTopicName filter = true →
      isValidFilter filter = true ∧ topicMatches filter filter = true) := by
  rw [isValidMqttString_iff]
  refine ⟨isValidFilter_iff, fun validName => ?_⟩
  obtain ⟨nonempty, short, spells, noPlus, noHash⟩ := isValidTopicName_iff.mp validName
  have placed : WellPlaced (levels filter) := by
    intro before level after split
    have member : level ∈ levels filter := by simp [split]
    exact .inl ⟨fun inside => noPlus (mem_of_mem_levels member inside),
      fun inside => noHash (mem_of_mem_levels member inside)⟩
  refine ⟨isValidFilter_iff.mpr ⟨nonempty, short, spells, placed⟩, ?_⟩
  cases filter with
  | nil => cases nonempty
  | cons c rest =>
    have notReserved : ¬ (c = dollar ∧ (c = plus ∨ c = hash)) := by
      rintro ⟨rfl, clash⟩
      exact absurd clash (by decide)
    rw [topicMatches, if_neg notReserved, topicMatchesLoop_iff (Nat.lt_succ_self _) placed]
    refine .inl ⟨fun member => noHash (mem_of_mem_levels member List.mem_cons_self), ?_⟩
    exact List.forall₂_same.mpr fun level _ => .inl rfl

/-- `/a/`, with an empty level at either end, is a name, a filter and its own match. -/
theorem isValidFilter_exact_emptyLevels :
    topicMatches [slash, 0x61, slash] [slash, 0x61, slash] = true :=
  ((isValidFilter_exact [slash, 0x61, slash]).2 (by decide)).2

end Mqtt
