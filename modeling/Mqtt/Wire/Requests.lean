import Mathlib.Tactic.IntervalCases
import Mqtt.Wire.Framing

/-!
# Requests and messages read back

The client writes CONNECT, SUBSCRIBE and UNSUBSCRIBE and never reads one, and of a
PUBLISH it reads only what was sent to it. These readers are the broker's side of the
formats, and each reads back exactly what the client wrote.
-/

namespace Mqtt

/-- Read one element after another until nothing is left. Every element takes at
least a byte, so the bytes bound the rounds. -/
def readEach {α : Type} (read : Bytes → Option (α × Bytes)) : Nat → Bytes → Option (List α)
  | _, [] => some []
  | 0, _ :: _ => none
  | rounds + 1, byte :: bytes =>
    match read (byte :: bytes) with
    | none => none
    | some (element, rest) => (readEach read rounds rest).map (element :: ·)

/-- Elements written one behind the other are read back. -/
theorem readEach_flatMap {α : Type} {read : Bytes → Option (α × Bytes)} {write : α → Bytes}
    {elements : List α} {rounds : Nat} (enough : elements.length ≤ rounds)
    (nonempty : ∀ element ∈ elements, write element ≠ [])
    (reads : ∀ element ∈ elements, ∀ rest, read (write element ++ rest) = some (element, rest)) :
    readEach read rounds (elements.flatMap write) = some elements := by
  induction elements generalizing rounds with
  | nil => cases rounds <;> rfl
  | cons element rest ih =>
    cases rounds with
    | zero => simp at enough
    | succ rounds =>
      have found := reads element (by simp) (rest.flatMap write)
      have others := @ih rounds (by simpa using enough)
        (fun other member => nonempty other (by simp [member]))
        (fun other member => reads other (by simp [member]))
      cases written : write element with
      | nil => exact absurd written (nonempty element (by simp))
      | cons byte bytes =>
        rw [written, List.cons_append] at found
        simp only [List.flatMap_cons, written, List.cons_append, readEach, found, others,
          Option.map_some]

/-- One filter of an UNSUBSCRIBE. -/
def readFilter (bytes : Bytes) : Option (Bytes × Bytes) := (readString bytes).toOption

/-- One filter of a SUBSCRIBE and its level. -/
def readSubscription (bytes : Bytes) : Option (TopicSubscription × Bytes) :=
  match readString bytes with
  | .ok (filter, qos :: rest) => some ({ filter := filter, qos := QoS.ofTwoBits qos }, rest)
  | _ => none

/-- A SUBSCRIBE: its packet id and what it asks for. -/
def readSubscribe (bytes : Bytes) : Option (UInt16 × List TopicSubscription) :=
  match readPacket bytes with
  | some (header, high :: low :: rest) =>
    if header.type = .subscribe then
      (readEach readSubscription rest.length rest).map (u16Value high low, ·)
    else none
  | _ => none

/-- An UNSUBSCRIBE: its packet id and the filters it ends. -/
def readUnsubscribe (bytes : Bytes) : Option (UInt16 × List Bytes) :=
  match readPacket bytes with
  | some (header, high :: low :: rest) =>
    if header.type = .unsubscribe then
      (readEach readFilter rest.length rest).map (u16Value high low, ·)
    else none
  | _ => none

/-- A CONNECT: whether it asks for a clean session. -/
def readConnect (bytes : Bytes) : Option Bool :=
  match readPacket bytes with
  | some (header, body) =>
    if header.type = .connect then body[7]?.map fun flags => flags &&& 0x02 ≠ 0 else none
  | none => none

/-- What a packet asks of the broker's subscriptions. -/
inductive Request where
  | connect (clean : Bool)
  | subscribe (id : UInt16) (filters : List Bytes)
  | unsubscribe (id : UInt16) (filters : List Bytes)
  deriving DecidableEq, Repr

/-- It has a packet id and names a filter. -/
def Request.valid : Request → Bool
  | .connect _ => true
  | .subscribe id filters => id ≠ 0 && !filters.isEmpty
  | .unsubscribe id filters => id ≠ 0 && !filters.isEmpty

def readRequest (bytes : Bytes) : Option Request :=
  match readPacket bytes with
  | none => none
  | some (header, _) =>
    match header.type with
    | .connect => (readConnect bytes).map .connect
    | .subscribe => ((readSubscribe bytes).map fun request =>
      .subscribe request.1 (request.2.map (·.filter))).filter Request.valid
    | .unsubscribe => ((readUnsubscribe bytes).map fun request =>
      .unsubscribe request.1 request.2).filter Request.valid
    | _ => none

theorem readEach_length {α : Type} {read : Bytes → Option (α × Bytes)} {rounds : Nat}
    {bytes : Bytes} {elements : List α} (reads : readEach read rounds bytes = some elements) :
    elements.length ≤ rounds := by
  induction rounds generalizing bytes elements with
  | zero =>
    cases bytes <;> cases reads
    exact Nat.le_refl _
  | succ rounds ih =>
    cases bytes with
    | nil =>
      cases reads
      simp
    | cons byte bytes =>
      unfold readEach at reads
      split at reads
      · cases reads
      · obtain ⟨others, isOthers, rfl⟩ := Option.map_eq_some_iff.mp reads
        have fewer := ih isOthers
        rw [List.length_cons]
        omega

/-- A SUBSCRIBE names no more filters than its SUBACK has room to answer. -/
theorem readSubscribe_length {bytes : Bytes} {id : UInt16} {subs : List TopicSubscription}
    (reads : readSubscribe bytes = some (id, subs)) : 2 + subs.length ≤ kMaxRemainingLength := by
  unfold readSubscribe at reads
  split at reads
  · rename_i header high low rest isPacket
    split at reads
    · obtain ⟨found, isFound, same⟩ := Option.map_eq_some_iff.mp reads
      cases same
      have fewer := readEach_length isFound
      have short := readPacket_short isPacket
      simp only [List.length_cons] at short
      omega
    · cases reads
  · cases reads

/-- A request can be answered: it is valid, and a SUBACK has room for its codes. -/
theorem readRequest_answerable {bytes : Bytes} {request : Request}
    (reads : readRequest bytes = some request) :
    request.valid = true ∧ ∀ id filters, request = .subscribe id filters →
      2 + filters.length ≤ kMaxRemainingLength := by
  unfold readRequest at reads
  split at reads
  · cases reads
  · split at reads
    · obtain ⟨clean, _, rfl⟩ := Option.map_eq_some_iff.mp reads
      exact ⟨rfl, fun _ _ other => by cases other⟩
    · obtain ⟨found, valid⟩ := Option.filter_eq_some_iff.mp reads
      obtain ⟨⟨id, subs⟩, isSubscribe, rfl⟩ := Option.map_eq_some_iff.mp found
      refine ⟨valid, fun _ _ same => ?_⟩
      cases same
      simpa using readSubscribe_length isSubscribe
    · obtain ⟨found, valid⟩ := Option.filter_eq_some_iff.mp reads
      obtain ⟨_, _, rfl⟩ := Option.map_eq_some_iff.mp found
      exact ⟨valid, fun _ _ other => by cases other⟩
    · cases reads

/-! ## Requests that can be written -/

variable {topic payload : Bytes} {qos : QoS} {id : UInt16} {subs : List TopicSubscription}
  {filters : List Bytes} {size : Nat}

theorem addFilter_of_valid {total extra : Nat} {filter : Bytes} (nonempty : filter ≠ [])
    (short : filter.length ≤ kMaxStringLen) (valid : isValidMqttString filter = true)
    (level : validQos qos = true)
    (within : total + (utf8Size filter.length + extra) ≤ kMaxRemainingLength) :
    addFilter total filter qos extra = .ok (total + (utf8Size filter.length + extra)) := by
  have shape : ¬ (filter.isEmpty = true ∨ filter.length > kMaxStringLen) := by
    simp [nonempty]
    omega
  simp only [addFilter, checkedAdd, if_neg shape, valid, level, bind, Except.bind,
    Bool.not_true, Bool.false_eq_true, if_false]
  rw [if_neg (by omega)]

/-- Filters that pass their checks and fit together can be sent in one SUBSCRIBE. -/
theorem subscribeRemainingLength_of_valid (some : subs ≠ [])
    (checked : ∀ s ∈ subs, s.filter ≠ [] ∧ s.filter.length ≤ kMaxStringLen ∧
      isValidMqttString s.filter = true ∧ validQos s.qos = true)
    (within : 2 + (subs.map fun s => utf8Size s.filter.length + 1).sum ≤ kMaxRemainingLength) :
    subscribeRemainingLength subs =
      .ok (2 + (subs.map fun s => utf8Size s.filter.length + 1).sum) := by
  have folded : ∀ (subs : List TopicSubscription) (total : Nat),
      (∀ s ∈ subs, s.filter ≠ [] ∧ s.filter.length ≤ kMaxStringLen ∧
        isValidMqttString s.filter = true ∧ validQos s.qos = true) →
      total + (subs.map fun s => utf8Size s.filter.length + 1).sum ≤ kMaxRemainingLength →
      subs.foldlM (fun total s => addFilter total s.filter s.qos 1) total =
        Except.ok (total + (subs.map fun s => utf8Size s.filter.length + 1).sum) := by
    intro subs
    induction subs with
    | nil => intro total _ _; rfl
    | cons s rest ih =>
      intro total checked within
      obtain ⟨nonempty, short, valid, level⟩ := checked s (by simp)
      rw [List.map_cons, List.sum_cons] at within ⊢
      rw [List.foldlM_cons, addFilter_of_valid nonempty short valid level (by omega)]
      refine (ih _ (fun other member => checked other (by simp [member]))
        (by omega)).trans ?_
      rw [Nat.add_assoc]
  rw [subscribeRemainingLength, if_neg (by simpa using some)]
  exact folded subs 2 checked within

/-! ## Round trips -/

theorem readString_stringBytes {s : Bytes} (short : s.length ≤ kMaxStringLen)
    (valid : isValidMqttString s = true) (rest : Bytes) :
    readString (stringBytes s ++ rest) = .ok (s, rest) := by
  have length : (UInt16.ofNat s.length).toNat = s.length := by
    rw [UInt16.toNat_ofNat']
    exact Nat.mod_eq_of_lt (by unfold kMaxStringLen at short; omega)
  simp only [stringBytes, u16Bytes, List.cons_append, List.nil_append, readString,
    u16Value_u16Bytes, length]
  by_cases empty : s.length = 0
  · rw [if_pos empty, List.length_eq_zero_iff.mp empty]
    rfl
  · rw [if_neg empty, if_neg (by simp), List.take_left, List.drop_left, if_neg (by simp [valid])]

theorem ofTwoBits_toByte (valid : validQos qos = true) : QoS.ofTwoBits qos.toByte = qos := by
  cases qos with
  | outOfRange excess => simp [validQos_outOfRange] at valid
  | _ => rfl

theorem length_le_flatMap {α : Type} {write : α → Bytes} {elements : List α}
    (nonempty : ∀ element ∈ elements, write element ≠ []) :
    elements.length ≤ (elements.flatMap write).length := by
  induction elements with
  | nil => simp
  | cons element rest ih =>
    have first := List.length_pos_iff.mpr (nonempty element (by simp))
    have others := ih fun other member => nonempty other (by simp [member])
    simp only [List.length_cons, List.flatMap_cons, List.length_append]
    omega

/-- A SUBSCRIBE is read back. -/
theorem readSubscribe_subscribePacket (sized : subscribeRemainingLength subs = .ok size)
    (id : UInt16) : readSubscribe (subscribePacket id subs) = some (id, subs) := by
  have announced := @length_subscribeBody id subs size sized
  obtain ⟨checked, within, _⟩ := subscribeRemainingLength_ok sized
  have nonempty : ∀ s ∈ subs, stringBytes s.filter ++ [s.qos.toByte] ≠ [] := by simp
  have read := @readEach_flatMap _ readSubscription
    (fun s : TopicSubscription => stringBytes s.filter ++ [s.qos.toByte]) subs _
    (length_le_flatMap nonempty) nonempty (fun s member rest => by
      obtain ⟨_, short, valid, level⟩ := checked s member
      simp only [readSubscription, List.append_assoc, List.singleton_append,
        readString_stringBytes short valid, ofTwoBits_toByte level])
  rw [readSubscribe, subscribePacket, readPacket_packetOf (by decide) (announced ▸ within)]
  simp only [subscribeBody, u16Bytes, List.cons_append, List.nil_append, read, if_true,
    Option.map_some, u16Value_u16Bytes]

/-- An UNSUBSCRIBE is read back. -/
theorem readUnsubscribe_unsubscribePacket (sized : unsubscribeRemainingLength filters = .ok size)
    (id : UInt16) : readUnsubscribe (unsubscribePacket id filters) = some (id, filters) := by
  have announced := @length_unsubscribeBody id filters size sized
  obtain ⟨checked, within, _⟩ := unsubscribeRemainingLength_ok sized
  have nonempty : ∀ f ∈ filters, stringBytes f ≠ [] := by simp [stringBytes, u16Bytes]
  have read := @readEach_flatMap _ readFilter stringBytes filters _
    (length_le_flatMap nonempty) nonempty (fun f member rest => by
      obtain ⟨_, short, valid⟩ := checked f member
      simp only [readFilter, readString_stringBytes short valid]
      rfl)
  rw [readUnsubscribe, unsubscribePacket, readPacket_packetOf (by decide) (announced ▸ within)]
  simp only [unsubscribeBody, u16Bytes, List.cons_append, List.nil_append, read, if_true,
    Option.map_some, u16Value_u16Bytes]

/-- The bit that asks for a clean session is not touched by the others. -/
theorem connectFlags_clean (opts : ConnectOptions) :
    connectFlags opts &&& 0x02 = if opts.cleanSession then 0x02 else 0 := by
  have apart : ∀ first second : UInt8,
      (first ||| second) &&& 0x02 = (first &&& 0x02) ||| (second &&& 0x02) := by
    intro first second
    apply UInt8.toBitVec_inj.mp
    ext bit
    simp [Bool.and_or_distrib_right]
  have level : ∀ byte : UInt8, ((byte &&& 0x03) <<< 3) &&& 0x02 = 0 := by
    intro byte
    apply UInt8.toBitVec_inj.mp
    ext bit inByte
    interval_cases bit <;> simp
  have others : (0x04 : UInt8) &&& 0x02 = 0 ∧ (0x20 : UInt8) &&& 0x02 = 0 ∧
      (0x40 : UInt8) &&& 0x02 = 0 ∧ (0x80 : UInt8) &&& 0x02 = 0 := by decide
  unfold connectFlags
  simp only
  split_ifs <;> simp [apart, level, others]

theorem readConnect_connectPacket {opts : ConnectOptions}
    (sized : connectRemainingLength opts = .ok size) :
    readConnect (connectPacket opts) = some opts.cleanSession := by
  obtain ⟨_, _, _, _, within, announced⟩ := connectRemainingLength_ok sized
  have flags : (connectBody opts)[7]? = some (connectFlags opts) := rfl
  rw [readConnect, connectPacket, readPacket_packetOf (by decide) (announced ▸ within)]
  simp only [if_true, flags, Option.map_some, connectFlags_clean]
  cases opts.cleanSession <;> rfl

theorem readRequest_connectPacket {opts : ConnectOptions}
    (sized : connectRemainingLength opts = .ok size) :
    readRequest (connectPacket opts) = some (.connect opts.cleanSession) := by
  obtain ⟨_, _, _, _, within, announced⟩ := connectRemainingLength_ok sized
  have read := readConnect_connectPacket sized
  unfold connectPacket at read ⊢
  simp only [readRequest, @readPacket_packetOf { type := .connect } (connectBody opts) (by decide)
    (announced ▸ within), read, Option.map_some]

theorem subscribeRemainingLength_nonempty
    (sized : subscribeRemainingLength subs = .ok size) : subs.isEmpty = false := by
  by_contra empty
  rw [subscribeRemainingLength, if_pos (by simpa using empty)] at sized
  cases sized

theorem unsubscribeRemainingLength_nonempty
    (sized : unsubscribeRemainingLength filters = .ok size) : filters.isEmpty = false := by
  by_contra empty
  rw [unsubscribeRemainingLength, if_pos (by simpa using empty)] at sized
  cases sized

theorem readRequest_subscribePacket
    (sized : subscribeRemainingLength subs = .ok size) (nonzero : id ≠ 0) :
    readRequest (subscribePacket id subs) = some (.subscribe id (subs.map (·.filter))) := by
  have some : subs.isEmpty = false := subscribeRemainingLength_nonempty sized
  have announced := @length_subscribeBody id subs size sized
  obtain ⟨_, within, _⟩ := subscribeRemainingLength_ok sized
  have read := readSubscribe_subscribePacket sized id
  unfold subscribePacket at read ⊢
  simp only [readRequest, @readPacket_packetOf { type := .subscribe } (subscribeBody id subs)
    (by decide) (announced ▸ within), read, Option.map_some]
  exact Option.filter_some_pos (by simpa [Request.valid, nonzero] using some)

theorem readRequest_unsubscribePacket
    (sized : unsubscribeRemainingLength filters = .ok size) (nonzero : id ≠ 0) :
    readRequest (unsubscribePacket id filters) = some (.unsubscribe id filters) := by
  have some : filters.isEmpty = false := unsubscribeRemainingLength_nonempty sized
  have announced := @length_unsubscribeBody id filters size sized
  obtain ⟨_, within, _⟩ := unsubscribeRemainingLength_ok sized
  have read := readUnsubscribe_unsubscribePacket sized id
  unfold unsubscribePacket at read ⊢
  simp only [readRequest, @readPacket_packetOf { type := .unsubscribe } (unsubscribeBody id filters)
    (by decide) (announced ▸ within), read, Option.map_some]
  exact Option.filter_some_pos (by simpa [Request.valid, nonzero] using some)

/-! ## Messages -/

/-- What a packet hands over: a message above QoS 0, or the release of one. -/
inductive Mail where
  | message (qos : QoS) (topic payload : Bytes)
  | release
  deriving DecidableEq, Repr

/-- The packet id of a PUBLISH above QoS 0 or a PUBREL, and what it hands over. -/
def readMail (bytes : Bytes) : Option (UInt16 × Mail) :=
  match readPacket bytes with
  | none => none
  | some (header, body) =>
    match header.type with
    | .publish =>
      match decodePublish header body with
      | .error _ => none
      | .ok m =>
        if m.qos = .atMostOnce then none else some (m.packetId, .message m.qos m.topic m.payload)
    | .pubrel =>
      match decodePacketId body with
      | .error _ => none
      | .ok id => some (id, .release)
    | _ => none

/-- A PUBLISH is read back. -/
theorem readPacket_publishPacket
    (sized : publishRemainingLength topic payload.length qos = .ok size) (retain dup : Bool)
    (id : UInt16) :
    readPacket (publishPacket topic payload qos retain dup id) =
      some ({ type := .publish, dup := dup, qos := qos, retain := retain, remainingLength := size },
        publishBody topic payload qos id) := by
  have announced := @length_publishBody topic payload qos id size sized
  obtain ⟨_, _, valid, _, within, _⟩ := publishRemainingLength_ok sized
  rw [publishPacket, readPacket_packetOf ⟨by simp, by simpa using valid⟩ (announced ▸ within),
    announced]

theorem decodePublish_publishBody {header : FixedHeader}
    (sized : publishRemainingLength topic payload.length header.qos = .ok size)
    (tracked : header.qos ≠ .atMostOnce) (nonzero : id ≠ 0) :
    decodePublish header (publishBody topic payload header.qos id) =
      .ok { topic := topic, payload := payload, qos := header.qos, retain := header.retain,
            dup := header.dup, packetId := id } := by
  obtain ⟨nonempty, short, _, valid, _, _⟩ := publishRemainingLength_ok sized
  have named : topic.isEmpty = false := by simpa using nonempty
  simp only [decodePublish, publishBody, readString_stringBytes short valid, named, u16Bytes,
    if_pos tracked, List.cons_append, List.nil_append, u16Value_u16Bytes, if_neg nonzero,
    Bool.false_eq_true, if_false]

/-- A tracked PUBLISH is mail under its id. -/
theorem readMail_publishPacket
    (sized : publishRemainingLength topic payload.length qos = .ok size)
    (tracked : qos ≠ .atMostOnce) (retain dup : Bool) (nonzero : id ≠ 0) :
    readMail (publishPacket topic payload qos retain dup id) =
      some (id, .message qos topic payload) := by
  have decoded := @decodePublish_publishBody topic payload id size
    { type := .publish, dup := dup, qos := qos, retain := retain, remainingLength := size }
    sized tracked nonzero
  simp only [readMail, readPacket_publishPacket sized, decoded, if_neg tracked]

/-- An untracked one is no mail. -/
theorem readMail_publishPacket_untracked
    (sized : publishRemainingLength topic payload.length .atMostOnce = .ok size)
    (retain dup : Bool) (id : UInt16) :
    readMail (publishPacket topic payload .atMostOnce retain dup id) = none := by
  simp only [readMail, readPacket_publishPacket sized]
  split
  · rfl
  · rename_i m decoded
    rw [if_pos (decodePublish_ok decoded).1]

theorem readMail_pubrel (nonzero : id ≠ 0) :
    readMail (ackPacket .pubrel id) = some (id, .release) := by
  simp only [readMail,
    readPacket_ackPacket (show ({ type := .pubrel } : FixedHeader).Sendable by decide),
    decodePacketId_u16Bytes nonzero]

end Mqtt
