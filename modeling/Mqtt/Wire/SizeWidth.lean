import Mqtt.Wire.RoundTrip

/-!
# Lengths on narrow and wide targets

The source computes in `size_t` where it calls `utf8_size` and where it adds up the size of
a received packet, and in `uint64_t` where `checked_add` sums. The model of the codec uses
exact numbers for both. Here each step wraps at its own width. At 16 bits a field of 65534
bytes and a packet of 65536 bytes wrap; at 64 bits a payload of almost 2^64 bytes wraps the
sum; at 32 bits nothing does. A length is taken to be representable where it is passed in,
and `unsigned int` to be no wider than `size_t`.
-/

namespace Mqtt

/-- The widths `size_t` has on the targets the source names. -/
inductive SizeWidth where
  | bits16
  | bits32
  | bits64
  deriving DecidableEq, Repr

namespace SizeWidth

def bits : SizeWidth → Nat
  | bits16 => 16
  | bits32 => 32
  | bits64 => 64

/-- A value converted to `size_t`. -/
def wrap (width : SizeWidth) (value : Nat) : Nat := value % 2 ^ width.bits

theorem two_pow_bits_pos (width : SizeWidth) : 0 < 2 ^ width.bits := Nat.two_pow_pos _

/-- A value keeps its size exactly if it is representable. -/
theorem wrap_eq_iff {width : SizeWidth} {value : Nat} :
    width.wrap value = value ↔ value < 2 ^ width.bits :=
  Nat.mod_eq_iff_lt width.two_pow_bits_pos.ne'

/-- Wrapping never adds. -/
theorem wrap_le (width : SizeWidth) (value : Nat) : width.wrap value ≤ value := Nat.mod_le _ _

end SizeWidth

/-! ## The length functions at a width -/

/-- The sum of `checked_add` as the source forms it, in 64 bits whatever `size_t` has. -/
def checkedAdd64 (error : Error) (total add : Nat) : Result Nat :=
  if (total + add) % 2 ^ 64 > kMaxRemainingLength then .error error
  else .ok ((total + add) % 2 ^ 64)

section Lengths

variable (width : SizeWidth)

def utf8SizeAt (length : Nat) : Nat := width.wrap (2 + length)

def addWillAt (will : Will) (total : Nat) : Result Nat :=
  if will.valid then do
    if !validQos will.qos then throw .invalidArgument
    if will.topic.length > kMaxStringLen ∨ will.payload.length > kMaxStringLen then
      throw .invalidArgument
    if !isValidMqttString will.topic then throw .invalidArgument
    let total ← checkedAdd64 .invalidArgument total (utf8SizeAt width will.topic.length)
    checkedAdd64 .invalidArgument total (utf8SizeAt width will.payload.length)
  else pure total

def addUsernameAt (username : Bytes) (total : Nat) : Result Nat :=
  if !username.isEmpty then do
    if username.length > kMaxStringLen then throw .invalidArgument
    if !isValidMqttString username then throw .invalidArgument
    checkedAdd64 .invalidArgument total (utf8SizeAt width username.length)
  else pure total

def addPasswordAt (username password : Bytes) (total : Nat) : Result Nat :=
  if !password.isEmpty then do
    if username.isEmpty then throw .invalidArgument
    if password.length > kMaxStringLen then throw .invalidArgument
    checkedAdd64 .invalidArgument total (utf8SizeAt width password.length)
  else pure total

def connectRemainingLengthAt (opts : ConnectOptions) : Result Nat := do
  if opts.clientId.length > kMaxStringLen then throw .invalidArgument
  if !isValidMqttString opts.clientId then throw .invalidArgument
  let total ← checkedAdd64 .invalidArgument 0 (utf8SizeAt width 4 + 1 + 1 + 2)
  let total ← checkedAdd64 .invalidArgument total (utf8SizeAt width opts.clientId.length)
  let total ← addWillAt width opts.will total
  let total ← addUsernameAt width opts.username total
  addPasswordAt width opts.username opts.password total

def publishRemainingLengthAt (topic : Bytes) (payloadLen : Nat) (qos : QoS) : Result Nat := do
  if topic.isEmpty ∨ topic.length > kMaxStringLen then throw .invalidArgument
  if !validQos qos then throw .invalidArgument
  if !isValidMqttString topic then throw .invalidArgument
  let total ← checkedAdd64 .invalidArgument 0 (utf8SizeAt width topic.length)
  let total ← if qos ≠ .atMostOnce then checkedAdd64 .invalidArgument total 2 else pure total
  checkedAdd64 .payloadTooLarge total payloadLen

def addFilterAt (total : Nat) (filter : Bytes) (qos : QoS) (extra : Nat) : Result Nat := do
  if filter.isEmpty ∨ filter.length > kMaxStringLen then throw .invalidArgument
  if !isValidMqttString filter then throw .invalidArgument
  if !validQos qos then throw .invalidArgument
  checkedAdd64 .invalidArgument total (width.wrap (utf8SizeAt width filter.length + extra))

def subscribeRemainingLengthAt (subs : List TopicSubscription) : Result Nat :=
  if subs.isEmpty then .error .invalidArgument
  else subs.foldlM (fun total s => addFilterAt width total s.filter s.qos 1) 2

def unsubscribeRemainingLengthAt (filters : List Bytes) : Result Nat :=
  if filters.isEmpty then .error .invalidArgument
  else filters.foldlM (fun total f => addFilterAt width total f .atMostOnce 0) 2

/-- The sum is formed in 32 bits and then stored in a `size_t`. -/
def peekHeaderAt (input : Bytes) : Result PacketPeek :=
  match input with
  | [] => .error .incomplete
  | first :: rest =>
    match FixedHeader.fromByte first with
    | .error error => .error error
    | .ok header =>
      match vbiDecode rest with
      | .error error => .error error
      | .ok vbi => .ok
          { header := { header with remainingLength := vbi.value }
            headerBytes := 1 + vbi.bytes
            totalBytes := width.wrap (1 + vbi.bytes + vbi.value) }

/-- What `drain_rx` decides about the front of its buffer: how many bytes to take as
one packet, or none yet. -/
def drainFrontAt (rxBufferSize : Nat) (rx : Bytes) : Result (Option Nat) :=
  if rx = [] then .ok none
  else
    match peekHeaderAt width rx with
    | .error error => if error = .incomplete then .ok none else .error error
    | .ok p =>
      if p.totalBytes > rxBufferSize then .error .packetTooLarge
      else if rx.length < p.totalBytes then .ok none
      else .ok (some p.totalBytes)

end Lengths

/-! ## What is computed -/

/-- Up to 64 bits the sum is exact. -/
theorem checkedAdd64_eq (error : Error) {total add : Nat} (small : total + add < 2 ^ 64) :
    checkedAdd64 error total add = checkedAdd error total add := by
  unfold checkedAdd64 checkedAdd
  rw [Nat.mod_eq_of_lt small]

/-- The sum of a length in range and the size of a string. -/
theorem checkedAdd64_ok {error : Error} {total add sum : Nat}
    (start : total ≤ kMaxRemainingLength) (short : add ≤ 65538)
    (added : checkedAdd64 error total add = .ok sum) :
    sum = total + add ∧ sum ≤ kMaxRemainingLength := by
  unfold kMaxRemainingLength at start
  rw [checkedAdd64_eq error (show total + add < 2 ^ 64 by omega)] at added
  exact checkedAdd_ok added

/-- The last sum of a PUBLISH, whose addend can be anything. -/
theorem checkedAdd64_mod {error : Error} {total add sum : Nat}
    (added : checkedAdd64 error total add = .ok sum) :
    sum ≤ kMaxRemainingLength ∧ sum = (total + add) % 2 ^ 64 := by
  unfold checkedAdd64 at added
  split at added
  · cases added
  · injection added with same
    exact ⟨by omega, same.symm⟩

section Sums

variable {width : SizeWidth}

/-- The size of a field that is followed by this many bytes. -/
def sizeAt (width : SizeWidth) (extra length : Nat) : Nat :=
  width.wrap (utf8SizeAt width length + extra)

theorem sizeAt_zero (length : Nat) : sizeAt width 0 length = utf8SizeAt width length :=
  Nat.mod_mod _ _

/-- A wrapped size is at most the true one. -/
theorem sizeAt_le (extra length : Nat) : sizeAt width extra length ≤ 2 + length + extra :=
  (width.wrap_le _).trans (Nat.add_le_add_right (width.wrap_le _) extra)

/-- It is the true one exactly when that fits. -/
theorem sizeAt_eq_iff {extra length : Nat} :
    sizeAt width extra length = 2 + length + extra ↔ 2 + length + extra < 2 ^ width.bits := by
  constructor
  · intro same
    rw [← same]
    exact Nat.mod_lt _ width.two_pow_bits_pos
  · intro small
    have inner : width.wrap (2 + length) = 2 + length := SizeWidth.wrap_eq_iff.mpr (by omega)
    rw [sizeAt, utf8SizeAt, inner, SizeWidth.wrap_eq_iff.mpr small]

/-- Terms that are no larger add up to the same only if they are the same. -/
theorem sum_sizeAt_eq_iff {α : Type} (length : α → Nat) (extra : Nat) (elements : List α) :
    (elements.map fun a => sizeAt width extra (length a)).sum =
        (elements.map fun a => 2 + length a + extra).sum ↔
      ∀ a ∈ elements, 2 + length a + extra < 2 ^ width.bits := by
  have fewer : ∀ rest : List α, (rest.map fun a => sizeAt width extra (length a)).sum ≤
      (rest.map fun a => 2 + length a + extra).sum := fun rest =>
    List.sum_le_sum fun a _ => sizeAt_le extra (length a)
  induction elements with
  | nil => simp
  | cons first rest ih =>
    have bound := @sizeAt_le width extra (length first)
    have bounds := fewer rest
    simp only [List.map_cons, List.sum_cons, List.forall_mem_cons]
    constructor
    · intro same
      exact ⟨sizeAt_eq_iff.mp (by omega), ih.mp (by omega)⟩
    · rintro ⟨one, others⟩
      rw [sizeAt_eq_iff.mpr one, ih.mpr others]

/-- A short string's size is small at any width. -/
theorem sizeAt_short {extra length : Nat} (few : extra ≤ 1) (short : length ≤ kMaxStringLen) :
    sizeAt width extra length ≤ 65538 := by
  have bound := @sizeAt_le width extra length
  unfold kMaxStringLen at short
  omega

end Sums

section Computed

variable {width : SizeWidth} {total sum : Nat}

theorem checkedAdd64_utf8_ok {error : Error} {length : Nat} (start : total ≤ kMaxRemainingLength)
    (short : length ≤ kMaxStringLen)
    (added : checkedAdd64 error total (utf8SizeAt width length) = .ok sum) :
    sum = total + sizeAt width 0 length ∧ sum ≤ kMaxRemainingLength := by
  rw [← sizeAt_zero] at added
  exact checkedAdd64_ok start (sizeAt_short (Nat.zero_le 1) short) added

/-- What a stage of the CONNECT's length has added for its fields, which it checked. -/
structure Adds (width : SizeWidth) (fields : List Bytes) (total sum : Nat) : Prop where
  short : ∀ field ∈ fields, field.length ≤ kMaxStringLen
  within : sum ≤ kMaxRemainingLength
  same : sum = total + (fields.map fun field => sizeAt width 0 field.length).sum

theorem Adds.nothing (start : total ≤ kMaxRemainingLength) : Adds width [] total total :=
  ⟨by simp, start, by simp⟩

/-- Fields add up. -/
theorem Adds.append {first second : List Bytes} {middle : Nat}
    (adds : Adds width first total middle)
    (addsMore : Adds width second middle sum) : Adds width (first ++ second) total sum where
  short field member := (List.mem_append.mp member).elim (adds.short field) (addsMore.short field)
  within := addsMore.within
  same := by rw [addsMore.same, adds.same, List.map_append, List.sum_append, Nat.add_assoc]

/-- One checked string adds its wrapped size. -/
theorem Adds.one {error : Error} {field : Bytes} (start : total ≤ kMaxRemainingLength)
    (short : ¬ field.length > kMaxStringLen)
    (added : checkedAdd64 error total (utf8SizeAt width field.length) = .ok sum) :
    Adds width [field] total sum := by
  have short := Nat.not_lt.mp short
  obtain ⟨same, within⟩ := checkedAdd64_utf8_ok start short added
  exact ⟨by simpa using short, within, by simpa using same⟩

/-- What a will adds at this width. -/
theorem addWillAt_ok {will : Will} (start : total ≤ kMaxRemainingLength)
    (added : addWillAt width will total = .ok sum) :
    Adds width (if will.valid then [will.topic, will.payload] else []) total sum := by
  unfold addWillAt at added
  simp only [bind, Except.bind, throw, throwThe, MonadExceptOf.throw, pure, Except.pure] at added
  split_ifs at added with given qosBad long invalid
  · split at added
    · cases added
    · rename_i topicAdded
      obtain ⟨topic, payload⟩ := not_or.mp long
      have first := Adds.one start topic topicAdded
      rw [if_pos given]
      exact first.append (.one first.within payload added)
  · cases added
    rw [if_neg given]
    exact .nothing start

/-- What a username adds at this width. -/
theorem addUsernameAt_ok {username : Bytes} (start : total ≤ kMaxRemainingLength)
    (added : addUsernameAt width username total = .ok sum) :
    Adds width (if !username.isEmpty then [username] else []) total sum := by
  unfold addUsernameAt at added
  simp only [bind, Except.bind, throw, throwThe, MonadExceptOf.throw, pure, Except.pure] at added
  split_ifs at added with given long invalid
  · rw [if_pos given]
    exact .one start long added
  · cases added
    rw [if_neg given]
    exact .nothing start

/-- What a password adds at this width. -/
theorem addPasswordAt_ok {username password : Bytes} (start : total ≤ kMaxRemainingLength)
    (added : addPasswordAt width username password total = .ok sum) :
    Adds width (if !password.isEmpty then [password] else []) total sum := by
  unfold addPasswordAt at added
  simp only [bind, Except.bind, throw, throwThe, MonadExceptOf.throw, pure, Except.pure] at added
  split_ifs at added with given anonymous long
  · rw [if_pos given]
    exact .one start long added
  · cases added
    rw [if_neg given]
    exact .nothing start

/-- The fields of a CONNECT that are sent. -/
def ConnectOptions.sent (opts : ConnectOptions) : List Bytes :=
  [opts.clientId] ++ ((if opts.will.valid then [opts.will.topic, opts.will.payload] else []) ++
    ((if !opts.username.isEmpty then [opts.username] else []) ++
      (if !opts.password.isEmpty then [opts.password] else [])))

/-- What a CONNECT is sized at. -/
theorem connectRemainingLengthAt_ok {opts : ConnectOptions} {length : Nat}
    (sized : connectRemainingLengthAt width opts = .ok length) :
    Adds width opts.sent 10 length := by
  unfold connectRemainingLengthAt at sized
  have fixed : checkedAdd64 .invalidArgument 0 (utf8SizeAt width 4 + 1 + 1 + 2) = .ok 10 := by
    cases width <;> rfl
  simp only [bind, Except.bind, throw, throwThe, MonadExceptOf.throw, fixed] at sized
  split_ifs at sized with long invalid
  split at sized
  · cases sized
  split at sized
  · cases sized
  split at sized
  · cases sized
  rename_i idAdded _ _ willAdded _ _ userAdded
  have id := Adds.one (by decide) long idAdded
  have will := addWillAt_ok id.within willAdded
  have username := addUsernameAt_ok will.within userAdded
  have password := addPasswordAt_ok username.within sized
  exact id.append (will.append (username.append password))

/-- The true length of a CONNECT body. -/
theorem length_connectBody (opts : ConnectOptions) :
    (connectBody opts).length = 10 + (opts.sent.map fun field => 2 + field.length + 0).sum := by
  unfold connectBody ConnectOptions.sent
  split_ifs <;> simp [utf8Size, protocolName] <;> omega

/-- What a PUBLISH is sized at. -/
theorem publishRemainingLengthAt_ok {topic : Bytes} {payloadLen length : Nat} {qos : QoS}
    (sized : publishRemainingLengthAt width topic payloadLen qos = .ok length) :
    topic.length ≤ kMaxStringLen ∧ length ≤ kMaxRemainingLength ∧
      length = (sizeAt width 0 topic.length + (if qos ≠ .atMostOnce then 2 else 0) + payloadLen) %
        2 ^ 64 := by
  unfold publishRemainingLengthAt at sized
  simp only [bind, Except.bind, throw, throwThe, MonadExceptOf.throw, pure, Except.pure] at sized
  split_ifs at sized with shape qosBad stringBad identified
  all_goals
    split at sized
    · cases sized
    have short := Nat.not_lt.mp (not_or.mp shape).2
  · split at sized
    · cases sized
    · rename_i topicAdded _ _ idAdded
      obtain ⟨topicTotal, within⟩ := checkedAdd64_utf8_ok (by decide) short topicAdded
      obtain ⟨idTotal, _⟩ := checkedAdd64_ok within (by decide) idAdded
      rw [if_pos identified, ← Nat.zero_add (sizeAt _ _ _), ← topicTotal, ← idTotal]
      exact ⟨short, checkedAdd64_mod sized⟩
  · rename_i topicAdded
    obtain ⟨topicTotal, _⟩ := checkedAdd64_utf8_ok (by decide) short topicAdded
    rw [if_neg identified, ← Nat.zero_add (sizeAt _ _ _), ← topicTotal]
    exact ⟨short, checkedAdd64_mod sized⟩

/-- What a filter adds at this width. -/
theorem addFilterAt_ok {filter : Bytes} {qos : QoS} {extra : Nat} (few : extra ≤ 1)
    (start : total ≤ kMaxRemainingLength)
    (added : addFilterAt width total filter qos extra = .ok sum) :
    filter.length ≤ kMaxStringLen ∧ sum ≤ kMaxRemainingLength ∧
      sum = total + sizeAt width extra filter.length := by
  unfold addFilterAt at added
  simp only [bind, Except.bind, throw, throwThe, MonadExceptOf.throw] at added
  split_ifs at added with shape
  have short := Nat.not_lt.mp (not_or.mp shape).2
  obtain ⟨same, within⟩ := checkedAdd64_ok start (sizeAt_short few short) added
  exact ⟨short, within, same⟩

theorem foldlM_addFilterAt_ok {α : Type} {filter : α → Bytes} {qos : α → QoS} {extra : Nat}
    (few : extra ≤ 1) {elements : List α} (start : total ≤ kMaxRemainingLength)
    (added : elements.foldlM (fun total a => addFilterAt width total (filter a) (qos a) extra) total =
      Except.ok sum) :
    (∀ a ∈ elements, (filter a).length ≤ kMaxStringLen) ∧
      sum = total + (elements.map fun a => sizeAt width extra (filter a).length).sum := by
  induction elements generalizing total with
  | nil =>
    simp only [List.foldlM_nil, pure, Except.pure, Except.ok.injEq] at added
    simp [← added]
  | cons element rest ih =>
    simp only [List.foldlM_cons, bind, Except.bind] at added
    split at added
    · cases added
    · rename_i next step
      obtain ⟨short, within, same⟩ := addFilterAt_ok few start step
      obtain ⟨others, sumSame⟩ := ih within added
      rw [List.forall_mem_cons, List.map_cons, List.sum_cons]
      exact ⟨⟨short, others⟩, by omega⟩

/-- What a SUBSCRIBE is sized at. -/
theorem subscribeRemainingLengthAt_ok {subs : List TopicSubscription} {length : Nat}
    (sized : subscribeRemainingLengthAt width subs = .ok length) :
    (∀ s ∈ subs, s.filter.length ≤ kMaxStringLen) ∧
      length = 2 + (subs.map fun s => sizeAt width 1 s.filter.length).sum := by
  unfold subscribeRemainingLengthAt at sized
  split at sized
  · cases sized
  · exact foldlM_addFilterAt_ok (Nat.le_refl 1) (by decide) sized

/-- What an UNSUBSCRIBE is sized at. -/
theorem unsubscribeRemainingLengthAt_ok {filters : List Bytes} {length : Nat}
    (sized : unsubscribeRemainingLengthAt width filters = .ok length) :
    (∀ f ∈ filters, f.length ≤ kMaxStringLen) ∧
      length = 2 + (filters.map fun f => sizeAt width 0 f.length).sum := by
  unfold unsubscribeRemainingLengthAt at sized
  split at sized
  · cases sized
  · exact foldlM_addFilterAt_ok (Nat.zero_le 1) (by decide) sized

/-- Only the total is stored in a `size_t`. -/
theorem peekHeaderAt_eq_map (input : Bytes) :
    peekHeaderAt width input =
      (peekHeader input).map fun p => { p with totalBytes := width.wrap p.totalBytes } := by
  cases input with
  | nil => rfl
  | cons first rest =>
    unfold peekHeaderAt peekHeader
    simp only
    cases FixedHeader.fromByte first with
    | error error => rfl
    | ok header =>
      cases vbiDecode rest with
      | error error => rfl
      | ok vbi => rfl

/-- The size of a received packet fits 29 bits. -/
theorem peekHeader_total_lt {input : Bytes} {p : PacketPeek} (found : peekHeader input = .ok p) :
    p.totalBytes < 536870912 := by
  obtain ⟨_, _, _, vbi, _, _, decoded, rfl⟩ := peekHeader_ok found
  have value : vbi.value ≤ 268435455 := (vbiDecodeLoop_ok decoded).2
  obtain ⟨_, _, bytes⟩ := vbiDecode_spelling decoded
  have few : vbiSize vbi.value ≤ 4 := by
    unfold vbiSize
    split_ifs <;> omega
  simp only
  omega

end Computed

/-! ## Exactness -/

/-- A use of one of the length functions. -/
inductive LengthCall where
  | connect (opts : ConnectOptions)
  | publish (topic payload : Bytes) (qos : QoS) (packetId : UInt16)
  | subscribe (packetId : UInt16) (subs : List TopicSubscription)
  | unsubscribe (packetId : UInt16) (filters : List Bytes)
  | peek (rxBufferSize : Nat) (rx : Bytes)

namespace LengthCall

/-- The length computed at this width is the mathematical one, or none is computed. A
packet that exceeds the receive buffer is refused as such. -/
def Exact (width : SizeWidth) : LengthCall → Prop
  | connect opts => ∀ length, connectRemainingLengthAt width opts = .ok length →
    length = (connectBody opts).length
  | publish topic payload qos packetId => ∀ length,
    publishRemainingLengthAt width topic payload.length qos = .ok length →
      length = (publishBody topic payload qos packetId).length
  | subscribe packetId subs => ∀ length, subscribeRemainingLengthAt width subs = .ok length →
    length = (subscribeBody packetId subs).length
  | unsubscribe packetId filters => ∀ length,
    unsubscribeRemainingLengthAt width filters = .ok length →
      length = (unsubscribeBody packetId filters).length
  | peek rxBufferSize rx => ∀ p, peekHeaderAt width rx = .ok p →
    p.totalBytes = p.headerBytes + p.header.remainingLength ∧
      (p.headerBytes + p.header.remainingLength > rxBufferSize →
        drainFrontAt width rxBufferSize rx = .error .packetTooLarge)

/-- What is passed in. -/
def spans : LengthCall → List Bytes
  | connect opts =>
    [opts.clientId, opts.username, opts.password, opts.will.topic, opts.will.payload]
  | publish topic payload _ _ => [topic, payload]
  | subscribe _ subs => subs.map (·.filter)
  | unsubscribe _ filters => filters
  | peek _ rx => [rx]

/-- A `size_t` holds the length of all that is passed in. -/
def Representable (width : SizeWidth) (call : LengthCall) : Prop :=
  ∀ span ∈ call.spans, span.length < 2 ^ width.bits

/-- The function refuses its arguments, or no sum that it forms wraps: in `size_t` the size
of a field or of a received packet, in 64 bits the length of a PUBLISH. -/
def Fits (width : SizeWidth) : LengthCall → Prop
  | connect opts => (∃ length, connectRemainingLengthAt width opts = .ok length) →
    ∀ field ∈ opts.sent, 2 + field.length < 2 ^ width.bits
  | publish topic payload qos packetId =>
    (∃ length, publishRemainingLengthAt width topic payload.length qos = .ok length) →
      2 + topic.length < 2 ^ width.bits ∧ (publishBody topic payload qos packetId).length < 2 ^ 64
  | subscribe _ subs => (∃ length, subscribeRemainingLengthAt width subs = .ok length) →
    ∀ s ∈ subs, 2 + s.filter.length + 1 < 2 ^ width.bits
  | unsubscribe _ filters => (∃ length, unsubscribeRemainingLengthAt width filters = .ok length) →
    ∀ f ∈ filters, 2 + f.length < 2 ^ width.bits
  | peek _ rx => ∀ p, peekHeader rx = .ok p → p.totalBytes < 2 ^ width.bits

/-- A result that is right if and only if something fits. -/
theorem exact_iff {result : Result Nat} {expected : Nat} {fits : Prop}
    (same : ∀ length, result = .ok length → (length = expected ↔ fits)) :
    (∀ length, result = .ok length → length = expected) ↔
      ((∃ length, result = .ok length) → fits) := by
  constructor
  · rintro isExact ⟨length, sized⟩
    exact (same length sized).mp (isExact length sized)
  · intro fit length sized
    exact (same length sized).mpr (fit ⟨length, sized⟩)

variable {width : SizeWidth}

/-- The size of a CONNECT is exact exactly if its strings' sizes fit. -/
theorem connect_iff (opts : ConnectOptions) :
    (connect opts).Exact width ↔ (connect opts).Fits width := by
  refine exact_iff fun length sized => ?_
  rw [(connectRemainingLengthAt_ok sized).same, length_connectBody, Nat.add_left_cancel_iff,
    sum_sizeAt_eq_iff]
  simp only [Nat.add_zero]

/-- The same for a PUBLISH. -/
theorem publish_iff (topic payload : Bytes) (qos : QoS) (packetId : UInt16) :
    (publish topic payload qos packetId).Exact width ↔
      (publish topic payload qos packetId).Fits width := by
  refine exact_iff fun length sized => ?_
  obtain ⟨_, within, same⟩ := publishRemainingLengthAt_ok sized
  have body : (publishBody topic payload qos packetId).length =
      2 + topic.length + (if qos ≠ .atMostOnce then 2 else 0) + payload.length := by
    simp only [publishBody, List.length_append, length_stringBytes, utf8Size, apply_ite List.length,
      length_u16Bytes, List.length_nil]
    omega
  have bound := @sizeAt_le width 0 topic.length
  have fits := @sizeAt_eq_iff width 0 topic.length
  unfold kMaxRemainingLength at within
  -- What is lost to a wrap is not made up for by the other.
  rw [body, ← Nat.add_zero (2 + topic.length), ← fits]
  omega

/-- The same for a SUBSCRIBE. -/
theorem subscribe_iff (packetId : UInt16) (subs : List TopicSubscription) :
    (subscribe packetId subs).Exact width ↔ (subscribe packetId subs).Fits width := by
  refine exact_iff fun length sized => ?_
  have body : (subscribeBody packetId subs).length =
      2 + (subs.map fun s => 2 + s.filter.length + 1).sum := by
    simp [subscribeBody, List.length_flatMap, utf8Size]
  rw [(subscribeRemainingLengthAt_ok sized).2, body, Nat.add_left_cancel_iff, sum_sizeAt_eq_iff]

/-- The same for an UNSUBSCRIBE. -/
theorem unsubscribe_iff (packetId : UInt16) (filters : List Bytes) :
    (unsubscribe packetId filters).Exact width ↔ (unsubscribe packetId filters).Fits width := by
  refine exact_iff fun length sized => ?_
  have body : (unsubscribeBody packetId filters).length =
      2 + (filters.map fun f => 2 + f.length + 0).sum := by
    simp [unsubscribeBody, List.length_flatMap, utf8Size]
  rw [(unsubscribeRemainingLengthAt_ok sized).2, body, Nat.add_left_cancel_iff, sum_sizeAt_eq_iff]
  simp only [Nat.add_zero]

/-- The same for a packet in the receive buffer. -/
theorem peek_iff (rxBufferSize : Nat) (rx : Bytes) :
    (peek rxBufferSize rx).Exact width ↔ (peek rxBufferSize rx).Fits width := by
  constructor
  · intro isExact p peeked
    have same := (isExact { p with totalBytes := width.wrap p.totalBytes }
      (by rw [peekHeaderAt_eq_map, peeked]; rfl)).1
    exact SizeWidth.wrap_eq_iff.mp (same.trans (peekHeader_size peeked).symm)
  intro fits p peeked
  rw [peekHeaderAt_eq_map] at peeked
  obtain ⟨q, found, rfl⟩ : ∃ q, peekHeader rx = .ok q ∧
      { q with totalBytes := width.wrap q.totalBytes } = p := by
    cases found : peekHeader rx with
    | error error => simp [found, Except.map] at peeked
    | ok q => exact ⟨q, rfl, by simpa [found, Except.map] using peeked⟩
  have kept := SizeWidth.wrap_eq_iff.mpr (fits q found)
  have total := peekHeader_size found
  refine ⟨kept.trans total, fun large => ?_⟩
  have some : rx ≠ [] := by
    rintro rfl
    cases found
  unfold drainFrontAt
  rw [if_neg some, peekHeaderAt_eq_map, found]
  exact if_pos (show width.wrap q.totalBytes > rxBufferSize by rw [kept, total]; exact large)

/-- Nothing wraps at 32 bits. -/
theorem fits_of_bits32 {call : LengthCall} (representable : call.Representable .bits32) :
    call.Fits .bits32 := by
  cases call with
  | connect opts =>
    rintro ⟨length, sized⟩ field member
    have short := (connectRemainingLengthAt_ok sized).short field member
    exact Nat.lt_of_le_of_lt (Nat.add_le_add_left short 2) (by decide)
  | publish topic payload qos packetId =>
    rintro ⟨length, sized⟩
    have short := (publishRemainingLengthAt_ok sized).1
    have payload : payload.length < 2 ^ 32 := representable payload (by simp [spans])
    unfold kMaxStringLen at short
    refine ⟨show 2 + topic.length < 2 ^ 32 by omega, ?_⟩
    simp only [publishBody, List.length_append, length_stringBytes, utf8Size]
    split <;> simp only [length_u16Bytes, List.length_nil] <;> omega
  | subscribe packetId subs =>
    rintro ⟨length, sized⟩ s member
    have short : s.filter.length ≤ 65535 := (subscribeRemainingLengthAt_ok sized).1 s member
    show 2 + s.filter.length + 1 < 2 ^ 32
    omega
  | unsubscribe packetId filters =>
    rintro ⟨length, sized⟩ f member
    have short := (unsubscribeRemainingLengthAt_ok sized).1 f member
    exact Nat.lt_of_le_of_lt (Nat.add_le_add_left short 2) (by decide)
  | peek rxBufferSize rx =>
    intro p peeked
    exact (peekHeader_total_lt peeked).trans (by decide)

end LengthCall

/-- A length is exact exactly if the call is refused or no sum it forms wraps. At 32 bits
that is so for all that can be passed in. -/
theorem lengths_exact (width : SizeWidth) (call : LengthCall) :
    (call.Exact width ↔ call.Fits width) ∧
    (width = .bits32 → call.Representable width → call.Exact width) := by
  have exactly : call.Exact width ↔ call.Fits width := by
    cases call with
    | connect opts => exact LengthCall.connect_iff opts
    | publish topic payload qos packetId => exact LengthCall.publish_iff topic payload qos packetId
    | subscribe packetId subs => exact LengthCall.subscribe_iff packetId subs
    | unsubscribe packetId filters => exact LengthCall.unsubscribe_iff packetId filters
    | peek rxBufferSize rx => exact LengthCall.peek_iff rxBufferSize rx
  refine ⟨exactly, fun wide representable => exactly.mpr ?_⟩
  subst wide
  exact LengthCall.fits_of_bits32 representable

/-- A short filter is no trouble at sixteen bits. -/
theorem lengths_exact_narrow :
    (LengthCall.subscribe 1 [{ filter := [97], qos := .atLeastOnce }]).Exact .bits16 :=
  (lengths_exact .bits16 _).1.mpr fun _ => by decide

namespace SizeWidth

/-- Credentials with a long password. -/
def options (password : Bytes) : ConnectOptions := { username := [97], password := password }

/-- The password adds nothing to the length of its CONNECT. -/
theorem connect_inexact {password : Bytes} (long : password.length = 65534) :
    (LengthCall.connect (options password)).Representable .bits16 ∧
      ¬ (LengthCall.connect (options password)).Exact .bits16 := by
  have some : password.isEmpty = false := by
    cases password with
    | nil => cases long
    | cons => rfl
  have added : addPasswordAt .bits16 [97] password 15 = .ok 15 := by
    unfold addPasswordAt
    rw [some, long]
    rfl
  have body : (connectBody (options password)).length = 17 + password.length := by
    simp [connectBody, options, some, Will.valid, utf8Size, protocolName]
    omega
  refine ⟨by simp [LengthCall.Representable, LengthCall.spans, options, bits, long], fun isExact => ?_⟩
  have computed := isExact 15 added
  omega

/-- The payload takes the sum past 64 bits. -/
theorem publish_inexact {payload : Bytes} (long : payload.length = 2 ^ 64 - 1) :
    (LengthCall.publish [97] payload .atMostOnce 0).Representable .bits64 ∧
      ¬ (LengthCall.publish [97] payload .atMostOnce 0).Exact .bits64 := by
  have wrapped : publishRemainingLengthAt .bits64 [97] payload.length .atMostOnce = .ok 2 := by
    rw [long]
    decide
  refine ⟨by simp [LengthCall.Representable, LengthCall.spans, bits, long], fun isExact => ?_⟩
  have computed := isExact 2 wrapped
  simp [publishBody, utf8Size, long] at computed

/-- The fixed header of a packet of 65540 bytes. -/
def header : Bytes := [0x30, 0x80, 0x80, 0x04]

/-- What is made of it at sixteen bits. -/
def seen : PacketPeek where
  header := { type := .publish, remainingLength := 65536 }
  headerBytes := 4
  totalBytes := 4

end SizeWidth

/-- At sixteen bits a password of 65534 bytes adds nothing to the length of its CONNECT,
and a packet of 65540 bytes is taken for one of four. At 64 bits a payload of 2^64 - 1 bytes
makes a PUBLISH of two. -/
theorem narrow_lengths_wrap :
    let login := LengthCall.connect (SizeWidth.options (List.replicate 65534 0))
    let message := LengthCall.publish [97] (List.replicate (2 ^ 64 - 1) 0) .atMostOnce 0
    (login.Representable .bits16 ∧ ¬ login.Exact .bits16) ∧
    (¬ (LengthCall.peek 16 SizeWidth.header).Exact .bits16 ∧
      drainFrontAt .bits16 16 SizeWidth.header = .ok (some 4)) ∧
    message.Representable .bits64 ∧ ¬ message.Exact .bits64 := by
  refine ⟨SizeWidth.connect_inexact List.length_replicate, ⟨fun isExact => ?_, by decide⟩,
    SizeWidth.publish_inexact List.length_replicate⟩
  exact absurd (isExact SizeWidth.seen (by decide)).1 (by decide)

end Mqtt
