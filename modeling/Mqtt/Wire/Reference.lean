import Mqtt.Library.Reader
import Mqtt.Wire.Requests
import Mqtt.Wire.Utf8

/-!
# CONNECT, SUBSCRIBE and UNSUBSCRIBE as MQTT 3.1.1 describes them

The client never decodes the three requests it sends. These readers are written from
the standard's sections 3.1, 3.8 and 3.10 and share nothing with the client's codec.
Each accepts exactly one packet and fails on bytes that are left over, so what it
returns is everything the packet says.
-/

namespace Mqtt

open Library

instance (s : Bytes) : Decidable (SpellsText s) := decidable_of_iff _ isValidMqttString_iff

namespace Reference

open Reader

/-! ## Data representations -/

/-- Section 1.5.2: the most significant byte comes first. -/
def twoByteInteger : Reader UInt8 UInt16 := do
  let high ← one
  let low ← one
  return UInt16.ofNat (high.toNat * 256 + low.toNat)

/-- Bytes behind their length. -/
def binary : Reader UInt8 Bytes := do
  let length ← twoByteInteger
  take length.toNat

/-- Section 1.5.3: text is UTF-8 without U+0000. -/
def utf8String : Reader UInt8 Bytes := do
  let s ← binary
  require (SpellsText s)
  return s

/-- Section 2.2.3: seven bits a byte, the least significant first, four bytes at most. -/
def remainingLength : Nat → Nat → Nat → Reader UInt8 Nat
  | 0, _, _ => given none
  | rounds + 1, multiplier, value => do
    let encoded ← one
    let value := value + encoded.toNat % 128 * multiplier
    if 128 ≤ encoded.toNat then remainingLength rounds (multiplier * 128) value
    else return value

/-- A quality of service; 3 and above are reserved. -/
def level (value : Nat) : Option QoS :=
  match value with
  | 0 => some .atMostOnce
  | 1 => some .atLeastOnce
  | 2 => some .exactlyOnce
  | _ => none

/-- Section 2.2: a packet of this type with these flags, and the content its remaining
length announces. -/
def content (kind flags : Nat) : Reader UInt8 Bytes := do
  let first ← one
  require (first.toNat = kind * 16 + flags)
  let length ← remainingLength 4 1 0
  take length

def packet {α : Type} (kind flags : Nat) (body : Reader UInt8 α) (input : Bytes) : Option α := do
  let bytes ← whole (content kind flags) input
  whole body bytes

/-! ## CONNECT -/

/-- What a CONNECT says. -/
structure ConnectFields where
  clientId : Bytes
  cleanSession : Bool
  keepAlive : UInt16
  will : Option Will
  username : Option Bytes
  password : Option Bytes
  deriving DecidableEq, Repr

/-- Section 3.1.2.3: which payload fields follow, and the will's level and retain flag. -/
structure ConnectFlags where
  cleanSession : Bool
  will : Option (QoS × Bool)
  username : Bool
  password : Bool
  deriving DecidableEq, Repr

def connectFlags (flags : UInt8) : Option ConnectFlags := do
  let bit := flags.toNat.testBit
  let qos := flags.toNat / 8 % 4
  let will ← if bit 2 then (level qos).map fun level => some (level, bit 5)
    else if qos = 0 ∧ bit 5 = false then some none else none
  -- Bit 0 is reserved, and a password needs a username.
  if bit 0 ∨ (bit 6 ∧ bit 7 = false) then none
  else some { cleanSession := bit 1, will := will, username := bit 7, password := bit 6 }

def willFields : Option (QoS × Bool) → Reader UInt8 (Option Will)
  | none => return none
  | some (qos, retain) => do
    let topic ← utf8String
    let message ← binary
    return some { topic := topic, payload := message, qos := qos, retain := retain }

def connectBody : Reader UInt8 ConnectFields := do
  let name ← utf8String
  require (name = [77, 81, 84, 84])
  let protocolLevel ← one
  require (protocolLevel = 4)
  let flagBits ← one
  let flags ← given (connectFlags flagBits)
  let keepAlive ← twoByteInteger
  let clientId ← utf8String
  let will ← willFields flags.will
  let username ← optional flags.username utf8String
  let password ← optional flags.password binary
  return { clientId := clientId, cleanSession := flags.cleanSession, keepAlive := keepAlive
           will := will, username := username, password := password }

def connect (input : Bytes) : Option ConnectFields := packet 1 0 connectBody input

/-! ## SUBSCRIBE and UNSUBSCRIBE -/

def identifier : Reader UInt8 UInt16 := do
  let id ← twoByteInteger
  require (id ≠ 0)
  return id

/-- A filter has at least one character. -/
def topicFilter : Reader UInt8 Bytes := do
  let filter ← utf8String
  require (filter ≠ [])
  return filter

def subscription : Reader UInt8 TopicSubscription := do
  let filter ← topicFilter
  let options ← one
  let qos ← given (level options.toNat)
  return { filter := filter, qos := qos }

/-- An identifier and a list of requests that is not empty. -/
def requests {α : Type} (element : Reader UInt8 α) (input : Bytes) :
    Option ((UInt16 × List α) × Bytes) :=
  (do
    let id ← identifier
    let elements ← untilEnd element input.length
    require (!elements.isEmpty)
    return (id, elements) : Reader UInt8 (UInt16 × List α)) input

def subscribe (input : Bytes) : Option (UInt16 × List TopicSubscription) :=
  packet 8 2 (requests subscription) input

def unsubscribe (input : Bytes) : Option (UInt16 × List Bytes) :=
  packet 10 2 (requests topicFilter) input

/-! ## Fields read back -/

theorem reads_twoByteInteger (value : UInt16) : Reads twoByteInteger (u16Bytes value) value := by
  have joined : UInt16.ofNat ((value >>> 8).toUInt8.toNat * 256 + value.toUInt8.toNat) = value := by
    apply UInt16.toNat_inj.mp
    simp [Nat.shiftRight_eq_div_pow]
    have small := value.toNat_lt
    omega
  have read : Reads twoByteInteger ([(value >>> 8).toUInt8] ++ [value.toUInt8])
      (UInt16.ofNat ((value >>> 8).toUInt8.toNat * 256 + value.toUInt8.toNat)) :=
    (reads_one _).bind ((reads_one _).bind_nil (reads_pure _))
  rwa [joined] at read

theorem reads_binary {s : Bytes} (short : s.length ≤ kMaxStringLen) :
    Reads binary (stringBytes s) s := by
  have length : (UInt16.ofNat s.length).toNat = s.length := by
    rw [UInt16.toNat_ofNat']
    exact Nat.mod_eq_of_lt (by unfold kMaxStringLen at short; omega)
  refine (reads_twoByteInteger _).bind ?_
  rw [length]
  exact reads_take s

/-- A valid string is read back. -/
theorem reads_utf8String {s : Bytes} (short : s.length ≤ kMaxStringLen)
    (valid : isValidMqttString s = true) : Reads utf8String (stringBytes s) s := by
  have text : decide (SpellsText s) = true := decide_eq_true (isValidMqttString_iff.mp valid)
  exact (reads_binary short).bind_nil ((reads_require text).bind_nil (reads_pure s))

private theorem digit_toNat : ∀ digit < 128, (UInt8.ofNat digit).toNat = digit ∧
    (UInt8.ofNat digit ||| 0x80).toNat = 128 + digit := by decide

/-- The length field is read back, digit by digit. -/
theorem reads_remainingLength {rounds value : Nat} (acc multiplier : Nat)
    (within : value < 128 ^ rounds) (some : 0 < rounds) :
    Reads (remainingLength rounds multiplier acc) (vbiLoop rounds value)
      (acc + value * multiplier) := by
  induction rounds generalizing value acc multiplier with
  | zero => omega
  | succ rounds ih =>
    obtain ⟨last, further⟩ := digit_toNat (value % 128) (Nat.mod_lt _ (by decide))
    unfold remainingLength vbiLoop
    by_cases more : value / 128 > 0
    · have fewer : value / 128 < 128 ^ rounds := by
        rw [Nat.pow_succ] at within
        exact Nat.div_lt_of_lt_mul (by omega)
      have roundsLeft : 0 < rounds := by
        rcases Nat.eq_zero_or_pos rounds with rfl | positive
        · simp at fewer
          omega
        · exact positive
      have total : acc + value % 128 * multiplier + value / 128 * (multiplier * 128) =
          acc + value * multiplier := by
        have split := Nat.div_add_mod value 128
        calc acc + value % 128 * multiplier + value / 128 * (multiplier * 128)
            = acc + (128 * (value / 128) + value % 128) * multiplier := by ring
          _ = acc + value * multiplier := by rw [split]
      rw [if_pos more, ← List.singleton_append]
      refine (reads_one _).bind ?_
      have rest := ih (acc + value % 128 * multiplier) (multiplier * 128)
        fewer roundsLeft
      simpa [further, total] using rest
    · have small : value % 128 = value := Nat.mod_eq_of_lt (by omega)
      rw [small] at last
      rw [if_neg more, small]
      refine (reads_one _).bind_nil ?_
      simp only [last, small, if_neg (show ¬ 128 ≤ value by omega)]
      exact reads_pure _

/-- One packet, whose header announces its body. -/
theorem packet_packetOf {α : Type} {kind flags : Nat} {header : FixedHeader} {body : Bytes}
    {reader : Reader UInt8 α} {value : α}
    (first : header.toByte = UInt8.ofNat (kind * 16 + flags)) (nibbles : kind * 16 + flags < 256)
    (within : body.length ≤ kMaxRemainingLength) (finishes : Finishes reader body value) :
    packet kind flags reader (packetOf header body) = some value := by
  have kindRead : decide ((UInt8.ofNat (kind * 16 + flags)).toNat = kind * 16 + flags) = true := by
    simpa using nibbles
  have announced := @reads_remainingLength kMaxVbiBytes body.length 0 1
    (Nat.lt_of_le_of_lt within (by decide)) (by decide)
  rw [Nat.zero_add, Nat.mul_one] at announced
  have read : Reads (content kind flags) ([UInt8.ofNat (kind * 16 + flags)] ++ ([] ++
      (vbiLoop kMaxVbiBytes body.length ++ body))) body :=
    (reads_one _).bind ((reads_require kindRead).bind (announced.bind (reads_take body)))
  have same : packetOf header body = [UInt8.ofNat (kind * 16 + flags)] ++ ([] ++
      (vbiLoop kMaxVbiBytes body.length ++ body)) := by
    rw [← first]
    rfl
  rw [packet, same, read.finishes.whole]
  exact finishes.whole

/-! ## CONNECT read back -/

variable {id : UInt16} {opts : ConnectOptions} {size total sum count : Nat} {bytes : Bytes}

theorem addWill_checked {will : Will} (added : addWill will total = .ok sum)
    (given : will.valid = true) :
    validQos will.qos = true ∧ isValidMqttString will.topic = true := by
  unfold addWill at added
  simp only [bind, Except.bind, throw, throwThe, MonadExceptOf.throw, pure, Except.pure,
    if_pos given] at added
  split_ifs at added with badLevel long badTopic
  exact ⟨by simpa using badLevel, by simpa using badTopic⟩

theorem addUsername_checked {username : Bytes} (added : addUsername username total = .ok sum)
    (given : username ≠ []) : isValidMqttString username = true := by
  unfold addUsername at added
  simp only [bind, Except.bind, throw, throwThe, MonadExceptOf.throw, pure, Except.pure] at added
  split_ifs at added with nonempty long badName
  · simpa using badName
  · simp [given] at nonempty

theorem addPassword_checked {username password : Bytes}
    (added : addPassword username password total = .ok sum) (given : password ≠ []) :
    username ≠ [] := by
  unfold addPassword at added
  simp only [bind, Except.bind, throw, throwThe, MonadExceptOf.throw, pure, Except.pure] at added
  split_ifs at added with nonempty anonymous long
  · simpa using anonymous
  · simp [given] at nonempty

/-- What the size computation checks beyond the lengths. -/
theorem connectRemainingLength_checked (sized : connectRemainingLength opts = .ok size) :
    isValidMqttString opts.clientId = true ∧
    (opts.will.valid = true →
      validQos opts.will.qos = true ∧ isValidMqttString opts.will.topic = true) ∧
    (opts.username ≠ [] → isValidMqttString opts.username = true) ∧
    (opts.password ≠ [] → opts.username ≠ []) := by
  unfold connectRemainingLength at sized
  simp only [bind, Except.bind, throw, throwThe, MonadExceptOf.throw] at sized
  split_ifs at sized with long invalid
  split at sized
  · cases sized
  split at sized
  · cases sized
  split at sized
  · cases sized
  split at sized
  · cases sized
  rename_i willAdded _ _ userAdded
  exact ⟨by simpa using invalid, addWill_checked willAdded, addUsername_checked userAdded,
    addPassword_checked sized⟩

/-- The flag bits say which payload fields follow, for every combination of options. -/
theorem connectFlags_connectFlags (level : opts.will.valid = true → validQos opts.will.qos = true)
    (named : opts.password ≠ [] → opts.username ≠ []) :
    connectFlags (Mqtt.connectFlags opts) = some
      { cleanSession := opts.cleanSession
        will := if opts.will.valid then some (opts.will.qos, opts.will.retain) else none
        username := !opts.username.isEmpty
        password := !opts.password.isEmpty } := by
  have named : (!opts.password.isEmpty) = true → (!opts.username.isEmpty) = true := by
    simpa using named
  unfold Mqtt.connectFlags
  generalize opts.cleanSession = clean
  generalize opts.will.retain = retain
  generalize (!opts.username.isEmpty) = user at named ⊢
  generalize (!opts.password.isEmpty) = password at named ⊢
  generalize opts.will.qos = qos at level ⊢
  generalize opts.will.valid = given at level ⊢
  cases given with
  | false =>
    simp only [Bool.false_eq_true, if_false]
    revert clean user password
    decide
  | true =>
    have valid := level rfl
    cases qos with
    | outOfRange excess => simp [validQos_outOfRange] at valid
    | _ =>
      revert clean retain user password
      decide

/-- What the options say: a will is there when it has a topic, a username or password
when it is not empty. -/
def fieldsOf (opts : ConnectOptions) : ConnectFields where
  clientId := opts.clientId
  cleanSession := opts.cleanSession
  keepAlive := opts.keepAliveS
  will := if opts.will.valid then some opts.will else none
  username := if !opts.username.isEmpty then some opts.username else none
  password := if !opts.password.isEmpty then some opts.password else none

theorem reads_willFields {will : Will} (short : will.valid = true →
      will.topic.length ≤ kMaxStringLen ∧ will.payload.length ≤ kMaxStringLen)
    (valid : will.valid = true → isValidMqttString will.topic = true) :
    Reads (willFields (if will.valid then some (will.qos, will.retain) else none))
      (if will.valid then stringBytes will.topic ++ stringBytes will.payload else [])
      (if will.valid then some will else none) := by
  by_cases given : will.valid = true
  · simp only [given, if_true]
    exact (reads_utf8String (short given).1 (valid given)).bind
      ((reads_binary (short given).2).bind_nil (reads_pure _))
  · simp only [given]
    exact reads_pure none

/-- A CONNECT body is read back. -/
theorem reads_connectBody (sized : connectRemainingLength opts = .ok size) :
    Reads connectBody (Mqtt.connectBody opts) (fieldsOf opts) := by
  obtain ⟨idShort, willShort, userShort, passShort, _, _⟩ := connectRemainingLength_ok sized
  obtain ⟨idValid, willValid, userValid, named⟩ := connectRemainingLength_checked sized
  have name : Reads utf8String (stringBytes protocolName) [77, 81, 84, 84] :=
    reads_utf8String (by decide) (by decide)
  have flags := connectFlags_connectFlags (fun given => (willValid given).1) named
  have will := reads_willFields willShort fun given => (willValid given).2
  have username := @reads_optional _ _ utf8String _ opts.username (!opts.username.isEmpty)
    fun given => reads_utf8String (userShort given) (userValid (by simpa using given))
  have password := @reads_optional _ _ binary _ opts.password (!opts.password.isEmpty)
    fun given => reads_binary (passShort given)
  exact name.bind ((reads_require (by decide)).nil_bind ((reads_one _).bind
    ((reads_require (by decide)).nil_bind ((reads_one _).bind ((reads_given flags).nil_bind
    ((reads_twoByteInteger _).bind ((reads_utf8String idShort idValid).bind
    (will.bind (username.bind (password.bind_nil (reads_pure _)))))))))))

/-! ## SUBSCRIBE and UNSUBSCRIBE read back -/

theorem reads_identifier (nonzero : id ≠ 0) : Reads identifier (u16Bytes id) id :=
  (reads_twoByteInteger id).bind_nil ((reads_require (by simpa using nonzero)).bind_nil
    (reads_pure id))

theorem reads_topicFilter {filter : Bytes} (nonempty : filter ≠ [])
    (short : filter.length ≤ kMaxStringLen) (valid : isValidMqttString filter = true) :
    Reads topicFilter (stringBytes filter) filter :=
  (reads_utf8String short valid).bind_nil ((reads_require (by simpa using nonempty)).bind_nil
    (reads_pure filter))

theorem level_toByte {qos : QoS} (valid : validQos qos = true) :
    level qos.toByte.toNat = some qos := by
  cases qos with
  | outOfRange excess => simp [validQos_outOfRange] at valid
  | _ => rfl

/-- A filter and its level are read back. -/
theorem reads_subscription {sub : TopicSubscription} (nonempty : sub.filter ≠ [])
    (short : sub.filter.length ≤ kMaxStringLen) (valid : isValidMqttString sub.filter = true)
    (qos : validQos sub.qos = true) :
    Reads subscription (stringBytes sub.filter ++ [sub.qos.toByte]) sub :=
  (reads_topicFilter nonempty short valid).bind ((reads_one _).bind_nil
    ((reads_given (level_toByte qos)).bind_nil (reads_pure sub)))

/-- Requests written one behind the other after an identifier. -/
theorem finishes_requests {α : Type} {element : Reader UInt8 α} {write : α → Bytes}
    {elements : List α} (nonzero : id ≠ 0) (some : elements.isEmpty = false)
    (begun : ∀ value ∈ elements, write value ≠ [])
    (reads : ∀ value ∈ elements, Reads element (write value) value) :
    Finishes (requests element) (u16Bytes id ++ elements.flatMap write) (id, elements) := by
  have enough : elements.length ≤ (u16Bytes id ++ elements.flatMap write).length := by
    have fewer := length_le_flatMap begun
    rw [List.length_append]
    omega
  unfold Finishes requests
  exact Finishes.bind (reads_identifier nonzero)
    ((finishes_untilEnd enough begun reads).bind_nil
      ((reads_require (by simpa using some)).bind_nil (reads_pure _)))

/-! ## What the encoders write is read back -/

/-- What a CONNECT that is encoded holds. -/
theorem encodeConnect_ok (encoded : encodeConnect size opts = (.ok count, bytes)) :
    ∃ remaining, connectRemainingLength opts = .ok remaining ∧
      bytes = connectPacket opts ∧ count = bytes.length := by
  cases sized : connectRemainingLength opts with
  | error reason =>
    simp only [encodeConnect, sized] at encoded
    cases encoded
  | ok remaining =>
    obtain ⟨rfl, rfl, _⟩ := Encodes.of_ok (encodes_connect sized) encoded
    exact ⟨remaining, rfl, rfl, rfl⟩

/-- What a SUBSCRIBE that is encoded holds. -/
theorem encodeSubscribe_ok {subs : List TopicSubscription}
    (encoded : encodeSubscribe size id subs = (.ok count, bytes)) :
    ∃ remaining, id ≠ 0 ∧ subscribeRemainingLength subs = .ok remaining ∧
      bytes = subscribePacket id subs ∧ count = bytes.length := by
  have nonzero : id ≠ 0 := by
    intro zero
    rw [encodeSubscribe, if_pos zero] at encoded
    cases encoded
  cases sized : subscribeRemainingLength subs with
  | error reason =>
    simp only [encodeSubscribe, if_neg nonzero, sized] at encoded
    cases encoded
  | ok remaining =>
    obtain ⟨rfl, rfl, _⟩ := Encodes.of_ok (encodes_subscribe nonzero sized) encoded
    exact ⟨remaining, nonzero, rfl, rfl, rfl⟩

/-- What an UNSUBSCRIBE that is encoded holds. -/
theorem encodeUnsubscribe_ok {filters : List Bytes} (encoded : encodeUnsubscribe size id filters =
    (.ok count, bytes)) :
    ∃ remaining, id ≠ 0 ∧ unsubscribeRemainingLength filters = .ok remaining ∧
      bytes = unsubscribePacket id filters ∧ count = bytes.length := by
  have nonzero : id ≠ 0 := by
    intro zero
    rw [encodeUnsubscribe, if_pos zero] at encoded
    cases encoded
  cases sized : unsubscribeRemainingLength filters with
  | error reason =>
    simp only [encodeUnsubscribe, if_neg nonzero, sized] at encoded
    cases encoded
  | ok remaining =>
    obtain ⟨rfl, rfl, _⟩ := Encodes.of_ok (encodes_unsubscribe nonzero sized) encoded
    exact ⟨remaining, nonzero, rfl, rfl, rfl⟩

/-- The reference reads the client's CONNECT. -/
theorem connect_connectPacket (sized : connectRemainingLength opts = .ok size) :
    connect (connectPacket opts) = some (fieldsOf opts) := by
  obtain ⟨_, _, _, _, within, announced⟩ := connectRemainingLength_ok sized
  exact packet_packetOf (by decide) (by decide) (announced ▸ within)
    (reads_connectBody sized).finishes

/-- It reads the client's SUBSCRIBE. -/
theorem subscribe_subscribePacket {subs : List TopicSubscription}
    (nonzero : id ≠ 0) (sized : subscribeRemainingLength subs = .ok size) :
    subscribe (subscribePacket id subs) = some (id, subs) := by
  have announced := @length_subscribeBody id subs size sized
  obtain ⟨checked, within, _⟩ := subscribeRemainingLength_ok sized
  refine packet_packetOf (by decide) (by decide) (announced ▸ within) ?_
  refine finishes_requests nonzero (subscribeRemainingLength_nonempty sized) (by simp) ?_
  intro sub member
  obtain ⟨nonempty, short, valid, qos⟩ := checked sub member
  exact reads_subscription nonempty short valid qos

/-- It reads the client's UNSUBSCRIBE. -/
theorem unsubscribe_unsubscribePacket {filters : List Bytes}
    (nonzero : id ≠ 0) (sized : unsubscribeRemainingLength filters = .ok size) :
    unsubscribe (unsubscribePacket id filters) = some (id, filters) := by
  have announced := @length_unsubscribeBody id filters size sized
  obtain ⟨checked, within, _⟩ := unsubscribeRemainingLength_ok sized
  refine packet_packetOf (by decide) (by decide) (announced ▸ within) ?_
  refine finishes_requests nonzero (unsubscribeRemainingLength_nonempty sized)
    (by simp [stringBytes, u16Bytes]) ?_
  intro filter member
  obtain ⟨nonempty, short, valid⟩ := checked filter member
  exact reads_topicFilter nonempty short valid

/-- Whatever the three encoders write, the standard's reading of it takes every byte and
gives back every field. -/
theorem requests_readBack {size count : Nat} {bytes : Bytes} :
    (∀ opts, encodeConnect size opts = (.ok count, bytes) →
      bytes.length = count ∧ connect bytes = some (fieldsOf opts)) ∧
    (∀ id subs, encodeSubscribe size id subs = (.ok count, bytes) →
      bytes.length = count ∧ subscribe bytes = some (id, subs)) ∧
    (∀ id filters, encodeUnsubscribe size id filters = (.ok count, bytes) →
      bytes.length = count ∧ unsubscribe bytes = some (id, filters)) := by
  refine ⟨fun opts encoded => ?_, fun id subs encoded => ?_, fun id filters encoded => ?_⟩
  · obtain ⟨_, sized, rfl, rfl⟩ := encodeConnect_ok encoded
    exact ⟨rfl, connect_connectPacket sized⟩
  · obtain ⟨_, nonzero, sized, rfl, rfl⟩ := encodeSubscribe_ok encoded
    exact ⟨rfl, subscribe_subscribePacket nonzero sized⟩
  · obtain ⟨_, nonzero, sized, rfl, rfl⟩ := encodeUnsubscribe_ok encoded
    exact ⟨rfl, unsubscribe_unsubscribePacket nonzero sized⟩

/-- A CONNECT with a retained will and no credentials. -/
def farewell : ConnectOptions :=
  { clientId := [99], keepAliveS := 30, cleanSession := false
    will := { topic := [119], payload := [0, 255], qos := .exactlyOnce, retain := true } }

theorem requests_readBack_farewell :
    connect [0x10, 20, 0, 4, 77, 81, 84, 84, 4, 0x34, 0, 30, 0, 1, 99, 0, 1, 119, 0, 2, 0, 255] =
      some { clientId := [99], cleanSession := false, keepAlive := 30
             will := some farewell.will, username := none, password := none } :=
  ((@requests_readBack 22 22 _).1 farewell (by decide +kernel)).2

end Reference

end Mqtt
