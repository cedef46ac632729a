import Mathlib.Algebra.Ring.Nat
import Mqtt.Wire.Codec

/-!
# What the encoders write

Each encoder either refuses its arguments without writing, or writes one
definite packet. `Encodes` says the second: given enough space it writes exactly
that packet, and otherwise it fails with `bufferTooSmall`. The layouts below are
the packets, as functions of the arguments.
-/

namespace Mqtt

open Library

/-! ## Layouts -/

/-- First byte and remaining length. -/
def fixedHeaderBytes (header : FixedHeader) : Bytes :=
  header.toByte :: vbiLoop kMaxVbiBytes header.remainingLength

/-- A length-prefixed string. -/
def stringBytes (s : Bytes) : Bytes := u16Bytes (UInt16.ofNat s.length) ++ s

/-- A packet: its header, then its body. -/
def frame (header : FixedHeader) (body : Bytes) : Bytes := fixedHeaderBytes header ++ body

def connectBody (opts : ConnectOptions) : Bytes :=
  stringBytes protocolName ++ ([kProtocolLevel311] ++ ([connectFlags opts] ++
    (u16Bytes opts.keepAliveS ++ (stringBytes opts.clientId ++
      ((if opts.will.valid then stringBytes opts.will.topic ++ stringBytes opts.will.payload
        else []) ++
      ((if !opts.username.isEmpty then stringBytes opts.username else []) ++
        (if !opts.password.isEmpty then stringBytes opts.password else [])))))))

def publishBody (topic payload : Bytes) (qos : QoS) (packetId : UInt16) : Bytes :=
  stringBytes topic ++ ((if qos ≠ .atMostOnce then u16Bytes packetId else []) ++ payload)

def subscribeBody (packetId : UInt16) (subs : List TopicSubscription) : Bytes :=
  u16Bytes packetId ++ subs.flatMap fun s => stringBytes s.filter ++ [s.qos.toByte]

def unsubscribeBody (packetId : UInt16) (filters : List Bytes) : Bytes :=
  u16Bytes packetId ++ filters.flatMap stringBytes

/-- A packet of this body, whose header announces its length. -/
def packetOf (header : FixedHeader) (body : Bytes) : Bytes :=
  frame { header with remainingLength := body.length } body

def connectPacket (opts : ConnectOptions) : Bytes :=
  packetOf { type := .connect } (connectBody opts)

def publishPacket (topic payload : Bytes) (qos : QoS) (retain dup : Bool)
    (packetId : UInt16) : Bytes :=
  packetOf { type := .publish, dup := dup, qos := qos, retain := retain }
    (publishBody topic payload qos packetId)

def subscribePacket (packetId : UInt16) (subs : List TopicSubscription) : Bytes :=
  packetOf { type := .subscribe } (subscribeBody packetId subs)

def unsubscribePacket (packetId : UInt16) (filters : List Bytes) : Bytes :=
  packetOf { type := .unsubscribe } (unsubscribeBody packetId filters)

/-- PUBACK, PUBREC, PUBREL or PUBCOMP. -/
def ackPacket (type : PacketType) (packetId : UInt16) : Bytes :=
  packetOf { type := type } (u16Bytes packetId)

/-- PINGREQ or DISCONNECT. -/
def emptyPacket (type : PacketType) : Bytes := packetOf { type := type } []

/-- A 16-bit field takes two bytes. -/
@[simp] theorem length_u16Bytes (value : UInt16) : (u16Bytes value).length = 2 := rfl

theorem length_u16Bytes_le (value : UInt16) : (u16Bytes value).length ≤ kMaxRemainingLength := by
  rw [length_u16Bytes]
  decide

/-- A string takes its length field and its bytes. -/
@[simp] theorem length_stringBytes (s : Bytes) : (stringBytes s).length = utf8Size s.length := by
  simp [stringBytes, utf8Size]

/-! ## The variable byte integer -/

/-- In range, the loop writes as many bytes as announced. -/
theorem length_vbiLoop {value : Nat} (within : value ≤ kMaxRemainingLength) :
    (vbiLoop kMaxVbiBytes value).length = vbiSize value := by
  have inRange : ¬ value > kMaxRemainingLength := by omega
  simp only [vbiSize, if_neg inRange, kMaxVbiBytes, vbiLoop]
  unfold kMaxRemainingLength at within
  by_cases one : value < 128
  · have none : ¬ value / 128 > 0 := by omega
    simp [one, none]
  by_cases two : value < 16384
  · have some : value / 128 > 0 := by omega
    have none : ¬ value / 128 / 128 > 0 := by omega
    simp only [if_pos some, if_neg none, if_neg one, if_pos two, List.length_cons,
      List.length_nil]
  by_cases three : value < 2097152
  · have some : value / 128 > 0 := by omega
    have more : value / 128 / 128 > 0 := by omega
    have none : ¬ value / 128 / 128 / 128 > 0 := by omega
    simp only [if_pos some, if_pos more, if_neg none, if_neg one, if_neg two, if_pos three,
      List.length_cons, List.length_nil]
  · have some : value / 128 > 0 := by omega
    have more : value / 128 / 128 > 0 := by omega
    have most : value / 128 / 128 / 128 > 0 := by omega
    have none : ¬ value / 128 / 128 / 128 / 128 > 0 := by omega
    simp only [if_pos some, if_pos more, if_pos most, if_neg none, if_neg one, if_neg two,
      if_neg three, List.length_cons, List.length_nil]

/-- A length a packet can have is always written. -/
theorem vbiEncode_ok {value : Nat} (within : value ≤ kMaxRemainingLength) :
    vbiEncode kMaxVbiBytes value = .ok (vbiLoop kMaxVbiBytes value) := by
  have inRange : ¬ value > kMaxRemainingLength := by omega
  have room : ¬ kMaxVbiBytes < vbiSize value := by
    unfold vbiSize kMaxVbiBytes
    split_ifs <;> omega
  simp only [vbiEncode, if_neg inRange, if_neg room]

/-- A packet's size is what its remaining length announces. -/
theorem length_frame {header : FixedHeader} {body : Bytes}
    (within : header.remainingLength ≤ kMaxRemainingLength)
    (announced : body.length = header.remainingLength) :
    (frame header body).length =
      1 + vbiSize header.remainingLength + header.remainingLength := by
  simp only [frame, fixedHeaderBytes, List.length_append, List.length_cons,
    length_vbiLoop within, announced]
  omega

/-- A packet is its type byte, its length field and its body. -/
theorem length_packetOf {header : FixedHeader} {body : Bytes}
    (within : body.length ≤ kMaxRemainingLength) :
    (packetOf header body).length = 1 + vbiSize body.length + body.length :=
  length_frame within rfl

/-- An acknowledgement takes four bytes. -/
@[simp] theorem length_ackPacket (type : PacketType) (packetId : UInt16) :
    (ackPacket type packetId).length = 4 :=
  length_packetOf (by simp [kMaxRemainingLength])

/-- A packet without a body takes two bytes. -/
@[simp] theorem length_emptyPacket (type : PacketType) : (emptyPacket type).length = 2 :=
  length_packetOf (by simp)

/-! ## Exactness of the pieces -/

/-- Exactness of a span writer of this codec. -/
abbrev Emits (writer : Encoder) (bytes : Bytes) : Prop :=
  Writer.Emits Error.bufferTooSmall writer bytes

/-- The fixed header is written whole. -/
theorem emits_writeFixedHeader {header : FixedHeader}
    (within : header.remainingLength ≤ kMaxRemainingLength) :
    Emits (writeFixedHeader header) (fixedHeaderBytes header) := by
  unfold writeFixedHeader
  rw [vbiEncode_ok within]
  exact (Writer.emits_put [header.toByte]).bind (Writer.emits_put _)

/-- A field that may be empty is written as it is. -/
theorem emits_optional (bytes : Bytes) :
    Emits (if !bytes.isEmpty then put bytes else pure ()) bytes := by
  cases bytes with
  | nil => exact Writer.emits_pure
  | cons first rest => exact Writer.emits_put _

/-- A string within the limit is written whole. -/
theorem emits_writeString {s : Bytes} (short : s.length ≤ kMaxStringLen) :
    Emits (writeString s) (stringBytes s) := by
  have fits : ¬ s.length > kMaxStringLen := by omega
  unfold writeString
  rw [if_neg fits]
  exact (Writer.emits_put _).bind (emits_optional s)

/-! ## Exactness of the encoders -/

/-- The encoder writes this packet into any span that holds it. -/
def Encodes (encode : Nat → Result Nat × Bytes) (packet : Bytes) : Prop :=
  ∀ size, (packet.length ≤ size → encode size = (.ok packet.length, packet)) ∧
    (size < packet.length →
      ∃ part, part.length ≤ size ∧ encode size = (.error .bufferTooSmall, part))

/-- The encoder refuses its arguments and writes nothing. -/
def Refuses (encode : Nat → Result Nat × Bytes) : Prop :=
  ∃ error, ∀ size, encode size = (.error error, [])

/-- A writer that emits a packet encodes it. -/
theorem Encodes.of_emits {writer : Encoder} {packet : Bytes} (emits : Emits writer packet) :
    Encodes (fun size => Writer.exec size writer) packet :=
  fun _ => ⟨fun fits => emits.exec_of_fits fits, fun short => emits.exec_of_short short⟩

/-- Whatever an encoder reports as written fits the span. -/
theorem Encodes.of_ok {encode : Nat → Result Nat × Bytes} {packet bytes : Bytes}
    {size count : Nat} (encodes : Encodes encode packet)
    (written : encode size = (.ok count, bytes)) :
    bytes = packet ∧ count = packet.length ∧ packet.length ≤ size := by
  by_cases fits : packet.length ≤ size
  · have exact := (encodes size).1 fits
    rw [written] at exact
    injection exact with counts same
    injection counts with counts
    exact ⟨same, counts, fits⟩
  · obtain ⟨part, _, failed⟩ := (encodes size).2 (by omega)
    rw [written] at failed
    injection failed with impossible
    cases impossible

/-- An acknowledgement with an id is encoded. -/
theorem encodes_ack {type : PacketType} {packetId : UInt16} (isAck : isAckType type = true)
    (nonzero : packetId ≠ 0) : Encodes (encodeAck · type packetId) (ackPacket type packetId) := by
  have encoder : (encodeAck · type packetId) = fun size => Writer.exec size (do
      writeFixedHeader { type := type, remainingLength := 2 }
      put (u16Bytes packetId)) := by
    funext size
    simp [encodeAck, isAck, nonzero]
  rw [encoder]
  exact .of_emits ((emits_writeFixedHeader (by simp [kMaxRemainingLength])).bind
    (Writer.emits_put _))

/-- PINGREQ and DISCONNECT are encoded. -/
theorem encodes_empty {type : PacketType} (isEmpty : type = .pingreq ∨ type = .disconnect) :
    Encodes (encodeEmpty · type) (emptyPacket type) := by
  have encoder : (encodeEmpty · type) = fun size =>
      Writer.exec size (writeFixedHeader { type := type, remainingLength := 0 }) := by
    funext size
    rcases isEmpty with rfl | rfl <;> simp [encodeEmpty]
  rw [encoder]
  have emits := @emits_writeFixedHeader { type := type, remainingLength := 0 } (by simp)
  simpa [emptyPacket, packetOf, frame] using Encodes.of_emits emits

/-! ## Requests with checked fields -/

variable {topic payload : Bytes} {qos : QoS} {packetId : UInt16} {subs : List TopicSubscription}
  {filters : List Bytes} {error : Error} {remainingLength total sum extra payloadLen : Nat}

/-- A checked sum is the sum, and a length a packet can have. -/
theorem checkedAdd_ok {add : Nat} (added : checkedAdd error total add = .ok sum) :
    sum = total + add ∧ sum ≤ kMaxRemainingLength := by
  unfold checkedAdd at added
  split at added
  · cases added
  · injection added with same
    omega

/-- A PUBLISH that has a size has a well-formed topic. -/
theorem publishRemainingLength_ok
    (sized : publishRemainingLength topic payloadLen qos = .ok remainingLength) :
    topic ≠ [] ∧ topic.length ≤ kMaxStringLen ∧ validQos qos = true ∧
      isValidMqttString topic = true ∧ remainingLength ≤ kMaxRemainingLength ∧
      remainingLength =
        utf8Size topic.length + ((if qos ≠ .atMostOnce then 2 else 0) + payloadLen) := by
  unfold publishRemainingLength at sized
  simp only [bind, Except.bind, throw, throwThe, MonadExceptOf.throw, pure, Except.pure] at sized
  split_ifs at sized with shape qosBad stringBad identified
  all_goals
    split at sized
    · cases sized
  · split at sized
    · cases sized
    · rename_i topicAdded _ _ idAdded
      obtain ⟨topicTotal, _⟩ := checkedAdd_ok topicAdded
      obtain ⟨idTotal, _⟩ := checkedAdd_ok idAdded
      obtain ⟨total, within⟩ := checkedAdd_ok sized
      simp_all
      omega
  · rename_i topicAdded
    obtain ⟨topicTotal, _⟩ := checkedAdd_ok topicAdded
    obtain ⟨total, within⟩ := checkedAdd_ok sized
    simp_all

/-- The size of a PUBLISH is the length of its body. -/
theorem length_publishBody
    (sized : publishRemainingLength topic payload.length qos = .ok remainingLength) :
    (publishBody topic payload qos packetId).length = remainingLength := by
  obtain ⟨_, _, _, _, _, same⟩ := publishRemainingLength_ok sized
  rw [same, publishBody, List.length_append, List.length_append, length_stringBytes]
  split <;> simp

/-- A PUBLISH that has a size is encoded. -/
theorem encodes_publish {topic payload : Bytes} {qos : QoS} {retain dup : Bool}
    {packetId : UInt16} {remainingLength : Nat}
    (identified : qos ≠ .atMostOnce → packetId ≠ 0) (fresh : qos = .atMostOnce → dup = false)
    (sized : publishRemainingLength topic payload.length qos = .ok remainingLength) :
    Encodes (encodePublish · topic payload qos retain dup packetId)
      (publishPacket topic payload qos retain dup packetId) := by
  have announced := @length_publishBody topic payload qos packetId remainingLength sized
  obtain ⟨_, short, _, _, within, _⟩ := publishRemainingLength_ok sized
  have encoder : (encodePublish · topic payload qos retain dup packetId) =
      fun size => Writer.exec size (do
        writeFixedHeader
          { type := .publish, dup := dup, qos := qos, retain := retain,
            remainingLength := remainingLength }
        writeString topic
        (if qos ≠ .atMostOnce then put (u16Bytes packetId) else pure ())
        (if !payload.isEmpty then put payload else pure ())) := by
    funext size
    have named : ¬ (qos ≠ .atMostOnce ∧ packetId = 0) := fun bad => identified bad.1 bad.2
    have unrepeated : ¬ (qos = .atMostOnce ∧ dup = true) := by
      rintro ⟨zero, repeated⟩
      simp [fresh zero] at repeated
    simp only [encodePublish, if_neg named, if_neg unrepeated, sized]
  rw [encoder, publishPacket, packetOf, announced]
  exact .of_emits ((emits_writeFixedHeader within).bind ((emits_writeString short).bind
    ((Writer.emits_when _ fun _ => Writer.emits_put _).bind (emits_optional payload))))

/-- A filter that is counted is a string, and adds its size. -/
theorem addFilter_ok {filter : Bytes} (added : addFilter total filter qos extra = .ok sum) :
    filter ≠ [] ∧ filter.length ≤ kMaxStringLen ∧ isValidMqttString filter = true ∧
      validQos qos = true ∧ sum ≤ kMaxRemainingLength ∧
      sum = total + (utf8Size filter.length + extra) := by
  unfold addFilter at added
  simp only [bind, Except.bind, throw, throwThe, MonadExceptOf.throw] at added
  split_ifs at added with shape stringBad qosBad
  obtain ⟨same, within⟩ := checkedAdd_ok added
  simp_all

/-- A request of checked filters: every filter passed its checks, and the total
is the sum of what each adds. -/
theorem foldlM_addFilter_ok {α : Type} {filter : α → Bytes} {qos : α → QoS}
    {elements : List α} (start : total ≤ kMaxRemainingLength)
    (added : elements.foldlM (fun total a => addFilter total (filter a) (qos a) extra) total =
      Except.ok sum) :
    (∀ a ∈ elements, filter a ≠ [] ∧ (filter a).length ≤ kMaxStringLen ∧
      isValidMqttString (filter a) = true ∧ validQos (qos a) = true) ∧
    sum ≤ kMaxRemainingLength ∧
    sum = total + (elements.map fun a => utf8Size (filter a).length + extra).sum := by
  induction elements generalizing total with
  | nil =>
    simp only [List.foldlM_nil, pure, Except.pure, Except.ok.injEq] at added
    simp [← added, start]
  | cons element rest ih =>
    simp only [List.foldlM_cons, bind, Except.bind] at added
    split at added
    · cases added
    · rename_i next step
      obtain ⟨nonempty, short, valid, qosValid, within, same⟩ := addFilter_ok step
      obtain ⟨restOk, sumWithin, sumSame⟩ := ih within added
      refine ⟨?_, sumWithin, ?_⟩
      · intro a member
        rcases List.mem_cons.mp member with rfl | later
        · exact ⟨nonempty, short, valid, qosValid⟩
        · exact restOk a later
      · rw [sumSame, same, List.map_cons, List.sum_cons]
        omega

/-- A SUBSCRIBE that has a size has well-formed filters. -/
theorem subscribeRemainingLength_ok (sized : subscribeRemainingLength subs = .ok remainingLength) :
    (∀ s ∈ subs, s.filter ≠ [] ∧ s.filter.length ≤ kMaxStringLen ∧
      isValidMqttString s.filter = true ∧ validQos s.qos = true) ∧
    remainingLength ≤ kMaxRemainingLength ∧
    remainingLength = 2 + (subs.map fun s => utf8Size s.filter.length + 1).sum := by
  unfold subscribeRemainingLength at sized
  split at sized
  · cases sized
  · exact foldlM_addFilter_ok (by simp [kMaxRemainingLength]) sized

/-- An UNSUBSCRIBE that has a size has well-formed filters. -/
theorem unsubscribeRemainingLength_ok
    (sized : unsubscribeRemainingLength filters = .ok remainingLength) :
    (∀ f ∈ filters, f ≠ [] ∧ f.length ≤ kMaxStringLen ∧ isValidMqttString f = true) ∧
    remainingLength ≤ kMaxRemainingLength ∧
    remainingLength = 2 + (filters.map fun f => utf8Size f.length + 0).sum := by
  unfold unsubscribeRemainingLength at sized
  split at sized
  · cases sized
  · have folded := foldlM_addFilter_ok (by simp [kMaxRemainingLength]) sized
    exact ⟨fun f member => ⟨(folded.1 f member).1, (folded.1 f member).2.1,
      (folded.1 f member).2.2.1⟩, folded.2⟩

/-- The size of a SUBSCRIBE is the length of its body. -/
theorem length_subscribeBody (sized : subscribeRemainingLength subs = .ok remainingLength) :
    (subscribeBody packetId subs).length = remainingLength := by
  obtain ⟨_, _, same⟩ := subscribeRemainingLength_ok sized
  rw [same, subscribeBody, List.length_append, length_u16Bytes, List.length_flatMap]
  simp

/-- A SUBSCRIBE that has a size is encoded. -/
theorem encodes_subscribe (nonzero : packetId ≠ 0)
    (sized : subscribeRemainingLength subs = .ok remainingLength) :
    Encodes (encodeSubscribe · packetId subs)
      (subscribePacket packetId subs) := by
  have announced := @length_subscribeBody packetId subs remainingLength sized
  obtain ⟨valid, within, _⟩ := subscribeRemainingLength_ok sized
  have encoder : (encodeSubscribe · packetId subs) = fun size => Writer.exec size (do
      writeFixedHeader { type := .subscribe, remainingLength := remainingLength }
      put (u16Bytes packetId)
      subs.forM fun s => do
        writeString s.filter
        put [s.qos.toByte]) := by
    funext size
    simp only [encodeSubscribe, if_neg nonzero, sized]
  rw [encoder, subscribePacket, packetOf, announced]
  refine .of_emits ((emits_writeFixedHeader within).bind ((Writer.emits_put _).bind
    (Writer.emits_forM fun s member => ?_)))
  exact (emits_writeString (valid s member).2.1).bind (Writer.emits_put _)

/-- The size of an UNSUBSCRIBE is the length of its body. -/
theorem length_unsubscribeBody (sized : unsubscribeRemainingLength filters = .ok remainingLength) :
    (unsubscribeBody packetId filters).length = remainingLength := by
  obtain ⟨_, _, same⟩ := unsubscribeRemainingLength_ok sized
  rw [same, unsubscribeBody, List.length_append, length_u16Bytes, List.length_flatMap]
  simp

/-- An UNSUBSCRIBE that has a size is encoded. -/
theorem encodes_unsubscribe
    (nonzero : packetId ≠ 0) (sized : unsubscribeRemainingLength filters = .ok remainingLength) :
    Encodes (encodeUnsubscribe · packetId filters)
      (unsubscribePacket packetId filters) := by
  have announced := @length_unsubscribeBody packetId filters remainingLength sized
  obtain ⟨valid, within, _⟩ := unsubscribeRemainingLength_ok sized
  have encoder : (encodeUnsubscribe · packetId filters) = fun size => Writer.exec size (do
      writeFixedHeader { type := .unsubscribe, remainingLength := remainingLength }
      put (u16Bytes packetId)
      filters.forM writeString) := by
    funext size
    simp only [encodeUnsubscribe, if_neg nonzero, sized]
  rw [encoder, unsubscribePacket, packetOf, announced]
  exact .of_emits ((emits_writeFixedHeader within).bind ((Writer.emits_put _).bind
    (Writer.emits_forM fun f member => emits_writeString (valid f member).2.1)))

/-- A stage of the CONNECT size computation adds the length of an optional part
of the body, which it checked. -/
theorem addWill_ok {will : Will} (added : addWill will total = .ok sum)
    (start : total ≤ kMaxRemainingLength) :
    (will.valid = true →
      will.topic.length ≤ kMaxStringLen ∧ will.payload.length ≤ kMaxStringLen) ∧
    sum ≤ kMaxRemainingLength ∧
    sum = total + (if will.valid then stringBytes will.topic ++ stringBytes will.payload
      else []).length := by
  unfold addWill at added
  simp only [bind, Except.bind, throw, throwThe, MonadExceptOf.throw, pure, Except.pure] at added
  split_ifs at added with given qosBad long invalid
  · split at added
    · cases added
    · rename_i topicAdded
      obtain ⟨topicTotal, _⟩ := checkedAdd_ok topicAdded
      obtain ⟨total, within⟩ := checkedAdd_ok added
      simp only [if_pos given, List.length_append, length_stringBytes]
      refine ⟨fun _ => ?_, within, ?_⟩ <;> omega
  · injection added with same
    simp [given, ← same, start]

/-- What a username adds to a CONNECT. -/
theorem addUsername_ok {username : Bytes}
    (added : addUsername username total = .ok sum) (start : total ≤ kMaxRemainingLength) :
    ((!username.isEmpty) = true → username.length ≤ kMaxStringLen) ∧
    sum ≤ kMaxRemainingLength ∧
    sum = total + (if !username.isEmpty then stringBytes username else []).length := by
  unfold addUsername at added
  simp only [bind, Except.bind, throw, throwThe, MonadExceptOf.throw, pure, Except.pure] at added
  split_ifs at added with given long invalid
  · obtain ⟨total, within⟩ := checkedAdd_ok added
    simp only [if_pos given, length_stringBytes]
    refine ⟨fun _ => ?_, within, ?_⟩ <;> omega
  · injection added with same
    simp only [if_neg given, List.length_nil]
    exact ⟨fun impossible => absurd impossible given, by omega, by omega⟩

/-- What a password adds to a CONNECT. -/
theorem addPassword_ok {username password : Bytes}
    (added : addPassword username password total = .ok sum) (start : total ≤ kMaxRemainingLength) :
    ((!password.isEmpty) = true → password.length ≤ kMaxStringLen) ∧
    sum ≤ kMaxRemainingLength ∧
    sum = total + (if !password.isEmpty then stringBytes password else []).length := by
  unfold addPassword at added
  simp only [bind, Except.bind, throw, throwThe, MonadExceptOf.throw, pure, Except.pure] at added
  split_ifs at added with given anonymous long
  · obtain ⟨total, within⟩ := checkedAdd_ok added
    simp only [if_pos given, length_stringBytes]
    refine ⟨fun _ => ?_, within, ?_⟩ <;> omega
  · injection added with same
    simp only [if_neg given, List.length_nil]
    exact ⟨fun impossible => absurd impossible given, by omega, by omega⟩

/-- A CONNECT that has a size has short strings, and the size of its body. -/
theorem connectRemainingLength_ok {opts : ConnectOptions}
    (sized : connectRemainingLength opts = .ok remainingLength) :
    opts.clientId.length ≤ kMaxStringLen ∧
    (opts.will.valid = true →
      opts.will.topic.length ≤ kMaxStringLen ∧ opts.will.payload.length ≤ kMaxStringLen) ∧
    ((!opts.username.isEmpty) = true → opts.username.length ≤ kMaxStringLen) ∧
    ((!opts.password.isEmpty) = true → opts.password.length ≤ kMaxStringLen) ∧
    remainingLength ≤ kMaxRemainingLength ∧
    remainingLength = (connectBody opts).length := by
  unfold connectRemainingLength at sized
  simp only [bind, Except.bind, throw, throwThe, MonadExceptOf.throw] at sized
  split_ifs at sized with long invalid
  split at sized
  · cases sized
  split at sized
  · cases sized
  split at sized
  · cases sized
  split at sized
  · cases sized
  rename_i fixedAdded _ _ idAdded _ _ willAdded _ _ userAdded
  obtain ⟨fixedTotal, _⟩ := checkedAdd_ok fixedAdded
  obtain ⟨idTotal, idWithin⟩ := checkedAdd_ok idAdded
  obtain ⟨willShort, willWithin, willTotal⟩ := addWill_ok willAdded idWithin
  obtain ⟨userShort, userWithin, userTotal⟩ := addUsername_ok userAdded willWithin
  obtain ⟨passShort, passWithin, passTotal⟩ := addPassword_ok sized userWithin
  refine ⟨by omega, willShort, userShort, passShort, passWithin, ?_⟩
  simp only [connectBody, List.length_append, length_stringBytes, length_u16Bytes,
    List.length_cons, List.length_nil] at *
  rw [passTotal, userTotal, willTotal, idTotal, fixedTotal]
  simp only [utf8Size, protocolName, List.length_cons, List.length_nil]
  omega

/-- A CONNECT that has a size is encoded. -/
theorem encodes_connect {opts : ConnectOptions}
    (sized : connectRemainingLength opts = .ok remainingLength) :
    Encodes (encodeConnect · opts)
      (connectPacket opts) := by
  obtain ⟨idShort, willShort, userShort, passShort, within, announced⟩ :=
    connectRemainingLength_ok sized
  have encoder : (encodeConnect · opts) = fun size => Writer.exec size (do
      writeFixedHeader { type := .connect, remainingLength := remainingLength }
      writeString protocolName
      put [kProtocolLevel311]
      put [connectFlags opts]
      put (u16Bytes opts.keepAliveS)
      writeString opts.clientId
      (if opts.will.valid then do
        writeString opts.will.topic
        writeString opts.will.payload
      else pure ())
      (if !opts.username.isEmpty then writeString opts.username else pure ())
      (if !opts.password.isEmpty then writeString opts.password else pure ())) := by
    funext size
    simp only [encodeConnect, sized]
  rw [encoder, connectPacket, packetOf, ← announced]
  have will := Writer.emits_when (opts.will.valid = true) fun given =>
    (emits_writeString (willShort given).1).bind (emits_writeString (willShort given).2)
  have username := Writer.emits_when ((!opts.username.isEmpty) = true) fun given =>
    emits_writeString (userShort given)
  have password := Writer.emits_when ((!opts.password.isEmpty) = true) fun given =>
    emits_writeString (passShort given)
  exact .of_emits ((emits_writeFixedHeader within).bind
    ((emits_writeString (by simp [protocolName, kMaxStringLen])).bind
    ((Writer.emits_put _).bind ((Writer.emits_put _).bind ((Writer.emits_put _).bind
    ((emits_writeString idShort).bind (will.bind (username.bind password))))))))

/-! ## Error codes of the size computations -/

theorem checkedAdd_error {reason : Error} {add : Nat}
    (failed : checkedAdd reason total add = .error error) : error = reason := by
  unfold checkedAdd at failed
  split at failed
  · injection failed with same
    exact same.symm
  · cases failed

/-- Why a PUBLISH has no size. -/
theorem publishRemainingLength_error (failed : publishRemainingLength topic payloadLen qos = .error error) :
    error = .invalidArgument ∨ error = .payloadTooLarge := by
  unfold publishRemainingLength at failed
  simp only [bind, Except.bind, throw, throwThe, MonadExceptOf.throw, pure, Except.pure] at failed
  split_ifs at failed
  iterate 3
    · injection failed with same
      exact .inl same.symm
  · split at failed
    · injection failed with same
      rename_i step
      exact .inl (same ▸ checkedAdd_error step)
    · split at failed
      · injection failed with same
        rename_i step
        exact .inl (same ▸ checkedAdd_error step)
      · exact .inr (checkedAdd_error failed)
  · split at failed
    · injection failed with same
      rename_i step
      exact .inl (same ▸ checkedAdd_error step)
    · exact .inr (checkedAdd_error failed)

/-- Why a filter is not counted. -/
theorem addFilter_error {filter : Bytes}
    (failed : addFilter total filter qos extra = .error error) : error = .invalidArgument := by
  unfold addFilter at failed
  simp only [bind, Except.bind, throw, throwThe, MonadExceptOf.throw] at failed
  split_ifs at failed
  iterate 3
    · injection failed with same
      exact same.symm
  · exact checkedAdd_error failed

theorem foldlM_addFilter_error {α : Type} {filter : α → Bytes} {qos : α → QoS} {elements : List α}
    (failed : elements.foldlM (fun total a => addFilter total (filter a) (qos a) extra) total =
      Except.error error) : error = .invalidArgument := by
  induction elements generalizing total with
  | nil => cases failed
  | cons element rest ih =>
    simp only [List.foldlM_cons, bind, Except.bind] at failed
    split at failed
    · injection failed with same
      rename_i step
      exact same ▸ addFilter_error step
    · exact ih failed

/-- Why a SUBSCRIBE has no size. -/
theorem subscribeRemainingLength_error
    (failed : subscribeRemainingLength subs = .error error) : error = .invalidArgument := by
  unfold subscribeRemainingLength at failed
  split at failed
  · injection failed with same
    exact same.symm
  · exact foldlM_addFilter_error failed

/-- Why an UNSUBSCRIBE has no size. -/
theorem unsubscribeRemainingLength_error
    (failed : unsubscribeRemainingLength filters = .error error) : error = .invalidArgument := by
  unfold unsubscribeRemainingLength at failed
  split at failed
  · injection failed with same
    exact same.symm
  · exact foldlM_addFilter_error failed

private theorem addWill_error {will : Will} {total : Nat} {error : Error}
    (failed : addWill will total = .error error) : error = .invalidArgument := by
  unfold addWill at failed
  simp only [bind, Except.bind, throw, throwThe, MonadExceptOf.throw, pure, Except.pure] at failed
  split_ifs at failed
  iterate 3
    · injection failed with same
      exact same.symm
  split at failed
  · injection failed with same
    rename_i step
    exact same ▸ checkedAdd_error step
  · exact checkedAdd_error failed

private theorem addUsername_error {username : Bytes} {total : Nat} {error : Error}
    (failed : addUsername username total = .error error) : error = .invalidArgument := by
  unfold addUsername at failed
  simp only [bind, Except.bind, throw, throwThe, MonadExceptOf.throw, pure, Except.pure] at failed
  split_ifs at failed
  iterate 2
    · injection failed with same
      exact same.symm
  exact checkedAdd_error failed

private theorem addPassword_error {username password : Bytes} {total : Nat} {error : Error}
    (failed : addPassword username password total = .error error) :
    error = .invalidArgument := by
  unfold addPassword at failed
  simp only [bind, Except.bind, throw, throwThe, MonadExceptOf.throw, pure, Except.pure] at failed
  split_ifs at failed
  iterate 2
    · injection failed with same
      exact same.symm
  exact checkedAdd_error failed

/-- The size of a CONNECT is refused for one reason only. -/
theorem connectRemainingLength_error {opts : ConnectOptions}
    (failed : connectRemainingLength opts = .error error) : error = .invalidArgument := by
  unfold connectRemainingLength at failed
  simp only [bind, Except.bind, throw, throwThe, MonadExceptOf.throw] at failed
  split_ifs at failed
  iterate 2
    · injection failed with same
      exact same.symm
  -- Each stage either fails with the code it is given or hands its total on.
  split at failed
  · injection failed with same
    exact same ▸ checkedAdd_error ‹_›
  split at failed
  · injection failed with same
    exact same ▸ checkedAdd_error ‹_›
  split at failed
  · injection failed with same
    exact same ▸ addWill_error ‹_›
  split at failed
  · injection failed with same
    exact same ▸ addUsername_error ‹_›
  exact addPassword_error failed

/-! ## The front of a receive buffer -/

/-- A type byte that is refused is malformed. -/
theorem fromByte_error {byte : UInt8}
    (failed : FixedHeader.fromByte byte = .error error) : error = .malformedPacket := by
  unfold FixedHeader.fromByte at failed
  simp only at failed
  split at failed
  · injection failed with same
    exact same.symm
  · split at failed
    · injection failed with same
      exact same.symm
    · split_ifs at failed <;> (injection failed with same; exact same.symm)

/-- A length field is malformed or not all there. -/
theorem vbiDecodeLoop_error {left taken value multiplier : Nat} {input : Bytes}
    (failed : vbiDecodeLoop left taken value multiplier input = .error error) :
    error = .malformedPacket ∨ error = .incomplete := by
  induction left generalizing taken value multiplier input with
  | zero =>
    injection failed with same
    exact .inl same.symm
  | succ left ih =>
    cases input with
    | nil =>
      injection failed with same
      exact .inr same.symm
    | cons byte rest =>
      simp only [vbiDecodeLoop] at failed
      split_ifs at failed
      · injection failed with same
        exact .inl same.symm
      · exact ih failed

/-- A decoded length takes at least one byte more, and is one a packet can have. -/
theorem vbiDecodeLoop_ok {left taken value multiplier : Nat} {input : Bytes}
    {decoded : VbiDecode} (found : vbiDecodeLoop left taken value multiplier input = .ok decoded) :
    taken + 1 ≤ decoded.bytes ∧ decoded.value ≤ kMaxRemainingLength := by
  induction left generalizing taken value multiplier input with
  | zero => cases found
  | succ left ih =>
    cases input with
    | nil => cases found
    | cons byte rest =>
      simp only [vbiDecodeLoop] at found
      split_ifs at found with last minimal
      · injection found with same
        rw [← same]
        refine ⟨by simp, ?_⟩
        -- The size of a larger value would be 0.
        by_contra larger
        rw [not_not, vbiSize, if_pos (Nat.lt_of_not_le larger)] at minimal
        omega
      · obtain ⟨further, within⟩ := ih found
        exact ⟨by omega, within⟩

/-- A header is malformed or not all there. -/
theorem peekHeader_error_cases {input : Bytes} (failed : peekHeader input = .error error) :
    error = .malformedPacket ∨ error = .incomplete := by
  unfold peekHeader at failed
  split at failed
  · injection failed with same
    exact .inr same.symm
  · split at failed
    · rename_i bad
      injection failed with same
      exact .inl (same ▸ fromByte_error bad)
    · split at failed
      · rename_i bad
        injection failed with same
        exact vbiDecodeLoop_error (same ▸ bad)
      · cases failed

theorem peekHeader_error {input : Bytes}
    (failed : peekHeader input = .error error) : error ≠ .ok := by
  rcases peekHeader_error_cases failed with rfl | rfl <;> simp

section

variable {input : Bytes} {p : PacketPeek} (found : peekHeader input = .ok p)

include found

/-- How a header is read. -/
theorem peekHeader_ok :
    ∃ first rest header vbi, input = first :: rest ∧ FixedHeader.fromByte first = .ok header ∧
      vbiDecode rest = .ok vbi ∧
      p = { header := { header with remainingLength := vbi.value }
            headerBytes := 1 + vbi.bytes
            totalBytes := 1 + vbi.bytes + vbi.value } := by
  unfold peekHeader at found
  split at found
  · cases found
  · rename_i first rest
    split at found
    · cases found
    · rename_i header isHeader
      split at found
      · cases found
      · rename_i vbi decoded
        injection found with same
        exact ⟨first, rest, header, vbi, rfl, isHeader, decoded, same.symm⟩

/-- A packet is at least its type byte and one length byte. -/
theorem peekHeader_total : 2 ≤ p.totalBytes := by
  obtain ⟨_, _, _, vbi, _, _, decoded, rfl⟩ := peekHeader_ok found
  have bytes := (vbiDecodeLoop_ok decoded).1
  simp only
  omega

/-- A packet is its header and its body. -/
theorem peekHeader_size : p.totalBytes = p.headerBytes + p.header.remainingLength := by
  obtain ⟨_, _, _, _, _, _, _, rfl⟩ := peekHeader_ok found
  rfl

/-- The body is no longer than a packet's can be. -/
theorem peekHeader_remaining : p.header.remainingLength ≤ kMaxRemainingLength := by
  obtain ⟨_, _, _, vbi, _, _, decoded, rfl⟩ := peekHeader_ok found
  exact (vbiDecodeLoop_ok decoded).2

end

/-- An acknowledgement never names the id 0. -/
theorem decodePacketId_nonzero {body : Bytes} {id : UInt16}
    (decoded : decodePacketId body = .ok id) : id ≠ 0 := by
  unfold decodePacketId at decoded
  split at decoded
  · split at decoded
    · cases decoded
    · injection decoded with same
      rwa [← same]
  · cases decoded

/-- A decoded message has the header's QoS, and an id above QoS 0. -/
theorem decodePublish_ok {header : FixedHeader} {body : Bytes} {m : Message}
    (decoded : decodePublish header body = .ok m) :
    m.qos = header.qos ∧ (m.qos ≠ .atMostOnce → m.packetId ≠ 0) := by
  unfold decodePublish at decoded
  split at decoded
  · cases decoded
  · simp only at decoded
    split_ifs at decoded with noTopic identified repeated
    · split at decoded
      · split_ifs at decoded with zero
        injection decoded with same
        rw [← same]
        exact ⟨rfl, fun _ => zero⟩
      · cases decoded
    · injection decoded with same
      rw [← same]
      simp_all

end Mqtt
