import Mqtt.Error

/-!
# Strings, topic names and topic filters

The UTF-8 validator, the two name validators and the wildcard matcher. The
source walks its strings by index; here each loop walks the unread suffix, which
is what the index denotes.
-/

namespace Mqtt

/-- Smallest code point a sequence with this many continuation bytes may encode. -/
def kSmallestFor : Nat → Nat
  | 0 => 0x00
  | 1 => 0x80
  | 2 => 0x800
  | _ => 0x10000

def kMaxCodePoint : Nat := 0x10FFFF
def kSurrogateFirst : Nat := 0xD800
def kSurrogateLast : Nat := 0xDFFF

/-- Continuation count and leading bits announced by a lead byte; `none` is a
stray continuation byte or one of the forms RFC 3629 removed. -/
def leadByte (lead : UInt8) : Option (Nat × Nat) :=
  if lead < 0x80 then some (0, lead.toNat)
  else if lead &&& 0xE0 = 0xC0 then some (1, (lead &&& 0x1F).toNat)
  else if lead &&& 0xF0 = 0xE0 then some (2, (lead &&& 0x0F).toNat)
  else if lead &&& 0xF8 = 0xF0 then some (3, (lead &&& 0x07).toNat)
  else none

/-- Fold `count` continuation bytes into the code point; `none` when the string
ends first or a byte does not continue. -/
def continuationBytes : Nat → Nat → Bytes → Option (Nat × Bytes)
  | 0, codePoint, rest => some (codePoint, rest)
  | _ + 1, _, [] => none
  | count + 1, codePoint, byte :: rest =>
    if byte &&& 0xC0 ≠ 0x80 then none
    else continuationBytes count (codePoint * 64 + (byte &&& 0x3F).toNat) rest

/-- The validator's loop. Every round reads at least one byte, so the length of
the string is enough rounds. -/
def mqttStringLoop : Nat → Bytes → Bool
  | _, [] => true
  | 0, _ :: _ => false
  | rounds + 1, lead :: rest =>
    if lead = 0 then false
    else
      match leadByte lead with
      | none => false
      | some (count, leading) =>
        match continuationBytes count leading rest with
        | none => false
        | some (codePoint, unread) =>
          if codePoint < kSmallestFor count then false
          else if kSurrogateFirst ≤ codePoint ∧ codePoint ≤ kSurrogateLast then false
          else if codePoint > kMaxCodePoint then false
          else mqttStringLoop rounds unread

/-- Whether `s` is an MQTT UTF-8 encoded string. -/
def isValidMqttString (s : Bytes) : Bool := mqttStringLoop s.length s

def slash : UInt8 := 0x2F
def plus : UInt8 := 0x2B
def hash : UInt8 := 0x23
def dollar : UInt8 := 0x24

/-- Whether `name` may be published to. -/
def isValidTopicName (name : Bytes) : Bool :=
  if name.isEmpty ∨ name.length > 65535 then false
  else if !isValidMqttString name then false
  else name.all fun c => !(c = plus || c = hash || c = 0)

/-- The check made at a level boundary of a filter. -/
def filterLevelOk (level : Bytes) (atEnd : Bool) : Bool :=
  if level.length > 1 then level.all fun c => !(c = plus || c = hash)
  else if level = [hash] then atEnd
  else true

/-- The filter validator's loop, with the bytes of the level read so far. -/
def filterLoop : Bytes → Bytes → Bool
  | level, [] => filterLevelOk level true
  | level, c :: rest =>
    if c ≠ slash then if c = 0 then false else filterLoop (level ++ [c]) rest
    else filterLevelOk level false && filterLoop [] rest

/-- Whether `filter` may be subscribed to. -/
def isValidFilter (filter : Bytes) : Bool :=
  if filter.isEmpty ∨ filter.length > 65535 then false
  else if !isValidMqttString filter then false
  else filterLoop [] filter

/-- The bytes of the level that starts here. -/
def firstLevel (s : Bytes) : Bytes := s.takeWhile (· ≠ slash)

/-- What follows the level that starts here, from its separator on. -/
def afterLevel (s : Bytes) : Bytes := s.dropWhile (· ≠ slash)

/-- The matcher's loop. Every round that continues passes a separator of the
filter, so one more round than the filter has bytes is enough. -/
def topicMatchesLoop : Nat → Bytes → Bytes → Bool
  | 0, _, _ => false
  | rounds + 1, filter, topic =>
    let fLevel := firstLevel filter
    if fLevel = [hash] then true
    else
      let tLevel := firstLevel topic
      if fLevel ≠ [plus] ∧ fLevel ≠ tLevel then false
      else
        match afterLevel filter, afterLevel topic with
        | [], [] => true
        | [], _ :: _ => false
        | _ :: fRest, [] => fRest = [hash]
        | _ :: fRest, _ :: tRest => topicMatchesLoop rounds fRest tRest

/-- Whether a message on `topic` is routed to a subscription on `filter`. -/
def topicMatches (filter topic : Bytes) : Bool :=
  match filter, topic with
  | [], _ => false
  | _, [] => false
  | f :: _, t :: _ =>
    if t = dollar ∧ (f = plus ∨ f = hash) then false
    else topicMatchesLoop (filter.length + 1) filter topic

end Mqtt
