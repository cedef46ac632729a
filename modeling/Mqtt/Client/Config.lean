/-!
# Compile-time capacities

Every table and buffer of the client is sized by one of these constants. The
client cannot be instantiated with a configuration that fails the source's
static assertions, so the assertions are fields here.
-/

namespace Mqtt

/-- Capacities and timers, with the assertions that `Client` checks at build
time. The defaults are those of the source's `DefaultConfig`. -/
structure Config where
  rxBufferSize : Nat := 1024
  txBufferSize : Nat := 1024
  maxTopicLen : Nat := 64
  maxClientIdLen : Nat := 24
  maxUsernameLen : Nat := 32
  maxPasswordLen : Nat := 32
  maxInflightOut : Nat := 4
  maxPersistedMsgSize : Nat := 256
  maxInflightIn : Nat := 4
  maxSubscriptions : Nat := 8
  maxPendingAcks : Nat := 4
  maxTopicsPerRequest : Nat := 4
  retryIntervalMs : UInt32 := 20000
  connectTimeoutMs : UInt32 := 30000
  rxHoldsSmallPacket : 16 ≤ rxBufferSize := by decide
  txHoldsConnect : 16 ≤ txBufferSize := by decide
  topicLenPositive : 1 ≤ maxTopicLen := by decide
  clientIdLenPositive : 1 ≤ maxClientIdLen := by decide
  topicsPerRequestPositive : 1 ≤ maxTopicsPerRequest := by decide
  persistedHoldsHeader : maxInflightOut = 0 ∨ 8 ≤ maxPersistedMsgSize := by decide
  rxWithinPacketLimit : rxBufferSize ≤ 268435460 := by decide

/-- The capacities a client has when the application names none. -/
def Config.default : Config := {}

/-- Small capacities for the concrete runs of this development. -/
def Config.small : Config where
  rxBufferSize := 16
  txBufferSize := 16
  maxInflightOut := 1
  maxPersistedMsgSize := 8
  maxInflightIn := 1

/-- The same without timed retransmission. -/
def Config.untimed : Config := { Config.small with retryIntervalMs := 0 }

/-- Zero-capacity storage is rounded up to one element. -/
def atLeastOne (n : Nat) : Nat := if n > 0 then n else 1

/-- Size of a slot's retransmission buffer. -/
def Config.kPersistSize (cfg : Config) : Nat := atLeastOne cfg.maxPersistedMsgSize

theorem Config.kPersistSize_le {cfg : Config} (small : cfg.maxPersistedMsgSize ≤ 65535) :
    cfg.kPersistSize ≤ 65535 := by
  unfold Config.kPersistSize atLeastOne
  split <;> omega

/-- A slot that can be used holds at least an acknowledgement. -/
theorem Config.four_le_kPersistSize (cfg : Config) (used : cfg.maxInflightOut ≠ 0) :
    4 ≤ cfg.kPersistSize := by
  have sized := cfg.persistedHoldsHeader
  unfold Config.kPersistSize atLeastOne
  split <;> omega

end Mqtt
