import Mqtt.Session.TwinRuns

/-!
# Passes of the pump

What one pass of `step()` does to an arbitrary world when the transport takes all that
waits or nothing, and brings one packet or none.
-/

namespace Mqtt

open Library

variable {cfg : Config}

namespace World

variable {w : World cfg}

theorem pumpTx_of_empty (empty : w.client.tx.peek = []) : w.pumpTx = (.ok, w) := by
  unfold pumpTx pumpTxLoop
  rw [if_pos ((TxQueue.isEmpty_iff _).mpr empty)]

/-- The transport takes everything that waits. -/
theorem pumpTx_of_taken {count : Nat} (waiting : w.client.tx.peek.length = count)
    (some : count ≠ 0) (answer : w.nextSend.1 = (.ok, count)) :
    w.pumpTx = (.ok, w.nextSend.2.act (.send .ok count w.env.now)) := by
  have busy : ¬ w.client.tx.isEmpty = true := fun empty =>
    some (by rw [← waiting, (TxQueue.isEmpty_iff _).mp empty, List.length_nil])
  have emptied : (w.nextSend.2.act (.send .ok count w.env.now)).client.tx.isEmpty = true := by
    rw [TxQueue.isEmpty_iff]
    show (w.client.react (.send .ok count w.env.now)).client.tx.peek = []
    rw [Client.react, if_pos ⟨rfl, some⟩, TxQueue.peek_consume, ← waiting, List.drop_length]
  obtain ⟨rounds, isCount⟩ := Nat.exists_eq_succ_of_ne_zero some
  have now : w.nextSend.2.env.now = w.env.now := rfl
  unfold pumpTx
  rw [← TxQueue.length_peek, waiting]
  nth_rewrite 1 [isCount]
  unfold pumpTxLoop
  rw [if_neg busy]
  simp only [answer, now, reduceCtorEq, if_false, ne_eq, not_true_eq_false, some]
  unfold pumpTxLoop
  exact if_pos emptied

/-- The transport takes nothing. -/
theorem pumpTx_of_blocked (waiting : w.client.tx.peek ≠ [])
    (answer : w.nextSend.1 = (.wouldBlock, 0)) :
    w.pumpTx = (.ok, w.nextSend.2.act (.send .wouldBlock 0 w.env.now)) := by
  have busy : ¬ w.client.tx.isEmpty = true := fun empty =>
    waiting ((TxQueue.isEmpty_iff _).mp empty)
  have now : w.nextSend.2.env.now = w.env.now := rfl
  unfold pumpTx pumpTxLoop
  rw [if_neg busy]
  simp only [answer, now, if_true]

/-- Bytes arrive at an empty buffer. -/
theorem receive_of_bytes {bytes : Bytes} (empty : w.client.rx = []) (some : bytes ≠ [])
    (fits : bytes.length ≤ cfg.rxBufferSize) (answer : w.nextRecv.1 = (.ok, bytes)) :
    w.receive = (.bytes, w.nextRecv.2.act (.recv .ok bytes w.env.now)) := by
  have space : w.client.rx.length < cfg.rxBufferSize := by
    have sized := cfg.rxHoldsSmallPacket
    rw [empty, List.length_nil]
    omega
  have stillEmpty : w.nextRecv.2.client.rx = [] := empty
  have whole : bytes.take (cfg.rxBufferSize - 0) = bytes := List.take_of_length_le fits
  have now : w.nextRecv.2.env.now = w.env.now := rfl
  unfold receive
  rw [if_pos space]
  simp only [answer, now, stillEmpty, List.length_nil, whole, some, reduceCtorEq, if_false, ne_eq,
    not_true_eq_false]

/-- Nothing arrives. -/
theorem receive_of_silence (empty : w.client.rx = []) (answer : w.nextRecv.1 = (.wouldBlock, [])) :
    w.receive = (.nothing, w.nextRecv.2.act (.recv .wouldBlock [] w.env.now)) := by
  have space : w.client.rx.length < cfg.rxBufferSize := by
    have sized := cfg.rxHoldsSmallPacket
    rw [empty, List.length_nil]
    omega
  have now : w.nextRecv.2.env.now = w.env.now := rfl
  unfold receive
  rw [if_pos space]
  simp only [answer, now, if_true, List.take_nil]

theorem drainLoop_of_empty (empty : w.client.rx = []) (rounds : Nat) :
    drainLoop rounds w = (.ok, w) := by
  cases rounds with
  | zero => rfl
  | succ rounds =>
    unfold drainLoop
    rw [if_pos empty]

/-- The rest of `pump_rx` once it has handled a packet that was alone in the buffer. -/
def afterPacket (rounds size : Nat) (v : World cfg) : Error × World cfg :=
  let drained :=
    if v.client.rx.length < size then (v.client.lastError, v.act .discard)
    else drainLoop size (v.act (.consume size))
  if drained.1 ≠ .ok then drained
  else if drained.2.client.state = .connecting then (.ok, drained.2)
  else if drained.2.client.rx.length = cfg.rxBufferSize then (.packetTooLarge, drained.2)
  else pumpRx rounds drained.2

/-- One packet arrives at an empty buffer, and its handler finds nothing wrong. -/
theorem pumpRx_of_packet {bytes : Bytes} {p : PacketPeek} {v : World cfg} (rounds : Nat)
    (empty : w.client.rx = []) (answer : w.nextRecv.1 = (.ok, bytes))
    (peeked : peekHeader bytes = .ok p) (whole : p.totalBytes = bytes.length)
    (fits : bytes.length ≤ cfg.rxBufferSize)
    (handled : (w.nextRecv.2.act (.recv .ok bytes w.env.now)).handlePacket p.header
      ((bytes.drop p.headerBytes).take p.header.remainingLength) = (.ok, v)) :
    pumpRx (rounds + 1) w = afterPacket rounds bytes.length v := by
  have some : bytes ≠ [] := by
    intro none
    rw [none] at peeked
    cases peeked
  have holds : (w.nextRecv.2.act (.recv .ok bytes w.env.now)).client.rx = bytes := by
    show (w.client.react (.recv .ok bytes w.env.now)).client.rx = bytes
    rw [Client.react, if_pos ⟨rfl, some⟩]
    simp [empty]
  have drained : (w.nextRecv.2.act (.recv .ok bytes w.env.now)).drainRx =
      if v.client.rx.length < bytes.length then (v.client.lastError, v.act .discard)
      else drainLoop bytes.length (v.act (.consume bytes.length)) := by
    conv_lhs => unfold drainRx drainLoop
    simp only [holds, if_neg some, peeked, whole, handled, Nat.not_lt.mpr fits, Nat.lt_irrefl,
      if_false, ne_eq, not_true_eq_false]
  unfold pumpRx
  rw [receive_of_bytes empty some fits answer]
  simp only [drained]
  unfold afterPacket
  split <;> rfl

/-- The handler left the packet alone, and nothing more arrives. -/
theorem afterPacket_of_silence {v : World cfg} {size : Nat} (rounds : Nat)
    (whole : v.client.rx.length = size) (opened : v.client.state ≠ .connecting)
    (answer : v.nextRecv.1 = (.wouldBlock, [])) :
    afterPacket (rounds + 1) size v =
      (.ok, (v.act (.consume size)).nextRecv.2.act (.recv .wouldBlock [] v.env.now)) := by
  have empty : (v.act (.consume size)).client.rx = [] := by
    show v.client.rx.drop size = []
    rw [← whole, List.drop_length]
  have silent : (v.act (.consume size)).receive = (.nothing,
      (v.act (.consume size)).nextRecv.2.act (.recv .wouldBlock [] v.env.now)) :=
    receive_of_silence empty answer
  have opened : ¬ (v.act (.consume size)).client.state = .connecting := opened
  unfold afterPacket
  generalize v.act (.consume size) = consumed at *
  have full : ¬ consumed.client.rx.length = cfg.rxBufferSize := by
    have sized := cfg.rxHoldsSmallPacket
    rw [empty, List.length_nil]
    omega
  have stillEmpty : (consumed.nextRecv.2.act (.recv .wouldBlock [] v.env.now)).client.rx = [] :=
    empty
  simp only [whole, Nat.lt_irrefl, if_false, drainLoop_of_empty empty, ne_eq, not_true_eq_false,
    if_neg opened, if_neg full]
  unfold pumpRx
  rw [silent]
  exact drainLoop_of_empty stillEmpty _

/-! ## Histories grow -/

/-- A world is its own twin, from where it stands. -/
theorem Twins.self (w : World cfg) : w.Twins {} w.trace w.trace w where
  env := by simp [Env.shift]
  runs := by
    refine ⟨[], [], by simp, by simp, .nil, ⟨⟨rfl, rfl, ?_, rfl, ?_, ?_, rfl, rfl, ?_, ?_, rfl, rfl⟩,
      rfl, rfl, rfl, rfl, rfl, ?_, ?_, ?_, fun _ => rfl, ?_⟩⟩
    · exact List.forall₂_same.mpr fun slot _ =>
        ⟨rfl, rfl, fun _ => rfl, fun _ => rfl, fun _ => rfl, fun _ => (UInt32.add_zero _).symm⟩
    · exact List.forall₂_same.mpr fun s _ => ⟨rfl, rfl, rfl, rfl, rfl⟩
    · exact List.forall₂_same.mpr fun ack _ => ⟨rfl, rfl, rfl⟩
    all_goals simp [Offset.after]

/-- Whatever runs from here on keeps the history so far. -/
theorem afterPacket_twins {v : World cfg} {size : Nat} (rounds : Nat)
    (whole : v.client.rx.length = size) :
    TwinResults {} (v.act (.consume size)).trace (v.act (.consume size)).trace
      (afterPacket rounds size v) (afterPacket rounds size v) := by
  obtain ⟨_, drained⟩ := (Twins.self (v.act (.consume size))).drainLoop size
  unfold afterPacket
  simp only [whole, Nat.lt_irrefl, if_false]
  split
  · exact ⟨rfl, drained⟩
  split
  · exact ⟨rfl, drained⟩
  split
  · exact ⟨rfl, drained⟩
  · exact drained.pumpRx rounds

/-- A step of an established session in which one packet arrives, up to what its handler
leaves. -/
theorem step_of_packet {w sent v : World cfg} {bytes : Bytes} {p : PacketPeek}
    (outside : w.client.inStep = false) (up : w.client.state = .connected)
    (pumped : (w.act .stepEnter).pumpTx = (.ok, sent)) (stillUp : sent.client.state = .connected)
    (empty : sent.client.rx = []) (answer : sent.nextRecv.1 = (.ok, bytes))
    (peeked : peekHeader bytes = .ok p) (whole : p.totalBytes = bytes.length)
    (fits : bytes.length ≤ cfg.rxBufferSize)
    (handled : (sent.nextRecv.2.act (.recv .ok bytes sent.env.now)).handlePacket p.header
      ((bytes.drop p.headerBytes).take p.header.remainingLength) = (.ok, v))
    (kept : v.client.rx.length = bytes.length) :
    ∃ later, w.step.2.trace = (v.act (.consume bytes.length)).trace ++ later := by
  have received : pumpRx kMaxRecvRoundsPerStep sent = afterPacket 7 bytes.length v :=
    pumpRx_of_packet 7 empty answer peeked whole fits handled
  have up' : (w.act .stepEnter).client.state = .connected := up
  have opened : (w.act .stepEnter).stepOnce = orEnd (afterPacket 7 bytes.length v) afterReceive := by
    unfold stepOnce
    rw [if_neg (by rw [up']; decide), if_neg (by rw [up']; decide)]
    unfold openPass
    rw [pumped]
    unfold orEnd
    simp only [ne_eq, not_true_eq_false, if_false, stillUp, reduceCtorEq, false_and, received]
  let finished := orEnd (afterPacket 7 bytes.length v) afterReceive
  obtain ⟨_, goesOn⟩ := (afterPacket_twins 7 kept).orEnd Twins.afterReceive
  have left : (finished.2.act (.stepLeave finished.1)).Twins {}
    (v.act (.consume bytes.length)).trace
      (v.act (.consume bytes.length)).trace (finished.2.act (.stepLeave finished.1)) :=
    goesOn.act trivial rfl
  obtain ⟨later, _, grown, _⟩ := left.runs
  refine ⟨later, ?_⟩
  unfold step
  rw [if_neg (by simp [outside]), opened]
  exact grown

/-- A SUBACK that is awaited is followed by the handler. -/
theorem handlePacket_of_suback {header : FixedHeader} {body : Bytes} {v : SubackView}
    {ack : PendingAck} (isSuback : header.type = .suback) (decoded : decodeSuback body = .ok v)
    (found : w.client.findPending v.packetId .suback = some ack)
    (counted : v.returnCodes.length = ack.subs.length) :
    w.handlePacket header body = (.ok, (w.act (.handle header body w.env.now)).runHandler) := by
  have reacts : w.client.react (.handle header body w.env.now) =
      { callback := some (.onSuback v.packetId v.returnCodes)
        client := ((v.returnCodes.zip ack.subs).foldl Client.applyReturnCode w.client).removePending
          v.packetId .suback } := by
    rw [Client.react, Client.handlePacket, isSuback]
    simp only [Client.handleSuback, decoded, found, counted, ne_eq, not_true_eq_false, if_false]
  unfold handlePacket perform
  rw [reacts]
  rfl

end World

end Mqtt
