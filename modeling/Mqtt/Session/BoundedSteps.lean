import Mqtt.Client.BigStep
import Mqtt.Client.RunRule
import Mqtt.Session.Arrivals

/-!
# A step is bounded

`step()` returns, whatever the transport answers, whatever has arrived and whatever the
handlers do. It asks the transport for bytes at most eight times. A packet takes two bytes
of the buffer at least and handling it adds none, so a call of `drain_rx` handles at most
half as many packets as the buffer holds bytes. In a call of `pump_tx` every `send` but
the last takes something off the queue.
-/

namespace Mqtt

open Library

variable {cfg : Config}

def Label.isSend : Label → Bool
  | .send _ _ _ => true
  | _ => false

/-- How often something was done. -/
def timesDone (counted : Label → Bool) (trace : Trace cfg) : Nat :=
  trace.countP (counted ·.label)

theorem timesDone_perform (counted : Label → Bool) (log : Log cfg) (label : Label) :
    timesDone counted (log.perform Client.apply label).trace =
      timesDone counted log.trace + (counted label).toNat := by
  simp only [timesDone, Logged.perform_trace, List.countP_append, List.countP_singleton]
  cases counted label <;> rfl

theorem timesDone_other {counted : Label → Bool} {log : Log cfg} {label : Label}
    (other : counted label = false) :
    timesDone counted (log.perform Client.apply label).trace = timesDone counted log.trace := by
  rw [timesDone_perform, other]
  rfl

namespace World

/-- The `recv` calls made so far. -/
def recvs (w : World cfg) : Nat := timesDone Label.isRecv w.trace

/-- The packets handled so far. -/
def handles (w : World cfg) : Nat := timesDone Label.isHandle w.trace

end World

/-! ## What fills the receive buffer -/

theorem Client.length_rx_of_not_isRecv (c : Client cfg) {label : Label}
    (other : label.isRecv = false) : (c.apply label).rx.length ≤ c.rx.length := by
  rcases c.rx_cases label with ⟨emptied, _⟩ | ⟨count, _, dropped, _⟩ | ⟨grown, _⟩
  · simp [emptied]
  · rw [dropped, List.length_drop]
    exact Nat.sub_le _ _
  · have nothing : label.arriving = [] := by cases label <;> first | rfl | cases other
    rw [grown, nothing, List.append_nil]

theorem Client.length_rx_recv (c : Client cfg) (result : Error) (bytes : Bytes) (now : UInt32) :
    (c.apply (.recv result bytes now)).rx.length ≤ c.rx.length + bytes.length := by
  simp only [apply, react]
  split
  · exact Nat.le_of_eq (by simp)
  · exact Nat.le_add_right _ _

namespace World

/-- This many `recv` calls have been made, and the buffer is within its bounds. -/
def Filled (made : Nat) (log : Log cfg) : Prop :=
  timesDone Label.isRecv log.trace = made ∧ log.state.rx.length ≤ cfg.rxBufferSize

/-- Only `recv` adds to the `recv` calls and to the buffer. -/
theorem filled_rule (made : Nat) : PieceRule (@Filled cfg made) where
  piece log label isPiece filled := by
    have other : label.isRecv = false := by cases label <;> first | rfl | cases isPiece
    exact ⟨(timesDone_other other).trans filled.1,
      Nat.le_trans (log.state.length_rx_of_not_isRecv other) filled.2⟩
  message _ _ _ _ filled := ⟨(timesDone_other rfl).trans filled.1, filled.2⟩

/-- A round of `pump_rx` makes at most one `recv` call, for the free part of the buffer. -/
theorem receive_filled {made : Nat} {w : World cfg} (filled : Filled made w.log) :
    ∃ made', made' ≤ made + 1 ∧ Filled made' w.receive.2.log := by
  unfold receive
  split
  · rename_i room
    refine ⟨made + 1, Nat.le_refl _, ?_⟩
    let bytes := w.nextRecv.1.2.take (cfg.rxBufferSize - w.client.rx.length)
    have fits : bytes.length ≤ cfg.rxBufferSize - w.client.rx.length := List.length_take_le _ _
    have received : Filled (made + 1)
        (w.nextRecv.2.act (.recv w.nextRecv.1.1 bytes w.nextRecv.2.env.now)).log := by
      refine ⟨(timesDone_perform _ _ _).trans (congrArg (· + 1) filled.1), ?_⟩
      have grown := w.client.length_rx_recv w.nextRecv.1.1 bytes w.nextRecv.2.env.now
      exact Nat.le_trans grown (by omega)
    simp only
    split_ifs <;> exact received
  · exact ⟨made, Nat.le_succ _, filled⟩

/-! ## The packets of one `drain_rx` call -/

/-- Handling a packet handles no other. -/
theorem handles_handlePacket (w : World cfg) (header : FixedHeader) (body : Bytes) :
    (w.handlePacket header body).2.handles = w.handles + 1 := by
  have counted : (w.act (.handle header body w.env.now)).handles = w.handles + 1 :=
    timesDone_perform _ _ _
  unfold handlePacket perform
  split
  · exact counted
  · rename_i callback runs
    refine @runCallback_induct cfg
      (fun log => timesDone Label.isHandle log.trace = w.handles + 1)
      (fun v label isCall kept => (timesDone_other ?_).trans kept)
      (fun v kept => (timesDone_other rfl).trans kept) _ _
      (fun m _ v subscription _ kept => (timesDone_other rfl).trans kept)
      (fun m isDispatch => (w.client.handlePacket_dispatch (isDispatch ▸ runs)).2) counted
    cases label <;> first | rfl | cases isCall

/-- A packet takes two bytes of the buffer, and what `drain_rx` does after handling it does
not handle another. -/
theorem handles_drainRound (w : World cfg) :
    (∀ result, w.drainRound = .inl result →
      2 * result.2.handles ≤ 2 * w.handles + w.client.rx.length) ∧
    ∀ next, w.drainRound = .inr next →
      2 * next.handles + next.client.rx.length ≤ 2 * w.handles + w.client.rx.length := by
  rcases w.drainRound_cases with
    ⟨_, stops⟩ | ⟨p, header, body, peeked, whole, rounds⟩
  · rw [stops]
    refine ⟨?_, fun _ goesOn => by cases goesOn⟩
    rintro _ ⟨⟩
    exact Nat.le_add_right _ _
  have once := w.handles_handlePacket header body
  have positive := peekHeader_total peeked
  have after : ∀ label : Label, label.isHandle = false →
      ((w.handlePacket header body).2.act label).handles = w.handles + 1 :=
    fun label other => (timesDone_other other).trans once
  constructor
  · intro result ends
    have counted : result.2.handles = w.handles + 1 := by
      rcases rounds with ⟨_, stops⟩ | ⟨_, ⟨_, stops⟩ | again⟩
      · exact Sum.inl.inj (stops.symm.trans ends) ▸ after _ rfl
      · exact Sum.inl.inj (stops.symm.trans ends) ▸ after _ rfl
      · cases again.symm.trans ends
    omega
  · intro next goesOn
    have lower := drainRound_lowers goesOn
    have counted : next.handles = w.handles + 1 := by
      rcases rounds with ⟨_, stops⟩ | ⟨_, ⟨_, stops⟩ | again⟩
      · cases stops.symm.trans goesOn
      · cases stops.symm.trans goesOn
      · exact Sum.inr.inj (again.symm.trans goesOn) ▸ after _ rfl
    omega

/-- Each packet handled is paid for with two bytes of the buffer. -/
theorem handles_drains {w : World cfg} {result : Error × World cfg} (drains : w.Drains result) :
    2 * result.2.handles ≤ 2 * w.handles + w.client.rx.length :=
  @Loop.invariant _ _ _
    (fun v : World cfg =>
      2 * v.handles + v.client.rx.length ≤ 2 * w.handles + w.client.rx.length)
    (fun result => 2 * result.2.handles ≤ 2 * w.handles + w.client.rx.length)
    (fun v _ goesOn paid => Nat.le_trans (v.handles_drainRound.2 _ goesOn) paid)
    (fun v _ ends paid => Nat.le_trans (v.handles_drainRound.1 _ ends) paid) _ _ drains
    (Nat.le_refl _)

/-! ## The calls of one `pump_tx` -/

/-- The call leaves fewer bytes queued. -/
def Reduces (event : Event cfg) : Prop :=
  (event.before.apply event.label).tx.pending < event.before.tx.pending

/-- Between the two, the client made these `send` calls and did nothing else; each of the
calls in question took something off the queue. -/
structure Sent (before after : World cfg) (sends questioned : Trace cfg) : Prop where
  trace : after.trace = before.trace ++ sends
  areSends : ∀ event ∈ sends, event.label.isSend = true
  reduce : ∀ event ∈ questioned, Reduces event

theorem Sent.send {w v sent : World cfg} {sends : Trace cfg} (made : Sent w v sends sends)
    {result : Error} {written : Nat} {now : UInt32}
    (log : sent.log = v.log.perform Client.apply (.send result written now)) :
    Sent w sent (sends ++ [⟨v.client, .send result written now⟩]) sends where
  trace := by
    have appended : sent.trace = v.trace ++ [⟨v.client, .send result written now⟩] :=
      congrArg Logged.trace log
    rw [appended, made.trace, List.append_assoc]
  areSends event member := by
    rcases List.mem_append.mp member with earlier | last
    · exact made.areSends event earlier
    · rw [List.mem_singleton.mp last]
      rfl
  reduce := made.reduce

/-- Of the `send` calls of a `pump_tx` call all but the last take something off the queue. -/
theorem sent_pumpsTx {w : World cfg} {result : Error × World cfg} (pumps : w.PumpsTx result) :
    ∃ sends, Sent w result.2 sends sends.dropLast := by
  refine @Loop.invariant _ _ _ (fun v : World cfg => ∃ sends, Sent w v sends sends)
    (fun result => ∃ sends, Sent w result.2 sends sends.dropLast) ?_ ?_ _ _ pumps
    ⟨[], by simp, by simp, by simp⟩
  · rintro v next goesOn ⟨sends, made⟩
    rcases v.pumpTxRound_cases with ends | ⟨_, _, _, sent, log, ⟨_, ends⟩ | ⟨again, fewer⟩⟩
    · cases ends.symm.trans goesOn
    · cases ends.symm.trans goesOn
    obtain rfl := Sum.inr.inj (again.symm.trans goesOn)
    have one := made.send log
    refine ⟨_, one.trace, one.areSends, fun event member => ?_⟩
    rcases List.mem_append.mp member with earlier | last
    · exact made.reduce event earlier
    · rw [List.mem_singleton.mp last]
      rw [client, log] at fewer
      exact fewer
  · rintro v result ends ⟨sends, made⟩
    rcases v.pumpTxRound_cases with stops | ⟨_, _, _, sent, log, ⟨_, stops⟩ | ⟨again, _⟩⟩
    · obtain rfl := Sum.inl.inj (stops.symm.trans ends)
      exact ⟨sends, made.trace, made.areSends, fun event member =>
        made.reduce event (List.dropLast_subset _ member)⟩
    · obtain rfl := Sum.inl.inj (stops.symm.trans ends)
      have one := made.send log
      exact ⟨_, one.trace, one.areSends, List.dropLast_concat ▸ one.reduce⟩
    · cases again.symm.trans ends

end World

/-! ## The whole pass -/

/-- What is asked of the calls of the two loops. -/
def LoopCall.Bounded : LoopCall cfg → Prop
  | .drainRx before after => after.handles ≤ before.handles + cfg.rxBufferSize / 2
  | .pumpTx before after => ∃ sends, World.Sent before after sends sends.dropLast

namespace Outcome

open World Noted

/-- The outcome makes at most this many `recv` calls, on top of those made, and its loops are
bounded. -/
def Within (bound : Nat) (outcome : Outcome cfg) : Prop :=
  outcome.Ensures LoopCall.Bounded fun result => ∃ made ≤ bound, Filled made result.2.log

variable {made bound : Nat} {w : World cfg}

theorem within_ret {result : Error × World cfg} (filled : Filled made result.2.log)
    (few : made ≤ bound) : Within bound (ret result) :=
  .ret ⟨made, few, filled⟩

theorem within_drainRx (filled : Filled made w.log) (few : made ≤ bound) :
    Within bound (drainRx w) := by
  refine .noting fun result drains => ⟨?_, made, few, ?_⟩
  · have paid := handles_drains drains
    have bounded : w.client.rx.length ≤ cfg.rxBufferSize := filled.2
    show result.2.handles ≤ w.handles + cfg.rxBufferSize / 2
    omega
  · rw [drains_iff.mp drains]
    exact (filled_rule made).drainLoop _ filled

/-- Sending makes no `recv` call. -/
theorem within_pumpTx (filled : Filled made w.log) : Within made (pumpTx w) := by
  refine .noting fun result pumps => ⟨sent_pumpsTx pumps, made, Nat.le_refl _, ?_⟩
  rw [pumpsTx_iff.mp pumps]
  exact (filled_rule made).pumpTx filled

theorem within_orEnd {few : Nat} {first : Outcome cfg} {next : World cfg → Outcome cfg}
    (ran : Within few first) (fewer : few ≤ bound)
    (goesOn : ∀ made v, made ≤ few → Filled made v.log → Within bound (next v)) :
    Within bound (orEnd first next) := by
  refine Ensures.bind ran fun result ⟨made, least, filled⟩ => ?_
  split
  · exact within_ret ((filled_rule made).perform rfl filled) (Nat.le_trans least fewer)
  · exact goesOn made result.2 least filled

section

variable (filled : Filled made w.log)

include filled

/-- Each round of `pump_rx` makes at most one `recv` call. -/
theorem within_pumpRx {rounds : Nat} (few : made + rounds ≤ bound) :
    Within bound (pumpRx rounds w) := by
  induction rounds generalizing made w with
  | zero => exact within_ret filled few
  | succ rounds onward =>
    obtain ⟨received, atMost, full⟩ := receive_filled filled
    unfold pumpRx
    generalize w.receive = result at full ⊢
    obtain ⟨brought, v⟩ := result
    cases brought with
    | failed error => exact within_ret full (by omega)
    | nothing => exact within_drainRx full (by omega)
    | bytes =>
      refine Ensures.bind (within_drainRx full (Nat.le_refl _)) ?_
      rintro ⟨error, u⟩ ⟨drained, fewer, held⟩
      simp only
      split_ifs
      · exact within_ret held (by omega)
      · exact within_ret held (by omega)
      · exact within_ret held (by omega)
      · exact onward held (by omega)

theorem within_flush (few : made ≤ bound) : Within bound (flush w) :=
  within_orEnd (within_pumpTx filled) few fun _ _ fewer kept =>
    within_ret kept (Nat.le_trans fewer few)

theorem within_afterReceive (few : made ≤ bound) : Within bound (afterReceive w) := by
  have rule := @filled_rule cfg made
  unfold afterReceive
  split_ifs
  · exact within_ret filled few
  · exact within_ret (rule.checkDeadline filled) few
  · have alive : Filled made (w.perform (.keepAlive w.env.now)).2.log := rule.perform rfl filled
    refine within_orEnd (within_ret alive (Nat.le_refl _)) few fun kept v fewer lives => ?_
    have rule' := @filled_rule cfg kept
    exact within_flush (rule'.act rfl (rule'.act rfl lives)) (Nat.le_trans fewer few)
  · exact within_flush filled few

/-- A pass makes at most eight `recv` calls. -/
theorem within_openPass (few : made + 8 ≤ bound) : Within bound (openPass w) := by
  refine within_orEnd (within_pumpTx filled) (by omega) fun sent v fewer held => ?_
  split
  · exact within_ret ((filled_rule sent).perform rfl held) (by omega)
  · have received : Within bound (pumpRx kMaxRecvRoundsPerStep v) :=
      within_pumpRx held (Nat.le_trans (Nat.add_le_add_right fewer _) few)
    exact within_orEnd received (Nat.le_refl _) fun _ _ atMost kept =>
      within_afterReceive kept atMost

theorem within_stepOnce (few : made + 8 ≤ bound) : Within bound (stepOnce w) := by
  have rule := @filled_rule cfg made
  have within : made ≤ bound := by omega
  unfold stepOnce
  split
  · exact within_ret filled within
  split
  · have opened := rule.piece w.log (.transportConnect w.nextOpen.1 w.env.now) rfl filled
    simp only
    split_ifs
    · exact within_ret (rule.checkDeadline opened) within
    · exact within_ret (rule.perform rfl opened) within
    · exact within_openPass opened few
  · exact within_openPass filled few

/-- So does every `step()`. -/
theorem within_step : Within (made + 8) (step w) := by
  have rule := @filled_rule cfg made
  unfold step
  split
  · exact within_ret (rule.act rfl filled) (Nat.le_add_right _ _)
  · refine Ensures.bind (within_stepOnce (rule.act rfl filled) (Nat.le_refl _)) ?_
    rintro ⟨error, v⟩ ⟨kept, few, held⟩
    exact within_ret ((filled_rule kept).act rfl held) few

end

end Outcome

/-- What bounds a call of `step()`: it returns, it calls `recv` at most eight times, and so
on for each call it makes of the two loops. -/
structure StepBounded (w : World cfg) : Prop where
  returns : ∃ calls, Outcome.step w calls w.step
  only : ∀ calls result, Outcome.step w calls result → result = w.step
  recvs : w.step.2.recvs ≤ w.recvs + 8
  handles : ∀ calls result, Outcome.step w calls result → ∀ before after,
    LoopCall.drainRx before after ∈ calls →
      after.handles ≤ before.handles + cfg.rxBufferSize / 2
  sends : ∀ calls result, Outcome.step w calls result → ∀ before after,
    LoopCall.pumpTx before after ∈ calls →
      ∃ sends, World.Sent before after sends sends.dropLast

/-- In every reachable state `step()` returns, after bounded work. -/
theorem step_bounded {w : World cfg} (reachable : History w.log) : StepBounded w := by
  have filled : World.Filled w.recvs w.log := ⟨rfl, World.history_length_rx reachable⟩
  have within := Outcome.within_step filled
  obtain ⟨returns, only⟩ := Outcome.computes_step w
  refine ⟨returns, only, ?_, ?_, ?_⟩
  · obtain ⟨calls, returned⟩ := returns
    obtain ⟨made, few, counted, _⟩ := (within calls w.step returned).2
    exact Nat.le_trans (Nat.le_of_eq counted) few
  · intro calls result ran before after member
    exact (within calls result ran).1 _ member
  · intro calls result ran before after member
    exact (within calls result ran).1 _ member

namespace BoundedSteps

/-- Eight PINGRESPs, which fill the buffer. -/
def answers : Bytes := (List.replicate 8 [208, 0]).flatten

/-- The broker accepts the session and then sends all the time. -/
def env : Env where
  opens := [.ok]
  sends := [(.ok, 100)]
  recvs := (.ok, [32, 2, 0, 0]) :: (.wouldBlock, []) :: List.replicate 9 (.ok, answers)

def application : Script := .connect { clientId := [97] } (.step .done)

end BoundedSteps

/-- Both bounds are met: eight `recv` calls bring eight packets each, and the ninth has to wait
for the next `step()`. -/
theorem step_bounded_busy : let w := World.exec .small BoundedSteps.env BoundedSteps.application
    StepBounded w ∧ w.client.state = .connected ∧ w.step.2.recvs = w.recvs + 8 ∧
      w.step.2.handles = w.handles + 64 ∧ Config.small.rxBufferSize = 16 :=
  ⟨step_bounded (World.exec_history _ _ _), by decide +kernel, by decide +kernel,
    by decide +kernel, rfl⟩

end Mqtt
