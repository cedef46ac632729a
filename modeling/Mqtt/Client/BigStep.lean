import Mqtt.Client.Refinement
import Mqtt.Library.Loop

/-!
# `step()` without a bound

`Run` counts the rounds of `drain_rx` and `pump_tx` down, so that its functions are
total. The source does not: `drain_rx` is a `for (;;)` and `pump_tx` a `while`. Here a
pass is a relation between the client it is called on and what it returns, with those two
loops as the source has them, so that there is no result where the source would not
return. A pass also notes each call of the two loops. Every pass has a result, and it is
the one `Run` computes.
-/

namespace Mqtt

open Library

variable {cfg : Config}

namespace World

/-! ## The two loops -/

/-- One round of `drain_rx`: what it returns, or the client it goes on with. -/
def drainRound (w : World cfg) : (Error × World cfg) ⊕ World cfg :=
  if w.client.rx = [] then .inl (.ok, w)
  else
    match peekHeader w.client.rx with
    | .error error => .inl (if error = .incomplete then (.ok, w) else (error, w))
    | .ok p =>
      if p.totalBytes > cfg.rxBufferSize then .inl (.packetTooLarge, w)
      else if w.client.rx.length < p.totalBytes then .inl (.ok, w)
      else
        let body := (w.client.rx.drop p.headerBytes).take p.header.remainingLength
        match w.handlePacket p.header body with
        | (error, w) =>
          if w.client.rx.length < p.totalBytes then
            .inl (if error ≠ .ok then error else w.client.lastError, w.act .discard)
          else if error ≠ .ok then .inl (error, w.act (.consume p.totalBytes))
          else .inr (w.act (.consume p.totalBytes))

/-- One round of `pump_tx`. -/
def pumpTxRound (w : World cfg) : (Error × World cfg) ⊕ World cfg :=
  if w.client.tx.isEmpty then .inl (.ok, w)
  else
    let (answer, w) := w.nextSend
    let sent := w.act (.send answer.1 answer.2 w.env.now)
    if answer.1 = .wouldBlock then .inl (.ok, sent)
    else if answer.1 ≠ .ok then .inl (answer.1, sent)
    else if answer.2 = 0 then .inl (.ok, sent)
    else .inr sent

/-- `drain_rx` returns. -/
def Drains (w : World cfg) (result : Error × World cfg) : Prop := Loop drainRound w result

/-- `pump_tx` returns. -/
def PumpsTx (w : World cfg) (result : Error × World cfg) : Prop := Loop pumpTxRound w result

theorem drainLoop_succ (rounds : Nat) (w : World cfg) :
    drainLoop (rounds + 1) w = w.drainRound.elim id (drainLoop rounds) := by
  rw [drainLoop, drainRound]
  by_cases nothing : w.client.rx = []
  · simp only [if_pos nothing, Sum.elim_inl, id]
  simp only [if_neg nothing]
  cases peekHeader w.client.rx with
  | error error => rfl
  | ok p =>
    simp only
    split_ifs <;> rfl

theorem pumpTxLoop_succ (rounds : Nat) (w : World cfg) :
    pumpTxLoop (rounds + 1) w = w.pumpTxRound.elim id (pumpTxLoop rounds) := by
  rw [pumpTxLoop, pumpTxRound]
  simp only
  split_ifs <;> rfl

/-- What a round of `drain_rx` does: it stops where it is, or it handles the packet in front
and then drops the buffer, or takes the packet out and stops or goes on. -/
theorem drainRound_cases (w : World cfg) :
    (∃ error, w.drainRound = .inl (error, w)) ∨
    ∃ p header body, peekHeader w.client.rx = .ok p ∧ p.totalBytes ≤ w.client.rx.length ∧
      ((∃ error, w.drainRound = .inl (error, (w.handlePacket header body).2.act .discard)) ∨
        p.totalBytes ≤ (w.handlePacket header body).2.client.rx.length ∧
          ((∃ error, w.drainRound =
              .inl (error, (w.handlePacket header body).2.act (.consume p.totalBytes))) ∨
            w.drainRound = .inr ((w.handlePacket header body).2.act (.consume p.totalBytes)))) := by
  unfold drainRound
  split
  · exact .inl ⟨_, rfl⟩
  split
  · split <;> exact .inl ⟨_, rfl⟩
  rename_i p peeked
  split
  · exact .inl ⟨_, rfl⟩
  split
  · exact .inl ⟨_, rfl⟩
  rename_i whole
  refine .inr ⟨p, p.header, (w.client.rx.drop p.headerBytes).take p.header.remainingLength,
    peeked, Nat.le_of_not_lt whole, ?_⟩
  simp only
  split
  · exact .inl ⟨_, rfl⟩
  rename_i held
  refine .inr ⟨Nat.le_of_not_lt held, ?_⟩
  split
  · exact .inl ⟨_, rfl⟩
  · exact .inr rfl

/-- A round of `drain_rx` that goes on leaves at least two bytes less. -/
theorem drainRound_lowers {w next : World cfg} (goesOn : w.drainRound = .inr next) :
    next.client.rx.length + 2 ≤ w.client.rx.length := by
  rcases w.drainRound_cases with
    ⟨_, ends⟩ | ⟨p, header, body, peeked, _, ⟨_, ends⟩ | ⟨held, ⟨_, ends⟩ | again⟩⟩
  · cases ends.symm.trans goesOn
  · cases ends.symm.trans goesOn
  · cases ends.symm.trans goesOn
  · obtain rfl := Sum.inr.inj (again.symm.trans goesOn)
    have kept := w.handlePacket_length_rx header body
    have positive := peekHeader_total peeked
    show ((w.handlePacket header body).2.client.rx.drop p.totalBytes).length + 2 ≤ _
    rw [List.length_drop]
    omega

/-- What a round of `pump_tx` does: it finds the queue empty, or it makes one `send` call and
stops, or goes on with fewer bytes queued. -/
theorem pumpTxRound_cases (w : World cfg) :
    w.pumpTxRound = .inl (.ok, w) ∨
    ∃ result written now sent, sent.log = w.log.perform Client.apply (.send result written now) ∧
      ((∃ error, w.pumpTxRound = .inl (error, sent)) ∨
        w.pumpTxRound = .inr sent ∧ sent.client.tx.pending < w.client.tx.pending) := by
  unfold pumpTxRound
  split
  · exact .inl rfl
  rename_i busy
  refine .inr ⟨w.nextSend.1.1, w.nextSend.1.2, w.env.now, w.nextSend.2.act
    (.send w.nextSend.1.1 w.nextSend.1.2 w.env.now), rfl, ?_⟩
  simp only
  split
  · exact .inl ⟨_, rfl⟩
  split
  · exact .inl ⟨_, rfl⟩
  split
  · exact .inl ⟨_, rfl⟩
  rename_i accepted took
  refine .inr ⟨rfl, ?_⟩
  show (w.client.apply (.send w.nextSend.1.1 _ _)).tx.pending < _
  rw [not_not.mp accepted]
  exact w.client.pending_send_lt (by simpa using busy) took _

/-- A round of `pump_tx` that goes on leaves fewer bytes queued. -/
theorem pumpTxRound_lowers {w next : World cfg} (goesOn : w.pumpTxRound = .inr next) :
    next.client.tx.pending < w.client.tx.pending := by
  rcases w.pumpTxRound_cases with ends | ⟨_, _, _, sent, _, ⟨_, ends⟩ | ⟨again, fewer⟩⟩
  · cases ends.symm.trans goesOn
  · cases ends.symm.trans goesOn
  · exact Sum.inr.inj (again.symm.trans goesOn) ▸ fewer

/-- `drain_rx` returns, with what counting rounds computes. -/
theorem drains_iff {w : World cfg} {result : Error × World cfg} :
    w.Drains result ↔ result = w.drainRx := by
  have lowers : ∀ v next : World cfg, v.drainRound = .inr next →
      next.client.rx.length < v.client.rx.length := fun v next goesOn => by
    have := drainRound_lowers goesOn
    omega
  have returns : w.Drains w.drainRx := Loop.of_fuel drainLoop_succ lowers (Nat.lt_succ_self _)
  exact ⟨fun drains => drains.unique returns, fun same => same ▸ returns⟩

/-- `pump_tx` returns, with what counting rounds computes. -/
theorem pumpsTx_iff {w : World cfg} {result : Error × World cfg} :
    w.PumpsTx result ↔ result = w.pumpTx := by
  have lowers : ∀ v next : World cfg, v.pumpTxRound = .inr next →
      next.client.tx.pending < v.client.tx.pending := fun _ _ => pumpTxRound_lowers
  have returns : w.PumpsTx w.pumpTx :=
    Loop.of_fuel pumpTxLoop_succ lowers (Nat.lt_succ_self _)
  exact ⟨fun pumps => pumps.unique returns, fun same => same ▸ returns⟩

end World

/-! ## The pass -/

/-- A call of one of the two loops: the client before and after it. -/
inductive LoopCall (cfg : Config) where
  | drainRx (before after : World cfg)
  | pumpTx (before after : World cfg)

/-- What a part of a pass may return, with the calls of the two loops it makes. -/
abbrev Outcome (cfg : Config) := Noted (LoopCall cfg) (Error × World cfg)

namespace Outcome

open World Noted

def drainRx (w : World cfg) : Outcome cfg := noting w.Drains fun result => .drainRx w result.2

def pumpTx (w : World cfg) : Outcome cfg := noting w.PumpsTx fun result => .pumpTx w result.2

def pumpRx : Nat → World cfg → Outcome cfg
  | 0, w => ret (.ok, w)
  | rounds + 1, w =>
    match w.receive with
    | (.failed error, w) => ret (error, w)
    | (.nothing, w) => drainRx w
    | (.bytes, w) =>
      (drainRx w).bind fun (error, w) =>
        if error ≠ .ok then ret (error, w)
        else if w.client.state = .connecting then ret (.ok, w)
        else if w.client.rx.length = cfg.rxBufferSize then ret (.packetTooLarge, w)
        else pumpRx rounds w

def orEnd (first : Outcome cfg) (next : World cfg → Outcome cfg) : Outcome cfg :=
  first.bind fun result =>
    if result.1 ≠ .ok then ret (result.2.endSession result.1) else next result.2

def flush (w : World cfg) : Outcome cfg := orEnd (pumpTx w) fun w => ret (.ok, w)

def afterReceive (w : World cfg) : Outcome cfg :=
  if w.client.state = .connecting then ret (.ok, w)
  else if w.client.state = .awaitingConnack then ret w.checkDeadline
  else if w.client.state = .connected then
    orEnd (ret (w.perform (.keepAlive w.env.now))) fun w =>
      let w := w.act (.resubscribe w.env.now)
      let w := w.act (.retransmit w.env.now)
      flush w
  else flush w

def openPass (w : World cfg) : Outcome cfg :=
  orEnd (pumpTx w) fun w =>
    if w.client.state = .disconnecting ∧ w.client.tx.isEmpty then ret (w.endSession .ok)
    else orEnd (pumpRx kMaxRecvRoundsPerStep w) afterReceive

def stepOnce (w : World cfg) : Outcome cfg :=
  if w.client.state = .idle then ret (.ok, w)
  else if w.client.state = .connecting then
    let (answer, w) := w.nextOpen
    let w := w.act (.transportConnect answer w.env.now)
    if answer = .wouldBlock then ret w.checkDeadline
    else if answer ≠ .ok then ret (w.endSession answer)
    else openPass w
  else openPass w

def step (w : World cfg) : Outcome cfg :=
  if w.client.inStep then ret (.reentrant, w.refuseStep)
  else (stepOnce (w.act .stepEnter)).bind fun (error, w) => ret (error, w.act (.stepLeave error))

/-! ## Agreement with `Run` -/

theorem computes_drainRx (w : World cfg) : (drainRx w).Computes w.drainRx :=
  .noting _ fun _ => drains_iff

theorem computes_pumpTx (w : World cfg) : (pumpTx w).Computes w.pumpTx :=
  .noting _ fun _ => pumpsTx_iff

theorem computes_pumpRx (rounds : Nat) (w : World cfg) :
    (pumpRx rounds w).Computes (w.pumpRx rounds) := by
  induction rounds generalizing w with
  | zero => exact .ret _
  | succ rounds onward =>
    unfold pumpRx World.pumpRx
    generalize w.receive = received
    obtain ⟨brought, v⟩ := received
    cases brought with
    | failed error => exact .ret _
    | nothing => exact computes_drainRx v
    | bytes =>
      refine (computes_drainRx v).bind ?_
      simp only
      split_ifs
      · exact .ret _
      · exact .ret _
      · exact .ret _
      · exact onward _

theorem computes_orEnd {first : Outcome cfg} {next : World cfg → Outcome cfg}
    {result : Error × World cfg} {goesOn : World cfg → Error × World cfg}
    (ran : first.Computes result) (onward : ∀ w, (next w).Computes (goesOn w)) :
    (orEnd first next).Computes (World.orEnd result goesOn) := by
  refine ran.bind ?_
  unfold World.orEnd
  split
  · exact .ret _
  · exact onward _

theorem computes_flush (w : World cfg) : (flush w).Computes w.flush :=
  computes_orEnd (computes_pumpTx w) fun _ => .ret _

theorem computes_afterReceive (w : World cfg) : (afterReceive w).Computes w.afterReceive := by
  unfold afterReceive World.afterReceive
  split_ifs
  · exact .ret _
  · exact .ret _
  · exact computes_orEnd (.ret _) fun _ => computes_flush _
  · exact computes_flush w

theorem computes_openPass (w : World cfg) : (openPass w).Computes w.openPass := by
  refine computes_orEnd (computes_pumpTx w) fun v => ?_
  split
  · exact .ret _
  · exact computes_orEnd (computes_pumpRx _ v) computes_afterReceive

theorem computes_stepOnce (w : World cfg) : (stepOnce w).Computes w.stepOnce := by
  unfold stepOnce World.stepOnce
  simp only
  split_ifs
  · exact .ret _
  · exact .ret _
  · exact .ret _
  · exact computes_openPass _
  · exact computes_openPass w

/-- `step()` returns, with what `Run` computes. -/
theorem computes_step (w : World cfg) : (step w).Computes w.step := by
  unfold step World.step
  split
  · exact .ret _
  · exact (computes_stepOnce _).bind (.ret _)

end Outcome
end Mqtt
