import Mqtt.Session.Reception
import Mqtt.Session.Reporting

/-!
# The reason a session ended for is what happened

`on_disconnect` is given an error. It is one that the transport returned, one that the
last packet failed with, a deadline that the clock had passed, or what the receive buffer
holds, and `Ok` only where `disconnect()` was called.
-/

namespace Mqtt

open Library

variable {cfg : Config}

/-- What a pass closes the session for. `pump_rx` also has an exit for a full buffer without a
whole packet, but a buffer that can only wait has room (`Rests.room`). -/
inductive Cause (trace : Trace cfg) (c : Client cfg) (reason : Error) : Prop where
  /-- The transport has just failed. -/
  | transport (last : Event cfg) (isLast : trace.getLast? = some last)
      (failed : last.label.answer = some reason) (bad : reason ≠ .ok)
      (final : reason ≠ .wouldBlock)
  /-- The clock has just been read, after the time a `connect()` is given. -/
  | handshake (last : Event cfg) (now : UInt32)
      (isLast : trace.getLast? = some last) (reads : last.label = .deadline now)
      (late : cfg.connectTimeoutMs < elapsedMs now c.connectStartedMs)
      (isReason : reason = .connectTimeout)
  /-- The clock has just been read, longer than the interval after a PINGREQ without answer. -/
  | silence (last : Event cfg) (now : UInt32)
      (isLast : trace.getLast? = some last) (reads : last.label = .keepAlive now)
      (waiting : c.pingOutstanding = true) (late : c.keepAliveMs < elapsedMs now c.pingSentMs)
      (isReason : reason = .keepAliveTimeout)
  /-- The packet that was handled last failed. At most the CONNACK it was is remembered. -/
  | packet (earlier : Trace cfg) (handled last : Event cfg) (header : FixedHeader)
      (body : Bytes) (now : UInt32) (split : trace = earlier ++ [handled, last])
      (handles : handled.label = .handle header body now) (bad : reason ≠ .ok)
      (failed : ∃ connack, handled.reaction =
        { error := reason, client := { handled.before with connack := connack } })
  /-- The receive buffer starts with no header, or with a packet larger than the buffer. -/
  | content (refuses : RefusesNext cfg c.rx reason)
  /-- The DISCONNECT is out. -/
  | departed (departing : c.state = .disconnecting) (drained : c.tx.isEmpty = true)
      (isReason : reason = .ok)

/-- A packet that fails has no other effect. -/
theorem Client.react_of_failed {c : Client cfg} {header : FixedHeader} {body : Bytes} {now : UInt32}
    (sized : c.SlotsSized) (bad : (c.react (.handle header body now)).error ≠ .ok) :
    ∃ connack, c.react (.handle header body now) =
      { error := (c.react (.handle header body now)).error
        client := { c with connack := connack } } := by
  obtain ⟨reaction, handled, outcome⟩ := c.handlePacket_cases header body now
  rw [show c.react (.handle header body now) = reaction from handled] at bad ⊢
  cases outcome with
  | declined error => exact ⟨c.connack, rfl⟩
  | rejected error connack => exact ⟨connack, rfl⟩
  | spoiled _ _ _ _ _ _ _ here short => exact absurd (sized.four_le here) (Nat.not_le.mpr short)
  | _ => exact absurd rfl bad

namespace Control

variable {c : Client cfg} {trace : Trace cfg}

/-- A pass that is to close has a cause. -/
def Caused (control : Control) (c : Client cfg) (trace : Trace cfg) : Prop :=
  match control with
  | .closing reason => c.state ≠ .idle → Cause trace c reason
  | .handling _ error _ => error ≠ .ok → ∃ earlier handled header body now,
      trace = earlier ++ [handled] ∧ handled.label = .handle header body now ∧
        ∃ connack, handled.reaction =
          { error := error, client := { handled.before with connack := connack } }
  | _ => True

theorem caused_flushStage : (flushStage c).Caused c trace := by
  unfold flushStage
  split <;> trivial

theorem caused_receivedStage : (receivedStage c).Caused c trace := by
  unfold receivedStage
  split_ifs <;> first | trivial | exact caused_flushStage

/-- A drain leaves a buffer that has room, so the pass does not close for want of it. -/
theorem caused_drainedStage (rests : Rests cfg c.rx) (rest : Option Nat) :
    (drainedStage c rest).Caused c trace := by
  cases rest with
  | none => exact caused_receivedStage
  | some rest =>
    unfold drainedStage
    split_ifs with _ filled
    · exact caused_receivedStage
    · exact absurd filled (Nat.ne_of_lt rests.room)
    · cases rest with
      | zero => exact caused_receivedStage
      | succ rest => trivial

theorem caused_drainStage (rest : Option Nat) : (drainStage c rest).Caused c trace := by
  rcases drainStage_cases (c := c) rest with ⟨rests, same⟩ | ⟨reason, refuses, same⟩ | same <;>
    rw [same]
  · exact caused_drainedStage rests rest
  · exact fun _ => .content refuses
  · trivial

theorem caused_pumpedStage : (pumpedStage c).Caused c trace := by
  unfold pumpedStage receiveStage
  split_ifs with departed
  · exact fun _ => .departed departed.1 departed.2 rfl
  · trivial
  · exact caused_drainStage _

/-- The first test of a pass closes with a cause or not at all. -/
theorem caused_sendStage : (sendStage c).Caused c trace := by
  unfold sendStage
  split
  · exact caused_pumpedStage
  · trivial

/-- Every step keeps the cause of a coming end. -/
theorem Caused.after {control : Control} {label : Label} (caused : control.Caused c trace)
    (sized : c.SlotsSized) (fine : c.state ≠ .idle → c.lastError = .ok)
    (permits : control.Permits c label) :
    (control.after c label).Caused (c.apply label) (trace ++ [⟨c, label⟩]) := by
  have outer : control.appRuns = true →
      control.Caused (c.apply label) (trace ++ [⟨c, label⟩]) := by
    intro runs
    rcases appRuns_cases runs with rfl | ⟨rest, total, rfl⟩ | ⟨reason, rfl⟩
    · trivial
    · exact fun bad => absurd rfl bad
    · trivial
  have isLast : (trace ++ [(⟨c, label⟩ : Event cfg)]).getLast? =
      some ⟨c, label⟩ := by simp
  have moves := moves_of_permits permits
  generalize control.after c label = next at moves ⊢
  cases moves with
  | call runs | aside runs => exact outer runs
  | enter | opened | sent => exact caused_sendStage
  | pumped => exact caused_pumpedStage
  | flushes | retransmitted => exact caused_flushStage
  | received | consumed => exact caused_drainStage _
  | discarded => exact caused_drainedStage rests_nil _
  | handled rest header body now fronts =>
    exact fun bad => ⟨trace, _, header, body, now, rfl, rfl, Client.react_of_failed sized bad⟩
  | fails reason failed why permits =>
    intro busy
    cases why with
    | connect now answered | send written now answered | flush written now answered
    | recv rest bytes now answered => exact .transport _ isLast rfl failed answered
    | deadline now late =>
      simp only [Client.react] at late
      split at late
      · rename_i tooLate
        exact .handshake _ now isLast rfl tooLate late.symm
      · exact absurd late.symm failed
    | consumed rest count | discarded rest total =>
      obtain ⟨earlier, handled, header, body, now, rfl, handles, harmless⟩ := caused failed
      exact .packet earlier handled ⟨c, _⟩ header body now (List.append_assoc _ _ _) handles
        failed harmless
    | handler rest total told =>
      have same : (c.apply .discard).state = c.state := rfl
      exact absurd (told.symm.trans (fine (same ▸ busy))) failed
    | keepAlive now silent =>
      have outcome := c.pumpKeepAlive_outcome now
      have reacts : c.react (.keepAlive now) = c.pumpKeepAlive now := rfl
      simp only [Client.apply, reacts] at silent ⊢
      generalize c.pumpKeepAlive now = reaction at outcome silent
      cases outcome with
      | expired _ waiting late => exact .silence _ now isLast rfl waiting late silent.symm
      | _ => exact absurd silent.symm failed
  | _ => trivial

end Control

/-- Every place in a history is caused. -/
theorem History.caused {log : Log cfg} (history : History log) :
    (Control.of log.trace).Caused log.state log.trace := by
  refine history.invariant (fun log => (Control.of log.trace).Caused log.state log.trace)
    (fun log label prior permitted caused => ?_) (by trivial)
  rw [Logged.perform_trace, Control.of_snoc]
  exact caused.after prior.slotsSized prior.lastError_of_busy permitted

/-- Every reason that `on_disconnect` is given is that of an `abort()` or a `disconnect()`, or
what the pass that ended the session came to. -/
def ReasonsTrue (trace : Trace cfg) : Prop :=
  ∀ before event after reason, trace = before ++ event :: after → event.Notifies reason →
    (event.label = .abort ∧ reason = .transportClosed) ∨
      (event.label = .disconnect ∧ reason = .ok) ∨
      (event.label = .shutdown reason ∧ Cause before event.before reason)

/-- In every run, the reason a session is reported to have ended for is what happened. -/
theorem disconnect_reasons_true (cfg : Config) (env : Env) (application : Script) :
    ReasonsTrue (World.exec cfg env application).trace := by
  intro before event after reason split told
  obtain ⟨log, reached, rfl, here, permitted, _⟩ :=
    (World.exec_history cfg env application).cut split
  obtain ⟨c, label⟩ := event
  obtain rfl : c = log.state := here
  cases ends : log.state.endReason label with
  | none => exact absurd told ((Client.of_not_endReason ends).1 reason)
  | some given =>
    have callback := (Client.of_endReason ends).1
    rw [show (log.state.react label).callback = some (.onDisconnect reason) from told] at callback
    split at callback
    swap
    · cases callback
    rename_i busy
    obtain rfl : reason = given := by simpa using callback
    cases label <;> simp [Client.endReason, Client.closesTransport] at ends
    case abort => exact .inl ⟨rfl, ends.symm⟩
    case disconnect => exact .inr (.inl ⟨rfl, ends.2.symm⟩)
    case shutdown other _ =>
      subst ends
      have caused := History.caused reached
      rw [show Control.of log.trace = .closing other from permitted] at caused
      exact .inr (.inr ⟨rfl, caused busy⟩)

end Mqtt
