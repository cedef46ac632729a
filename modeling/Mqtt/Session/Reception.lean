import Mqtt.Session.Arrivals
import Mqtt.Session.ByteStream
import Mqtt.Session.Slots

/-!
# Packets out of the bytes that arrive

`recv()` hands over bytes in pieces of any size, and `drain_rx` takes whole packets
out of the buffer they collect in. What reaches `handle_packet` on one connection is
the split of everything received into packets, as far as it has come, and a pass
stops short of a complete packet only to end the session.
-/

namespace Mqtt

open Library

variable {cfg : Config} {during : Trace cfg} {label : Label}

/-! ## The contract -/

/-- The packet handed to `handle_packet`. -/
def Label.packet : Label → Option (FixedHeader × Bytes)
  | .handle header body _ => some (header, body)
  | _ => none

def Label.isConsume : Label → Bool
  | .consume _ => true
  | _ => false

/-- The packets handed to `handle_packet` over a stretch of history. -/
def handledOver (trace : Trace cfg) : List (FixedHeader × Bytes) :=
  trace.filterMap fun event => event.label.packet

/-- A packet has been handed over and not yet taken out of the buffer. -/
def HandlingPacket (trace : Trace cfg) : Prop :=
  Since (fun event => event.label.isHandle = true) (fun event => event.label.isConsume = true)
    trace

/-- `handle_packet` returned this error. -/
def FailedWith (trace : Trace cfg) (reason : Error) : Prop :=
  ∃ event ∈ trace, event.label.isHandle = true ∧ event.reaction.error = reason ∧ reason ≠ .ok

/-- The transport returned this error. -/
def AnsweredWith (trace : Trace cfg) (reason : Error) : Prop :=
  ∃ event ∈ trace, event.label.answer = some reason

/-- The stretch is what happened since the transport was opened, and it is still open. -/
def OnConnection (trace during : Trace cfg) : Prop :=
  ∃ before opening, trace = before ++ opening :: during ∧ opening.label.opensTransport = true ∧
    ∀ event ∈ during, event.before.closesTransport event.label = false

/-- The next packet does not fit the receive buffer. -/
def Oversized (cfg : Config) (rest : Bytes) : Prop :=
  ∃ p, peekHeader rest = .ok p ∧ cfg.rxBufferSize < p.totalBytes

/-- The next packet is not accepted, for this reason. -/
def RefusesNext (cfg : Config) (rest : Bytes) (reason : Error) : Prop :=
  (peekHeader rest = .error reason ∧ reason ≠ .incomplete) ∨
    (Oversized cfg rest ∧ reason = .packetTooLarge)

/-- The bytes of each connection are split into packets, however they arrive. -/
structure FramesStream (trace : Trace cfg) : Prop where
  /-- Nothing is skipped, repeated, merged or altered. -/
  inOrder : ∀ past after during stream, trace = past ++ after → OnConnection past during →
    arrivedOver during <+: stream → handledOver during <+: packetsOf stream
  /-- Every complete packet is handled before a pass does anything else, unless it ends
  the session for an error of a packet or for the next header. -/
  drained : ∀ past event after during, trace = past ++ event :: after →
    OnConnection past during → ¬ HandlingPacket during → event.label.isHandle = false →
    (handledOver during = packetsOf (arrivedOver during) ∧
      ∀ reason, ¬ RefusesNext cfg (remainderOf (arrivedOver during)) reason) ∨
    ∃ reason, event.label = .shutdown reason ∧ (FailedWith during reason ∨
      handledOver during = packetsOf (arrivedOver during) ∧
        RefusesNext cfg (remainderOf (arrivedOver during)) reason)
  /-- A packet too large for the buffer ends the session. -/
  oversized : ∀ past event after during, trace = past ++ event :: after →
    OnConnection past during → ¬ HandlingPacket during → event.label.isHandle = false →
    Oversized cfg (remainderOf (arrivedOver during)) → (∀ reason, ¬ FailedWith during reason) →
    event.label = .shutdown .packetTooLarge
  /-- No other packet is found too large. -/
  onlyOversized : ∀ past event after during, trace = past ++ event :: after →
    OnConnection past during → event.label = .shutdown .packetTooLarge →
    ¬ AnsweredWith during .packetTooLarge →
    handledOver during = packetsOf (arrivedOver during) ∧
      Oversized cfg (remainderOf (arrivedOver during))

/-! ## Errors of `handle_packet` -/

/-- The results `handle_packet` can have. -/
def Error.ofPacket : Error → Bool
  | .ok | .malformedPacket | .protocolViolation | .connectionRefused => true
  | _ => false

namespace Client

variable {c : Client cfg}

/-- A packet fails for what it says, never for its size or for the time. -/
theorem handlePacket_error (sized : c.SlotsSized) (header : FixedHeader) (body : Bytes)
    (now : UInt32) : (c.handlePacket header body now).error.ofPacket = true := by
  have decoding : ∀ {error : Error}, error = .malformedPacket ∨ error = .protocolViolation →
      error.ofPacket = true := by
    rintro error (rfl | rfl) <;> rfl
  have completes : ∀ awaited, (c.completeDelivery body awaited).error.ofPacket = true := by
    intro awaited
    unfold completeDelivery
    split
    · exact decoding (decodePacketId_error ‹_›)
    · split
      · rfl
      · split <;> rfl
  unfold handlePacket
  split
  · unfold handleConnack
    split
    · rfl
    · split
      · exact decoding (decodeConnack_error ‹_›)
      · simp only
        split <;> rfl
  · unfold handlePublish
    split
    · rfl
    · split
      · exact decoding (decodePublish_error ‹_›)
      · split
        · rfl
        · split <;> rfl
        · unfold receiveExactlyOnce
          split
          · split <;> rfl
          · split
            · rfl
            · split <;> rfl
        · rfl
  · exact completes _
  · cases decoded : decodePacketId body with
    | error reason =>
      simp only [handlePubrec, decoded]
      exact decoding (decodePacketId_error decoded)
    | ok id =>
    rcases c.handlePubrec_cases body now with
      ⟨error, fine, same⟩ | ⟨_, index, _, found, _, ⟨_, _, short, _⟩ | ⟨_, same⟩⟩ |
        ⟨_, _, _, _, _, same⟩
    · rw [same, fine id decoded]
      rfl
    · obtain ⟨slot, here, isSlot, _⟩ := findOutbound_some found
      have fits := sized.four_le here
      rw [isSlot] at short
      omega
    · rw [same, sendPubrel_error]
      rfl
    · rw [same, sendPubrel_error]
      rfl
  · unfold handlePubrel
    split
    · exact decoding (decodePacketId_error ‹_›)
    · split <;> rfl
  · exact completes _
  · unfold handleSuback
    split
    · exact decoding (decodeSuback_error ‹_›)
    · split
      · rfl
      · split <;> rfl
  · unfold handleUnsuback
    split
    · exact decoding (decodePacketId_error ‹_›)
    · split <;> rfl
  · unfold handlePingresp
    split <;> rfl
  all_goals rfl

theorem pumpKeepAlive_error_ne (now : UInt32) : (c.pumpKeepAlive now).error ≠ .packetTooLarge := by
  unfold pumpKeepAlive
  split_ifs <;> try simp
  split <;> simp

end Client

/-! ## The buffer -/

/-- Nothing can be taken out of the buffer, and nothing is wrong with it yet. -/
def Rests (cfg : Config) (rx : Bytes) : Prop :=
  frontPacket rx = none ∧ ∀ reason, ¬ RefusesNext cfg rx reason

section Buffer

variable {rx : Bytes}

theorem rests_nil : Rests cfg [] := by
  refine ⟨rfl, fun reason => ?_⟩
  rintro (⟨failed, open_⟩ | ⟨⟨p, found, _⟩, _⟩)
  · injection failed with same
    exact open_ same.symm
  · cases found

theorem refusesNext_of_oversized {reason : Error} (oversized : Oversized cfg rx)
    (refuses : RefusesNext cfg rx reason) : reason = .packetTooLarge := by
  rcases refuses with ⟨failed, _⟩ | ⟨_, same⟩
  · obtain ⟨p, found, _⟩ := oversized
    rw [found] at failed
    cases failed
  · exact same

theorem oversized_of_refusesNext (refuses : RefusesNext cfg rx .packetTooLarge) :
    Oversized cfg rx := by
  rcases refuses with ⟨failed, _⟩ | ⟨oversized, _⟩
  · rcases peekHeader_error_cases failed with same | same <;> cases same
  · exact oversized

/-- A packet that is refused is not complete. -/
theorem frontPacket_of_refusesNext (bounded : rx.length ≤ cfg.rxBufferSize) {reason : Error}
    (refuses : RefusesNext cfg rx reason) : frontPacket rx = none := by
  rcases refuses with ⟨failed, _⟩ | ⟨⟨p, found, large⟩, _⟩
  · simp only [frontPacket, failed]
  · simp only [frontPacket, found]
    rw [if_neg (by omega)]

/-- The packet that is handed over is the first of the buffer. -/
theorem frontPacket_of_fronts {rx : Bytes} {header : FixedHeader} {body : Bytes}
    (fronts : Control.Fronts rx header body) :
    frontPacket rx = some ((header, body), Control.frontTotal rx) := by
  obtain ⟨p, peeked, complete, rfl, rfl⟩ := fronts
  exact frontPacket_eq_some_iff.mpr
    ⟨p, peeked, complete, rfl, by simp only [Control.frontTotal, peeked]⟩

/-- A buffer that can only wait has room. -/
theorem Rests.room (rests : Rests cfg rx) : rx.length < cfg.rxBufferSize := by
  obtain ⟨open_, sound⟩ := rests
  cases peeked : peekHeader rx with
  | error error =>
    have undecided : error = .incomplete := by
      by_contra decided
      exact sound error (.inl ⟨peeked, decided⟩)
    have short := peekHeader_incomplete (undecided ▸ peeked)
    have large := cfg.rxHoldsSmallPacket
    simp only [kMaxVbiBytes] at short
    omega
  | ok p =>
    have fits : p.totalBytes ≤ cfg.rxBufferSize := by
      by_contra large
      exact sound .packetTooLarge (.inr ⟨⟨p, peeked, by omega⟩, rfl⟩)
    simp only [frontPacket, peeked] at open_
    split at open_
    · cases open_
    · omega

/-- `drain_rx` stops, gives up, or finds a packet. -/
theorem Control.drainStage_cases {c : Client cfg} (rest : Option Nat) :
    (Rests cfg c.rx ∧ drainStage c rest = drainedStage c rest) ∨
    (∃ reason, RefusesNext cfg c.rx reason ∧ drainStage c rest = .closing reason) ∨
    drainStage c rest = .draining rest := by
  by_cases nothing : c.rx = []
  · exact .inl ⟨nothing ▸ rests_nil, by simp only [drainStage, if_pos nothing]⟩
  cases peeked : peekHeader c.rx with
  | error error =>
    by_cases undecided : error = .incomplete
    · refine .inl ⟨⟨by simp only [frontPacket, peeked], ?_⟩,
        by simp only [drainStage, if_neg nothing, peeked, if_pos undecided]⟩
      rintro reason (⟨failed, open_⟩ | ⟨⟨p, found, _⟩, _⟩)
      · rw [peeked] at failed
        injection failed with same
        exact open_ (same ▸ undecided)
      · rw [peeked] at found
        cases found
    · exact .inr (.inl ⟨error, .inl ⟨peeked, undecided⟩,
        by simp only [drainStage, if_neg nothing, peeked, if_neg undecided]⟩)
  | ok p =>
    by_cases large : p.totalBytes > cfg.rxBufferSize
    · exact .inr (.inl ⟨.packetTooLarge, .inr ⟨⟨p, peeked, large⟩, rfl⟩,
        by simp only [drainStage, if_neg nothing, peeked, if_pos large]⟩)
    by_cases short : c.rx.length < p.totalBytes
    · refine .inl ⟨⟨by simp only [frontPacket, peeked]; rw [if_neg (by omega)], ?_⟩,
        by simp only [drainStage, if_neg nothing, peeked, if_neg large, if_pos short]⟩
      rintro reason (⟨failed, _⟩ | ⟨⟨q, found, tooLarge⟩, _⟩)
      · rw [peeked] at failed
        cases failed
      · rw [peeked] at found
        injection found with same
        exact large (same ▸ tooLarge)
    · exact .inr (.inr
        (by simp only [drainStage, if_neg nothing, peeked, if_neg large, if_neg short]))

end Buffer

/-! ## The places of a pass -/

namespace Control

variable {c : Client cfg} {failed answered : Error → Prop}

/-- What is known of the buffer in a place, where `failed` are the errors
`handle_packet` returned and `answered` those of the transport. -/
def Awaits (control : Control) (c : Client cfg) (failed answered : Error → Prop) : Prop :=
  match control with
  | .draining _ => True
  | .handling _ error total => 0 < total ∧ (error ≠ .ok → failed error)
  | .closing reason =>
    RefusesNext cfg c.rx reason ∨ failed reason ∨
      Rests cfg c.rx ∧ (reason = .packetTooLarge → answered reason)
  | _ => Rests cfg c.rx

theorem awaits_flushStage (rests : Rests cfg c.rx) : (flushStage c).Awaits c failed answered := by
  unfold flushStage
  split <;> exact rests

theorem awaits_receivedStage (rests : Rests cfg c.rx) :
    (receivedStage c).Awaits c failed answered := by
  unfold receivedStage
  split_ifs
  · exact rests
  · exact rests
  · exact rests
  · exact awaits_flushStage rests

theorem awaits_drainedStage (rests : Rests cfg c.rx) (rest : Option Nat) :
    (drainedStage c rest).Awaits c failed answered := by
  cases rest with
  | none => exact awaits_receivedStage rests
  | some rest =>
    unfold drainedStage
    split_ifs with _ full
    · exact awaits_receivedStage rests
    · exact absurd full (Nat.ne_of_lt rests.room)
    · cases rest with
      | zero => exact awaits_receivedStage rests
      | succ rest => exact rests

theorem awaits_drainStage (rest : Option Nat) : (drainStage c rest).Awaits c failed answered := by
  rcases drainStage_cases (c := c) rest with ⟨rests, same⟩ | ⟨reason, refuses, same⟩ | same <;>
    rw [same]
  · exact awaits_drainedStage rests rest
  · exact .inl refuses
  · trivial

theorem awaits_pumpedStage (rests : Rests cfg c.rx) : (pumpedStage c).Awaits c failed answered := by
  unfold pumpedStage receiveStage
  split_ifs
  · exact .inr (.inr ⟨rests, by simp⟩)
  · exact rests
  · exact awaits_drainStage _

theorem awaits_sendStage (rests : Rests cfg c.rx) : (sendStage c).Awaits c failed answered := by
  unfold sendStage
  split
  · exact awaits_pumpedStage rests
  · exact rests

theorem Awaits.mono {control : Control} {c' : Client cfg} {failed' answered' : Error → Prop}
    (awaits : control.Awaits c failed answered) (rx : c'.rx = c.rx)
    (fails : ∀ error, failed error → failed' error)
    (answers : ∀ error, answered error → answered' error) :
    control.Awaits c' failed' answered' := by
  cases control with
  | draining rest => trivial
  | handling rest error total => exact ⟨awaits.1, fun bad => fails error (awaits.2 bad)⟩
  | closing reason =>
    simp only [Awaits, rx]
    exact awaits.imp_right (Or.imp (fails reason) (And.imp_right fun known large =>
      answers reason (known large)))
  | _ =>
    simp only [Awaits, rx]
    exact awaits

/-- A pass that found a packet does nothing else first. -/
theorem permits_draining {rest : Option Nat}
    (permits : (draining rest).Permits c label) : label.isHandle = true := by
  cases label <;> simp_all [Permits, appRuns, Label.isHandle]

/-- Where no packet is in hand and the pass is not to close, the buffer rests. -/
theorem Awaits.rests {control : Control} (awaits : control.Awaits c failed answered)
    (notDraining : ∀ rest, control ≠ .draining rest)
    (notHandling : ∀ rest error total, control ≠ .handling rest error total)
    (notClosing : ∀ reason, control ≠ .closing reason) : Rests cfg c.rx := by
  cases control with
  | draining rest => exact absurd rfl (notDraining rest)
  | handling rest error total => exact absurd rfl (notHandling rest error total)
  | closing reason => exact absurd rfl (notClosing reason)
  | _ => exact awaits

end Control

/-- One label of a connection that stays open. -/
theorem Control.Awaits.after {c : Client cfg} {control : Control}
    (awaits : control.Awaits c (FailedWith during) (AnsweredWith during))
    (permits : control.Permits c label)
    (grown : (∀ count, label ≠ .consume count) → (c.apply label).rx = c.rx ++ label.arriving)
    (stays : c.closesTransport label = false) (notDiscard : label ≠ .discard) :
    (control.after c label).Awaits (c.apply label) (FailedWith (during ++ [⟨c, label⟩]))
      (AnsweredWith (during ++ [⟨c, label⟩])) := by
  have fails : ∀ error, FailedWith during error →
      FailedWith (during ++ [⟨c, label⟩]) error := by
    rintro error ⟨event, member, rest⟩
    exact ⟨event, List.mem_append_left _ member, rest⟩
  have answers : ∀ error, AnsweredWith during error →
      AnsweredWith (during ++ [⟨c, label⟩]) error := by
    rintro error ⟨event, member, rest⟩
    exact ⟨event, List.mem_append_left _ member, rest⟩
  have answered : ∀ error, label.answer = some error →
      AnsweredWith (during ++ [⟨c, label⟩]) error :=
    fun error isAnswer => ⟨⟨c, label⟩, by simp, isAnswer⟩
  have same : label.arriving = [] → (∀ count, label ≠ .consume count) →
      (c.apply label).rx = c.rx := fun nothing other => by
    rw [grown other, nothing, List.append_nil]
  have rests : label.arriving = [] → (∀ count, label ≠ .consume count) → Rests cfg c.rx →
      Rests cfg (c.apply label).rx := fun nothing other held => (same nothing other).symm ▸ held
  have moves := moves_of_permits permits
  generalize control.after c label = next at moves ⊢
  cases moves with
  | call runs isCall =>
    refine awaits.mono (same ?_ ?_) fails answers <;>
      cases label <;> simp_all [Label.isCall, Label.arriving]
  | aside runs isAside =>
    exact awaits.mono (congrArg (·.rx) (c.apply_aside isAside)) fails answers
  | enterIdle | enterOpening | leave | leaveEnded => exact awaits
  | enter => exact awaits_sendStage awaits
  | blocked now | inTime now | keptAlive now | resubscribed now =>
    exact rests rfl (by simp) awaits
  | flushed result written now => exact rests rfl (by simp) awaits
  | opened now => exact awaits_sendStage (rests rfl (by simp) awaits)
  | sent written now => exact awaits_sendStage (rests rfl (by simp) awaits)
  | pumped result written now => exact awaits_pumpedStage (rests rfl (by simp) awaits)
  | flushes written now => exact awaits_flushStage (rests rfl (by simp) awaits)
  | received | consumed => exact awaits_drainStage _
  | handled rest header body now fronts =>
    exact ⟨(packetSplitter.sized (frontPacket_of_fronts fronts)).1,
      fun bad => ⟨⟨c, .handle header body now⟩, by simp, rfl, rfl, bad⟩⟩
  | discarded => exact absurd rfl notDiscard
  | retransmitted now => exact awaits_flushStage (rests rfl (by simp) awaits)
  | closed | ended => cases stays
  | fails reason failed why =>
    cases why with
    | consumed rest count => exact .inr (.inl (fails reason (awaits.2 failed)))
    | discarded | handler => exact absurd rfl notDiscard
    | connect now | send _ now | flush _ now =>
      exact .inr (.inr ⟨rests rfl (by simp) awaits, fun _ => answered reason rfl⟩)
    | recv rest bytes now =>
      have nothing : (Label.recv reason bytes now).arriving = [] := by
        cases reason <;> first | rfl | exact absurd rfl failed
      exact .inr (.inr ⟨rests nothing (by simp) awaits, fun _ => answered reason rfl⟩)
    | deadline now late =>
      refine .inr (.inr ⟨rests rfl (by simp) awaits, fun large => ?_⟩)
      simp only [Client.react] at late
      split at late <;> simp [← late] at large
    | keepAlive now silent =>
      refine .inr (.inr ⟨rests rfl (by simp) awaits, fun large => ?_⟩)
      exact absurd (silent.trans large) (Client.pumpKeepAlive_error_ne now)

/-! ## Over a connection -/

/-- Where a connection stands: what it received is what it handled and what it holds. -/
structure Receives (c : Client cfg) (place : Control) (during : Trace cfg) : Prop where
  stream : ∀ more, packetsOf (arrivedOver during ++ more) =
      handledOver during ++ packetsOf (c.rx.drop place.offset ++ more) ∧
    remainderOf (arrivedOver during ++ more) = remainderOf (c.rx.drop place.offset ++ more)
  held : place.offset ≤ c.rx.length
  handling : HandlingPacket during ↔ place.offset ≠ 0
  awaits : place.Awaits c (FailedWith during) (AnsweredWith during)

theorem handledOver_snoc (trace : Trace cfg) (event : Event cfg) :
    handledOver (trace ++ [event]) = handledOver trace ++ event.label.packet.toList := by
  cases packet : event.label.packet <;> simp [handledOver, packet]

/-- One label keeps what a connection stands for. -/
theorem Receives.step {c : Client cfg} {place : Control} (receives : Receives c place during)
    (permits : place.Permits c label) (busy : c.state ≠ .idle)
    (goesOn : (c.apply label).state ≠ .idle) (stays : c.closesTransport label = false) :
    Receives (c.apply label) (place.after c label) (during ++ [⟨c, label⟩]) := by
  obtain ⟨stream, held, handling, awaits⟩ := receives
  have notDiscard : label ≠ .discard := by
    rintro rfl
    obtain ⟨rest, error, total, rfl, short⟩ := permits
    exact absurd held (Nat.not_le.mpr short)
  have grown : (∀ count, label ≠ .consume count) →
      (c.apply label).rx = c.rx ++ label.arriving := by
    intro other
    rcases c.rx_cases label with ⟨_, why⟩ | ⟨count, isConsume, _⟩ | ⟨grown, _⟩
    · rcases why with isDiscard | idle | idle
      · exact absurd isDiscard notDiscard
      · exact absurd idle busy
      · exact absurd idle goesOn
    · exact absurd isConsume (other count)
    · exact grown
  have after := awaits.after permits grown stays notDiscard
  have opened : HandlingPacket (during ++ [⟨c, label⟩]) ↔
      label.isHandle = true ∨ HandlingPacket during ∧ ¬ label.isConsume = true := since_snoc
  rw [handling] at opened
  by_cases isConsume : ∃ count, label = .consume count
  · obtain ⟨count, rfl⟩ := isConsume
    obtain ⟨rest, error, rfl, _⟩ := permits
    have plain : ((Control.handling rest error count).after c (.consume count)).offset = 0 :=
      (Control.plain_orClose (Control.comes_drainStage rest).plain).offset
    refine ⟨fun more => ?_, by omega, ?_, after⟩
    · rw [plain, arrivedOver_snoc, handledOver_snoc]
      simpa [Label.arriving, Label.packet, Control.offset, Client.apply, Client.react]
        using stream more
    · rw [opened, plain]
      simp [Label.isHandle, Label.isConsume]
  replace grown := grown fun count same => isConsume ⟨count, same⟩
  by_cases isHandle : label.isHandle = true
  · cases label <;> simp only [Label.isHandle, Bool.false_eq_true] at isHandle
    case handle header body now =>
      obtain ⟨⟨rest, rfl⟩, fronts⟩ := permits
      have kept : (c.apply (.handle header body now)).rx = c.rx := by
        simpa [Label.arriving] using grown
      have front := frontPacket_of_fronts fronts
      obtain ⟨positive, complete⟩ := packetSplitter.sized front
      have offset : ((Control.draining rest).after c (.handle header body now)).offset =
        Control.frontTotal c.rx := rfl
      refine ⟨fun more => ?_, by rw [offset, kept]; exact complete, ?_, after⟩
      · have before : packetsOf (arrivedOver during ++ more) =
            handledOver during ++ packetsOf (c.rx ++ more) ∧
            remainderOf (arrivedOver during ++ more) = remainderOf (c.rx ++ more) := stream more
        obtain ⟨packets, remainder⟩ := packetSplitter.split_append_of_front front more
        rw [arrivedOver_snoc, handledOver_snoc, offset, kept]
        simp only [Label.arriving, Label.packet, List.append_nil, Option.toList_some,
          List.append_assoc, List.singleton_append]
        exact ⟨before.1.trans (congrArg (handledOver during ++ ·) packets),
          before.2.trans remainder⟩
      · rw [opened, offset]
        simp [Label.isHandle, Nat.ne_of_gt positive]
  · have offset := Control.offset_after permits
      (fun header body now same => isHandle (same ▸ rfl))
      (fun count same => isConsume ⟨count, same⟩) notDiscard
    have noPacket : label.packet = none := by
      cases label <;> first | rfl | exact absurd rfl isHandle
    have notConsume : label.isConsume = false := by
      cases label <;> first | rfl | exact absurd ⟨_, rfl⟩ isConsume
    refine ⟨fun more => ?_, ?_, ?_, after⟩
    · rw [offset, grown, arrivedOver_snoc, handledOver_snoc, noPacket,
        List.drop_append_of_le_length held]
      simp only [Option.toList_none, List.append_nil, List.append_assoc]
      exact stream (label.arriving ++ more)
    · rw [offset, grown, List.length_append]
      omega
    · rw [opened, offset]
      simp [isHandle, notConsume]

/-- Over a connection that stays open. -/
theorem Receives.reaches {start finish : Log cfg}
    (reaches : Logged.Reaches Client.apply Permitted start finish)
    (base : Receives start.state (Control.of start.trace) [])
    (split : finish.trace = start.trace ++ during) (busy : start.state.state ≠ .idle)
    (stays : ∀ event ∈ during, event.before.closesTransport event.label = false)
    (goesOn : ∀ event ∈ during, ¬ event.EndsSession) :
    Receives finish.state (Control.of finish.trace) during ∧ finish.state.state ≠ .idle := by
  induction reaches generalizing during with
  | refl =>
    obtain rfl : during = [] := by simpa using split
    exact ⟨base, busy⟩
  | @step log label prior permitted ih =>
    obtain ⟨earlier, same⟩ := prior.extends_trace
    obtain rfl : earlier ++ [⟨log.state, label⟩] = during := by
      rw [Logged.perform_trace, same, List.append_assoc] at split
      exact List.append_cancel_left split
    obtain ⟨receives, wasBusy⟩ := ih same
      (fun event member => stays event (by simp [member]))
      (fun event member => goesOn event (by simp [member]))
    have next : (log.state.apply label).state ≠ .idle := goesOn ⟨log.state, label⟩ (by simp)
    rw [Logged.perform_state, Logged.perform_trace, Control.of_snoc]
    exact ⟨receives.step permitted wasBusy next (stays ⟨log.state, label⟩ (by simp)), next⟩

/-- In every history, while the connection is open. -/
theorem History.receives {log : Log cfg} (history : History log)
    (connection : OnConnection log.trace during) :
    Receives log.state (Control.of log.trace) during := by
  obtain ⟨before, opening, split, opens, stays⟩ := connection
  have goesOn := @History.open_stretch _ _ history before during [] opening (by simpa using split)
    opens stays
  obtain ⟨start, reached, rfl, here, permitted, onward⟩ := history.cut split
  obtain ⟨c, label⟩ := opening
  obtain rfl : c = start.state := here
  obtain ⟨_, emptied⟩ := reached.rx_of_opening permitted opens
  have busy : (start.state.apply label).state ≠ .idle := goesOn _ List.mem_cons_self
  refine (Receives.reaches onward ?_ (by simpa using split) busy stays
    fun event member => goesOn event (List.mem_cons_of_mem _ member)).1
  cases label <;> simp only [Label.opensTransport, Bool.false_eq_true] at opens
  case transportConnect result now =>
    obtain rfl : result = .ok := by simpa using opens
    have place : Control.of start.trace = .opening := permitted
    rw [Logged.perform_state, Logged.perform_trace, Control.of_snoc, place]
    have offset : (Control.opening.after start.state (.transportConnect .ok now)).offset = 0 := by
      simp only [Control.after, reduceCtorEq, if_false]
      exact (Control.plain_orClose Control.plain_sendStage).offset
    refine ⟨fun more => ?_, by simp [offset], ?_, ?_⟩
    · rw [emptied, offset]
      exact ⟨rfl, rfl⟩
    · simp [offset, HandlingPacket]
    · exact Control.awaits_sendStage (emptied ▸ rests_nil)

/-- A buffer from which nothing more can be taken is what remains of the stream. -/
theorem Receives.drained {c : Client cfg} {place : Control} (receives : Receives c place during)
    (offset : place.offset = 0) (nothing : frontPacket c.rx = none) :
    handledOver during = packetsOf (arrivedOver during) ∧
      remainderOf (arrivedOver during) = c.rx := by
  obtain ⟨packets, remainder⟩ := receives.stream []
  obtain ⟨noMore, rest⟩ := packetSplitter.split_of_none nothing
  rw [offset, List.drop_zero, List.append_nil, List.append_nil] at packets remainder
  rw [packets, remainder]
  exact ⟨by rw [packetsOf, noMore, List.append_nil], rest⟩

theorem History.not_failedWith_packetTooLarge {log : Log cfg} (history : History log)
    (connection : OnConnection log.trace during) : ¬ FailedWith during .packetTooLarge := by
  rintro ⟨event, member, isHandle, code, _⟩
  obtain ⟨before, opening, split, _⟩ := connection
  obtain ⟨front, back, rfl⟩ := List.append_of_mem member
  obtain ⟨earlier, reached, _, here, _⟩ :=
    @History.cut _ _ history (before ++ opening :: front) back event (by simpa using split)
  obtain ⟨c, label⟩ := event
  obtain rfl : c = earlier.state := here
  cases label with
  | handle header body now =>
    have known := Client.handlePacket_error reached.slotsSized header body now
    rw [show (earlier.state.handlePacket header body now).error = _ from code] at known
    cases known
  | _ => simp [Label.isHandle] at isHandle

/-! ## Room for the next packet -/

namespace World

theorem drainLoop_room (rounds : Nat) (w : World cfg) (enough : w.client.rx.length < rounds)
    (fine : (drainLoop rounds w).1 = .ok) :
    (drainLoop rounds w).2.client.rx.length < cfg.rxBufferSize := by
  have large := cfg.rxHoldsSmallPacket
  induction rounds generalizing w with
  | zero => omega
  | succ rounds ih =>
    unfold drainLoop at fine ⊢
    split at fine
    · rename_i nothing
      rw [if_pos nothing]
      simp only [nothing, List.length_nil]
      omega
    rename_i some
    rw [if_neg some]
    cases peeked : peekHeader w.client.rx with
    | error error =>
      simp only [peeked] at fine ⊢
      by_cases incomplete : error = .incomplete
      · have short := peekHeader_incomplete (incomplete ▸ peeked)
        simp only [kMaxVbiBytes] at short
        rw [if_pos incomplete]
        exact Nat.lt_of_le_of_lt short (by omega)
      · rw [if_neg incomplete] at fine
        exact absurd fine (peekHeader_error peeked)
    | ok p =>
      simp only [peeked] at fine ⊢
      split at fine
      · cases fine
      rename_i fits
      rw [if_neg fits]
      split at fine
      · rename_i short
        rw [if_pos short]
        exact Nat.lt_of_lt_of_le short (Nat.not_lt.mp fits)
      rename_i complete
      rw [if_neg complete]
      have positive := peekHeader_total peeked
      have shorter := w.handlePacket_length_rx p.header
        ((w.client.rx.drop p.headerBytes).take p.header.remainingLength)
      generalize w.handlePacket p.header
        ((w.client.rx.drop p.headerBytes).take p.header.remainingLength) = result
        at fine shorter ⊢
      obtain ⟨error, v⟩ := result
      simp only at fine shorter ⊢
      split at fine
      · rename_i emptied
        rw [if_pos emptied]
        show 0 < cfg.rxBufferSize
        omega
      rename_i held
      rw [if_neg held]
      split at fine
      · rename_i failed
        exact absurd fine failed
      rename_i fineSoFar
      rw [if_neg fineSoFar]
      refine ih _ ?_ fine
      show (v.client.rx.drop p.totalBytes).length < rounds
      rw [List.length_drop]
      omega

/-- `drain_rx` that succeeds leaves room in the buffer. -/
theorem drainRx_room (w : World cfg) (fine : w.drainRx.1 = .ok) :
    w.drainRx.2.client.rx.length < cfg.rxBufferSize :=
  drainLoop_room _ w (Nat.lt_succ_self _) fine

end World

/-- A pass that has no packet in hand is done with the buffer, or about to close. -/
theorem History.drained {log : Log cfg} (history : History log) (permitted : Permitted log label)
    (connection : OnConnection log.trace during) (free : ¬ HandlingPacket during)
    (notHandle : label.isHandle = false) :
    (handledOver during = packetsOf (arrivedOver during) ∧
      ∀ reason, ¬ RefusesNext cfg (remainderOf (arrivedOver during)) reason) ∨
    ∃ reason, label = .shutdown reason ∧ (FailedWith during reason ∨
      handledOver during = packetsOf (arrivedOver during) ∧
        RefusesNext cfg (remainderOf (arrivedOver during)) reason) := by
  have receives := history.receives connection
  have offset : (Control.of log.trace).offset = 0 :=
    not_not.mp fun moved => free (receives.handling.mpr moved)
  have awaits := receives.awaits
  by_cases closes : ∃ reason, Control.of log.trace = .closing reason
  · obtain ⟨reason, place⟩ := closes
    rw [Permitted, place] at permitted
    have isShutdown := Control.permits_closing permitted
    rw [place] at awaits
    rcases awaits with refuses | failed | ⟨rests, _⟩
    · obtain ⟨handled, rest⟩ := receives.drained offset
        (frontPacket_of_refusesNext (World.history_length_rx history) refuses)
      exact .inr ⟨reason, isShutdown, .inr ⟨handled, rest ▸ refuses⟩⟩
    · exact .inr ⟨reason, isShutdown, .inl failed⟩
    · obtain ⟨handled, rest⟩ := receives.drained offset rests.1
      exact .inl ⟨handled, rest ▸ rests.2⟩
  · have rests := awaits.rests
      (fun rest place => ?_) (fun rest error total place => ?_)
      (fun reason place => closes ⟨reason, place⟩)
    · obtain ⟨handled, rest⟩ := receives.drained offset rests.1
      exact .inl ⟨handled, rest ▸ rests.2⟩
    · rw [Permitted, place] at permitted
      exact absurd (Control.permits_draining permitted) (by simp [notHandle])
    · rw [place] at awaits offset
      exact absurd offset (Nat.ne_of_gt awaits.1)

/-- In every run the bytes of each connection are split into packets, and `drain_rx`
always makes room. -/
theorem frames_stream (cfg : Config) (env : Env) (application : Script) :
    FramesStream (World.exec cfg env application).trace ∧
      ∀ w : World cfg, w.drainRx.1 = .ok → w.drainRx.2.client.rx.length ≠ cfg.rxBufferSize := by
  have history := World.exec_history cfg env application
  refine ⟨⟨?_, ?_, ?_, ?_⟩, fun w fine => Nat.ne_of_lt (w.drainRx_room fine)⟩
  · rintro past after during stream split connection ⟨more, rfl⟩
    obtain ⟨earlier, reached, rfl, _⟩ := history.upTo split
    rw [((reached.receives connection).stream more).1]
    exact List.prefix_append _ _
  · intro past event after during split connection free notHandle
    obtain ⟨earlier, reached, rfl, _, permitted, _⟩ := history.cut split
    exact reached.drained permitted connection free notHandle
  · intro past event after during split connection free notHandle oversized sound
    obtain ⟨earlier, reached, rfl, _, permitted, _⟩ := history.cut split
    rcases reached.drained permitted connection free notHandle with
      ⟨_, fine⟩ | ⟨reason, isShutdown, failed | ⟨_, refuses⟩⟩
    · exact absurd (.inr ⟨oversized, rfl⟩) (fine .packetTooLarge)
    · exact absurd failed (sound reason)
    · rw [isShutdown, refusesNext_of_oversized oversized refuses]
  · intro past event after during split connection isShutdown unanswered
    obtain ⟨earlier, reached, rfl, _, permitted, _⟩ := history.cut split
    have receives := reached.receives connection
    have place : Control.of earlier.trace = .closing .packetTooLarge := by
      rw [isShutdown] at permitted
      exact permitted
    have awaits := receives.awaits
    rw [place] at awaits
    rcases awaits with refuses | failed | ⟨_, known⟩
    · obtain ⟨handled, rest⟩ := receives.drained (by rw [place]; rfl)
        (frontPacket_of_refusesNext (World.history_length_rx reached) refuses)
      exact ⟨handled, rest ▸ oversized_of_refusesNext refuses⟩
    · exact absurd failed (reached.not_failedWith_packetTooLarge connection)
    · exact absurd (known rfl) unanswered

end Mqtt
