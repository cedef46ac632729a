import Mqtt.Client.Accounting
import Mqtt.Session.Disconnecting

/-!
# A graceful disconnect

After `disconnect()` has queued its DISCONNECT, the session is to end with `Ok`
once the queue has drained, whatever a conforming broker had already sent. This
holds for every packet but one: a PUBLISH that is handed over in `Disconnecting`
is taken for a protocol violation.
-/

namespace Mqtt

open Library

variable {cfg : Config}

namespace Client

variable (c : Client cfg)

/-- What the receive buffer starts with can still become a packet that the
buffer holds. -/
def frontSound : Bool :=
  match peekHeader c.rx with
  | .error error => error = .incomplete
  | .ok p => p.totalBytes ≤ cfg.rxBufferSize

/-- A packet that a conforming broker sends on an established session: it
decodes, and a SUBACK has a code for every filter of its request. -/
def conforms (header : FixedHeader) (body : Bytes) : Bool :=
  match header.type with
  | .publish => (decodePublish header body).isOk
  | .puback | .pubrec | .pubrel | .pubcomp | .unsuback => (decodePacketId body).isOk
  | .suback =>
    match decodeSuback body with
    | .error _ => false
    | .ok v =>
      match c.findPending v.packetId .suback with
      | none => true
      | some ack => v.returnCodes.length = ack.subs.length
  | .pingresp => body.isEmpty
  | _ => false

end Client

/-- The label hands over a PUBLISH. -/
def Label.handsPublish : Label → Bool
  | .handle header _ _ => header.type = .publish
  | _ => false

/-- Nothing but the wait for the queue is going on: the broker's bytes are sound
and its packets conform, the transport works or blocks, and the application does
not end the session itself. -/
def Library.Entry.undisturbed (event : Event cfg) : Bool :=
  event.before.frontSound &&
    match event.label with
    | .send result _ _ | .recv result _ _ => result = .ok || result = .wouldBlock
    | .handle header body _ => event.before.conforms header body
    | .disconnect | .abort => false
    | _ => true

namespace Client

variable {c : Client cfg}

/-- A conforming packet other than a PUBLISH is processed without an error. -/
theorem handle_error_of_conforms {header : FixedHeader} {body : Bytes} {now : UInt32}
    (sized : c.SlotsSized) (conforms : c.conforms header body = true)
    (notPublish : header.type ≠ .publish) : (c.react (.handle header body now)).error = .ok := by
  have handled : c.react (.handle header body now) = c.handlePacket header body now := rfl
  rw [handled]
  unfold handlePacket
  unfold Client.conforms at conforms
  have identified : (decodePacketId body).isOk = true → ∃ id, decodePacketId body = .ok id := by
    cases decodePacketId body <;> simp [Except.isOk, Except.toBool]
  have released : ∀ awaited, (∃ id, decodePacketId body = .ok id) →
      (c.completeDelivery body awaited).error = .ok := by
    rintro awaited ⟨id, decoded⟩
    simp only [completeDelivery, decoded]
    split
    · rfl
    · split <;> rfl
  cases type : header.type <;> simp only [type, Bool.false_eq_true] at conforms
  case publish => exact absurd type notPublish
  case puback => exact released _ (identified conforms)
  case pubcomp => exact released _ (identified conforms)
  case pubrec =>
    obtain ⟨id, decoded⟩ := identified conforms
    rcases c.handlePubrec_cases body now with
      ⟨_, fine, same⟩ | ⟨_, index, _, found, _, ⟨_, _, short, _⟩ | ⟨_, same⟩⟩ |
        ⟨_, _, _, _, _, same⟩
    · rw [same, fine id decoded]
    · obtain ⟨slot, here, isSlot, _⟩ := findOutbound_some found
      have fits := sized.four_le here
      rw [isSlot] at short
      omega
    · rw [same, sendPubrel_error]
    · rw [same, sendPubrel_error]
  case pubrel =>
    obtain ⟨id, decoded⟩ := identified conforms
    rcases c.handlePubrel_cases body with
      ⟨_, failed, _⟩ | ⟨_, _, _, _, _, same⟩ | ⟨_, _, _, _, _, same⟩
    · rw [decoded] at failed
      cases failed
    · rw [same]
    · rw [same]
  case suback =>
    cases decoded : decodeSuback body with
    | error _ => simp [decoded] at conforms
    | ok v =>
      cases found : c.findPending v.packetId .suback with
      | none => simp [handleSuback, decoded, found]
      | some ack => simp_all [handleSuback]
  case unsuback =>
    obtain ⟨id, decoded⟩ := identified conforms
    simp only [handleUnsuback, decoded]
    split <;> rfl
  case pingresp => simp [handlePingresp, conforms]

end Client

namespace Control

variable {c : Client cfg}

/-- The place does not lead to an end other than the graceful one. -/
def Graceful (control : Control) (c : Client cfg) : Prop :=
  match control with
  | .closing reason => reason = .ok ∧ c.tx.isEmpty = true
  | .handling _ error _ => error = .ok
  | _ => True

theorem graceful_of_appRuns {control : Control} (runs : control.appRuns = true) :
    control.Graceful c := by
  cases control with
  | handling rest error total =>
    cases error <;> first | rfl | simp [appRuns] at runs
  | closing reason => simp [appRuns] at runs
  | _ => trivial

theorem graceful_flushStage : (flushStage c).Graceful c := by
  unfold flushStage
  split <;> trivial

section

variable (closing : c.state = .disconnecting)

include closing

theorem graceful_receivedStage : (receivedStage c).Graceful c := by
  simp only [receivedStage, closing, reduceCtorEq, if_false]
  exact graceful_flushStage

theorem graceful_drainedStage (room : c.rx.length < cfg.rxBufferSize) (rest : Option Nat) :
    (drainedStage c rest).Graceful c := by
  cases rest with
  | none => exact graceful_receivedStage closing
  | some rest =>
    simp only [drainedStage, closing, reduceCtorEq, if_false, if_neg (Nat.ne_of_lt room)]
    cases rest with
    | zero => exact graceful_receivedStage closing
    | succ rest => trivial

theorem graceful_drainStage (sound : c.frontSound = true)
    (rest : Option Nat) : (drainStage c rest).Graceful c := by
  have large := cfg.rxHoldsSmallPacket
  unfold drainStage
  split
  · rename_i empty
    exact graceful_drainedStage closing (by simp only [empty, List.length_nil]; omega) rest
  unfold Client.frontSound at sound
  cases peeked : peekHeader c.rx with
  | error error =>
    rw [peeked] at sound
    have undecided : error = .incomplete := by simpa using sound
    subst undecided
    have short := peekHeader_incomplete peeked
    simp only [kMaxVbiBytes] at short
    exact graceful_drainedStage closing (by omega) rest
  | ok p =>
    rw [peeked] at sound
    have fits : p.totalBytes ≤ cfg.rxBufferSize := by simpa using sound
    simp only [if_neg (Nat.not_lt.mpr fits)]
    split
    · exact graceful_drainedStage closing (by omega) rest
    · trivial

theorem graceful_pumpedStage (sound : c.frontSound = true) : (pumpedStage c).Graceful c := by
  unfold pumpedStage receiveStage
  split_ifs with drained
  · exact ⟨rfl, drained.2⟩
  · trivial
  · exact graceful_drainStage closing sound _

theorem graceful_sendStage (sound : c.frontSound = true) : (sendStage c).Graceful c := by
  unfold sendStage
  split
  · exact graceful_pumpedStage closing sound
  · trivial

end

/-- One undisturbed label of a departing session that survives it. -/
theorem Graceful.after {control : Control} {label : Label} (graceful : control.Graceful c)
    (fits : control.Fits c) (permits : control.Permits c label)
    (closing : c.state = .disconnecting) (survives : (c.apply label).state = .disconnecting)
    (sized : c.SlotsSized) (fine : c.lastError = .ok)
    (undisturbed : (⟨c, label⟩ : Event cfg).undisturbed = true)
    (notPublish : label.handsPublish = false) (sound : (c.apply label).frontSound = true) :
    (control.after c label).Graceful (c.apply label) := by
  simp only [Entry.undisturbed, Bool.and_eq_true] at undisturbed
  obtain ⟨_, undisturbed⟩ := undisturbed
  have moves := moves_of_permits permits
  generalize control.after c label = next at moves ⊢
  cases moves with
  | call runs | aside runs => exact graceful_of_appRuns runs
  | enter => exact graceful_sendStage survives sound
  | opened | blocked => simp [fits.2] at closing
  | sent => exact graceful_sendStage survives sound
  | pumped => exact graceful_pumpedStage survives sound
  | flushes | retransmitted => exact graceful_flushStage
  | received => exact graceful_drainStage survives sound _
  | handled rest header body now =>
    refine Client.handle_error_of_conforms sized undisturbed fun isPublish => ?_
    simp [Label.handsPublish, isPublish] at notPublish
  | consumed rest => exact graceful_drainStage survives sound rest
  | discarded rest =>
    have large := cfg.rxHoldsSmallPacket
    exact graceful_drainedStage survives (show 0 < cfg.rxBufferSize by omega) rest
  | fails reason failed why =>
    cases why with
    | connect => simp [fits.2] at closing
    | deadline => rcases fits.2 with state | state <;> simp [state] at closing
    | send _ _ answered | flush _ _ answered | recv _ _ _ answered =>
      simp [failed, answered] at undisturbed
    | consumed | discarded => exact absurd graceful failed
    | handler rest total told => exact absurd (told.symm.trans fine) failed
    | keepAlive => simp [fits.2] at closing
  | _ => trivial

end Control

/-- While a session departs undisturbed, nothing leads to another end. -/
theorem History.graceful {log : Log cfg} (history : History log)
    (calm : ∀ event ∈ log.trace, event.before.state = .disconnecting →
      event.undisturbed = true ∧ event.label.handsPublish = false)
    (departing : Departing log.trace) (sound : log.state.frontSound = true) :
    (Control.of log.trace).Graceful log.state := by
  refine Logged.Reaches.invariant_of
    (fun event : Event cfg => event.before.state = .disconnecting →
      event.undisturbed = true ∧ event.label.handsPublish = false)
    (fun log => Departing log.trace → log.state.frontSound = true →
      (Control.of log.trace).Graceful log.state)
    (fun log label prior permitted calm ih departing sound => ?_)
    history rfl calm (by simp [Departing]) departing sound
  have next := History.disconnecting_of_departing (prior.step permitted) departing
  simp only [Departing, Logged.perform_trace, since_snoc] at departing
  simp only [Logged.perform_state, Logged.perform_trace, Control.of_snoc] at sound next ⊢
  rcases departing with ⟨isDisconnect, _⟩ | ⟨earlier, _⟩
  · simp only at isDisconnect
    subst isDisconnect
    rw [World.after_of_isCall _ _ rfl]
    exact Control.graceful_of_appRuns permitted
  · have closing := History.disconnecting_of_departing prior earlier
    obtain ⟨undisturbed, notPublish⟩ := calm closing
    have soundBefore : log.state.frontSound = true := by
      simp only [Entry.undisturbed, Bool.and_eq_true] at undisturbed
      exact undisturbed.1
    exact (ih earlier soundBefore).after (History.fits prior) permitted closing next
      (History.slotsSized prior) (History.lastError_of_busy prior (by simp [closing])) undisturbed
      notPublish sound

/-- The only end an undisturbed departing session can come to. -/
theorem shutdown_of_graceful {control : Control} {c : Client cfg} {label : Label}
    (graceful : control.Graceful c) (permits : control.Permits c label)
    (closing : c.state = .disconnecting)
    (undisturbed : (⟨c, label⟩ : Event cfg).undisturbed = true)
    (ends : (c.apply label).state = .idle) : label = .shutdown .ok ∧ c.tx.isEmpty = true := by
  rcases c.apply_state_cases label with
    same | ⟨_, _, _, _, moved⟩ | ⟨_, _, _, moved⟩ |
      ⟨⟨rfl, _⟩ | rfl | ⟨reason, rfl⟩, _⟩ | ⟨_, _, moved⟩ |
      ⟨_, _, _, _, _, moved⟩
  · simp [same, closing] at ends
  · simp [moved] at ends
  · simp [moved] at ends
  · simp [Entry.undisturbed] at undisturbed
  · simp [Entry.undisturbed] at undisturbed
  · obtain rfl : control = .closing reason := permits
    exact ⟨by rw [graceful.1], graceful.2⟩
  · simp [moved] at ends
  · simp [moved] at ends

/-- A `step()` that finds nothing left to send closes at once. -/
theorem enterStage_of_drained {c : Client cfg} (closing : c.state = .disconnecting)
    (drained : c.tx.isEmpty = true) : Control.enterStage c = .closing .ok := by
  simp [Control.enterStage, Control.sendStage, Control.pumpedStage, closing, drained]

/-- Every session that queued a DISCONNECT ends with `Ok`, after the transport
took everything up to and including the DISCONNECT; and a `step()` that finds
nothing left to send ends it. -/
def EndsGracefully (trace : Trace cfg) : Prop :=
  ∀ before request middle event after, trace = before ++ request :: middle ++ event :: after →
    request.QueuesDisconnect → (∀ earlier ∈ middle, ¬ earlier.EndsSession) →
    (event.EndsSession → event.label = .shutdown .ok ∧
      event.reaction.callback = some (.onDisconnect .ok) ∧
      request.before.tx.peek ++ emptyPacket .disconnect <+: acceptedOver middle) ∧
    (event.label = .stepEnter → event.before.tx.isEmpty = true →
      ∀ next rest, after = next :: rest → next.label = .shutdown .ok)

/-- Without a PUBLISH handed over while disconnecting, an undisturbed disconnect
is graceful. -/
theorem disconnect_ends_gracefully (cfg : Config) (env : Env) (application : Script)
    (undisturbed : ∀ event ∈ (World.exec cfg env application).trace,
      event.before.state = .disconnecting → event.undisturbed = true)
    (noPublish : ∀ event ∈ (World.exec cfg env application).trace,
      event.before.state = .disconnecting → event.label.handsPublish = false) :
    EndsGracefully (World.exec cfg env application).trace := by
  intro before request middle event after split queued sameSession
  have whole := World.exec_history cfg env application
  obtain ⟨start, finish, startHistory, startTrace, here, permitted, onward, finishTrace, there,
    eventPermitted⟩ := whole.between split
  have history : History finish := (startHistory.step permitted).trans onward
  have fromStart : finish.trace = before ++ request :: middle := by
    rw [finishTrace, Logged.perform_trace, startTrace, ← here]
    simp
  have departing : Departing finish.trace :=
    ⟨before, request, middle, fromStart, queued, sameSession⟩
  have closing := history.disconnecting_of_departing departing
  have inTrace : ∀ earlier ∈ finish.trace, earlier ∈ (World.exec cfg env application).trace := by
    intro earlier member
    rw [split, ← fromStart]
    exact List.mem_append_left _ member
  have eventInTrace : event ∈ (World.exec cfg env application).trace := by simp [split]
  have eventCalm := undisturbed event eventInTrace (by rw [there, closing])
  have sound : finish.state.frontSound = true := by
    simp only [Entry.undisturbed, Bool.and_eq_true] at eventCalm
    exact there ▸ eventCalm.1
  have graceful := history.graceful (fun earlier member isClosing =>
    ⟨undisturbed earlier (inTrace earlier member) isClosing,
      noPublish earlier (inTrace earlier member) isClosing⟩) departing sound
  constructor
  · intro ends
    obtain ⟨isShutdown, drained⟩ := shutdown_of_graceful graceful eventPermitted closing
      (there ▸ eventCalm) (there ▸ ends)
    refine ⟨isShutdown, ?_, ?_⟩
    · simp [Entry.reaction, isShutdown, Client.react, Client.shutdown, there, closing]
    · obtain ⟨isClosing, waiting⟩ := queued.after
      rw [here] at isClosing waiting ⊢
      have accounted := (accounts_over onward finishTrace sameSession (by
        rw [Logged.perform_state, isClosing]
        simp)).1
      rw [(finish.state.tx.isEmpty_iff).mp drained, List.append_nil, Logged.perform_state,
        waiting] at accounted
      exact ⟨wireOver middle, accounted⟩
  · rintro isEnter drained next rest rfl
    obtain ⟨later, _, laterTrace, _, nextPermitted, _⟩ := @History.cut _ _ whole
      (before ++ request :: middle ++ [event]) rest next (split.trans (by simp))
    rw [← fromStart] at laterTrace
    have outside : Control.of finish.trace = .outside := by
      rw [isEnter] at eventPermitted
      exact eventPermitted
    have place : Control.of later.trace = .closing .ok := by
      rw [laterTrace, Control.of_snoc, outside, isEnter, there]
      exact enterStage_of_drained closing (there ▸ drained)
    rw [Permitted, place] at nextPermitted
    exact Control.permits_closing nextPermitted

/-! ## A message that crosses the DISCONNECT -/

namespace GracefulEnd

/-- Connect, disconnect, and step until the queue has drained. -/
def application : Script :=
  .connect Disconnecting.options (.step (.disconnect .done (.step (.step .done))))

/-- The DISCONNECT is blocked for one step, and nothing arrives meanwhile. -/
def quietEnv : Env where
  opens := [.ok]
  sends := [(.ok, 15), (.wouldBlock, 0), (.wouldBlock, 0), (.ok, 2)]
  recvs := [(.ok, [0x20, 2, 0, 0])]

/-- The same, but a QoS 0 message arrives while the DISCONNECT is blocked. -/
def env : Env :=
  { quietEnv with
    recvs := [(.ok, [0x20, 2, 0, 0]), (.wouldBlock, []), (.ok, [0x30, 3, 0, 1, 116])] }

def quietRun : World .small := World.exec .small quietEnv application

def run : World .small := World.exec .small env application

end GracefulEnd

theorem disconnect_ends_gracefully_quiet : EndsGracefully GracefulEnd.quietRun.trace :=
  disconnect_ends_gracefully .small GracefulEnd.quietEnv GracefulEnd.application
    (by decide +kernel) (by decide +kernel)

/-- The message ends the session with a protocol violation. -/
theorem publish_spoils_disconnect :
    (∀ event ∈ GracefulEnd.run.trace, event.before.state = .disconnecting →
      event.undisturbed = true) ∧ ¬ EndsGracefully GracefulEnd.run.trace := by
  refine ⟨by decide +kernel, fun graceful => ?_⟩
  have split := split_at_positions GracefulEnd.run.trace (by decide : 12 < 18) (by decide +kernel)
  have outcome := (graceful _ _ _ _ _ split (by decide +kernel) (by decide +kernel)).1
    (by decide +kernel)
  exact absurd outcome.1 (by decide +kernel)

end Mqtt
