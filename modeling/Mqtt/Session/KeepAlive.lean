import Mqtt.Client.Alike
import Mqtt.Session.Outgoing
import Mqtt.Session.Reception

/-!
# Keep-alive timeouts

`ping_outstanding_` is written in five places. Together they make it say exactly
whether the connection owes a PINGRESP, and `ping_sent_ms_` since when, so the
timer ends a session only for a PINGREQ of its own that nobody answered.
-/

namespace Mqtt

open Library

variable {cfg : Config}

/-! ## The contract -/

namespace Library.Entry

variable (event : Event cfg)

/-- The event queues a PINGREQ. -/
def pings : Bool :=
  event.reaction.queued.any fun packet =>
    (readPacket packet.bytes).any fun (header, _) => header.type = .pingreq

/-- The event processes a PINGRESP. -/
def pongs : Bool :=
  match event.label with
  | .handle header _ _ => header.type = .pingresp && event.reaction.error = .ok
  | _ => false

/-- The event answers the PINGREQ that was queued before it, or ends its connection. -/
def Settles : Prop := event.pongs = true ∨ event.EndsSession

instance : Decidable event.Settles := inferInstanceAs (Decidable (_ ∨ _))

end Library.Entry

/-- A PINGREQ was queued on this connection, and no PINGRESP has been processed since. -/
def AwaitsPong (trace : Trace cfg) : Prop :=
  Since (fun event => event.pings = true) Entry.Settles trace

/-- The transport has just answered with this error. -/
def JustAnswered (reason : Error) (trace : Trace cfg) : Prop :=
  ∃ last ∈ trace.getLast?, last.label.answer = some reason

/-- The timer has just found that the PINGREQ of this connection, queued at `sent`, has
not been answered within the interval. -/
def Overdue (trace : Trace cfg) : Prop :=
  ∃ before ping middle check sent now, trace = before ++ ping :: middle ++ [check] ∧
    ping.label = .keepAlive sent ∧ ping.pings = true ∧ (∀ event ∈ middle, ¬ event.Settles) ∧
    check.label = .keepAlive now ∧ elapsedMs now sent > check.before.keepAliveMs

/-- Keep-alive timeouts are sound. -/
structure TimeoutsSound (trace : Trace cfg) : Prop where
  /-- Two PINGREQs of one connection have a PINGRESP between them. -/
  answered : ∀ before first middle second after,
    trace = before ++ first :: middle ++ second :: after → first.pings = true →
    second.pings = true → (∀ event ∈ middle, ¬ event.EndsSession) →
    ∃ event ∈ middle, event.pongs = true
  /-- A session times out for a PINGREQ of its own. -/
  overdue : ∀ before event after, trace = before ++ event :: after →
    event.label = .shutdown .keepAliveTimeout → event.before.state ≠ .idle →
    ¬ JustAnswered .keepAliveTimeout before → Overdue before
  /-- While nothing is outstanding in `Connected`, no clock reading makes a piece of code
  fail that another reading would let pass, -/
  timeless : ∀ before event after, trace = before ++ event :: after →
    event.before.state = .connected → ¬ AwaitsPong before →
    ∀ other : Label, other.timeless = event.label.timeless →
      (event.before.react other).error = event.reaction.error
  /-- and no timeout ends the session. -/
  unprovoked : ∀ before event after reason, trace = before ++ event :: after →
    event.before.state = .connected → ¬ AwaitsPong before → event.label = .shutdown reason →
    ¬ JustAnswered reason before → reason ≠ .keepAliveTimeout ∧ reason ≠ .connectTimeout

/-! ## What touches the timer -/

/-- The fields of the keep-alive timer. -/
structure KeepAliveTimer where
  interval : UInt32
  lastSent : UInt32
  outstanding : Bool
  asked : UInt32

namespace Client

variable (c : Client cfg)

def timer : KeepAliveTimer where
  interval := c.keepAliveMs
  lastSent := c.lastSentMs
  outstanding := c.pingOutstanding
  asked := c.pingSentMs

/-- Every way a label touches the timer. -/
inductive TimerEffect (label : Label) : Prop where
  | kept (timer : (c.apply label).timer = c.timer)
  | pinged (now : UInt32) (isTimer : label = .keepAlive now) (due : c.PingDue now)
      (room : c.HasRoom 2)
      (timer : (c.apply label).timer = { c.timer with outstanding := true, asked := now })
  | ponged (header : FixedHeader) (body : Bytes) (now : UInt32)
      (isPacket : label = .handle header body now) (isPong : header.type = .pingresp)
      (fine : (c.react label).error = .ok)
      (timer : (c.apply label).timer = { c.timer with outstanding := false })
  | wrote (now : UInt32)
      (accepted : label = .transportConnect .ok now ∨
        ∃ written, label = .send .ok written now ∧ written ≠ 0)
      (timer : (c.apply label).timer = { c.timer with lastSent := now })
  | began (idle : c.state = .idle) (connecting : (c.apply label).state = .connecting)
      (timer : (c.apply label).timer.outstanding = false)
  | established (awaiting : c.state = .awaitingConnack) (isPacket : label.isHandle = true)
      (timer : (c.apply label).timer = { c.timer with outstanding := false })
  | ended (idle : (c.apply label).state = .idle)
      (timer : (c.apply label).timer = { c.timer with outstanding := false })

theorem handle_timerEffect (header : FixedHeader) (body : Bytes) (now : UInt32) :
    c.TimerEffect (.handle header body now) := by
  obtain ⟨reaction, handled, outcome⟩ := c.handlePacket_cases header body now
  have reacts : c.react (.handle header body now) = reaction := handled
  have applied : c.apply (.handle header body now) = reaction.client := congrArg _ handled
  cases outcome with
  | accepted info _ awaiting =>
    refine .established awaiting rfl ?_
    rw [applied]
    simp only
    split <;> rfl
  | ponged isPong =>
    exact .ponged header body now rfl isPong (congrArg Reaction.error reacts)
      ((congrArg timer applied).trans rfl)
  | _ => exact .kept ((congrArg timer applied).trans rfl)

theorem keepAlive_timerEffect (now : UInt32) : c.TimerEffect (.keepAlive now) := by
  have outcome := c.pumpKeepAlive_outcome now
  have applied : c.apply (.keepAlive now) = (c.pumpKeepAlive now).client := rfl
  generalize c.pumpKeepAlive now = reaction at outcome applied
  cases outcome with
  | pings tx due room => exact .pinged now rfl due room ((congrArg timer applied).trans rfl)
  | _ => exact .kept ((congrArg timer applied).trans rfl)

theorem resubscribe_timer (now : UInt32) : (c.apply (.resubscribe now)).timer = c.timer := by
  rcases c.pumpResubscribe_cases now with ⟨_, _, _, same⟩ | ⟨_, _, _, _, tx, _, same⟩
  · simp [apply, react, same, timer]
  · obtain ⟨_, _, _, shape⟩ := c.resubscribed_shape tx now
    simp [apply, react, same, shape, timer]

theorem retransmit_timer (now : UInt32) : (c.apply (.retransmit now)).timer = c.timer := by
  obtain ⟨_, _, _, _, same, _⟩ := c.pumpRetransmit_cases now
  simp [apply, react, same, timer]

/-- What each step does to the keep-alive timer. -/
theorem timerEffect (label : Label) : c.TimerEffect label := by
  cases label with
  | handle header body now => exact c.handle_timerEffect header body now
  | keepAlive now => exact c.keepAlive_timerEffect now
  | connect opts now =>
    rcases c.connect_cases opts now with
      ⟨_, _, same⟩ | ⟨_, _, _, _, _, same⟩ | ⟨idle, _, _, _, same⟩
    · exact .kept (by simp [apply, react, same, refuse])
    · refine .kept ?_
      simp only [apply, react, same, refuse, timer, prepare]
      split <;> rfl
    · exact .began idle (by simp [apply, react, same, opened])
        (by simp [apply, react, same, opened, timer])
  | disconnect =>
    rcases c.disconnect_cases with ⟨_, same⟩ | ⟨_, _, _, _, same⟩ | ⟨_, _, _, same⟩
    · exact .kept (by simp [apply, react, same, refuse])
    · exact .kept (by simp [apply, react, same, timer])
    · exact .ended (by simp [apply, react, same, shutdown, teardown])
        (by simp [apply, react, same, shutdown, teardown, markAllForResub, timer])
  | abort => exact .ended rfl rfl
  | shutdown reason => exact .ended rfl rfl
  | publish topic payload qos retain now =>
    refine .kept ?_
    rcases c.publish_cases topic payload qos retain now with
      ⟨_, _, _, _, _, _, _, same⟩ | ⟨_, _, _, _, _, same⟩ |
        ⟨_, _, _, _, _, _, _, _, _, _, _, _, _, _, _, _, _, same⟩ <;>
      simp [apply, react, same, refuse, timer]
  | subscribe subs handler now =>
    refine .kept ?_
    rcases c.subscribe_cases subs handler now with
      ⟨_, _, _, _, _, same⟩ | ⟨_, _, _, _, _, _, _, tx, _, same⟩
    · simp [apply, react, same, refuse, timer]
    · obtain ⟨_, _, _, _, shape⟩ := c.subscribed_shape subs handler tx now
      simp [apply, react, same, shape, timer]
  | unsubscribe filters now =>
    refine .kept ?_
    rcases c.unsubscribe_cases filters now with
      ⟨_, _, _, _, _, same⟩ | ⟨_, _, _, _, _, _, _, same⟩ <;>
      simp [apply, react, same, refuse, timer]
  | resubscribe now => exact .kept (c.resubscribe_timer now)
  | retransmit now => exact .kept (c.retransmit_timer now)
  | transportConnect result now =>
    by_cases up : result = .ok
    · subst up
      exact .wrote now (.inl rfl) rfl
    · exact .kept (by simp [apply, react, up])
  | send result written now =>
    by_cases accepted : result = .ok ∧ written ≠ 0
    · obtain ⟨rfl, some_⟩ := accepted
      exact .wrote now (.inr ⟨written, rfl, some_⟩) (by simp [apply, react, some_, timer])
    · exact .kept (by simp only [apply, react, if_neg accepted])
  | recv result bytes now =>
    refine .kept ?_
    simp only [apply, react]
    split <;> rfl
  | _ => exact .kept rfl

end Client

/-! ## The flag says what is outstanding -/

/-- A PINGREQ is queued by the timer only, when one is due. -/
theorem History.due_of_pings {log : Log cfg} (history : History log)
    {label : Label} (pings : Entry.pings ⟨log.state, label⟩ = true) :
    ∃ now, label = .keepAlive now ∧ log.state.PingDue now ∧
      (log.state.apply label).pingOutstanding = true := by
  simp only [Entry.pings, List.any_eq_true, Option.any_eq_true, decide_eq_true_eq] at pings
  obtain ⟨packet, queued, ⟨header, body⟩, reads, isPing⟩ := pings
  obtain ⟨type, member, leads⟩ := history.queued_leads queued
  have isType : type = .pingreq := (leads.readPacket_type reads).symm.trans isPing
  subst isType
  cases label with
  | keepAlive now =>
    have outcome := log.state.pumpKeepAlive_outcome now
    have reacts : log.state.react (.keepAlive now) = log.state.pumpKeepAlive now := rfl
    simp only [Entry.reaction, Client.apply, reacts] at queued ⊢
    generalize log.state.pumpKeepAlive now = reaction at outcome queued
    cases outcome with
    | pings tx due => exact ⟨now, rfl, due, rfl⟩
    | _ => cases queued
  | handle header body now =>
    simp only [Label.queues] at member
    split at member <;> simp at member
  | _ => simp [Label.queues] at member

/-- A due ping is sent where there is room for it. -/
theorem pings_of_due {c : Client cfg} {now : UInt32} (due : c.PingDue now) (room : c.HasRoom 2) :
    Entry.pings ⟨c, .keepAlive now⟩ = true := by
  have outcome := c.pumpKeepAlive_outcome now
  have reacts : c.react (.keepAlive now) = c.pumpKeepAlive now := rfl
  simp only [Entry.pings, Entry.reaction, reacts]
  generalize c.pumpKeepAlive now = reaction at outcome
  obtain ⟨enabled, idle, passed⟩ := due
  cases outcome with
  | off disabled => exact absurd disabled enabled
  | expired _ waiting | waits _ waiting => simp [idle] at waiting
  | rests _ _ recent => exact absurd recent passed
  | skips _ _ full => exact absurd room full
  | pings => rfl

/-- What the flag and its stamp say about the history. -/
structure PingLedger (log : Log cfg) : Prop where
  flag : AwaitsPong log.trace → log.state.pingOutstanding = true
  stamp : log.state.pingOutstanding = true →
    Since (fun event => event.pings = true ∧ event.label = .keepAlive log.state.pingSentMs)
      Entry.Settles log.trace

theorem PingLedger.awaitsPong {log : Log cfg} (ledger : PingLedger log)
    (waiting : log.state.pingOutstanding = true) : AwaitsPong log.trace := by
  obtain ⟨before, event, after, split, ⟨pings, _⟩, unsettled⟩ := ledger.stamp waiting
  exact ⟨before, event, after, split, pings, unsettled⟩

theorem Library.Entry.outstanding_of_settles {event : Event cfg}
    (up : (event.before.apply event.label).pingOutstanding = true →
      (event.before.apply event.label).state ≠ .idle)
    (settles : event.Settles) : (event.before.apply event.label).pingOutstanding = false := by
  obtain ⟨c, label⟩ := event
  rcases settles with pongs | ends
  · cases label with
    | handle header body now =>
      simp only [Entry.pongs, Entry.reaction, Bool.and_eq_true, decide_eq_true_eq] at pongs
      obtain ⟨isPong, fine⟩ := pongs
      simp only [Client.apply, Client.react, Client.handlePacket, isPong,
        Client.handlePingresp] at fine ⊢
      split at fine
      · cases fine
      · rename_i empty
        rw [if_neg empty]
    | _ => cases pongs
  · by_contra waiting
    exact up (by simpa using waiting) ends

section

variable {log : Log cfg} (history : History log)

include history

/-- A connection that owes a PINGRESP is up. -/
theorem History.up_of_outstanding (waiting : log.state.pingOutstanding = true) :
    log.state.state = .connected ∨ log.state.state = .disconnecting := by
  refine history.invariant
    (fun log => log.state.pingOutstanding = true →
      log.state.state = .connected ∨ log.state.state = .disconnecting)
    (fun log label prior permitted ih waiting => ?_) (by simp [Client.initial]) waiting
  rw [Logged.perform_state] at waiting ⊢
  have fits := prior.fits
  have goesOn : log.state.pingOutstanding = true → (log.state.apply label).state = .connected ∨
      (log.state.apply label).state = .disconnecting := by
    intro already
    have wasUp := ih already
    have busy : log.state.state ≠ .idle := by rcases wasUp with up | up <;> simp [up]
    rcases log.state.apply_state_cases label with
      same | ⟨_, _, _, idle, _⟩ | ⟨_, _, _, moved⟩ | ⟨_, down⟩ | ⟨now, rfl, _⟩ |
        ⟨_, _, _, _, awaiting, _⟩
    · exact same ▸ wasUp
    · exact absurd idle busy
    · exact .inr moved
    · obtain ⟨tx, reason, same⟩ := log.state.shutdown_of_end busy down
      simp [Client.apply, same, Client.shutdown, Client.teardown] at waiting
    · rw [show Control.of log.trace = .opening from permitted] at fits
      simp [fits.2] at wasUp
    · simp [awaiting] at wasUp
  cases log.state.timerEffect label with
  | kept timer => exact goesOn ((congrArg KeepAliveTimer.outstanding timer).symm.trans waiting)
  | wrote now _ timer =>
    exact goesOn ((congrArg KeepAliveTimer.outstanding timer).symm.trans waiting)
  | pinged now isTimer =>
    subst isTimer
    rw [show Control.of log.trace = .keepingAlive from permitted] at fits
    exact .inl ((log.state.pumpKeepAlive_quiet now).sameState.trans fits.2)
  | began _ _ timer => exact absurd (timer.symm.trans waiting) (by simp)
  | ponged _ _ _ _ _ _ timer | established _ _ timer | ended _ timer =>
    exact absurd ((congrArg KeepAliveTimer.outstanding timer).symm.trans waiting) (by simp)

/-- Every history keeps the ledger. -/
theorem History.pingLedger : PingLedger log := by
  refine history.invariant PingLedger (fun log label prior permitted ledger => ?_)
    ⟨by simp [AwaitsPong], by simp [Client.initial]⟩
  have next : History (log.perform Client.apply label) := prior.step permitted
  have unsettled : (log.state.apply label).pingOutstanding = true →
      ¬ Entry.Settles ⟨log.state, label⟩ := by
    intro waiting settles
    have cleared := Entry.outstanding_of_settles (fun waiting => ?_) settles
    · simp [waiting] at cleared
    · rcases next.up_of_outstanding waiting with up | up <;>
        exact fun idle => by simp [show (log.state.apply label).state = _ from up] at idle
  have effect := log.state.timerEffect label
  constructor
  · intro awaits
    rw [AwaitsPong, Logged.perform_trace, since_snoc] at awaits
    rw [Logged.perform_state]
    rcases awaits with pings | ⟨before, open_⟩
    · obtain ⟨_, _, _, waiting⟩ := prior.due_of_pings pings
      exact waiting
    · have already := ledger.flag before
      have wasUp := prior.up_of_outstanding already
      cases effect with
      | kept timer | wrote _ _ timer =>
        exact (congrArg KeepAliveTimer.outstanding timer).trans already
      | pinged _ _ _ _ timer => exact congrArg KeepAliveTimer.outstanding timer
      | ponged header body now isPacket isPong fine =>
        subst isPacket
        refine absurd (.inl ?_) open_
        simp [Entry.pongs, Entry.reaction, isPong, fine]
      | began idle => simp [idle] at wasUp
      | established awaiting => simp [awaiting] at wasUp
      | ended idle => exact absurd (.inr idle) open_
  · intro waiting
    rw [Logged.perform_state] at waiting ⊢
    rw [Logged.perform_trace, since_snoc]
    cases effect with
    | kept timer | wrote _ _ timer =>
      have asked : (log.state.apply label).pingSentMs = log.state.pingSentMs :=
        congrArg KeepAliveTimer.asked timer
      rw [asked]
      exact .inr ⟨ledger.stamp ((congrArg KeepAliveTimer.outstanding timer).symm.trans waiting),
        unsettled waiting⟩
    | pinged now isTimer due room timer =>
      subst isTimer
      have asked : (log.state.apply (.keepAlive now)).pingSentMs = now :=
        congrArg KeepAliveTimer.asked timer
      exact .inl ⟨pings_of_due due room, by rw [asked]⟩
    | began _ _ timer => exact absurd (timer.symm.trans waiting) (by simp)
    | ponged _ _ _ _ _ _ timer | established _ _ timer | ended _ timer =>
      exact absurd ((congrArg KeepAliveTimer.outstanding timer).symm.trans waiting) (by simp)

/-! ## Timeouts -/

/-- A packet in hand failed for what it says. -/
theorem History.handling_error {rest : Option Nat} {error : Error} {total : Nat}
    (here : Control.of log.trace = .handling rest error total) : error.ofPacket = true := by
  refine history.invariant
    (fun log => ∀ rest error total, Control.of log.trace = .handling rest error total →
      error.ofPacket = true)
    (fun log label prior permitted ih rest error total here => ?_) (by simp) rest error total here
  rw [Logged.perform_trace, Control.of_snoc] at here
  rcases Control.handling_of_after permitted here with ⟨header, body, now, rfl, rfl⟩ | before
  · exact Client.handlePacket_error prior.slotsSized header body now
  · exact ih rest error total before

/-- A pass that is to close for a timeout of its own found it in the check of a timer. -/
theorem History.timeout_cases {reason : Error} (closing : Control.of log.trace = .closing reason)
    (busy : log.state.state ≠ .idle) (silent : ¬ JustAnswered reason log.trace)
    (timeout : reason = .keepAliveTimeout ∨ reason = .connectTimeout) :
    ∃ earlier label now, History earlier ∧ Permitted earlier label ∧
      log = earlier.perform Client.apply label ∧
      (earlier.state.react label).error = reason ∧
      (label = .deadline now ∧ Control.of earlier.trace = .awaiting ∨
        label = .keepAlive now) := by
  cases history with
  | refl => cases closing
  | @step earlier label prior permitted =>
    have reached : History earlier := prior
    simp only [Logged.perform_trace, Control.of_snoc] at closing
    have closes := Control.closes_of_after permitted closing
    generalize place : Control.of earlier.trace = control at closes
    cases closes with
    | answered answer => exact absurd ⟨⟨earlier.state, label⟩, by simp, answer⟩ silent
    | late now isDeadline error =>
      exact ⟨earlier, label, now, reached, permitted, rfl, error, .inl ⟨isDeadline, place⟩⟩
    | silent now isTimer error =>
      exact ⟨earlier, label, now, reached, permitted, rfl, error, .inr isTimer⟩
    | packet rest total =>
      have known := reached.handling_error place
      rcases timeout with rfl | rfl <;> cases known
    | handler rest total isDiscard error failed =>
      subst isDiscard
      exact absurd ((reached.lastError_of_busy busy).symm.trans error) failed.symm
    | found comes =>
      cases comes with
      | departed => simp at timeout
      | refused _ refuses =>
        rcases refuses with rfl | unread
        · simp at timeout
        · rcases peekHeader_error_cases unread with rfl | rfl <;> simp at timeout

end

namespace Client

variable {c : Client cfg}

theorem expired_of_error {now : UInt32} (failed : (c.react (.keepAlive now)).error ≠ .ok) :
    c.pingOutstanding = true ∧ elapsedMs now c.pingSentMs > c.keepAliveMs ∧
      c.apply (.keepAlive now) = c := by
  have outcome := c.pumpKeepAlive_outcome now
  have reacts : c.react (.keepAlive now) = c.pumpKeepAlive now := rfl
  rw [apply, reacts]
  rw [reacts] at failed
  generalize c.pumpKeepAlive now = reaction at outcome failed
  cases outcome with
  | expired _ waiting late => exact ⟨waiting, late, rfl⟩
  | _ => exact absurd rfl failed

theorem publishInto_error_timeless (index : Nat) (id : UInt16) (topic payload : Bytes)
    (qos : QoS) (retain : Bool) (now later : UInt32) :
    (c.publishInto index id topic payload qos retain now).error =
      (c.publishInto index id topic payload qos retain later).error := by
  unfold publishInto
  simp only
  split
  · rfl
  · split <;> rfl

/-- The clock decides no publish. -/
theorem publish_error_timeless (topic payload : Bytes) (qos : QoS) (retain : Bool)
    (now later : UInt32) :
    (c.publish topic payload qos retain now).error =
      (c.publish topic payload qos retain later).error := by
  unfold publish
  split_ifs
  all_goals try rfl
  split
  · rfl
  · simp only
    split
    · rfl
    · exact publishInto_error_timeless _ _ topic payload qos retain now later

/-- It decides no subscribe. -/
theorem subscribe_error_timeless (subs : List TopicSubscription) (handler : Option Nat)
    (now later : UInt32) :
    (c.subscribe subs handler now).error = (c.subscribe subs handler later).error := by
  unfold subscribe sendSubscribe
  split_ifs
  all_goals try rfl
  split
  · rfl
  · simp only
    split
    · rfl
    · split <;> rfl

theorem unsubscribe_error_timeless (filters : List Bytes) (now later : UInt32) :
    (c.unsubscribe filters now).error = (c.unsubscribe filters later).error := by
  unfold unsubscribe sendUnsubscribe
  split_ifs
  all_goals try rfl
  split
  · rfl
  · simp only
    split
    · rfl
    · split <;> rfl

theorem handlePacket_error_timeless (header : FixedHeader) (body : Bytes) (now later : UInt32) :
    (c.handlePacket header body now).error = (c.handlePacket header body later).error := by
  unfold handlePacket handlePubrec
  split
  all_goals try rfl
  split
  · rfl
  · split
    · rfl
    · simp only
      split_ifs
      · split <;> simp [sendPubrel_error]
      · simp [sendPubrel_error]
      · rfl

/-- In `Connected` with nothing outstanding, a piece of code fails at every time or at
none. -/
theorem error_timeless (up : c.state = .connected) (idle : c.pingOutstanding = false)
    {label : Label} (inTime : ∀ now, label ≠ .deadline now) :
    (c.react label).error = (c.react label.timeless).error := by
  cases label with
  | connect opts now => simp [Label.timeless, react, connect, up, refuse]
  | publish topic payload qos retain now =>
    exact publish_error_timeless topic payload qos retain now 0
  | subscribe subs handler now => exact subscribe_error_timeless subs handler now 0
  | unsubscribe filters now => exact unsubscribe_error_timeless filters now 0
  | handle header body now => exact handlePacket_error_timeless header body now 0
  | deadline now => exact absurd rfl (inTime now)
  | keepAlive now =>
    have fine : ∀ now, (c.react (.keepAlive now)).error = .ok := by
      intro now
      by_contra failed
      simp [(expired_of_error failed).1] at idle
    rw [Label.timeless, fine, fine]
  | resubscribe now =>
    have fine : ∀ now, (c.react (.resubscribe now)).error = .ok := by
      intro now
      rcases c.pumpResubscribe_cases now with ⟨_, _, _, same⟩ | ⟨_, _, _, _, _, _, same⟩ <;>
        simp [react, same]
    rw [Label.timeless, fine, fine]
  | retransmit now =>
    have fine : ∀ now, (c.react (.retransmit now)).error = .ok := by
      intro now
      obtain ⟨_, _, _, _, same, _⟩ := c.pumpRetransmit_cases now
      simp [react, same]
    rw [Label.timeless, fine, fine]
  | transportConnect result now =>
    simp only [Label.timeless, react]
    split_ifs <;> rfl
  | send result written now =>
    simp only [Label.timeless, react]
    split_ifs <;> rfl
  | recv result bytes now =>
    simp only [Label.timeless, react]
    split_ifs <;> rfl
  | _ => rfl

end Client

/-- Keep-alive timeouts are sound in every run. -/
theorem timeouts_sound (cfg : Config) (env : Env) (application : Script) :
    TimeoutsSound (World.exec cfg env application).trace := by
  have history := World.exec_history cfg env application
  have answeredFirst : ∀ before event after,
      (World.exec cfg env application).trace = before ++ event :: after → event.pings = true →
      ¬ Since (fun event => event.pings = true) Entry.Settles before := by
    intro before event after split pings awaits
    obtain ⟨log, reached, rfl, here, _⟩ := history.cut split
    obtain ⟨c, label⟩ := event
    obtain rfl : c = log.state := here
    obtain ⟨now, _, ⟨_, idle, _⟩, _⟩ := reached.due_of_pings pings
    exact absurd (reached.pingLedger.flag awaits) (by simp [idle])
  constructor
  · intro before first middle second after split pingsFirst pingsSecond sameConnection
    obtain ⟨event, inside, settles⟩ :=
      exists_spoils_between answeredFirst split pingsFirst pingsSecond
    exact ⟨event, inside, settles.resolve_right (sameConnection event inside)⟩
  · intro before event after split ends busy silent
    obtain ⟨log, reached, rfl, here, permitted, _⟩ := history.cut split
    rw [ends] at permitted
    rw [here] at busy
    obtain ⟨earlier, label, now, prior, _, rfl, error, ⟨rfl, _⟩ | rfl⟩ :=
      reached.timeout_cases permitted busy silent (.inl rfl)
    · simp only [Client.react] at error
      split at error <;> cases error
    · obtain ⟨waiting, late, _⟩ := Client.expired_of_error (by rw [error]; simp)
      obtain ⟨past, ping, middle, whole, ⟨pings, asked⟩, unsettled⟩ :=
        prior.pingLedger.stamp waiting
      exact ⟨past, ping, middle, ⟨earlier.state, .keepAlive now⟩, earlier.state.pingSentMs, now,
        by rw [Logged.perform_trace, whole], asked, pings, unsettled, rfl, late⟩
  · intro before event after split up settled other same
    obtain ⟨log, reached, rfl, here, permitted, _⟩ := history.cut split
    have idle : log.state.pingOutstanding = false := by
      by_contra waiting
      exact settled (reached.pingLedger.awaitsPong (by simpa using waiting))
    rw [here] at up
    have inTime : ∀ now, event.label ≠ .deadline now := by
      intro now isDeadline
      rw [isDeadline] at permitted
      have fits := reached.fits
      rw [show Control.of log.trace = .awaiting from permitted] at fits
      rcases fits.2 with state | state <;> simp [state] at up
    have otherInTime : ∀ now, other ≠ .deadline now := by
      rintro now rfl
      cases label : event.label <;> simp [label, Label.timeless] at same
      exact inTime _ label
    rw [Entry.reaction, here, Client.error_timeless up idle inTime,
      Client.error_timeless up idle otherInTime, same]
  · intro before event after reason split up settled ends silent
    obtain ⟨log, reached, rfl, here, permitted, _⟩ := history.cut split
    rw [ends] at permitted
    rw [here] at up
    by_contra timeout
    obtain ⟨earlier, label, now, prior, _, rfl, error, ⟨rfl, place⟩ | rfl⟩ :=
      reached.timeout_cases permitted (by simp [up]) silent (by tauto)
    · have fits := prior.fits
      rw [place] at fits
      have up : earlier.state.state = .connected := up
      rcases fits.2 with state | state <;> simp [state] at up
    · have failed : (earlier.state.react (.keepAlive now)).error ≠ .ok := by
        rintro fine
        rw [fine] at error
        simp [← error] at timeout
      obtain ⟨waiting, _, same⟩ := Client.expired_of_error failed
      exact settled (reached.pingLedger.awaitsPong (by rw [Logged.perform_state, same, waiting]))

end Mqtt
