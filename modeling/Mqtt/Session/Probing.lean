import Mqtt.Session.KeepAlive

/-!
# Probing a silent peer

A `step()` that leaves the client connected has just run the keep-alive timer, so
the peer is being probed or has been written to lately. The probe is dropped,
though, when the transmit queue has no room for its two bytes, which is how a dead
peer leaves the queue.
-/

namespace Mqtt

open Library

variable {cfg : Config}

/-! ## The contract -/

/-- The clock reading a label was taken with. -/
def Label.time : Label → Option UInt32
  | .connect _ now | .publish _ _ _ _ now | .subscribe _ _ now | .unsubscribe _ now
  | .transportConnect _ now | .deadline now | .send _ _ now | .recv _ _ now | .handle _ _ now
  | .keepAlive now | .resubscribe now | .retransmit now => some now
  | _ => none

namespace Library.Entry

variable (event : Event cfg)

/-- The event reads the clock at another time. -/
def ReadsOther (now : UInt32) : Prop :=
  event.reaction.readClock = true ∧ event.label.time ≠ some now

instance (now : UInt32) : Decidable (event.ReadsOther now) :=
  inferInstanceAs (Decidable (_ ∧ _))

/-- A `step()` returns `Ok` and leaves the client connected, with the timer on. -/
def LeavesUp : Prop :=
  event.label = .stepLeave .ok ∧ event.before.state = .connected ∧ event.before.keepAliveMs ≠ 0

instance : Decidable event.LeavesUp := inferInstanceAs (Decidable (_ ∧ _ ∧ _))

/-- A packet is processed, or the transport accepts bytes. -/
def stirs : Bool :=
  match event.label with
  | .handle _ _ _ => true
  | .send result written _ => result = .ok && written ≠ 0
  | _ => false

/-- If the timer finds a PINGREQ due, the queue has room for it. -/
def roomToPing : Bool :=
  match event.label with
  | .keepAlive now => !decide (event.before.PingDue now) || decide (event.before.HasRoom 2)
  | _ => true

end Library.Entry

/-- The clock has stood at this time since the current `step()` was entered. -/
def StepAt (now : UInt32) (trace : Trace cfg) : Prop :=
  Since (fun event => event.label = .stepEnter) (fun event => event.ReadsOther now) trace

instance (now : UInt32) (trace : Trace cfg) : Decidable (StepAt now trace) :=
  inferInstanceAs (Decidable (Since _ _ _))

/-- A PINGREQ was queued at most the interval ago and is unanswered, or the transport
accepted bytes less than the threshold ago. -/
def Client.Probed (c : Client cfg) (now : UInt32) : Prop :=
  (c.pingOutstanding = true ∧ elapsedMs now c.pingSentMs ≤ c.keepAliveMs) ∨
    elapsedMs now c.lastSentMs < c.keepAliveMs - c.keepAliveMs / 4

instance (c : Client cfg) (now : UInt32) : Decidable (c.Probed now) :=
  inferInstanceAs (Decidable (_ ∨ _))

/-- A silent peer is always being probed. -/
structure AlwaysProbed (trace : Trace cfg) : Prop where
  probed : ∀ before event after now, trace = before ++ event :: after → event.LeavesUp →
    StepAt now before → event.before.Probed now
  /-- Once the threshold has passed, a connection on which nothing is accepted and nothing
  arrives is left up only within the interval after a PINGREQ of a fixed time. -/
  dropped : ∀ before first middle second after start now,
    trace = before ++ first :: middle ++ second :: after → first.LeavesUp → second.LeavesUp →
    (∀ event ∈ middle, event.stirs = false) → StepAt start before →
    StepAt now (before ++ first :: middle) →
    ¬ elapsedMs start first.before.lastSentMs <
      first.before.keepAliveMs - first.before.keepAliveMs / 4 →
    elapsedMs now first.before.pingSentMs ≤ first.before.keepAliveMs

/-! ## Why it holds -/

theorem threshold_pos {interval : UInt32} (enabled : interval ≠ 0) :
    0 < interval - interval / 4 := by
  grind

namespace Client

variable {c : Client cfg} {now : UInt32}

/-- What the timer has just made sure of: an outstanding PINGREQ is not late, and without
one none is due. -/
def Watched (c : Client cfg) (now : UInt32) : Prop :=
  c.keepAliveMs ≠ 0 →
    (c.pingOutstanding = true → elapsedMs now c.pingSentMs ≤ c.keepAliveMs) ∧
      (c.pingOutstanding = false →
        elapsedMs now c.lastSentMs < c.keepAliveMs - c.keepAliveMs / 4)

theorem Watched.probed (watched : c.Watched now) (enabled : c.keepAliveMs ≠ 0) : c.Probed now := by
  obtain ⟨inTime, recent⟩ := watched enabled
  cases waiting : c.pingOutstanding with
  | true => exact .inl ⟨waiting, inTime waiting⟩
  | false => exact .inr (recent waiting)

theorem Watched.of_timer {d : Client cfg} (watched : c.Watched now) (same : d.timer = c.timer) :
    d.Watched now := by
  have interval : d.keepAliveMs = c.keepAliveMs := congrArg KeepAliveTimer.interval same
  have lastSent : d.lastSentMs = c.lastSentMs := congrArg KeepAliveTimer.lastSent same
  have outstanding : d.pingOutstanding = c.pingOutstanding :=
    congrArg KeepAliveTimer.outstanding same
  have asked : d.pingSentMs = c.pingSentMs := congrArg KeepAliveTimer.asked same
  unfold Watched
  rw [interval, lastSent, outstanding, asked]
  exact watched

/-- Bytes that are accepted put the next PINGREQ off. -/
theorem Watched.send {result : Error} {written : Nat} {time : UInt32} (watched : c.Watched now)
    (onTime : ¬ Entry.ReadsOther ⟨c, .send result written time⟩ now) :
    (c.apply (.send result written time)).Watched now := by
  by_cases accepted : result = .ok ∧ written ≠ 0
  · obtain rfl : time = now := by
      simpa [Entry.ReadsOther, Entry.reaction, react, accepted, Label.time] using onTime
    simp only [apply, react, if_pos accepted]
    refine fun enabled => ⟨(watched enabled).1, fun _ => ?_⟩
    simp only [elapsedMs, UInt32.sub_self]
    exact threshold_pos enabled
  · simp only [apply, react, if_neg accepted]
    exact watched

/-- A check that passes makes sure of it, if there is room for the PINGREQ. -/
theorem watched_keepAlive {time : UInt32} (onTime : ¬ Entry.ReadsOther ⟨c, .keepAlive time⟩ now)
    (room : Entry.roomToPing ⟨c, .keepAlive time⟩ = true)
    (passed : (c.react (.keepAlive time)).error = .ok) :
    (c.apply (.keepAlive time)).Watched now := by
  have outcome := c.pumpKeepAlive_outcome time
  have reacts : c.react (.keepAlive time) = c.pumpKeepAlive time := rfl
  simp only [Entry.ReadsOther, Entry.reaction, Label.time, apply, reacts] at onTime passed ⊢
  generalize c.pumpKeepAlive time = reaction at outcome onTime passed
  cases outcome with
  | off disabled => exact fun enabled => absurd disabled enabled
  | expired => cases passed
  | waits _ waiting intime =>
    obtain rfl : time = now := by simpa using onTime
    exact fun _ => ⟨fun _ => UInt32.not_lt.mp intime, fun idle => by simp [waiting] at idle⟩
  | rests _ idle recent =>
    obtain rfl : time = now := by simpa using onTime
    exact fun _ => ⟨fun waiting => by simp [idle] at waiting, fun _ => recent⟩
  | pings =>
    obtain rfl : time = now := by simpa using onTime
    exact fun _ => ⟨fun _ => by simp [elapsedMs], fun idle => by cases idle⟩
  | skips _ due full => simp [Entry.roomToPing, due, full] at room

/-- Only a packet brings a session up. -/
theorem down_of_down {label : Label} (down : c.state ≠ .connected)
    (notPacket : label.isHandle = false) : (c.apply label).state ≠ .connected := by
  rcases c.apply_state_cases label with
    same | ⟨_, _, _, _, moved⟩ | ⟨_, _, _, moved⟩ | ⟨_, moved⟩ | ⟨_, _, moved⟩ | ⟨_, _, _, rfl, _⟩
  · rwa [same]
  · simp [moved]
  · simp [moved]
  · simp [moved]
  · simp [moved]
  · cases notPacket

end Client

namespace Control

variable {c : Client cfg} {now : UInt32}

/-- From the timer to the end of the pass, what it made sure of stands. A session that the
pass ended is not up again. -/
def Watched (control : Control) (c : Client cfg) (now : UInt32) : Prop :=
  match control with
  | .resubscribing | .retransmitting | .flushing | .leaving .ok =>
    c.state = .connected → c.Watched now
  | .ending _ => c.state ≠ .connected
  | _ => True

theorem watched_of_down {control : Control} (down : c.state ≠ .connected) :
    control.Watched c now := by
  unfold Watched
  split
  · exact fun up => absurd up down
  · exact fun up => absurd up down
  · exact fun up => absurd up down
  · exact fun up => absurd up down
  · exact down
  · trivial

theorem Comes.watched {control : Control} (comes : Comes c control) : control.Watched c now := by
  cases comes with
  | flushing _ down | leaving down => exact watched_of_down down
  | _ => trivial

theorem watched_sendStage : (sendStage c).Watched c now := by
  unfold sendStage
  split
  · exact comes_pumpedStage.watched
  · trivial

theorem watched_flushStage (watched : c.state = .connected → c.Watched now) :
    (flushStage c).Watched c now := by
  unfold flushStage
  split <;> exact watched

/-- One label that reads the clock at this time. -/
theorem Watched.after {control : Control} {label : Label} (watched : control.Watched c now)
    (fits : control.Fits c) (permits : control.Permits c label)
    (onTime : ¬ Entry.ReadsOther ⟨c, label⟩ now) (room : Entry.roomToPing ⟨c, label⟩ = true) :
    (control.after c label).Watched (c.apply label) now := by
  have outer : control.appRuns = true → label.isHandle = false →
      control.Watched (c.apply label) now := by
    intro runs notPacket
    rcases appRuns_cases runs with rfl | ⟨rest, total, rfl⟩ | ⟨reason, rfl⟩
    · trivial
    · trivial
    · exact Client.down_of_down watched notPacket
  have moves := moves_of_permits permits
  generalize control.after c label = next at moves ⊢
  cases moves with
  | call runs isCall =>
    refine outer runs ?_
    cases label <;> first | rfl | cases isCall
  | aside runs isAside =>
    refine outer runs ?_
    cases label <;> first | rfl | cases isAside
  | enterIdle idle => exact watched_of_down (show c.state ≠ .connected by simp [idle])
  | enter | opened | sent => exact watched_sendStage
  | inTime time =>
    refine watched_of_down ?_
    rcases fits.2 with state | state <;> simp [Client.apply, Client.react, state]
  | pumped => exact comes_pumpedStage.watched
  | flushes written time =>
    exact watched_flushStage fun up => Client.Watched.send
      (watched ((c.state_of_send _ _ _).symm.trans up)) onTime
  | flushed result written time =>
    exact fun up => Client.Watched.send (watched ((c.state_of_send _ _ _).symm.trans up)) onTime
  | received | consumed => exact (comes_drainStage _).watched
  | discarded => exact (comes_drainedStage _).watched
  | keptAlive time fine => exact fun _ => Client.watched_keepAlive onTime room fine
  | resubscribed time => exact fun _ => (watched fits.2).of_timer (c.resubscribe_timer time)
  | retransmitted time =>
    exact watched_flushStage fun _ => (watched fits.2).of_timer (c.retransmit_timer time)
  | closed reason | ended reason =>
    have down : (c.apply (.shutdown reason)).state = .idle := rfl
    exact watched_of_down (by simp [down])
  | _ => trivial

end Control

theorem History.watched {log : Log cfg} (history : History log)
    (room : ∀ event ∈ log.trace, event.roomToPing = true) {now : UInt32}
    (step : StepAt now log.trace) : (Control.of log.trace).Watched log.state now := by
  refine Logged.Reaches.invariant_of (fun event : Event cfg => event.roomToPing = true)
    (fun log => StepAt now log.trace → (Control.of log.trace).Watched log.state now)
    (fun log label prior permitted room ih step => ?_) history rfl room
    (by simp [StepAt]) step
  rw [StepAt, Logged.perform_trace, since_snoc] at step
  rw [Logged.perform_trace, Control.of_snoc]
  rcases step with enters | ⟨running, onTime⟩
  · simp only at enters
    subst enters
    have place : Control.of log.trace = .outside := permitted
    rw [place]
    exact Control.Watched.after trivial (place ▸ History.fits prior) rfl
      (fun reads => by cases reads.1) room
  · exact (ih running).after (History.fits prior) permitted onTime room

/-- While nothing stirs and the client stays connected, an outstanding PINGREQ keeps its
time. -/
theorem timer_of_silence {start finish : Log cfg}
    (reaches : Logged.Reaches Client.apply Permitted start finish) {middle : Trace cfg}
    (split : finish.trace = start.trace ++ middle)
    (silent : ∀ event ∈ middle, event.stirs = false) (up : finish.state.state = .connected)
    (waiting : start.state.pingOutstanding = true) : finish.state.timer = start.state.timer := by
  refine Logged.Reaches.invariant_of (fun event : Event cfg => event.stirs = false)
    (fun log => log.state.state = .connected → log.state.timer = start.state.timer)
    (fun log label prior permitted silent ih up => ?_) reaches split silent
    (fun _ => rfl) up
  simp only [Logged.perform_state] at up ⊢
  have notPacket : label.isHandle = false := by
    cases label <;> first | rfl | cases silent
  have wasUp : log.state.state = .connected := by
    by_contra down
    exact Client.down_of_down down notPacket up
  have kept := ih wasUp
  cases log.state.timerEffect label with
  | kept timer => exact timer.trans kept
  | pinged _ _ due =>
    have outstanding := congrArg KeepAliveTimer.outstanding kept
    exact absurd (due.2.1.symm.trans (outstanding.trans waiting)) (by simp)
  | ponged _ _ _ isPacket =>
    subst isPacket
    cases silent
  | wrote now accepted =>
    rcases accepted with rfl | ⟨written, rfl, some_⟩
    · simp [Client.apply, Client.react] at up
    · simp [Entry.stirs, some_] at silent
  | began idle => simp [idle] at wasUp
  | established awaiting => simp [awaiting] at wasUp
  | ended idle => simp [idle] at up

/-- While there is room for every PINGREQ that is due, a silent peer is always being
probed. -/
theorem always_probed (cfg : Config) (env : Env) (application : Script)
    (room : ∀ event ∈ (World.exec cfg env application).trace, event.roomToPing = true) :
    AlwaysProbed (World.exec cfg env application).trace := by
  have history := World.exec_history cfg env application
  have watched : ∀ before event after now,
      (World.exec cfg env application).trace = before ++ event :: after → event.LeavesUp →
      StepAt now before → event.before.Watched now := by
    intro before event after now split ⟨leaves, up, _⟩ step
    obtain ⟨log, reached, rfl, here, permitted, _⟩ := history.cut split
    have holds := reached.watched (fun event member => room event (by simp [split, member])) step
    rw [leaves] at permitted
    rw [here] at up ⊢
    rcases permitted with place | place <;> rw [place] at holds
    · exact holds up
    · exact absurd up holds
  constructor
  · intro before event after now split leaves step
    exact (watched before event after now split leaves step).probed leaves.2.2
  · intro before first middle second after start now split leavesFirst leavesSecond silent
      stepFirst stepSecond passed
    have waiting : first.before.pingOutstanding = true := by
      have front := watched before first (middle ++ second :: after) start (by simp [split])
        leavesFirst stepFirst leavesFirst.2.2
      by_contra idle
      exact passed (front.2 (by simpa using idle))
    have back := watched (before ++ first :: middle) second after now split leavesSecond stepSecond
      leavesSecond.2.2
    obtain ⟨log, later, _, rfl, here, _, onward, grown, there, _⟩ := history.between split
    obtain ⟨c, label⟩ := first
    obtain rfl : c = log.state := here
    obtain rfl : label = .stepLeave .ok := leavesFirst.1
    have same := timer_of_silence onward grown silent (there ▸ leavesSecond.2.1) waiting
    rw [there] at back
    have asked : later.state.pingSentMs = log.state.pingSentMs :=
      congrArg KeepAliveTimer.asked same
    have interval : later.state.keepAliveMs = log.state.keepAliveMs :=
      congrArg KeepAliveTimer.interval same
    have inTime := back.1 ((congrArg KeepAliveTimer.outstanding same).trans waiting)
    rwa [asked, interval] at inTime

/-! ## A peer that stops reading -/

namespace Probing

def options : ConnectOptions := { clientId := [99], keepAliveS := 1 }

/-- Connect, then step twice while nothing arrives and nothing is accepted. -/
def application : Script := .connect options (.step (.step (.step .done)))

/-- The same with a message in between that fills the queue. -/
def fullApplication : Script :=
  .connect options
    (.step (.publish [116] [1, 2, 3, 4, 5, 6, 7, 8, 9, 10, 11] .atMostOnce false (.step .done)))

/-- The CONNECT is answered at 0, the second step is at 900 and the third at 60000. -/
def env : Env where
  clock := [0, 0, 0, 0, 0, 0, 900, 900, 60000]
  opens := [.ok]
  sends := [(.ok, 15)]
  recvs := [(.ok, [0x20, 2, 0, 0])]

/-- The second step is at 60000. -/
def lateEnv : Env := { env with clock := [0, 0, 0, 0, 0, 0, 60000] }

def run : World .small := World.exec .small env application

def fullRun : World .small := World.exec .small lateEnv fullApplication

end Probing

/-- With room in the queue the peer is probed at 900 and given up at 60000. -/
theorem always_probed_timeout :
    AlwaysProbed Probing.run.trace ∧ (∃ event ∈ Probing.run.trace, event.pings = true) ∧
      Probing.run.client.lastError = .keepAliveTimeout :=
  ⟨always_probed .small Probing.env Probing.application (by decide +kernel), by decide +kernel,
    by decide +kernel⟩

/-- A full queue keeps the PINGREQ out, and the client stays connected after 60 seconds of
silence. -/
theorem full_queue_unprobed : ¬ AlwaysProbed Probing.fullRun.trace := by
  intro always
  have split := split_at_position Probing.fullRun.trace (show 20 < _ by decide +kernel)
  exact absurd (always.probed _ _ _ 60000 split (by decide +kernel) (by decide +kernel))
    (by decide +kernel)

end Mqtt
