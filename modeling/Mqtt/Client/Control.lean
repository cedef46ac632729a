import Mqtt.Client.Run

/-!
# The control flow as an automaton

`Control` is the place in `step()` where the client stands between two labelled
pieces, and `Permits` says which pieces may run there. Moves that touch neither
the client nor its environment are folded into the function that computes the
next place, so the automaton moves exactly once per label.

Application code may run in three places: outside `step()`, in the handler a
packet ended by invoking, and in the `on_disconnect` handler of a session that
`step()` itself ended. The automaton lets it make any call there.
-/

namespace Mqtt

open Library

/-- Where the client stands. `rest` is the number of receive rounds left after
the current one, or `none` when the current drain is the last thing `pump_rx`
does. -/
inductive Control where
  | outside
  | opening
  | awaiting
  | sending
  | receiving (rest : Nat)
  | draining (rest : Option Nat)
  | handling (rest : Option Nat) (error : Error) (total : Nat)
  | keepingAlive
  | resubscribing
  | retransmitting
  | flushing
  | closing (reason : Error)
  | ending (reason : Error)
  | leaving (result : Error)
  deriving DecidableEq, Repr

namespace Control

variable {cfg : Config}

/-! ## Silent moves

Each function is the place reached from the start of one stage of the pass. -/

/-- The second `pump_tx`. -/
def flushStage (c : Client cfg) : Control := if c.tx.isEmpty then .leaving .ok else .flushing

/-- After `pump_rx` succeeded. -/
def receivedStage (c : Client cfg) : Control :=
  if c.state = .connecting then .leaving .ok
  else if c.state = .awaitingConnack then .awaiting
  else if c.state = .connected then .keepingAlive
  else flushStage c

/-- The top of a receive round that finds room in the buffer. -/
def roundStage (c : Client cfg) : Nat → Control
  | 0 => receivedStage c
  | rest + 1 => .receiving rest

/-- After `drain_rx` succeeded. -/
def drainedStage (c : Client cfg) : Option Nat → Control
  | none => receivedStage c
  | some rest =>
    if c.state = .connecting then receivedStage c
    else if c.rx.length = cfg.rxBufferSize then .closing .packetTooLarge
    else roundStage c rest

/-- The top of the loop of `drain_rx`. -/
def drainStage (c : Client cfg) (rest : Option Nat) : Control :=
  if c.rx = [] then drainedStage c rest
  else
    match peekHeader c.rx with
    | .error error => if error = .incomplete then drainedStage c rest else .closing error
    | .ok p =>
      if p.totalBytes > cfg.rxBufferSize then .closing .packetTooLarge
      else if c.rx.length < p.totalBytes then drainedStage c rest
      else .draining rest

/-- The start of `pump_rx`. -/
def receiveStage (c : Client cfg) : Control :=
  if c.rx.length < cfg.rxBufferSize then .receiving (World.kMaxRecvRoundsPerStep - 1)
  else drainStage c (some (World.kMaxRecvRoundsPerStep - 1))

/-- After the first `pump_tx` succeeded. -/
def pumpedStage (c : Client cfg) : Control :=
  if c.state = .disconnecting ∧ c.tx.isEmpty then .closing .ok else receiveStage c

/-- The first `pump_tx`. -/
def sendStage (c : Client cfg) : Control := if c.tx.isEmpty then pumpedStage c else .sending

/-- The start of `step_once`. -/
def enterStage (c : Client cfg) : Control :=
  if c.state = .idle then .leaving .ok
  else if c.state = .connecting then .opening
  else sendStage c

/-- Close on an error, and go on otherwise. -/
def orClose (error : Error) (next : Control) : Control :=
  if error ≠ .ok then .closing error else next

/-! ## One label -/

/-- Size of the packet at the front of the receive buffer. -/
def frontTotal (rx : Bytes) : Nat :=
  match peekHeader rx with
  | .ok p => p.totalBytes
  | .error _ => 0

/-- The packet at the front of the receive buffer is this one, and complete. -/
def Fronts (rx : Bytes) (header : FixedHeader) (body : Bytes) : Prop :=
  ∃ p, peekHeader rx = .ok p ∧ p.totalBytes ≤ rx.length ∧ header = p.header ∧
    body = (rx.drop p.headerBytes).take p.header.remainingLength

/-- The place after a label. -/
def after (control : Control) (before : Client cfg) (label : Label) : Control :=
  let reaction := before.react label
  let c := reaction.client
  match control, label with
  | .outside, .stepEnter => enterStage c
  | .opening, .transportConnect result _ =>
    if result = .wouldBlock then .awaiting else orClose result (sendStage c)
  | .awaiting, .deadline _ => orClose reaction.error (.leaving .ok)
  | .sending, .send result written _ =>
    if result = .wouldBlock then pumpedStage c
    else orClose result (if written = 0 then pumpedStage c else sendStage c)
  | .receiving rest, .recv result bytes _ =>
    if result = .wouldBlock then drainStage c none
    else orClose result (drainStage c (if bytes = [] then none else some rest))
  | .draining rest, .handle _ _ _ =>
    .handling rest reaction.error (frontTotal before.rx)
  | .handling rest error _, .consume _ => orClose error (drainStage c rest)
  | .handling rest error _, .discard =>
    orClose (if error ≠ .ok then error else before.lastError) (drainedStage c rest)
  | .keepingAlive, .keepAlive _ => orClose reaction.error .resubscribing
  | .resubscribing, .resubscribe _ => .retransmitting
  | .retransmitting, .retransmit _ => flushStage c
  | .flushing, .send result written _ =>
    if result = .wouldBlock then .leaving .ok
    else orClose result (if written = 0 then .leaving .ok else flushStage c)
  | .closing _, .shutdown reason =>
    -- Without a session there is nobody to notify.
    if before.state = .idle then .leaving reason else .ending reason
  | .ending _, .stepLeave _ => .outside
  | .leaving _, .stepLeave _ => .outside
  | control, _ => control

/-- Places where application code runs. A packet that failed has no handler. -/
def appRuns : Control → Bool
  | .outside | .handling _ .ok _ | .ending _ => true
  | _ => false

theorem appRuns_cases {control : Control} (runs : control.appRuns = true) :
    control = .outside ∨ (∃ rest total, control = .handling rest .ok total) ∨
      ∃ reason, control = .ending reason := by
  unfold appRuns at runs
  split at runs <;> simp_all

/-- The labels that may be taken in a place. -/
def Permits (control : Control) (c : Client cfg) : Label → Prop
  | .connect _ _ | .disconnect | .abort | .publish _ _ _ _ _ | .subscribe _ _ _
  | .unsubscribe _ _ => control.appRuns = true
  | .onMessage _ _ => (∃ rest total, control = .handling rest .ok total) ∧ c.state = .connected
  | .stepRefused => control.appRuns = true ∧ control ≠ .outside
  | .stepEnter => control = .outside
  | .stepLeave result => control = .leaving result ∨ control = .ending result
  | .shutdown reason => control = .closing reason
  | .transportConnect _ _ => control = .opening
  | .deadline _ => control = .awaiting
  | .send _ _ _ => (control = .sending ∨ control = .flushing) ∧ c.tx.isEmpty = false
  | .recv _ bytes _ =>
    (∃ rest, control = .receiving rest) ∧ c.rx.length < cfg.rxBufferSize ∧
      c.rx.length + bytes.length ≤ cfg.rxBufferSize
  | .handle header body _ => (∃ rest, control = .draining rest) ∧ Fronts c.rx header body
  | .consume count =>
    ∃ rest error, control = .handling rest error count ∧ count ≤ c.rx.length
  | .discard => ∃ rest error total, control = .handling rest error total ∧ c.rx.length < total
  | .keepAlive _ => control = .keepingAlive
  | .resubscribe _ => control = .resubscribing
  | .retransmit _ => control = .retransmitting

/-- A pass that is to close does nothing else first. -/
theorem permits_closing {reason : Error} {c : Client cfg} {label : Label}
    (permits : (closing reason).Permits c label) : label = .shutdown reason := by
  cases label <;> simp_all [Permits, appRuns]

/-- After a packet that failed the buffer is cleared, and the pass is to close. -/
theorem permits_failed {rest : Option Nat} {error : Error} {total : Nat} {c : Client cfg}
    {label : Label} (failed : error ≠ .ok) (permits : (handling rest error total).Permits c label) :
    (label = .consume total ∨ label = .discard) ∧
      (handling rest error total).after c label = .closing error := by
  have silent : (handling rest error total).appRuns = false := by
    cases error <;> first | rfl | exact absurd rfl failed
  cases label <;> simp_all [Permits, Control.after, orClose]

/-- The place a history leads to. -/
def of (trace : Trace cfg) : Control :=
  trace.foldl (fun control entry => control.after entry.before entry.label) .outside

@[simp] theorem of_nil : of ([] : Trace cfg) = .outside := rfl

@[simp] theorem of_snoc (trace : Trace cfg) (entry : Event cfg) :
    of (trace ++ [entry]) = (of trace).after entry.before entry.label := by
  simp [of]

end Control

variable {cfg : Config}

/-- What the client did at one entry of its history. -/
def Library.Entry.reaction (event : Event cfg) : Reaction cfg :=
  event.before.react event.label

/-- The event ends the session, or leaves none. -/
def Library.Entry.EndsSession (event : Event cfg) : Prop :=
  (event.before.apply event.label).state = .idle

instance (event : Event cfg) : Decidable event.EndsSession :=
  inferInstanceAs (Decidable (_ = _))

/-- The labels that may extend a history. -/
def Permitted (log : Log cfg) (label : Label) : Prop :=
  (Control.of log.trace).Permits log.state label

/-- A history of the client: what the control flow permits, from a fresh client. -/
def History (log : Log cfg) : Prop :=
  Logged.Reaches Client.apply Permitted ⟨Client.initial cfg, []⟩ log

/-- What is true at the start and kept by every permitted piece of code is true throughout. -/
theorem History.invariant {log : Log cfg} (history : History log) (Inv : Log cfg → Prop)
    (kept : ∀ log label, History log → Permitted log label → Inv log →
      Inv (log.perform Client.apply label)) (start : Inv ⟨Client.initial cfg, []⟩) : Inv log :=
  Logged.Reaches.invariant_of (fun _ => True) Inv
    (fun log label prior permitted _ => kept log label prior permitted) history rfl (by simp) start

/-- Every entry of a history was permitted where an earlier history led. -/
theorem History.cut {log : Log cfg} (history : History log) {before after : Trace cfg}
    {entry : Event cfg} (split : log.trace = before ++ entry :: after) :
    ∃ earlier, History earlier ∧ earlier.trace = before ∧ entry.before = earlier.state ∧
      Permitted earlier entry.label ∧
      Logged.Reaches Client.apply Permitted (earlier.perform Client.apply entry.label) log := by
  simpa [History] using @Logged.Reaches.cut _ _ _ _ _ _ history before after entry
    (by simpa using split)

/-- A history up to any point of its trace. -/
theorem History.upTo {log : Log cfg} (history : History log)
    {before after : Trace cfg} (split : log.trace = before ++ after) :
    ∃ earlier, History earlier ∧ earlier.trace = before ∧
      Logged.Reaches Client.apply Permitted earlier log := by
  cases after with
  | nil => exact ⟨log, history, by simpa using split, .refl⟩
  | cons entry rest =>
    obtain ⟨earlier, reached, trace, _, permitted, onward⟩ := history.cut split
    exact ⟨earlier, reached, trace, (Logged.Reaches.single permitted).trans onward⟩

/-- The part of a history from one of its entries to a later one. -/
theorem History.between {log : Log cfg} (history : History log) {before middle after : Trace cfg}
    {first second : Event cfg} (split : log.trace = before ++ first :: middle ++ second :: after) :
    ∃ start finish, History start ∧ start.trace = before ∧ first.before = start.state ∧
      Permitted start first.label ∧
      Logged.Reaches Client.apply Permitted (start.perform Client.apply first.label) finish ∧
      finish.trace = (start.perform Client.apply first.label).trace ++ middle ∧
      second.before = finish.state ∧ Permitted finish second.label := by
  obtain ⟨start, reached, trace, firstBefore, permitted, onward⟩ :=
    @History.cut _ _ history before (middle ++ second :: after) first (by simpa using split)
  have here : (start.perform Client.apply first.label).trace = before ++ [first] := by
    simp [trace, ← firstBefore]
  obtain ⟨finish, onward, finishTrace, secondBefore, secondPermitted, _⟩ :=
    @Logged.Reaches.cut _ _ _ _ _ _ onward middle after second (by rw [here, split]; simp)
  exact ⟨start, finish, reached, trace, firstBefore, permitted, onward, finishTrace,
    secondBefore, secondPermitted⟩

/-- The property holds at every point of the history. -/
def Throughout (P : Client cfg → Trace cfg → Prop) (log : Log cfg) : Prop :=
  (∀ before event after, log.trace = before ++ event :: after → P event.before before) ∧
    P log.state log.trace

/-- What holds at the end of every history that meets a condition holds throughout
such histories, if the condition is inherited by earlier ones. -/
theorem History.throughout {P : Client cfg → Trace cfg → Prop} {Meets : Trace cfg → Prop}
    {log : Log cfg} (history : History log) (meets : Meets log.trace)
    (inherited : ∀ before after, Meets (before ++ after) → Meets before)
    (holds : ∀ log, History log → Meets log.trace → P log.state log.trace) : Throughout P log := by
  refine ⟨fun before event after split => ?_, holds log history meets⟩
  obtain ⟨earlier, reached, rfl, here, _⟩ := history.cut split
  rw [here]
  exact holds earlier reached (inherited _ _ (split ▸ meets))

end Mqtt
