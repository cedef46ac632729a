import Mqtt.Session.TransportUse

/-!
# What `step()` and `last_error()` report

A session ends in `shutdown()`, which notifies the application unless there was
no session, and leaves its reason in `last_error_`. `step()` returns the reason
of the end it came to; when a handler ended the session, it reads it back from
`last_error_`.
-/

namespace Mqtt

open Library

variable {cfg : Config}

namespace Client

variable (c : Client cfg)

/-- The reason with which the label runs `shutdown()`, if it does. -/
def endReason (label : Label) : Option Error :=
  if c.closesTransport label then
    match label with
    | .abort => some .transportClosed
    | .shutdown reason => some reason
    | _ => some .ok
  else none

/-- Whether the label is a `connect()` that succeeds. -/
def begins (label : Label) : Bool :=
  match label with
  | .connect _ _ => (c.react label).error = .ok
  | _ => false

variable {c}

/-- `shutdown()` notifies if there was a session, and leaves its reason. -/
theorem of_endReason {label : Label} {reason : Error} (ends : c.endReason label = some reason) :
    (c.react label).callback = (if c.state ≠ .idle then some (.onDisconnect reason) else none) ∧
      (c.apply label).lastError = reason ∧ (c.apply label).state = .idle ∧
      c.begins label = false := by
  unfold endReason at ends
  split at ends
  · rename_i closes
    cases label <;> simp only [closesTransport, Bool.false_eq_true] at closes
    case abort =>
      obtain rfl : Error.transportClosed = reason := by simpa using ends
      exact ⟨rfl, rfl, rfl, rfl⟩
    case shutdown given =>
      obtain rfl : given = reason := by simpa using ends
      exact ⟨rfl, rfl, rfl, rfl⟩
    case disconnect =>
      obtain rfl : Error.ok = reason := by simpa using ends
      simp only [Bool.and_eq_true, Bool.not_eq_true', Bool.and_eq_false_iff, decide_eq_true_eq,
        decide_eq_false_iff_not] at closes
      rcases c.disconnect_cases with ⟨idle, _⟩ | ⟨up, room, _⟩ | ⟨_, _, _, same⟩
      · exact absurd idle closes.1
      · exact absurd closes.2 (by simp [up, room])
      · simp [apply, react, same, shutdown, teardown, markAllForResub, begins]
  · cases ends

/-- Without a session, only `abort()` and a pass that found it gone run
`shutdown()`. -/
theorem endReason_of_idle {label : Label} {reason : Error} (ends : c.endReason label = some reason)
    (idle : c.state = .idle) :
    label = .abort ∧ reason = .transportClosed ∨ label = .shutdown reason := by
  cases label <;> simp_all [endReason, closesTransport]

/-- Nothing else notifies, and only a `connect()` that succeeds touches the last
error. -/
theorem of_not_endReason {label : Label} (goesOn : c.endReason label = none) :
    (∀ reason, (c.react label).callback ≠ some (.onDisconnect reason)) ∧
      (c.apply label).lastError = (if c.begins label then .ok else c.lastError) ∧
      ((c.apply label).state = .idle → c.state = .idle ∧ c.begins label = false) := by
  by_cases quiet : isQuiet label = true
  · have kept := c.react_quiet quiet
    have noBegin : c.begins label = false := by cases label <;> first | rfl | cases quiet
    refine ⟨by simp [kept.callback], ?_, fun idle => ⟨kept.sameState.symm.trans idle, noBegin⟩⟩
    rw [noBegin]
    exact kept.lastError
  cases label <;> try exact absurd rfl quiet
  case connect opts now =>
    have frame := c.prepare_frame opts
    rcases c.connect_cases opts now with
      ⟨_, _, same⟩ | ⟨_, _, _, _, _, same⟩ | ⟨idle, _, _, _, same⟩
    · simp_all [apply, react, refuse, begins]
    · simp_all [apply, react, refuse, begins]
    · simp [apply, react, same, opened, begins]
  case disconnect =>
    rcases c.disconnect_cases with ⟨_, same⟩ | ⟨up, room, _, _, same⟩ | ⟨busy, full, _, same⟩
    · simp [apply, react, same, refuse, begins]
    · simp [apply, react, same, begins]
    · exfalso
      unfold endReason closesTransport at goesOn
      simp_all
  case handle header body now =>
    have kept := c.handlePacket_within header body now
    refine ⟨fun reason => ?_, kept.lastError, fun idle => ?_⟩
    · rcases c.amicable_handlePacket header body now with none | ⟨_, other⟩
      · simp [react, none]
      · exact other reason
    · rcases kept.state with same | ⟨_, up⟩
      · exact ⟨same.symm.trans idle, rfl⟩
      · exact absurd (up.symm.trans idle) (by simp)
  case abort => cases goesOn
  case shutdown reason => cases goesOn
  case transportConnect result now => by_cases up : result = .ok <;> simp [apply, react, begins, up]
  case send result written now => simp only [apply, react]; split <;> simp [begins]
  case recv result bytes now => simp only [apply, react]; split <;> simp [begins]
  all_goals simp [apply, react, begins]

theorem busy_after {label : Label} (goesOn : c.endReason label = none) (busy : c.state ≠ .idle) :
    (c.apply label).state ≠ .idle :=
  fun idle => busy ((of_not_endReason goesOn).2.2 idle).1

end Client

/-! ## The contract -/

/-- The event tells the application that its session ended for this reason. -/
def Library.Entry.Notifies (reason : Error) (event : Event cfg) : Prop :=
  event.reaction.callback = some (.onDisconnect reason)

/-- This reason was told during the current `step()`, and none after it. -/
def ToldLast (reason : Error) (trace : Trace cfg) : Prop :=
  Since (fun event => event.Notifies reason)
    (fun event => (∃ other, event.Notifies other) ∨ event.label = .stepEnter) trace

/-- What `last_error()` is to be after an event, given what it was to be before. -/
def Library.Entry.report (event : Event cfg) (last : Error) : Error :=
  match event.reaction.callback with
  | some (.onDisconnect reason) => reason
  | _ => if event.before.begins event.label then .ok else last

/-- The reason told last, or `Ok` if a `connect()` has succeeded since. -/
def reportedError (trace : Trace cfg) : Error :=
  trace.foldl (fun last event => event.report last) .ok

/-- Whatever `step()` returns other than `Ok` was told last during that `step()`. -/
def StepsReport (trace : Trace cfg) : Prop :=
  ∀ before event after result, trace = before ++ event :: after →
    event.label = .stepLeave result → result ≠ .ok → ToldLast result before

/-- `last_error()` agrees with what was reported, before every event and at the
end. -/
def LastErrorReported (log : Log cfg) : Prop :=
  Throughout (fun c trace => c.lastError = reportedError trace) log

theorem reportedError_snoc (trace : Trace cfg) (event : Event cfg) :
    reportedError (trace ++ [event]) = event.report (reportedError trace) := by
  simp [reportedError]

/-! ## What handlers are to leave undone -/

/-- Whether the `on_disconnect` handler of a session that `step()` ended runs. -/
def Control.isEnding : Control → Bool
  | .ending _ => true
  | _ => false

/-- The event is not one of three: the return of a handler that hard-closed the
session through `disconnect()`; an `abort()` that finds no session and changes
the last error; the end of a session begun in the `on_disconnect` handler that
is told of another one's end. -/
def Control.candid (control : Control) (event : Event cfg) : Bool :=
  event.handlerReported &&
  (event.label ≠ .abort || event.before.state ≠ .idle ||
    event.before.lastError = .transportClosed) &&
  (!control.isEnding || event.before.state = .idle ||
    !event.before.closesTransport event.label)

theorem Control.candid_iff {control : Control} {event : Event cfg} :
    control.candid event = true ↔
      event.handlerReported = true ∧
      (event.label = .abort → event.before.state = .idle →
        event.before.lastError = .transportClosed) ∧
      (control.isEnding = true → event.before.closesTransport event.label = true →
        event.before.state = .idle) := by
  simp only [Control.candid, Bool.and_eq_true, Bool.or_eq_true, Bool.not_eq_true',
    decide_eq_true_eq, and_assoc, ← Bool.not_eq_true]
  tauto

/-- Every event of the history is. -/
def Candid (trace : Trace cfg) : Prop :=
  ∀ position (within : position < trace.length),
    (Control.of (trace.take position)).candid (trace.get ⟨position, within⟩) = true

instance (trace : Trace cfg) : Decidable (Candid trace) :=
  inferInstanceAs (Decidable (∀ position (_ : position < trace.length), _))

theorem Candid.at {trace before after : Trace cfg} {event : Event cfg} (candid : Candid trace)
    (split : trace = before ++ event :: after) : (Control.of before).candid event = true := by
  subst split
  simpa using candid before.length (by simp)

theorem Candid.of_append {before after : Trace cfg} (candid : Candid (before ++ after)) :
    Candid before := by
  intro position within
  have here := candid position (by simp only [List.length_append]; omega)
  rw [List.take_append_of_le_length (by omega)] at here
  simpa [List.getElem_append_left within] using here

/-! ## Why it holds -/

/-- What has been told in each place. -/
def Control.Told (control : Control) (c : Client cfg) (trace : Trace cfg) : Prop :=
  match control with
  | .handling _ error _ => c.state ≠ .idle ∨ error = .ok ∧ ToldLast c.lastError trace
  | .closing reason => c.state ≠ .idle ∨ reason = c.lastError ∧ ToldLast reason trace
  | .ending reason => ToldLast reason trace
  | .leaving result => result = .ok ∨ ToldLast result trace
  | _ => True

theorem toldLast_of_notifies {reason : Error} {trace : Trace cfg} {event : Event cfg}
    (notifies : event.Notifies reason) : ToldLast reason (trace ++ [event]) :=
  since_snoc.mpr (.inl notifies)

theorem ToldLast.snoc {reason : Error} {trace : Trace cfg} {event : Event cfg}
    (told : ToldLast reason trace) (silent : ∀ other, ¬ event.Notifies other)
    (within : event.label ≠ .stepEnter) : ToldLast reason (trace ++ [event]) :=
  since_snoc.mpr (.inr ⟨told, by rintro (⟨other, notifies⟩ | enters)
                                 · exact silent other notifies
                                 · exact within enters⟩)

section Step

variable {c : Client cfg} {trace : Trace cfg} {label : Label}

/-- One label keeps the last error in agreement with what was told. -/
theorem lastError_after (agrees : c.lastError = reportedError trace)
    (unchanged : ∀ reason, c.endReason label = some reason → c.state = .idle →
      reason = c.lastError) :
    (c.apply label).lastError = reportedError (trace ++ [⟨c, label⟩]) := by
  rw [reportedError_snoc, ← agrees]
  unfold Entry.report Entry.reaction
  cases ends : c.endReason label with
  | some reason =>
    obtain ⟨callback, lastError, _, noBegin⟩ := Client.of_endReason ends
    rw [lastError, callback]
    by_cases idle : c.state = .idle
    · simp [idle, noBegin, unchanged reason ends idle]
    · simp [idle]
  | none =>
    obtain ⟨silent, lastError, _⟩ := Client.of_not_endReason ends
    rw [lastError]
    cases callback : (c.react label).callback with
    | none => rfl
    | some handler =>
      cases handler with
      | onDisconnect reason => exact absurd callback (silent reason)
      | _ => rfl

namespace Control

theorem Plain.told {control : Control} (plain : control.Plain) (busy : c.state ≠ .idle) :
    control.Told c trace := by
  cases control <;> first | trivial | exact plain.elim | exact .inl plain | exact .inl busy

/-- A call of the application keeps what was told. -/
theorem Told.after_call {control : Control} (told : control.Told c trace)
    (isCall : label.isCall = true) (runs : control.appRuns = true)
    (candid : control.candid ⟨c, label⟩ = true) :
    control.Told (c.apply label) (trace ++ [⟨c, label⟩]) := by
  obtain ⟨_, idleAbort, noEnd⟩ := candid_iff.mp candid
  have within : label ≠ .stepEnter := by rintro rfl; cases isCall
  cases ends : c.endReason label with
  | none =>
    obtain ⟨silent, lastError, onlyIdle⟩ := Client.of_not_endReason ends
    rcases appRuns_cases runs with rfl | ⟨rest, total, rfl⟩ | ⟨reason, rfl⟩
    · trivial
    · by_cases idle : (c.apply label).state = .idle
      · obtain ⟨wasIdle, noBegin⟩ := onlyIdle idle
        rw [noBegin] at lastError
        obtain ⟨_, last⟩ := told.resolve_left (not_not.mpr wasIdle)
        exact .inr ⟨rfl, lastError ▸ last.snoc silent within⟩
      · exact .inl idle
    · exact ToldLast.snoc told silent within
  | some reason =>
    obtain ⟨callback, lastError, _⟩ := Client.of_endReason ends
    have closes : c.closesTransport label = true := by
      by_contra no
      simp [Client.endReason, no] at ends
    by_cases idle : c.state = .idle
    · -- Only `abort()` ends a session that does not exist.
      obtain ⟨rfl, _⟩ := (Client.endReason_of_idle ends idle).resolve_right (by
        rintro rfl
        cases isCall)
      have silent : ∀ other, (c.react .abort).callback ≠ some (.onDisconnect other) := by
        simp [callback, idle]
      rcases appRuns_cases runs with rfl | ⟨rest, total, rfl⟩ | ⟨ended, rfl⟩
      · trivial
      · obtain ⟨_, last⟩ := told.resolve_left (not_not.mpr idle)
        have same : (c.apply .abort).lastError = c.lastError := (idleAbort rfl idle).symm
        exact .inr ⟨rfl, same ▸ last.snoc silent within⟩
      · exact ToldLast.snoc told silent within
    · rcases appRuns_cases runs with rfl | ⟨rest, total, rfl⟩ | ⟨ended, rfl⟩
      · trivial
      · refine .inr ⟨rfl, toldLast_of_notifies ?_⟩
        rw [lastError]
        exact callback.trans (if_pos idle)
      · exact absurd (noEnd rfl closes) idle

/-- One label keeps what was told. -/
theorem Told.after {control : Control} (told : control.Told c trace)
    (connected : control.Connected c) (fits : control.Fits c) (permits : control.Permits c label)
    (candid : control.candid ⟨c, label⟩ = true) :
    (control.after c label).Told (c.apply label) (trace ++ [⟨c, label⟩]) := by
  have busy : c.endReason label = none → c.state ≠ .idle → (c.apply label).state ≠ .idle :=
    Client.busy_after
  have moves := moves_of_permits permits
  generalize control.after c label = next at moves ⊢
  cases moves with
  | call runs isCall => exact told.after_call isCall runs candid
  | aside runs isAside =>
    have silent : ∀ other, ¬ Entry.Notifies other (⟨c, label⟩ : Event cfg) := by
      intro other
      cases label <;> simp only [Label.isAside, Bool.false_eq_true] at isAside <;>
        simp [Entry.Notifies, Entry.reaction, Client.react]
    have within : label ≠ .stepEnter := by
      rintro rfl
      cases isAside
    rw [c.apply_aside isAside]
    rcases appRuns_cases runs with rfl | ⟨rest, total, rfl⟩ | ⟨reason, rfl⟩
    · trivial
    · exact told.imp id fun last => ⟨rfl, last.2.snoc silent within⟩
    · exact ToldLast.snoc told silent within
  | enterIdle | flushed => exact .inl rfl
  | enterOpening | blocked | leave | leaveEnded | resubscribed => trivial
  | enter idle settled => exact plain_sendStage.told idle
  | opened now => exact plain_sendStage.told (busy rfl (by simp [fits.2]))
  | inTime now => exact .inl rfl
  | sent => exact plain_sendStage.told (busy rfl ((Client.isLive_iff c).mp connected).1)
  | pumped => exact comes_pumpedStage.plain.told (busy rfl ((Client.isLive_iff c).mp connected).1)
  | flushes => exact plain_flushStage.told (busy rfl ((Client.isLive_iff c).mp connected).1)
  | received =>
    exact (comes_drainStage _).plain.told (busy rfl ((Client.isLive_iff c).mp connected).1)
  | handled => exact .inl (busy rfl ((Client.isLive_iff c).mp connected).1)
  | consumed rest count inside =>
    obtain ⟨atLeast, live | emptied⟩ := connected
    · exact (comes_drainStage rest).plain.told (busy rfl ((Client.isLive_iff c).mp live).1)
    · simp only [emptied, List.length_nil] at inside
      omega
  | discarded rest total short fine =>
    refine (comes_drainedStage rest).plain.told (busy rfl fun idle => ?_)
    simpa [Entry.handlerReported, idle, fine] using (candid_iff.mp candid).1
  | keptAlive now => trivial
  | retransmitted now => exact plain_flushStage.told (busy rfl (by simp [fits.2]))
  | fails reason failed why =>
    cases why with
    | connect => exact .inl (busy rfl (by simp [fits.2]))
    | deadline => exact .inl (busy rfl (by rcases fits.2 with here | here <;> simp [here]))
    | send | flush | recv => exact .inl (busy rfl ((Client.isLive_iff c).mp connected).1)
    | keepAlive => exact .inl (busy rfl (by simp [fits.2]))
    | consumed | discarded =>
      exact .inl (busy rfl (told.resolve_right fun ended => failed ended.1))
    | handler rest total isLast =>
      refine told.imp (busy rfl) fun ended => ⟨isLast.symm, isLast ▸ ended.2.snoc ?_ (by simp)⟩
      simp [Entry.Notifies, Entry.reaction, Client.react]
  | closed reason idle =>
    obtain ⟨callback, _⟩ := @Client.of_endReason _ c (.shutdown reason) reason rfl
    refine .inr (((told.resolve_left (not_not.mpr idle)).2).snoc (fun other notifies => ?_)
      (by simp))
    rw [Entry.Notifies, Entry.reaction, callback, if_neg (not_not.mpr idle)] at notifies
    cases notifies
  | ended reason isBusy =>
    obtain ⟨callback, _⟩ := @Client.of_endReason _ c (.shutdown reason) reason rfl
    exact toldLast_of_notifies (callback.trans (if_pos isBusy))

end Control

end Step

/-- In a candid history every end is told, and `last_error()` says which was the
last. -/
theorem History.told {log : Log cfg} (history : History log) (candid : Candid log.trace) :
    (Control.of log.trace).Told log.state log.trace ∧
      log.state.lastError = reportedError log.trace := by
  have restricted := @Logged.Reaches.restrict _ _ _ _ _ _
    (fun log label => (Control.of log.trace).candid ⟨log.state, label⟩ = true)
    history fun _ _ _ _ _ split => candid.at split
  have kept := Logged.Reaches.invariant
    (fun log => (Control.of log.trace).Fits log.state ∧ (Control.of log.trace).Connected log.state ∧
      (Control.of log.trace).Told log.state log.trace ∧
      log.state.lastError = reportedError log.trace)
    (fun log label permitted holds => ?_) restricted ⟨rfl, trivial, trivial, rfl⟩
  · exact kept.2.2
  obtain ⟨fits, connected, told, agrees⟩ := holds
  obtain ⟨permits, isCandid⟩ := permitted
  obtain ⟨reported, idleAbort, _⟩ := Control.candid_iff.mp isCandid
  simp only [Logged.perform_trace, Logged.perform_state, Control.of_snoc]
  refine ⟨fits.after permits, connected.after fits permits fun isDiscard idle => ?_,
    told.after connected fits permits isCandid, lastError_after agrees fun reason ends idle => ?_⟩
  · simpa [Entry.handlerReported, isDiscard, idle] using reported
  · rcases Client.endReason_of_idle ends idle with ⟨rfl, rfl⟩ | rfl
    · exact (idleAbort rfl idle).symm
    · rw [show Control.of log.trace = .closing reason from permits] at told
      exact (told.resolve_left (not_not.mpr idle)).1

/-- In a candid run, `step()` returns what was told last and `last_error()`
agrees. -/
theorem step_reports (cfg : Config) (env : Env) (application : Script)
    (candid : Candid (World.exec cfg env application).trace) :
    StepsReport (World.exec cfg env application).trace ∧
      LastErrorReported (World.exec cfg env application).log := by
  have history := World.exec_history cfg env application
  refine ⟨fun before event after result split leaves failed => ?_,
    history.throughout candid (fun _ _ => Candid.of_append) fun _ reached candid =>
      (reached.told candid).2⟩
  obtain ⟨log, reached, rfl, here, permitted, _⟩ := history.cut split
  have told := (reached.told (Candid.of_append (split ▸ candid))).1
  rw [leaves] at permitted
  rcases permitted with place | place <;> rw [place] at told
  · exact told.resolve_left failed
  · exact told

/-! ## A handler that disconnects twice -/

namespace Reporting

/-- CONNACK and a PUBLISH arrive; the message handler hard-closes the session and
the closed transport says so. -/
def env : Env :=
  { TransportUse.env with
    recvs := [(.ok, [0x20, 2, 0, 0, 0x30, 3, 0, 1, 116]), (.transportClosed, [])] }

/-- The message handler aborts instead. -/
def candidEnv : Env := { env with messageScripts := [⟨.abort .done .done, rfl⟩] }

def run : World .small := World.exec .small env TransportUse.application

end Reporting

theorem step_reports_abort :
    StepsReport (World.exec .small Reporting.candidEnv TransportUse.application).trace ∧
      LastErrorReported (World.exec .small Reporting.candidEnv TransportUse.application).log :=
  step_reports .small Reporting.candidEnv TransportUse.application (by decide +kernel)

/-- `step()` returns `TransportClosed` and leaves it in `last_error()`, but the
application was told `Ok`. -/
theorem hard_close_misreported :
    ¬ StepsReport Reporting.run.trace ∧ ¬ LastErrorReported Reporting.run.log := by
  refine ⟨fun reports => ?_, fun reported => ?_⟩
  · have split := split_at_position Reporting.run.trace
      (show 14 < Reporting.run.trace.length by decide +kernel)
    obtain ⟨before, event, after, within, told, _⟩ :=
      reports _ _ _ .transportClosed split (by decide +kernel) (by decide)
    have silent : ∀ event ∈ Reporting.run.trace.take 14,
        event.reaction.callback ≠ some (.onDisconnect .transportClosed) := by decide +kernel
    exact silent event (by simp [within]) told
  · exact absurd reported.2 (by decide +kernel)

end Mqtt
