import Mqtt.Client.Control
import Mqtt.Client.LabelEffects

/-!
# Every run follows the automaton

The functions of `Run` take exactly the labels the automaton permits, so a whole
run is a history. Each function has one statement: from the place its stage
starts in it reaches the place the next stage starts in.

`runScript_induct` is the rule for application code: whatever every call keeps,
a script keeps.
-/

namespace Mqtt

open Library

variable {cfg : Config}

/-- A call an application makes. -/
def Label.isCall : Label → Bool
  | .connect _ _ | .disconnect | .abort | .publish _ _ _ _ _ | .subscribe _ _ _
  | .unsubscribe _ _ => true
  | _ => false

namespace Client

/-- A call leaves the receive buffer alone or empties it. -/
theorem call_frame (c : Client cfg) {label : Label} (isCall : label.isCall = true) :
    (c.apply label).inStep = c.inStep ∧
      ((c.apply label).rx = c.rx ∨ (c.apply label).rx = []) := by
  cases label <;> simp only [Label.isCall, Bool.false_eq_true] at isCall
  case connect opts now =>
    rcases c.connect_cases opts now with
      ⟨error, _, same⟩ | ⟨_, error, tx, _, _, same⟩ | ⟨_, _, tx, _, same⟩
    · simp [apply, react, same, refuse]
    all_goals
      simp only [apply, react, same, refuse, opened, prepare]
      split <;> simp [resetSessionState, markAllForResub]
  case disconnect =>
    rcases c.disconnect_cases with ⟨_, same⟩ | ⟨_, _, tx, _, same⟩ | ⟨_, _, tx, same⟩
    all_goals simp [apply, react, same, refuse, shutdown, teardown, markAllForResub]
  case abort => simp [apply, react, abort, shutdown, teardown, markAllForResub]
  case publish topic payload qos retain now =>
    have within := c.publish_quiet topic payload qos retain now
    exact ⟨within.inStep, .inl within.rx⟩
  case subscribe subs handler now =>
    have within := c.subscribe_quiet subs handler now
    exact ⟨within.inStep, .inl within.rx⟩
  case unsubscribe filters now =>
    have within := c.unsubscribe_quiet filters now
    exact ⟨within.inStep, .inl within.rx⟩

/-- A call never adds to the receive buffer. -/
theorem length_rx_of_isCall (c : Client cfg) {label : Label} (isCall : label.isCall = true) :
    (c.apply label).rx.length ≤ c.rx.length := by
  rcases (c.call_frame isCall).2 with same | emptied
  · exact Nat.le_of_eq (by rw [same])
  · simp [emptied]

/-- A `send` that took something leaves fewer bytes queued. -/
theorem pending_send_lt (c : Client cfg) {written : Nat} (busy : c.tx.isEmpty = false)
    (took : written ≠ 0) (now : UInt32) :
    (c.apply (.send .ok written now)).tx.pending < c.tx.pending := by
  have nonempty : c.tx.peek ≠ [] := fun nothing => by
    simp [c.tx.isEmpty_iff.mpr nothing] at busy
  have positive := List.length_pos_iff.mpr nonempty
  have dropped : (c.apply (.send .ok written now)).tx = c.tx.consume written := by
    simp only [apply, react, true_and, if_pos took]
  rw [dropped, ← TxQueue.length_peek, ← TxQueue.length_peek, TxQueue.peek_consume,
    List.length_drop]
  omega

end Client

namespace World

/-! ## Application code keeps what every call keeps -/

section Scripts

variable {Keeps : Log cfg → Prop}

theorem endingCall_induct {w : World cfg} {onDisconnect : World cfg → World cfg} {label : Label}
    (call : Keeps w.log → Keeps (w.act label).log)
    (handler : ∀ w : World cfg, Keeps w.log → Keeps (onDisconnect w).log)
    (start : Keeps w.log) : Keeps (w.endingCall onDisconnect label).log := by
  unfold endingCall
  split
  · exact handler _ (call start)
  · exact call start

theorem runScript_induct {step : World cfg → World cfg}
    (calls : ∀ (w : World cfg) label, label.isCall = true → Keeps w.log →
      Keeps (w.act label).log)
    (steps : ∀ w : World cfg, Keeps w.log → Keeps (step w).log) (script : Script)
    (w : World cfg) (start : Keeps w.log) : Keeps (runScript step script w).log := by
  induction script generalizing w with
  | done => exact start
  | connect opts next onward => exact onward _ (calls _ _ rfl start)
  | disconnect onEnd next handler onward =>
    exact onward _ (endingCall_induct (calls _ _ rfl) handler start)
  | abort onEnd next handler onward =>
    exact onward _ (endingCall_induct (calls _ _ rfl) handler start)
  | publish topic payload qos retain next onward => exact onward _ (calls _ _ rfl start)
  | subscribe subs handler next onward => exact onward _ (calls _ _ rfl start)
  | unsubscribe filters next onward => exact onward _ (calls _ _ rfl start)
  | step next onward => exact onward _ (steps _ start)

variable (calls : ∀ (w : World cfg) label, label.isCall = true → Keeps w.log →
    Keeps (w.act label).log)
  (refused : ∀ w : World cfg, Keeps w.log → Keeps (w.act .stepRefused).log)

include calls refused

/-- A handler's script keeps what its calls keep. -/
theorem runHandler_induct {w : World cfg} (start : Keeps w.log) : Keeps w.runHandler.log :=
  runScript_induct calls refused _ _ start

section Messages

variable {m : Message} (messages : ∀ (w : World cfg) subscription, w.client.state = .connected →
    Keeps w.log → Keeps (w.act (.onMessage subscription m)).log)

include messages

/-- So does the handling of a message. -/
theorem runMessageHandler_induct {w : World cfg} {subscription : Option Nat}
    (up : w.client.state = .connected) (start : Keeps w.log) :
    Keeps (w.runMessageHandler subscription m).log :=
  runScript_induct calls refused _ _ (messages w subscription up start)

/-- The loop goes on only while the session is up. -/
theorem dispatchLoop_induct (indices : List Nat) (handled : Bool) (w : World cfg)
    (up : w.client.state = .connected) (start : Keeps w.log) :
    Keeps (dispatchLoop m indices handled w).log := by
  induction indices generalizing handled w with
  | nil =>
    unfold dispatchLoop
    split
    · exact start
    · exact runMessageHandler_induct calls refused messages up start
  | cons index rest onward =>
    unfold dispatchLoop
    split
    · exact onward _ _ up start
    · simp only
      split
      · have invoked : Keeps (w.runMessageHandler (some index) m).log :=
          runMessageHandler_induct calls refused messages up start
        split
        · exact invoked
        · rename_i stillUp
          exact onward _ _ (not_not.mp stillUp) invoked
      · exact onward _ _ up start

end Messages

/-- So does any callback. -/
theorem runCallback_induct {w : World cfg} {callback : Callback}
    (messages : ∀ m, callback = .dispatch m → ∀ (w : World cfg) subscription,
      w.client.state = .connected → Keeps w.log → Keeps (w.act (.onMessage subscription m)).log)
    (up : ∀ m, callback = .dispatch m → w.client.state = .connected) (start : Keeps w.log) :
    Keeps (w.runCallback callback).log := by
  cases callback with
  | dispatch m =>
    exact dispatchLoop_induct calls refused (messages m rfl) _ _ _ (up m rfl) start
  | onConnect info => exact runHandler_induct calls refused start
  | onDelivery id => exact runHandler_induct calls refused start
  | onSuback id codes => exact runHandler_induct calls refused start
  | onDisconnect reason => exact runHandler_induct calls refused start

end Scripts

/-- Handling a packet adds nothing to the buffer. -/
theorem handlePacket_length_rx (w : World cfg) (header : FixedHeader) (body : Bytes) :
    (w.handlePacket header body).2.client.rx.length ≤ w.client.rx.length := by
  have kept : (w.act (.handle header body w.env.now)).client.rx.length ≤ w.client.rx.length :=
    Nat.le_of_eq (congrArg _ (w.client.handlePacket_within header body w.env.now).rx)
  unfold handlePacket perform
  split
  · exact kept
  · rename_i callback runs
    exact @runCallback_induct cfg (fun log => log.state.rx.length ≤ w.client.rx.length)
      (fun v label isCall bounded => Nat.le_trans (v.client.length_rx_of_isCall isCall) bounded)
      (fun _ bounded => bounded) _ _ (fun _ _ _ _ _ bounded => bounded)
      (fun m isDispatch => (w.client.handlePacket_dispatch (isDispatch ▸ runs)).2) kept

/-! ## Places and permitted steps -/

variable {w v : World cfg} {label : Label}

/-- Where a world stands. -/
def control (w : World cfg) : Control := Control.of w.trace

/-- Zero or more permitted labels. -/
def Steps (w w' : World cfg) : Prop :=
  Logged.Reaches Client.apply Permitted w.log w'.log

@[simp] theorem control_act (w : World cfg) (label : Label) :
    (w.act label).control = w.control.after w.client label := by
  simp [control, act, trace, client]

@[simp] theorem client_act (w : World cfg) (label : Label) :
    (w.act label).client = w.client.apply label := rfl

/-- One permitted step is a run. -/
theorem Steps.act (permitted : w.control.Permits w.client label) : Steps w (w.act label) :=
  Logged.Reaches.single permitted

theorem Steps.refl (w : World cfg) : Steps w w := Logged.Reaches.refl

theorem Steps.trans {first second third : World cfg} (before : Steps first second)
    (after : Steps second third) : Steps first third :=
  Logged.Reaches.trans before after

/-! ## Handlers inside `step()` -/

/-- A call leaves `step()` where it stands. -/
theorem after_of_isCall (control : Control) (c : Client cfg)
    (isCall : label.isCall = true) : control.after c label = control := by
  cases label <;> simp only [Label.isCall, Bool.false_eq_true] at isCall
  all_goals cases control <;> rfl

/-- Application code may make any call. -/
theorem permits_of_isCall {control : Control} (runs : control.appRuns = true) (c : Client cfg)
    (isCall : label.isCall = true) : control.Permits c label := by
  cases label <;> simp only [Label.isCall, Bool.false_eq_true] at isCall
  all_goals exact runs

/-- What a handler run inside `step()` keeps: it takes permitted labels, stays in
its place, and leaves no more bytes in the receive buffer. -/
def HandlerKeeps (w : World cfg) (log : Log cfg) : Prop :=
  Logged.Reaches Client.apply Permitted w.log log ∧ Control.of log.trace = w.control ∧
    log.state.rx.length ≤ w.client.rx.length

theorem HandlerKeeps.act (permits : w.control.Permits v.client label)
    (stays : w.control.after v.client label = w.control)
    (shorter : (v.client.apply label).rx.length ≤ v.client.rx.length)
    (kept : HandlerKeeps w v.log) : HandlerKeeps w (v.act label).log := by
  obtain ⟨reaches, place, bounded⟩ := kept
  refine ⟨.step reaches ?_, ?_, Nat.le_trans shorter bounded⟩
  · unfold Permitted
    rw [place]
    exact permits
  · exact (control_act v label).trans ((congrArg (·.after v.client label) place).trans stays)

/-- A call inside a handler keeps the handler's place. -/
theorem HandlerKeeps.call (runs : w.control.appRuns = true) (isCall : label.isCall = true)
    (kept : HandlerKeeps w v.log) : HandlerKeeps w (v.act label).log :=
  kept.act (permits_of_isCall runs _ isCall) (after_of_isCall _ _ isCall)
    (v.client.length_rx_of_isCall isCall)

/-- So does a nested `step()`, which is refused. -/
theorem HandlerKeeps.refused (runs : w.control.appRuns = true) (inside : w.control ≠ .outside)
    (kept : HandlerKeeps w v.log) : HandlerKeeps w (v.act .stepRefused).log :=
  kept.act ⟨runs, inside⟩ (by cases w.control <;> rfl) (Nat.le_refl _)

/-- A handler hands the place back as it found it. -/
theorem runHandler_keeps (runs : w.control.appRuns = true)
    (inside : w.control ≠ .outside) : HandlerKeeps w w.runHandler.log :=
  @runHandler_induct cfg (HandlerKeeps w) (fun _ _ isCall kept => kept.call runs isCall)
    (fun _ kept => kept.refused runs inside) w ⟨.refl, rfl, Nat.le_refl _⟩

/-- So does whatever callback a packet runs. -/
theorem runCallback_keeps {rest : Option Nat} {total : Nat}
    (here : w.control = .handling rest .ok total) {callback : Callback}
    (up : ∀ m, callback = .dispatch m → w.client.state = .connected) :
    HandlerKeeps w (w.runCallback callback).log := by
  have runs : w.control.appRuns = true := by rw [here]; rfl
  have inside : w.control ≠ .outside := by simp [here]
  refine @runCallback_induct cfg (HandlerKeeps w) (fun _ _ isCall kept => kept.call runs isCall)
    (fun _ kept => kept.refused runs inside) w callback (fun m _ v subscription stillUp kept => ?_)
    up ⟨.refl, rfl, Nat.le_refl _⟩
  exact kept.act ⟨⟨rest, total, here⟩, stillUp⟩ (by rw [here]; rfl) (Nat.le_refl _)

/-! ## The receive path -/

/-- A packet and its handler: the place is `handling`, with the packet's error
and size. -/
theorem handlePacket_steps {rest : Option Nat} {header : FixedHeader} {body : Bytes}
    (here : w.control = .draining rest) (fronts : Control.Fronts w.client.rx header body) :
    Steps w (w.handlePacket header body).2 ∧
      (w.handlePacket header body).2.control =
        .handling rest (w.handlePacket header body).1 (Control.frontTotal w.client.rx) ∧
      (w.handlePacket header body).2.client.rx.length ≤ w.client.rx.length := by
  let label := Label.handle header body w.env.now
  have handled : Steps w (w.act label) := .act ⟨⟨rest, here⟩, fronts⟩
  have place : (w.act label).control =
      .handling rest (w.client.react label).error (Control.frontTotal w.client.rx) := by
    rw [control_act, here]
    rfl
  have sameRx : (w.act label).client.rx = w.client.rx :=
    (w.client.handlePacket_within header body w.env.now).rx
  unfold handlePacket perform
  split
  · exact ⟨handled, place, Nat.le_of_eq (congrArg _ sameRx)⟩
  · rename_i callback runs
    rw [show (w.client.react label).error = .ok from w.client.handlePacket_callback runs] at place
    obtain ⟨onward, stays, shorter⟩ := @runCallback_keeps cfg (w.act label) _ _ place callback
      fun m isDispatch => (w.client.handlePacket_dispatch (isDispatch ▸ runs)).2
    refine ⟨handled.trans onward, ?_, sameRx ▸ shorter⟩
    rw [show (w.client.react (.handle header body w.env.now)).error = .ok from
      w.client.handlePacket_callback runs]
    exact stays.trans place

/-- The drain loop takes permitted steps, by induction on its rounds. -/
theorem drainLoop_steps (rest : Option Nat) (rounds : Nat) (w : World cfg)
    (here : w.control = Control.drainStage w.client rest) (enough : w.client.rx.length < rounds) :
    Steps w (drainLoop rounds w).2 ∧
      (drainLoop rounds w).2.control =
        Control.orClose (drainLoop rounds w).1
          (Control.drainedStage (drainLoop rounds w).2.client rest) ∧
      (drainLoop rounds w).2.client.rx.length ≤ w.client.rx.length := by
  induction rounds generalizing w with
  | zero => omega
  | succ rounds ih =>
    by_cases nothing : w.client.rx = []
    · simp only [Control.drainStage, if_pos nothing] at here
      simp only [drainLoop, if_pos nothing]
      exact ⟨.refl w, here, Nat.le_refl _⟩
    cases peeked : peekHeader w.client.rx with
    | error error =>
      simp only [Control.drainStage, if_neg nothing, peeked] at here
      simp only [drainLoop, if_neg nothing, peeked]
      by_cases incomplete : error = .incomplete
      · rw [if_pos incomplete] at here ⊢
        exact ⟨.refl w, here, Nat.le_refl _⟩
      · rw [if_neg incomplete] at here ⊢
        refine ⟨.refl w, ?_, Nat.le_refl _⟩
        simp only [Control.orClose, if_pos (peekHeader_error peeked)]
        exact here
    | ok p =>
      simp only [Control.drainStage, if_neg nothing, peeked] at here
      by_cases large : p.totalBytes > cfg.rxBufferSize
      · simp only [drainLoop, if_neg nothing, peeked, if_pos large]
        rw [if_pos large] at here
        exact ⟨.refl w, here, Nat.le_refl _⟩
      by_cases short : w.client.rx.length < p.totalBytes
      · simp only [drainLoop, if_neg nothing, peeked, if_neg large, if_pos short]
        rw [if_neg large, if_pos short] at here
        exact ⟨.refl w, here, Nat.le_refl _⟩
      rw [if_neg large, if_neg short] at here
      have fronts : Control.Fronts w.client.rx p.header
          ((w.client.rx.drop p.headerBytes).take p.header.remainingLength) :=
        ⟨p, peeked, by omega, rfl, rfl⟩
      have total : Control.frontTotal w.client.rx = p.totalBytes := by
        simp only [Control.frontTotal, peeked]
      obtain ⟨handled, place, shorter⟩ := handlePacket_steps here fronts
      rw [total] at place
      simp only [drainLoop, if_neg nothing, peeked, if_neg large, if_neg short]
      generalize w.handlePacket p.header
        ((w.client.rx.drop p.headerBytes).take p.header.remainingLength) = result
        at handled place shorter ⊢
      obtain ⟨error, v⟩ := result
      simp only at handled place shorter ⊢
      by_cases emptied : v.client.rx.length < p.totalBytes
      · rw [if_pos emptied]
        refine ⟨handled.trans (.act ?_), ?_, by simp [Client.apply, Client.react]⟩
        · rw [place]
          exact ⟨rest, error, p.totalBytes, rfl, emptied⟩
        · rw [control_act, place]
          rfl
      · rw [if_neg emptied]
        have consumed : Steps w (v.act (.consume p.totalBytes)) := by
          refine handled.trans (.act ?_)
          rw [place]
          exact ⟨rest, error, rfl, by omega⟩
        have next : (v.act (.consume p.totalBytes)).control =
            Control.orClose error
              (Control.drainStage (v.act (.consume p.totalBytes)).client rest) := by
          rw [control_act, place]
          rfl
        have remaining : (v.act (.consume p.totalBytes)).client.rx.length =
            v.client.rx.length - p.totalBytes := by
          simp [Client.apply, Client.react]
        by_cases failed : error ≠ .ok
        · rw [if_pos failed]
          refine ⟨consumed, ?_, by simp only [remaining]; omega⟩
          simpa only [Control.orClose, if_pos failed] using next
        · rw [if_neg failed]
          simp only [Control.orClose, if_neg failed] at next
          have positive := peekHeader_total peeked
          obtain ⟨onward, arrives, bounded⟩ := ih _ next
            (by rw [remaining]; omega)
          exact ⟨consumed.trans onward, arrives, by omega⟩

/-- With as many rounds as bytes the drain runs to its end. -/
theorem drainRx_steps {rest : Option Nat} (here : w.control = Control.drainStage w.client rest) :
    Steps w w.drainRx.2 ∧
      w.drainRx.2.control =
        Control.orClose w.drainRx.1 (Control.drainedStage w.drainRx.2.client rest) ∧
      w.drainRx.2.client.rx.length ≤ w.client.rx.length :=
  drainLoop_steps rest _ w here (Nat.lt_succ_self _)

/-- The start of a receive round. -/
def roundStart (c : Client cfg) : Nat → Control
  | 0 => Control.receivedStage c
  | rest + 1 =>
    if c.rx.length < cfg.rxBufferSize then .receiving rest else Control.drainStage c (some rest)

/-- A round after a successful drain finds room in the buffer. -/
theorem roundStage_eq {c : Client cfg} (room : c.rx.length < cfg.rxBufferSize) (rest : Nat) :
    Control.roundStage c rest = roundStart c rest := by
  cases rest with
  | zero => rfl
  | succ rest => simp only [Control.roundStage, roundStart, if_pos room]

/-- One receive, the drain included. -/
theorem receive_steps {rest : Nat} (here : w.control = roundStart w.client (rest + 1))
    (bounded : w.client.rx.length ≤ cfg.rxBufferSize) :
    Steps w w.receive.2 ∧ w.receive.2.client.rx.length ≤ cfg.rxBufferSize ∧
      match w.receive.1 with
      | .failed error => error ≠ .ok ∧ w.receive.2.control = .closing error
      | .nothing => w.receive.2.control = Control.drainStage w.receive.2.client none
      | .bytes => w.receive.2.control = Control.drainStage w.receive.2.client (some rest) := by
  by_cases room : w.client.rx.length < cfg.rxBufferSize
  swap
  · simp only [roundStart, if_neg room] at here
    simp only [receive, if_neg room]
    exact ⟨.refl w, bounded, here⟩
  simp only [roundStart, if_pos room] at here
  let answer := w.nextRecv.1
  let bytes := answer.2.take (cfg.rxBufferSize - w.client.rx.length)
  let received := w.nextRecv.2.act (.recv answer.1 bytes w.nextRecv.2.env.now)
  have fits : w.client.rx.length + bytes.length ≤ cfg.rxBufferSize := by
    simp only [bytes, List.length_take]
    omega
  have taken : Steps w received := Steps.act (w := w.nextRecv.2) ⟨⟨rest, here⟩, room, fits⟩
  have place : received.control = (Control.receiving rest).after w.client
      (.recv answer.1 bytes w.nextRecv.2.env.now) := by
    rw [← here]
    exact control_act w.nextRecv.2 _
  have within : received.client.rx.length ≤ cfg.rxBufferSize := by
    show (w.client.apply (.recv answer.1 bytes w.nextRecv.2.env.now)).rx.length ≤ _
    simp only [Client.apply, Client.react]
    split
    · simpa using fits
    · exact bounded
  have unfolded : w.receive =
      if answer.1 = .wouldBlock then (.nothing, received)
      else if answer.1 ≠ .ok then (.failed answer.1, received)
      else if bytes = [] then (.nothing, received)
      else (.bytes, received) := by
    simp only [receive, if_pos room]
    rfl
  rw [unfolded]
  simp only [Control.after] at place
  by_cases blocked : answer.1 = .wouldBlock
  · rw [if_pos blocked] at place ⊢
    exact ⟨taken, within, place⟩
  rw [if_neg blocked] at place ⊢
  by_cases failed : answer.1 ≠ .ok
  · rw [if_pos failed]
    simp only [Control.orClose, if_pos failed] at place
    exact ⟨taken, within, failed, place⟩
  rw [if_neg failed]
  simp only [Control.orClose, if_neg failed] at place
  by_cases empty : bytes = []
  · rw [if_pos empty] at place ⊢
    exact ⟨taken, within, place⟩
  · rw [if_neg empty] at place ⊢
    exact ⟨taken, within, place⟩

/-- The receive pump takes permitted steps, by induction on its rounds. -/
theorem pumpRx_steps (rounds : Nat) (w : World cfg) (here : w.control = roundStart w.client rounds)
    (bounded : w.client.rx.length ≤ cfg.rxBufferSize) :
    Steps w (pumpRx rounds w).2 ∧
      (pumpRx rounds w).2.control =
        Control.orClose (pumpRx rounds w).1 (Control.receivedStage (pumpRx rounds w).2.client) := by
  induction rounds generalizing w with
  | zero => exact ⟨.refl w, here⟩
  | succ rounds ih =>
    obtain ⟨taken, within, outcome⟩ := receive_steps here bounded
    unfold pumpRx
    generalize w.receive = result at taken within outcome ⊢
    obtain ⟨received, v⟩ := result
    cases received with
    | failed error =>
      obtain ⟨failed, place⟩ := outcome
      refine ⟨taken, ?_⟩
      simp only [Control.orClose, if_pos failed]
      exact place
    | nothing =>
      obtain ⟨drained, place, _⟩ := drainRx_steps outcome
      exact ⟨taken.trans drained, place⟩
    | bytes =>
      obtain ⟨drained, place, shorter⟩ := drainRx_steps outcome
      simp only at taken within
      simp only
      generalize v.drainRx = result at drained place shorter ⊢
      obtain ⟨error, u⟩ := result
      simp only at drained place shorter ⊢
      by_cases failed : error ≠ .ok
      · simp only [Control.orClose, if_pos failed] at place ⊢
        exact ⟨taken.trans drained, place⟩
      rw [if_neg failed]
      simp only [Control.orClose, if_neg failed, Control.drainedStage] at place
      by_cases replaced : u.client.state = .connecting
      · rw [if_pos replaced] at place ⊢
        exact ⟨taken.trans drained, place⟩
      rw [if_neg replaced] at place ⊢
      by_cases full : u.client.rx.length = cfg.rxBufferSize
      · rw [if_pos full] at place ⊢
        exact ⟨taken.trans drained, place⟩
      rw [if_neg full] at place ⊢
      rw [roundStage_eq (by omega)] at place
      obtain ⟨onward, arrives⟩ := ih u place (by omega)
      exact ⟨taken.trans (drained.trans onward), arrives⟩

/-! ## The pump -/

/-- One of the two places `pump_tx` runs in: where it sends from, and where it
goes on to when it is done. -/
structure SendPlace (cfg : Config) (place : Control) (done : Client cfg → Control) : Prop where
  permits : ∀ (c : Client cfg) result written now, c.tx.isEmpty = false →
    place.Permits c (.send result written now)
  after : ∀ (c : Client cfg) result written now,
    place.after c (.send result written now) =
      let sent := c.apply (.send result written now)
      if result = .wouldBlock then done sent
      else Control.orClose result
        (if written = 0 then done sent
        else if sent.tx.isEmpty then done sent else place)

theorem sendPlace_sending : SendPlace cfg .sending Control.pumpedStage where
  permits _ _ _ _ waiting := ⟨.inl rfl, waiting⟩
  after _ _ _ _ := rfl

theorem sendPlace_flushing : SendPlace cfg .flushing fun _ => .leaving .ok where
  permits _ _ _ _ waiting := ⟨.inr rfl, waiting⟩
  after _ _ _ _ := rfl

/-- The send loop takes permitted steps, by induction on its rounds. -/
theorem pumpTxLoop_steps {place : Control} {done : Client cfg → Control}
    (sends : SendPlace cfg place done) (rounds : Nat) (w : World cfg)
    (here : w.control = if w.client.tx.isEmpty then done w.client else place)
    (enough : w.client.tx.pending < rounds) :
    Steps w (pumpTxLoop rounds w).2 ∧
      (pumpTxLoop rounds w).2.control =
        Control.orClose (pumpTxLoop rounds w).1 (done (pumpTxLoop rounds w).2.client) ∧
      (pumpTxLoop rounds w).2.client.rx = w.client.rx := by
  induction rounds generalizing w with
  | zero => omega
  | succ rounds ih =>
    by_cases empty : w.client.tx.isEmpty = true
    · rw [if_pos empty] at here
      rw [pumpTxLoop, if_pos empty]
      exact ⟨.refl w, here, rfl⟩
    rw [if_neg empty] at here
    let answer := w.nextSend.1
    let sent := w.nextSend.2.act (.send answer.1 answer.2 w.nextSend.2.env.now)
    have taken : Steps w sent := by
      refine Steps.act (w := w.nextSend.2) ?_
      show w.control.Permits w.client _
      rw [here]
      exact sends.permits _ _ _ _ (by simpa using empty)
    have arrived : sent.control = place.after w.client
        (.send answer.1 answer.2 w.nextSend.2.env.now) := by
      rw [← here]
      exact control_act w.nextSend.2 _
    rw [sends.after] at arrived
    change sent.control = if answer.1 = .wouldBlock then done sent.client
      else Control.orClose answer.1 (if answer.2 = 0 then done sent.client
        else if sent.client.tx.isEmpty then done sent.client else place) at arrived
    have sameRx : sent.client.rx = w.client.rx := by
      show (w.client.apply (.send answer.1 answer.2 w.nextSend.2.env.now)).rx = _
      simp only [Client.apply, Client.react]
      split <;> rfl
    have unfolded : pumpTxLoop (rounds + 1) w =
        if answer.1 = .wouldBlock then (.ok, sent)
        else if answer.1 ≠ .ok then (answer.1, sent)
        else if answer.2 = 0 then (.ok, sent)
        else pumpTxLoop rounds sent := by
      rw [pumpTxLoop, if_neg empty]
    rw [unfolded]
    by_cases blocked : answer.1 = .wouldBlock
    · simp only [if_pos blocked] at arrived ⊢
      exact ⟨taken, arrived, sameRx⟩
    simp only [if_neg blocked] at arrived ⊢
    by_cases failed : answer.1 ≠ .ok
    · simp only [Control.orClose, if_pos failed] at arrived ⊢
      exact ⟨taken, arrived, sameRx⟩
    rw [if_neg failed]
    simp only [Control.orClose, if_neg failed] at arrived
    by_cases none : answer.2 = 0
    · simp only [if_pos none] at arrived ⊢
      exact ⟨taken, arrived, sameRx⟩
    simp only [if_neg none] at arrived ⊢
    have fewer : sent.client.tx.pending < w.client.tx.pending := by
      obtain accepted : answer.1 = .ok := by simpa using failed
      show (w.client.apply (.send answer.1 answer.2 _)).tx.pending < _
      rw [accepted]
      exact w.client.pending_send_lt (by simpa using empty) none _
    obtain ⟨onward, reached, stays⟩ := ih sent arrived (by omega)
    exact ⟨taken.trans onward, reached, stays.trans sameRx⟩

/-- With as many rounds as bytes the send pump runs to its end. -/
theorem pumpTx_steps {place : Control} {done : Client cfg → Control}
    (sends : SendPlace cfg place done)
    (here : w.control = if w.client.tx.isEmpty then done w.client else place) :
    Steps w w.pumpTx.2 ∧
      w.pumpTx.2.control = Control.orClose w.pumpTx.1 (done w.pumpTx.2.client) ∧
      w.pumpTx.2.client.rx = w.client.rx :=
  pumpTxLoop_steps sends _ w here (Nat.lt_succ_self _)

/-! ## The pass -/

/-- The pass has come to its end with this result. -/
def Ended (w : World cfg) (result : Error × World cfg) : Prop :=
  Steps w result.2 ∧ (result.2.control = .leaving result.1 ∨ result.2.control = .ending result.1)

/-- What ends later ends. -/
theorem Ended.of_steps {result : Error × World cfg} (steps : Steps w v)
    (ended : Ended v result) : Ended w result :=
  ⟨steps.trans ended.1, ended.2⟩

/-- Closing the session ends the pass. -/
theorem endSession_ends {reason : Error} (here : w.control = .closing reason) :
    Ended w (w.endSession reason) := by
  have closed : Steps w (w.act (.shutdown reason)) := .act here
  have place : (w.act (.shutdown reason)).control =
      if w.client.state = .idle then .leaving reason else .ending reason := by
    rw [control_act, here]
    rfl
  have callback : (w.client.react (.shutdown reason)).callback =
      if w.client.state ≠ .idle then some (.onDisconnect reason) else none := rfl
  unfold endSession perform
  by_cases idle : w.client.state = .idle
  · rw [callback, if_neg (not_not_intro idle)]
    rw [if_pos idle] at place
    exact ⟨closed, .inl place⟩
  · rw [callback, if_pos idle]
    rw [if_neg idle] at place
    obtain ⟨onward, stays, _⟩ := @runHandler_keeps cfg (w.act (.shutdown reason))
      (by rw [place]; rfl) (by simp [place])
    exact ⟨closed.trans onward, .inr (stays.trans place)⟩

/-- A stage that fails ends the pass; the others end it from where it succeeded. -/
theorem orEnd_ends {result : Error × World cfg} {next : World cfg → Error × World cfg}
    {stage : Client cfg → Control} (steps : Steps w result.2)
    (here : result.2.control = Control.orClose result.1 (stage result.2.client))
    (onward : result.2.control = stage result.2.client → Ended result.2 (next result.2)) :
    Ended w (orEnd result next) := by
  unfold orEnd
  by_cases failed : result.1 ≠ .ok
  · rw [if_pos failed]
    simp only [Control.orClose, if_pos failed] at here
    exact (endSession_ends here).of_steps steps
  · rw [if_neg failed]
    simp only [Control.orClose, if_neg failed] at here
    exact (onward here).of_steps steps

/-- The last flush ends the pass. -/
theorem flush_ends (here : w.control = Control.flushStage w.client) : Ended w w.flush := by
  obtain ⟨steps, place, _⟩ := pumpTx_steps sendPlace_flushing here
  exact @orEnd_ends cfg w _ _ (fun _ => .leaving .ok) steps place
    fun arrived => ⟨.refl _, .inl arrived⟩

/-- So does the check of the connect deadline. -/
theorem checkDeadline_ends (here : w.control = .awaiting) : Ended w w.checkDeadline := by
  have steps : Steps w (w.act (.deadline w.env.now)) := .act here
  refine @orEnd_ends cfg w _ _ (fun _ => .leaving .ok) steps ?_
    fun arrived => ⟨.refl _, .inl arrived⟩
  show (w.act (.deadline w.env.now)).control = _
  rw [control_act, here]
  rfl

/-- So does the pass from the timers on. -/
theorem afterReceive_ends (here : w.control = Control.receivedStage w.client) :
    Ended w w.afterReceive := by
  unfold afterReceive
  unfold Control.receivedStage at here
  by_cases replaced : w.client.state = .connecting
  · rw [if_pos replaced] at here ⊢
    exact ⟨.refl w, .inl here⟩
  rw [if_neg replaced] at here ⊢
  by_cases awaiting : w.client.state = .awaitingConnack
  · rw [if_pos awaiting] at here ⊢
    exact checkDeadline_ends here
  rw [if_neg awaiting] at here ⊢
  by_cases up : w.client.state = .connected
  swap
  · rw [if_neg up] at here ⊢
    exact flush_ends here
  rw [if_pos up] at here ⊢
  have quiet : (w.client.react (.keepAlive w.env.now)).callback = none := by
    rcases w.client.pumpKeepAlive_cases w.env.now with
      ⟨_, _, _, _, same⟩ | ⟨_, _, _, same⟩ <;> simp [Client.react, same]
  have performed : w.perform (.keepAlive w.env.now) =
      ((w.client.react (.keepAlive w.env.now)).error, w.act (.keepAlive w.env.now)) := by
    simp only [perform, quiet]
  rw [performed]
  have kept : Steps w (w.act (.keepAlive w.env.now)) := .act here
  refine @orEnd_ends cfg w _ _ (fun _ => .resubscribing) kept ?_ fun arrived => ?_
  · show (w.act (.keepAlive w.env.now)).control = _
    rw [control_act, here]
    rfl
  · simp only at arrived ⊢
    generalize w.act (.keepAlive w.env.now) = v at arrived ⊢
    have resubscribed : (v.act (.resubscribe v.env.now)).control = .retransmitting := by
      rw [control_act, arrived]
      rfl
    have first : Steps v (v.act (.resubscribe v.env.now)) := .act arrived
    generalize v.act (.resubscribe v.env.now) = u at resubscribed first ⊢
    have second : Steps u (u.act (.retransmit u.env.now)) := .act resubscribed
    refine Ended.of_steps (first.trans second) (flush_ends ?_)
    rw [control_act, resubscribed]
    rfl

/-- So does a pass from its send on. -/
theorem openPass_ends (here : w.control = Control.sendStage w.client)
    (bounded : w.client.rx.length ≤ cfg.rxBufferSize) : Ended w w.openPass := by
  obtain ⟨steps, place, sameRx⟩ := pumpTx_steps sendPlace_sending here
  refine orEnd_ends steps place fun arrived => ?_
  unfold Control.pumpedStage at arrived
  by_cases drained : w.pumpTx.2.client.state = .disconnecting ∧
      w.pumpTx.2.client.tx.isEmpty = true
  · rw [if_pos drained] at arrived ⊢
    exact endSession_ends arrived
  · rw [if_neg drained] at arrived ⊢
    obtain ⟨received, arrives⟩ := pumpRx_steps kMaxRecvRoundsPerStep w.pumpTx.2 arrived
      (sameRx ▸ bounded)
    exact orEnd_ends received arrives afterReceive_ends

/-- Every pass ends. -/
theorem stepOnce_ends (here : w.control = Control.enterStage w.client)
    (bounded : w.client.rx.length ≤ cfg.rxBufferSize) : Ended w w.stepOnce := by
  unfold stepOnce
  unfold Control.enterStage at here
  by_cases idle : w.client.state = .idle
  · rw [if_pos idle] at here ⊢
    exact ⟨.refl w, .inl here⟩
  rw [if_neg idle] at here ⊢
  by_cases connecting : w.client.state = .connecting
  swap
  · rw [if_neg connecting] at here ⊢
    exact openPass_ends here bounded
  rw [if_pos connecting] at here ⊢
  let answer := w.nextOpen.1
  let tried := w.nextOpen.2.act (.transportConnect answer w.nextOpen.2.env.now)
  have taken : Steps w tried := Steps.act (w := w.nextOpen.2) here
  have place : tried.control = Control.opening.after w.client
      (.transportConnect answer w.nextOpen.2.env.now) := by
    rw [← here]
    exact control_act w.nextOpen.2 _
  have sameRx : tried.client.rx = w.client.rx := by
    show (w.client.apply (.transportConnect answer w.nextOpen.2.env.now)).rx = _
    simp only [Client.apply, Client.react]
    split <;> rfl
  show Ended w (if answer = .wouldBlock then tried.checkDeadline
    else if answer ≠ .ok then tried.endSession answer else tried.openPass)
  simp only [Control.after] at place
  by_cases blocked : answer = .wouldBlock
  · rw [if_pos blocked] at place ⊢
    exact (checkDeadline_ends place).of_steps taken
  rw [if_neg blocked] at place ⊢
  by_cases failed : answer ≠ .ok
  · simp only [Control.orClose, if_pos failed] at place ⊢
    exact (endSession_ends place).of_steps taken
  · simp only [Control.orClose, if_neg failed] at place ⊢
    exact (openPass_ends place (sameRx ▸ bounded)).of_steps taken

/-- A permitted label never puts more into the receive buffer than it holds. -/
theorem length_rx_of_permits {control : Control} {c : Client cfg}
    (permits : control.Permits c label) (bounded : c.rx.length ≤ cfg.rxBufferSize) :
    (c.apply label).rx.length ≤ cfg.rxBufferSize := by
  by_cases isCall : label.isCall = true
  · exact Nat.le_trans (c.length_rx_of_isCall isCall) bounded
  cases label <;> simp only [Label.isCall, not_true] at isCall
  case recv result bytes now =>
    simp only [Client.apply, Client.react]
    split
    · simpa using permits.2.2
    · exact bounded
  case handle header body now =>
    exact Nat.le_trans (Nat.le_of_eq (congrArg _ (c.handlePacket_within header body now).rx))
      bounded
  case consume count =>
    simp only [Client.apply, Client.react, List.length_drop]
    omega
  case keepAlive now =>
    exact Nat.le_trans (Nat.le_of_eq (congrArg _ (c.pumpKeepAlive_quiet now).rx)) bounded
  case resubscribe now =>
    exact Nat.le_trans (Nat.le_of_eq (congrArg _ (c.pumpResubscribe_quiet now).rx)) bounded
  case retransmit now =>
    exact Nat.le_trans (Nat.le_of_eq (congrArg _ (c.pumpRetransmit_quiet now).rx)) bounded
  case shutdown reason => simp [Client.apply, Client.react, Client.shutdown, Client.teardown]
  case discard => simp [Client.apply, Client.react]
  all_goals
    simp only [Client.apply, Client.react]
    first | exact bounded | (split <;> exact bounded)

/-- No history overruns the receive buffer. -/
theorem history_length_rx {log : Log cfg} (history : History log) :
    log.state.rx.length ≤ cfg.rxBufferSize :=
  Logged.Reaches.invariant (fun log => log.state.rx.length ≤ cfg.rxBufferSize)
    (fun _ _ permitted bounded => length_rx_of_permits permitted bounded) history (Nat.zero_le _)

/-- What application code outside `step()` keeps. -/
def OutsideKeeps (log : Log cfg) : Prop :=
  History log ∧ Control.of log.trace = .outside ∧ log.state.inStep = false

theorem OutsideKeeps.call (isCall : label.isCall = true)
    (kept : OutsideKeeps w.log) : OutsideKeeps (w.act label).log := by
  obtain ⟨history, place, idle⟩ := kept
  refine ⟨.step history ?_, ?_, (w.client.call_frame isCall).1.trans idle⟩
  · unfold Permitted
    rw [place]
    exact permits_of_isCall rfl _ isCall
  · exact (control_act w label).trans
      ((congrArg (·.after w.client label) place).trans (after_of_isCall _ _ isCall))

/-- A whole `step()` returns outside, by permitted steps. -/
theorem OutsideKeeps.step (kept : OutsideKeeps w.log) : OutsideKeeps w.step.2.log := by
  obtain ⟨history, place, idle⟩ := kept
  have notNested : ¬ w.client.inStep = true := by
    show ¬ w.log.state.inStep = true
    simp [idle]
  have entered : Steps w (w.act .stepEnter) := .act place
  have here : (w.act .stepEnter).control = Control.enterStage (w.act .stepEnter).client := by
    rw [control_act, show w.control = .outside from place]
    rfl
  have bounded : w.client.rx.length ≤ cfg.rxBufferSize := history_length_rx history
  have ended := stepOnce_ends here bounded
  unfold World.step
  rw [if_neg notNested]
  generalize (w.act .stepEnter).stepOnce = result at ended ⊢
  obtain ⟨error, v⟩ := result
  obtain ⟨steps, arrives⟩ := ended
  refine ⟨Logged.Reaches.trans history (entered.trans (steps.trans (.act arrives))), ?_, rfl⟩
  · refine (control_act v _).trans ?_
    rcases arrives with leaving | ending
    · rw [leaving]
      rfl
    · rw [ending]
      rfl

/-- A whole run is a history that ends outside `step()`. -/
theorem exec_keeps (cfg : Config) (env : Env) (application : Script) :
    OutsideKeeps (exec cfg env application).log :=
  runScript_induct (fun _ _ isCall kept => OutsideKeeps.call isCall kept)
    (fun _ kept => kept.step) application (start cfg env) ⟨.refl, rfl, rfl⟩

/-- Every run is a history of the automaton. -/
theorem exec_history (cfg : Config) (env : Env) (application : Script) :
    History (exec cfg env application).log :=
  (exec_keeps cfg env application).1

/-- Every run ends outside `step()`. -/
theorem exec_outside (cfg : Config) (env : Env) (application : Script) :
    Control.of (exec cfg env application).log.trace = .outside :=
  (exec_keeps cfg env application).2.1

end World
end Mqtt
