import Mqtt.Client.Refinement

/-!
# What a whole run keeps

The automaton says where a message handler may be invoked and not with which message:
that is the doing of `dispatch()`, which hands every handler the message it was given.
A whole run is pieces of client code and such invocations, so what both keep, a run
keeps. Only `pump_rx` calls `recv`; what all else keeps, the other functions keep.
-/

namespace Mqtt

open Library

variable {cfg : Config}

/-- A piece of client code ended by dispatching the message. -/
def Dispatched (trace : Trace cfg) (m : Message) : Prop :=
  ∃ event ∈ trace, event.reaction.callback = some (.dispatch m)

theorem Dispatched.append {trace : Trace cfg} {m : Message} (dispatched : Dispatched trace m)
    (more : Trace cfg) : Dispatched (trace ++ more) m := by
  obtain ⟨event, member, calls⟩ := dispatched
  exact ⟨event, List.mem_append_left _ member, calls⟩

def Label.isMessage : Label → Bool
  | .onMessage _ _ => true
  | _ => false

def Label.isRecv : Label → Bool
  | .recv _ _ _ => true
  | _ => false

/-- Neither a call of a message handler nor of `recv`. -/
def Label.isPiece (label : Label) : Bool := !label.isMessage && !label.isRecv

theorem Label.isPiece_of_isCall {label : Label} (isCall : label.isCall = true) :
    label.isPiece = true := by
  cases label <;> first | rfl | cases isCall

/-- What every piece of client code but `recv` keeps, and every invocation of a handler with
a message that was dispatched. -/
structure PieceRule (Keeps : Log cfg → Prop) : Prop where
  piece : ∀ log label, label.isPiece = true → Keeps log → Keeps (log.perform Client.apply label)
  message : ∀ log subscription m, Dispatched log.trace m → Keeps log →
    Keeps (log.perform Client.apply (.onMessage subscription m))

/-- What `recv` keeps as well. -/
structure RunRule (Keeps : Log cfg → Prop) : Prop extends PieceRule Keeps where
  recv : ∀ log result bytes now, Keeps log →
    Keeps (log.perform Client.apply (.recv result bytes now))

variable {Keeps : Log cfg → Prop} {w : World cfg} {label : Label}

namespace PieceRule

variable (rule : PieceRule Keeps)

include rule

/-! ## Handlers -/

theorem act (isPiece : label.isPiece = true) (start : Keeps w.log) : Keeps (w.act label).log :=
  rule.piece w.log label isPiece start

theorem runHandler (start : Keeps w.log) : Keeps w.runHandler.log :=
  World.runHandler_induct (fun _ _ isCall => rule.act (Label.isPiece_of_isCall isCall))
    (fun _ => rule.act rfl) start

/-- The message stays dispatched while its handlers run. -/
theorem dispatch {m : Message} (up : w.client.state = .connected)
    (dispatched : Dispatched w.trace m) (start : Keeps w.log) :
    Keeps (w.runCallback (.dispatch m)).log := by
  have kept := @World.dispatchLoop_induct cfg
    (fun log => Dispatched log.trace m ∧ Keeps log)
    (fun v label isCall held =>
      ⟨held.1.append _, rule.act (Label.isPiece_of_isCall isCall) held.2⟩)
    (fun v held => ⟨held.1.append _, rule.act rfl held.2⟩) m
    (fun v subscription _ held =>
      ⟨held.1.append _, rule.message v.log subscription m held.1 held.2⟩)
    (List.range w.client.subscriptions.length) false w up ⟨dispatched, start⟩
  exact kept.2

theorem perform (isPiece : label.isPiece = true)
    (start : Keeps w.log) : Keeps (w.perform label).2.log := by
  have ran := rule.act isPiece start
  unfold World.perform
  split
  · exact ran
  · rename_i callback calls
    cases callback with
    | dispatch m =>
      refine rule.dispatch ?_ ⟨⟨w.client, label⟩, ?_, calls⟩ ran
      swap
      · exact List.mem_append_right _ List.mem_cons_self
      rcases w.client.callback_cases calls with ⟨header, body, now, rfl⟩ | ⟨_, other⟩
      · exact (w.client.handlePacket_dispatch calls).2
      · cases other
    | onConnect info => exact rule.runHandler ran
    | onDelivery id => exact rule.runHandler ran
    | onSuback id codes => exact rule.runHandler ran
    | onDisconnect reason => exact rule.runHandler ran

/-! ## The receive path -/

/-- By induction on the rounds. -/
theorem drainLoop (rounds : Nat) (start : Keeps w.log) :
    Keeps (World.drainLoop rounds w).2.log := by
  induction rounds generalizing w with
  | zero => exact start
  | succ rounds onward =>
    unfold World.drainLoop
    split
    · exact start
    split
    · split <;> exact start
    rename_i p peeked
    split
    · exact start
    split
    · exact start
    have handled : Keeps (w.handlePacket p.header
        ((w.client.rx.drop p.headerBytes).take p.header.remainingLength)).2.log :=
      rule.perform rfl start
    simp only
    split
    · exact rule.act rfl handled
    split
    · exact rule.act rfl handled
    · exact onward (rule.act rfl handled)

/-! ## The pump -/

theorem pumpTx (start : Keeps w.log) : Keeps w.pumpTx.2.log := by
  unfold World.pumpTx
  generalize w.client.tx.pending + 1 = rounds
  induction rounds generalizing w with
  | zero => exact start
  | succ rounds onward =>
    unfold World.pumpTxLoop
    split
    · exact start
    have sent := rule.piece w.log (.send w.nextSend.1.1 w.nextSend.1.2 w.env.now) rfl start
    simp only
    split_ifs
    · exact sent
    · exact sent
    · exact sent
    · exact onward sent

theorem orEnd {result : Error × World cfg} {next : World cfg → Error × World cfg}
    (start : Keeps result.2.log) (goesOn : Keeps result.2.log → Keeps (next result.2).2.log) :
    Keeps (World.orEnd result next).2.log := by
  unfold World.orEnd
  split
  · exact rule.perform rfl start
  · exact goesOn start

theorem flush (start : Keeps w.log) : Keeps w.flush.2.log :=
  rule.orEnd (rule.pumpTx start) id

theorem checkDeadline (start : Keeps w.log) : Keeps w.checkDeadline.2.log :=
  rule.orEnd (rule.perform rfl start) id

theorem afterReceive (start : Keeps w.log) : Keeps w.afterReceive.2.log := by
  unfold World.afterReceive
  split_ifs
  · exact start
  · exact rule.checkDeadline start
  · exact rule.orEnd (rule.perform rfl start) fun alive =>
      rule.flush (rule.act rfl (rule.act rfl alive))
  · exact rule.flush start

end PieceRule

namespace RunRule

variable (rule : RunRule Keeps)

include rule

/-! ## Whole runs -/

theorem receive (start : Keeps w.log) : Keeps w.receive.2.log := by
  unfold World.receive
  split
  · have received := rule.recv w.log w.nextRecv.1.1
      (w.nextRecv.1.2.take (cfg.rxBufferSize - w.client.rx.length)) w.env.now start
    simp only
    split_ifs <;> exact received
  · exact start

/-- By induction on the rounds. -/
theorem pumpRx (rounds : Nat) (start : Keeps w.log) : Keeps (World.pumpRx rounds w).2.log := by
  induction rounds generalizing w with
  | zero => exact start
  | succ rounds onward =>
    have received := rule.receive start
    unfold World.pumpRx
    generalize w.receive = result at received ⊢
    obtain ⟨brought, v⟩ := result
    have drained : Keeps v.drainRx.2.log := rule.drainLoop _ received
    cases brought with
    | failed error => exact received
    | nothing => exact drained
    | bytes =>
      simp only
      split_ifs
      · exact drained
      · exact drained
      · exact drained
      · exact onward drained

theorem openPass (start : Keeps w.log) : Keeps w.openPass.2.log := by
  refine rule.orEnd (rule.pumpTx start) fun sent => ?_
  split
  · exact rule.perform rfl sent
  · exact rule.orEnd (rule.pumpRx _ sent) rule.afterReceive

theorem stepOnce (start : Keeps w.log) : Keeps w.stepOnce.2.log := by
  unfold World.stepOnce
  split
  · exact start
  split
  · have opened := rule.piece w.log (.transportConnect w.nextOpen.1 w.env.now) rfl start
    simp only
    split_ifs
    · exact rule.checkDeadline opened
    · exact rule.perform rfl opened
    · exact rule.openPass opened
  · exact rule.openPass start

/-- What the pieces of `step()` keep, `step()` keeps. -/
theorem step (start : Keeps w.log) : Keeps w.step.2.log := by
  unfold World.step
  split
  · exact rule.act rfl start
  · exact rule.act rfl (rule.stepOnce (rule.act rfl start))

/-- What every piece of code and every invocation keep, a whole run keeps. -/
theorem exec (env : Env) (application : Script)
    (start : Keeps { state := Client.initial cfg, trace := [] }) :
    Keeps (World.exec cfg env application).log :=
  World.runScript_induct (fun _ _ isCall => rule.act (Label.isPiece_of_isCall isCall))
    (fun _ => rule.step) application _ start

end RunRule

/-- Handlers are invoked only with messages that were dispatched. -/
def HandsDispatched (trace : Trace cfg) : Prop :=
  ∀ event ∈ trace, ∀ subscription m, event.label = .onMessage subscription m → Dispatched trace m

theorem HandsDispatched.piece {log : Log cfg}
    (isPiece : label.isMessage = false) (kept : HandsDispatched log.trace) :
    HandsDispatched (log.perform Client.apply label).trace := by
  intro event member subscription m invokes
  rw [Logged.perform_trace, List.mem_append, List.mem_singleton] at member
  rcases member with earlier | rfl
  · exact (kept event earlier subscription m invokes).append _
  · obtain rfl : label = .onMessage subscription m := invokes
    cases isPiece

theorem HandsDispatched.message {log : Log cfg} (given : Option Nat) {message : Message}
    (dispatched : Dispatched log.trace message) (kept : HandsDispatched log.trace) :
    HandsDispatched (log.perform Client.apply (.onMessage given message)).trace := by
  intro event member subscription m invokes
  rw [Logged.perform_trace, List.mem_append, List.mem_singleton] at member
  rcases member with earlier | rfl
  · exact (kept event earlier subscription m invokes).append _
  · obtain ⟨rfl, rfl⟩ : given = subscription ∧ message = m := by simpa using invokes
    exact dispatched.append _

/-- Only dispatched messages are handed out. -/
theorem handsDispatched_rule : RunRule fun log : Log cfg =>
    HandsDispatched log.trace where
  piece _ label isPiece kept := kept.piece (by cases label <;> first | rfl | cases isPiece)
  message _ given _ dispatched kept := kept.message given dispatched
  recv _ _ _ _ kept := kept.piece rfl

/-- So it is in every run. -/
theorem World.exec_handsDispatched (cfg : Config) (env : Env) (application : Script) :
    HandsDispatched (World.exec cfg env application).trace := by
  have start : HandsDispatched ([] : Trace cfg) := by simp [HandsDispatched]
  exact handsDispatched_rule.exec env application start

end Mqtt
