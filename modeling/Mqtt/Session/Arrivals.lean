import Mqtt.Session.TransportUse

/-!
# What arrives

How the receive buffer changes, and what it holds: over one connection, the bytes
that arrived and have not been consumed. While a connection is being opened there
are none.
-/

namespace Mqtt

open Library

variable {cfg : Config}

/-- The bytes `Transport::recv` returns at this label. -/
def Label.arriving : Label → Bytes
  | .recv .ok bytes _ => bytes
  | _ => []

def Label.isHandle : Label → Bool
  | .handle _ _ _ => true
  | _ => false

namespace Client

variable (c : Client cfg)

/-- How a label changes the receive buffer. -/
theorem rx_cases (label : Label) :
    ((c.apply label).rx = [] ∧
      (label = .discard ∨ c.state = .idle ∨ (c.apply label).state = .idle)) ∨
    (∃ count, label = .consume count ∧ (c.apply label).rx = c.rx.drop count ∧
      (c.apply label).state = c.state) ∨
    ((c.apply label).rx = c.rx ++ label.arriving ∧ (∀ count, label ≠ .consume count) ∧
      label ≠ .discard ∧ ((c.apply label).state = .idle → c.state = .idle)) := by
  by_cases quiet : isQuiet label = true
  · have same : label.arriving = [] := by cases label <;> first | rfl | cases quiet
    have kept := c.react_quiet quiet
    refine .inr (.inr ⟨by rw [same, List.append_nil]; exact kept.rx, ?_, ?_,
      fun idle => kept.sameState.symm.trans idle⟩) <;>
      cases label <;> cases quiet <;> simp
  cases label <;> try exact absurd rfl quiet
  case connect opts now =>
    have emptied := (c.prepare_frame opts).2.2.2.1
    rcases c.connect_cases opts now with
      ⟨_, _, same⟩ | ⟨idle, _, _, _, _, same⟩ | ⟨idle, _, _, _, same⟩
    · exact .inr (.inr (by simp [apply, react, same, refuse, Label.arriving]))
    · exact .inl ⟨by simp [apply, react, same, refuse, emptied], .inr (.inl idle)⟩
    · exact .inl ⟨by simp [apply, react, same, opened, emptied], .inr (.inl idle)⟩
  case disconnect =>
    rcases c.disconnect_cases with ⟨_, same⟩ | ⟨_, _, _, _, same⟩ | ⟨_, _, _, same⟩
    · exact .inr (.inr (by simp [apply, react, same, refuse, Label.arriving]))
    · exact .inr (.inr (by simp [apply, react, same, Label.arriving]))
    · exact .inl (by simp [apply, react, same, shutdown, teardown])
  case abort => exact .inl ⟨rfl, .inr (.inr rfl)⟩
  case shutdown reason => exact .inl ⟨rfl, .inr (.inr rfl)⟩
  case consume count => exact .inr (.inl ⟨count, rfl, rfl, rfl⟩)
  case discard => exact .inl ⟨rfl, .inl rfl⟩
  case handle header body now =>
    have kept := c.handlePacket_within header body now
    refine .inr (.inr ⟨kept.rx.trans (List.append_nil _).symm, by simp, by simp, fun idle => ?_⟩)
    rcases kept.state with same | ⟨_, up⟩
    · exact same.symm.trans idle
    · exact absurd (up.symm.trans idle) (by simp)
  case recv result bytes now =>
    refine .inr (.inr ?_)
    by_cases up : result = .ok
    · subst up
      by_cases none : bytes = [] <;> simp [apply, react, Label.arriving, none]
    · have nothing : (Label.recv result bytes now).arriving = [] := by
        cases result <;> first | exact absurd rfl up | rfl
      simp [apply, react, up, nothing]
  case send result written now =>
    refine .inr (.inr ?_)
    simp only [apply, react]
    split <;> simp [Label.arriving]
  case transportConnect result now =>
    refine .inr (.inr ?_)
    simp only [apply, react]
    split <;> simp [Label.arriving]
  all_goals simp [apply, react, Label.arriving]

/-- Handling a packet does not end the session. -/
theorem handle_goesOn (busy : c.state ≠ .idle) (header : FixedHeader) (body : Bytes)
    (now : UInt32) : (c.apply (.handle header body now)).state ≠ .idle := by
  intro idle
  rcases (c.handlePacket_within header body now).state with same | ⟨_, up⟩
  · exact busy (same.symm.trans idle)
  · exact absurd (up.symm.trans idle) (by simp)

end Client

/-- A session is begun by `connect()`, with nothing received and nothing queued but
the CONNECT. -/
theorem History.begin_cases {log : Log cfg} (history : History log)
    {label : Label} (permitted : Permitted log label) (idle : log.state.state = .idle)
    (begins : (log.state.apply label).state ≠ .idle) :
    (∃ opts now, label = .connect opts now) ∧ (log.state.apply label).rx = [] ∧
      (log.state.apply label).tx.peek = (log.state.react label).wire := by
  rcases log.state.apply_state_cases label with
    same | ⟨opts, now, rfl, _, moved⟩ | ⟨_, up, _⟩ | ⟨_, down⟩ | ⟨now, rfl, _⟩ |
      ⟨_, _, _, _, awaiting, _⟩
  · exact absurd (same.trans idle) begins
  · rcases log.state.connect_cases opts now with
      ⟨_, _, same⟩ | ⟨_, _, _, _, _, same⟩ | ⟨_, _, _, peek, same⟩
    · simp [Client.apply, Client.react, same, Client.refuse, idle] at moved
    · simp [Client.apply, Client.react, same, Client.refuse,
        (log.state.prepare_frame opts).1, idle] at moved
    · refine ⟨⟨opts, now, rfl⟩, ?_, ?_⟩
      · simp [Client.apply, Client.react, same, Client.opened,
          (log.state.prepare_frame opts).2.2.2.1]
      · simp [Client.apply, Client.react, same, Client.opened, Reaction.wire, peek]
  · simp [idle] at up
  · exact absurd down begins
  · have fits := history.fits
    rw [show Control.of log.trace = .opening from permitted] at fits
    exact absurd (fits.2.symm.trans idle) (by simp)
  · simp [idle] at awaiting

/-! ## Over a connection -/

/-- The bytes that arrived over a stretch of history. -/
def arrivedOver (trace : Trace cfg) : Bytes := trace.flatMap fun event => event.label.arriving

theorem arrivedOver_snoc (trace : Trace cfg) (event : Event cfg) :
    arrivedOver (trace ++ [event]) = arrivedOver trace ++ event.label.arriving := by
  simp [arrivedOver]

namespace Control

variable {c : Client cfg}

/-- Nothing is received while the client is connecting. -/
def Settled (control : Control) (c : Client cfg) : Prop :=
  ∀ rest, control = .receiving rest → c.state ≠ .connecting

theorem settled_of_ne {control : Control} (other : ∀ rest, control ≠ .receiving rest) :
    control.Settled c :=
  fun rest same => absurd same (other rest)

theorem settled_of_state {control : Control} (settled : c.state ≠ .connecting) :
    control.Settled c :=
  fun _ _ => settled

theorem receivedStage_ne (c : Client cfg) (rest : Nat) : receivedStage c ≠ .receiving rest := by
  unfold receivedStage flushStage
  split_ifs <;> simp

theorem settled_drainedStage (rest : Option Nat) : (drainedStage c rest).Settled c := by
  cases rest with
  | none => exact settled_of_ne (receivedStage_ne c)
  | some rest =>
    unfold drainedStage
    split_ifs with connecting
    · exact settled_of_ne (receivedStage_ne c)
    · exact settled_of_ne (by simp)
    · exact settled_of_state connecting

theorem settled_drainStage (rest : Option Nat) : (drainStage c rest).Settled c := by
  unfold drainStage
  split
  · exact settled_drainedStage rest
  · split
    · split
      · exact settled_drainedStage rest
      · exact settled_of_ne (by simp)
    · split_ifs
      · exact settled_of_ne (by simp)
      · exact settled_drainedStage rest
      · exact settled_of_ne (by simp)

/-- One label leads to such a place. -/
theorem settled_after {control : Control} {label : Label} (fits : control.Fits c)
    (permits : control.Permits c label) : (control.after c label).Settled (c.apply label) := by
  have moves := moves_of_permits permits
  generalize control.after c label = next at moves ⊢
  cases moves with
  | call runs | aside runs =>
    refine settled_of_ne fun rest here => ?_
    rw [here] at runs
    cases runs
  | enter busy settled => exact settled_of_state settled
  | opened now => exact settled_of_state (by simp [Client.apply, Client.react])
  | sent written now => exact settled_of_state ((c.state_of_send _ _ _).trans_ne fits.2.2.1)
  | pumped result written now =>
    exact settled_of_state ((c.state_of_send _ _ _).trans_ne fits.2.2.1)
  | flushes written now => exact settled_of_state ((c.state_of_send _ _ _).trans_ne fits.2.1)
  | received | consumed => exact settled_drainStage _
  | discarded => exact settled_drainedStage _
  | retransmitted now =>
    have up := (c.pumpRetransmit_quiet now).sameState.trans fits.2
    exact settled_of_state (up.trans_ne (by simp))
  | _ => exact settled_of_ne (by simp)

end Control

theorem History.settled {log : Log cfg} (history : History log) :
    (Control.of log.trace).Settled log.state := by
  refine history.invariant (fun log => (Control.of log.trace).Settled log.state)
    (fun log label prior permitted _ => ?_) (Control.settled_of_ne (by simp))
  rw [Logged.perform_trace, Control.of_snoc]
  exact Control.settled_after prior.fits permitted

/-- Nothing has been received while the client is connecting. -/
theorem History.rx_of_connecting {log : Log cfg} (history : History log)
    (connecting : log.state.state = .connecting) : log.state.rx = [] := by
  refine history.invariant (fun log => log.state.state = .connecting → log.state.rx = [])
    (fun log label prior permitted ih connecting => ?_) (by simp [Client.initial]) connecting
  rw [Logged.perform_state] at connecting ⊢
  by_cases idle : log.state.state = .idle
  · exact (prior.begin_cases permitted idle (by simp [connecting])).2.1
  have wasConnecting : log.state.state = .connecting := by
    rcases log.state.apply_state_cases label with
      same | ⟨_, _, _, wasIdle, _⟩ | ⟨_, _, _, moved⟩ | ⟨_, moved⟩ | ⟨_, _, moved⟩ |
        ⟨_, _, _, _, _, moved⟩
    · exact same.symm.trans connecting
    · exact absurd wasIdle idle
    all_goals simp [moved] at connecting
  have emptied := ih wasConnecting
  rcases log.state.rx_cases label with ⟨nothing, _⟩ | ⟨count, _, dropped, _⟩ | ⟨grown, _⟩
  · exact nothing
  · rw [dropped, emptied, List.drop_nil]
  · rw [grown, emptied, List.nil_append]
    cases label with
    | recv result bytes now =>
      obtain ⟨⟨rest, place⟩, _⟩ := permitted
      exact absurd wasConnecting (prior.settled rest place)
    | _ => rfl

/-- What a stretch of labels leaves in the buffer arrived during it, if the buffer was
empty before. -/
theorem rx_suffix_of_reaches {start finish : Log cfg}
    (reaches : Logged.Reaches Client.apply Permitted start finish) {added : Trace cfg}
    (split : finish.trace = start.trace ++ added) (emptied : start.state.rx = []) :
    finish.state.rx <:+ arrivedOver added := by
  induction reaches generalizing added with
  | refl =>
    rw [emptied]
    exact List.nil_suffix
  | @step log label prior _ ih =>
    obtain ⟨earlier, same⟩ := prior.extends_trace
    obtain rfl : earlier ++ [⟨log.state, label⟩] = added := by
      rw [Logged.perform_trace, same, List.append_assoc] at split
      exact List.append_cancel_left split
    have held := ih same
    rw [arrivedOver_snoc, Logged.perform_state]
    rcases log.state.rx_cases label with ⟨nothing, _⟩ | ⟨count, rfl, dropped, _⟩ | ⟨grown, _⟩
    · rw [nothing]
      exact List.nil_suffix
    · have nothing : (Label.consume count).arriving = [] := rfl
      rw [dropped, nothing, List.append_nil]
      exact (List.drop_suffix count _).trans held
    · rw [grown]
      obtain ⟨front, whole⟩ := held
      exact ⟨front, by rw [← whole, List.append_assoc]⟩

/-- The transport opens with nothing received. -/
theorem History.rx_of_opening {log : Log cfg} (history : History log)
    {label : Label} (permitted : Permitted log label) (opens : label.opensTransport = true) :
    log.state.state = .connecting ∧ (log.state.apply label).rx = [] := by
  cases label <;> simp only [Label.opensTransport, Bool.false_eq_true] at opens
  case transportConnect result now =>
    have fits := history.fits
    rw [show Control.of log.trace = .opening from permitted] at fits
    refine ⟨fits.2, ?_⟩
    rcases log.state.rx_cases (.transportConnect result now) with
      ⟨nothing, _⟩ | ⟨count, isConsume, _⟩ | ⟨grown, _⟩
    · exact nothing
    · cases isConsume
    · rw [grown, history.rx_of_connecting fits.2]
      rfl

end Mqtt
