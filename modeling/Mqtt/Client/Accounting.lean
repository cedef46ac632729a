import Mqtt.Client.Control
import Mqtt.Client.LabelEffects

/-!
# Where the bytes go

Every byte that is queued waits in the transmit queue until the transport
accepts it, in order, or the connection ends. Only the end of a session and a
new `connect()` drop bytes.
-/

namespace Mqtt

open Library

variable {cfg : Config}

namespace Client

variable (c : Client cfg)

/-- The bytes the transport takes at this label. -/
def accepted : Label → Bytes
  | .send .ok written _ => c.tx.peek.take written
  | _ => []

/-- Bytes queued before and at the label are accepted there or still waiting. -/
def Accounts (label : Label) : Prop :=
  c.tx.peek ++ (c.react label).wire = c.accepted label ++ (c.apply label).tx.peek

theorem Within.accounts {c : Client cfg} {label : Label} (within : c.Within (c.react label))
    (silent : c.accepted label = []) : c.Accounts label := by
  simp [Accounts, silent, apply, within.wire]

/-- Every label accounts for its bytes, ends the session, or starts a new one. -/
theorem accounts_cases (label : Label) :
    c.Accounts label ∨
    ((label = .disconnect ∨ label = .abort ∨ ∃ reason, label = .shutdown reason) ∧
      (c.apply label).state = .idle ∧ (c.apply label).tx.peek = [] ∧
      (c.react label).queued = []) ∨
    (∃ opts now, label = .connect opts now ∧ c.state = .idle ∧
      (c.apply label).tx.peek = (c.react label).wire) := by
  by_cases quiet : isQuiet label = true
  · refine .inl ((c.react_quiet quiet).toWithin.accounts ?_)
    cases label <;> first | rfl | cases quiet
  cases label <;> try exact absurd rfl quiet
  case handle header body now =>
    exact .inl (Within.accounts (c.handlePacket_within header body now) rfl)
  case connect opts now =>
    rcases c.connect_cases opts now with
      ⟨_, _, same⟩ | ⟨idle, _, _, _, peek, same⟩ | ⟨idle, _, _, peek, same⟩
    · exact .inl (by simp [Accounts, apply, react, same, refuse, Reaction.wire, accepted])
    · exact .inr (.inr ⟨opts, now, rfl, idle, by
        simp [apply, react, same, refuse, Reaction.wire, peek]⟩)
    · exact .inr (.inr ⟨opts, now, rfl, idle, by
        simp [apply, react, same, opened, Reaction.wire, peek]⟩)
  case disconnect =>
    rcases c.disconnect_cases with ⟨_, same⟩ | ⟨_, _, _, peek, same⟩ | ⟨_, _, _, same⟩
    · exact .inl (by simp [Accounts, apply, react, same, refuse, Reaction.wire, accepted])
    · exact .inl (by simp [Accounts, apply, react, same, Reaction.wire, accepted, peek])
    · exact .inr (.inl ⟨.inl rfl, by
        simp [apply, react, same, shutdown, teardown, markAllForResub]⟩)
  case abort =>
    exact .inr (.inl ⟨.inr (.inl rfl), by
      simp [apply, react, abort, shutdown, teardown, markAllForResub]⟩)
  case shutdown reason =>
    exact .inr (.inl ⟨.inr (.inr ⟨reason, rfl⟩), by
      simp [apply, react, shutdown, teardown, markAllForResub]⟩)
  case send result written now =>
    refine .inl ?_
    by_cases up : result = .ok
    · subst up
      by_cases none : written = 0
      · simp [Accounts, apply, react, none, accepted, Reaction.wire]
      · simp [Accounts, apply, react, none, accepted, Reaction.wire]
    · have silent : c.accepted (.send result written now) = [] := by
        cases result <;> first | exact absurd rfl up | rfl
      simp [Accounts, apply, react, up, silent, Reaction.wire]
  case recv result bytes now =>
    refine .inl ?_
    simp only [Accounts, apply, react, accepted]
    split <;> simp [Reaction.wire]
  case transportConnect result now =>
    refine .inl ?_
    simp only [Accounts, apply, react, accepted]
    split <;> simp [Reaction.wire]
  all_goals exact .inl (by simp [Accounts, apply, react, accepted, Reaction.wire])

end Client

/-- The bytes the transport took over a stretch of history. -/
def acceptedOver (trace : Trace cfg) : Bytes :=
  trace.flatMap fun event => event.before.accepted event.label

/-- The bytes queued over a stretch of history. -/
def wireOver (trace : Trace cfg) : Bytes := trace.flatMap fun event => event.reaction.wire

/-- Over a stretch in which no session ends and none begins, every byte is
accounted for, in order. -/
theorem accounts_over {Allowed : Log cfg → Label → Prop} {start finish : Log cfg}
    (reaches : Logged.Reaches Client.apply Allowed start finish) {added : Trace cfg}
    (split : finish.trace = start.trace ++ added) (goesOn : ∀ event ∈ added, ¬ event.EndsSession)
    (busy : start.state.state ≠ .idle) :
    start.state.tx.peek ++ wireOver added = acceptedOver added ++ finish.state.tx.peek ∧
      finish.state.state ≠ .idle := by
  induction reaches generalizing added with
  | refl =>
    obtain rfl : added = [] := by simpa using split
    exact ⟨by simp [wireOver, acceptedOver], busy⟩
  | @step log label prior _ ih =>
    obtain ⟨earlier, same⟩ := prior.extends_trace
    obtain rfl : added = earlier ++ [⟨log.state, label⟩] := by
      rw [Logged.perform_trace, same, List.append_assoc] at split
      exact (List.append_cancel_left split).symm
    obtain ⟨accounted, stillBusy⟩ := ih same
      fun event member => goesOn event (by simp [member])
    have survives : (log.state.apply label).state ≠ .idle :=
      goesOn ⟨log.state, label⟩ (by simp)
    refine ⟨?_, survives⟩
    rcases log.state.accounts_cases label with here | ⟨_, idle, _⟩ | ⟨_, _, _, idle, _⟩
    · simp only [wireOver, acceptedOver, List.flatMap_append, List.flatMap_singleton] at accounted ⊢
      calc start.state.tx.peek ++ (_ ++ (log.state.react label).wire)
          = (start.state.tx.peek ++ _) ++ (log.state.react label).wire := by
            rw [List.append_assoc]
        _ = _ := by
            rw [accounted, List.append_assoc, here, List.append_assoc]
            rfl
    · exact absurd idle survives
    · exact absurd idle stillBusy

end Mqtt
