import Mqtt.Session.CheckedRuns
import Mqtt.Session.TableInvariant

/-!
# The receive path under any handler

Handlers act on the client while frames below them still hold lengths, positions and
views. What that can do to the receive path is stated for whole runs: the buffer's
bound, the subtraction that shifts it down, every read by position, what is left of a
session that a handler aborts, and a nested `step()`.
-/

namespace Mqtt

open Library

variable {cfg : Config}

instance (trace : Trace cfg) : Decidable (TransportOpen trace) :=
  inferInstanceAs (Decidable (Since _ _ _))

/-- The receive path is safe in this run. -/
structure ReceivesSafely (cfg : Config) (env : Env) (application : Script) : Prop where
  /-- The receive buffer is never overfull. -/
  bounded : Throughout (fun c _ => c.rx.length ≤ cfg.rxBufferSize)
    (World.exec cfg env application).log
  /-- The length of a packet is subtracted only from a length that reaches it. -/
  subtracts : ∀ event ∈ (World.exec cfg env application).trace, ∀ count,
    event.label = .consume count → count ≤ event.before.rx.length
  /-- With every read checked against the table as it is then, the run is the same. -/
  inRange : Checked.exec cfg env application = some (World.exec cfg env application)
  /-- After an `abort()` no packet is handled and no message handler runs until the
  transport is open again. -/
  aborted : ∀ before ending middle event after,
    (World.exec cfg env application).trace = before ++ ending :: middle ++ event :: after →
    ending.label = .abort → (∀ later ∈ middle, later.label.opensTransport = false) →
    event.label.isHandle = false ∧ ∀ subscription m, event.label ≠ .onMessage subscription m
  /-- And then nothing of the old session is left in the buffer. -/
  reopened : ∀ event ∈ (World.exec cfg env application).trace,
    event.label.opensTransport = true → event.before.rx = []
  /-- A nested `step()` finds the flag set, says so and changes nothing. -/
  nested : ∀ event ∈ (World.exec cfg env application).trace, event.label = .stepRefused →
    event.before.inStep = true ∧ event.reaction.error = .reentrant ∧
      event.reaction.client = event.before

/-! ## What is left of a session -/

/-- Without a connection nothing is received. -/
theorem History.isLive_or_rx {log : Log cfg} (history : History log)
    (silent : SilentWhenClosed log.trace) : log.state.isLive = true ∨ log.state.rx = [] := by
  by_cases idle : log.state.state = .idle
  · exact .inr (history.atRest silent idle).rx
  by_cases opening : log.state.state = .connecting
  · exact .inr (history.rx_of_connecting opening)
  · exact .inl (log.state.isLive_iff.mpr ⟨idle, opening⟩)

/-- A packet is handled and a message handler runs only on a connection. -/
theorem History.live_of_receiving {log : Log cfg} (history : History log)
    (silent : SilentWhenClosed log.trace) {label : Label} (permitted : Permitted log label)
    (receives : label.isHandle = true ∨ ∃ subscription m, label = .onMessage subscription m) :
    log.state.isLive = true := by
  rcases receives with isHandle | ⟨subscription, m, rfl⟩
  · cases label <;> cases isHandle
    obtain ⟨_, p, peeked, _⟩ := permitted
    refine (history.isLive_or_rx silent).resolve_right fun empty => ?_
    rw [empty] at peeked
    cases peeked
  · exact log.state.isLive_iff.mpr (by simp [permitted.2])

/-- The receive path is safe in every run. -/
theorem receives_safely (cfg : Config) (env : Env) (application : Script)
    (silent : SilentWhenClosed (World.exec cfg env application).trace) :
    ReceivesSafely cfg env application := by
  have history := World.exec_history cfg env application
  refine ⟨?_, ?_, Checked.exec_eq cfg env application, ?_, ?_, ?_⟩
  · exact @History.throughout _ (fun c _ => c.rx.length ≤ cfg.rxBufferSize) (fun _ => True) _ history
      trivial (fun _ _ _ => trivial) fun _ reached _ => World.history_length_rx reached
  · rintro event member count isConsume
    obtain ⟨before, after, split⟩ := List.append_of_mem member
    obtain ⟨earlier, _, _, here, permitted, _⟩ := history.cut split
    rw [isConsume] at permitted
    obtain ⟨_, _, _, enough⟩ := permitted
    exact here ▸ enough
  · intro before ending middle event after split aborts unopened
    obtain ⟨earlier, reached, trace, _, permitted, _⟩ := history.cut split
    have closed : ¬ TransportOpen earlier.trace := by
      rw [trace]
      refine not_since_of_spoiled (by rw [aborts]; rfl) fun later member opens => ?_
      rcases List.mem_cons.mp member with rfl | inside
      · rw [aborts] at opens
        cases opens
      · exact absurd opens (by simp [unopened later inside])
    have silentHere : SilentWhenClosed earlier.trace := by
      rw [trace]
      exact (split ▸ silent).of_append
    have live := fun receives => reached.transportOpen_iff.mpr
      (reached.live_of_receiving silentHere permitted receives)
    refine ⟨?_, fun subscription m isMessage => closed (live (.inr ⟨subscription, m, isMessage⟩))⟩
    exact Bool.eq_false_iff.mpr fun isHandle => closed (live (.inl isHandle))
  · intro event member opens
    obtain ⟨before, after, split⟩ := List.append_of_mem member
    obtain ⟨earlier, reached, _, here, permitted, _⟩ := history.cut split
    rw [here]
    exact reached.rx_of_connecting (reached.rx_of_opening permitted opens).1
  · intro event member isRefused
    obtain ⟨before, after, split⟩ := List.append_of_mem member
    obtain ⟨earlier, reached, _, here, permitted, _⟩ := history.cut split
    rw [isRefused] at permitted
    refine ⟨here ▸ reached.fits.inStep permitted.2, ?_⟩
    simp only [Entry.reaction, isRefused, Client.react, and_self]

namespace AbortInHandler

/-- CONNACK and two QoS 0 messages arrive together; the handler of the first aborts,
tries a `step()` and connects again. -/
def env : Env where
  opens := [.ok]
  sends := [(.ok, 15)]
  recvs := [(.ok, [0x20, 2, 0, 0, 0x30, 3, 0, 1, 116, 0x30, 3, 0, 1, 116])]
  messageScripts := [⟨.abort .done (.step (.connect { clientId := [97] } .done)), rfl⟩]

def application : Script := .connect { clientId := [97] } (.step .done)

def run : World .small := World.exec .small env application

end AbortInHandler

theorem receives_safely_aborting :
    AbortInHandler.run.trace.countP (·.label.isHandle) = 2 ∧
      ReceivesSafely .small AbortInHandler.env AbortInHandler.application :=
  ⟨by decide +kernel, receives_safely .small AbortInHandler.env AbortInHandler.application
    fun _ _ _ split => @forall_split _ _
      (fun before event => ¬ TransportOpen before → event.label.arriving = []) (by decide +kernel)
      _ _ _ split⟩

end Mqtt
