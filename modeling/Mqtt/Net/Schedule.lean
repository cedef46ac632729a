import Mqtt.Net.Link

/-!
# Playing a net

A run of the client fixes its labels. With a broker that computes its answers and
a schedule that says who moves next, the run becomes one of the net, and can be
evaluated. What is played is reachable.
-/

namespace Mqtt

open Library

/-- A broker that computes its moves. -/
structure Player {Tag : Type} (broker : Broker Tag) (Choice : Type) where
  take : broker.State → Posted → broker.State × List (Sent Tag)
  offer : Choice → broker.State → broker.State × List (Sent Tag)
  takes : ∀ state posted, broker.Takes state posted (take state posted).1 (take state posted).2
  offers : ∀ choice state, broker.Offers state (offer choice state).1 (offer choice state).2

/-- Whose turn it is. -/
inductive Turn (Choice : Type) where
  | client
  | take
  | offer (choice : Choice)

variable {cfg : Config} {Tag Choice : Type} {broker : Broker Tag}

/-- The client's history says all about its state. -/
theorem History.state_eq {log : Log cfg} (history : History log) :
    log.state = log.trace.foldl (fun c entry => c.apply entry.label) (Client.initial cfg) := by
  refine Logged.Reaches.invariant (fun log => log.state =
    log.trace.foldl (fun c entry => c.apply entry.label) (Client.initial cfg))
    (fun log label _ same => ?_) history rfl
  rw [Logged.perform_state, Logged.perform_trace, List.foldl_append, ← same]
  rfl

theorem History.log_eq {first second : Log cfg} (history : History first)
    (other : History second) (same : first.trace = second.trace) : first = second := by
  obtain ⟨state, trace⟩ := first
  obtain ⟨state', trace'⟩ := second
  obtain rfl : trace = trace' := same
  have here := history.state_eq
  rw [show state = _ from here, show state' = _ from other.state_eq]

namespace Net

/-- One turn, with the client following its trace. -/
def turn (player : Player broker Choice) (trace : Trace cfg) (net : Net cfg broker) :
    Turn Choice → Option (Net cfg broker)
  | .client =>
    match (trace)[net.log.trace.length]? with
    | none => none
    | some entry =>
      if entry.label.arriving = net.down.take entry.label.arriving.length then
        some (net.clientStep entry.label (net.down.drop entry.label.arriving.length))
      else none
  | .take =>
    match net.untaken with
    | [] => none
    | posted :: rest =>
      if net.log.state.isLive = true ∧
          posted.packet.bytes = net.up.take posted.packet.bytes.length then
        let (state, sent) := player.take net.state posted
        some ({ net with up := net.up.drop posted.packet.bytes.length, untaken := rest }.send state sent)
      else none
  | .offer choice =>
    if net.log.state.isLive = true then
      let (state, sent) := player.offer choice net.state
      some (net.send state sent)
    else none

/-- All turns of a schedule. -/
def play (player : Player broker Choice) (trace : Trace cfg) (net : Net cfg broker) :
    List (Turn Choice) → Option (Net cfg broker)
  | [] => some net
  | next :: rest => (net.turn player trace next).bind fun net => net.play player trace rest

/-- The net has followed the trace so far. -/
structure Follows (trace : Trace cfg) (net : Net cfg broker) : Prop where
  reachable : net.Reachable
  within : ∃ rest, trace = net.log.trace ++ rest

variable {player : Player broker Choice} {net next : Net cfg broker}

theorem Follows.turn {log : Log cfg} (history : History log)
    (follows : net.Follows log.trace) {who : Turn Choice}
    (played : net.turn player log.trace who = some next) : next.Follows log.trace := by
  obtain ⟨reachable, rest, whole⟩ := follows
  cases who with
  | client =>
    simp only [Net.turn] at played
    split at played
    · cases played
    · rename_i entry here
      split_ifs at played with arrives
      cases played
      obtain ⟨later, rfl⟩ : ∃ later, rest = entry :: later := by
        rw [whole, List.getElem?_append_right (Nat.le_refl _), Nat.sub_self] at here
        cases rest with
        | nil => cases here
        | cons first later => exact ⟨later, by simpa using here⟩
      obtain ⟨found, reached, sameTrace, before, permitted, -⟩ := history.cut whole
      obtain rfl : found = net.log := reached.log_eq reachable.flows.history sameTrace
      refine ⟨reachable.step (.client net entry.label _ permitted ?_), later, ?_⟩
      · conv_lhs => rw [← List.take_append_drop entry.label.arriving.length net.down]
        rw [← arrives]
      · obtain ⟨state, label⟩ := entry
        obtain rfl : state = net.log.state := before
        rw [log_clientStep, Logged.perform_trace, List.append_assoc]
        exact whole
  | take =>
    simp only [Net.turn] at played
    split at played
    · cases played
    · rename_i posted later isNext
      split_ifs at played with able
      cases played
      refine ⟨reachable.step (.take net posted later _ _ _ able.1 isNext ?_
        (player.takes net.state posted)), rest, whole⟩
      conv_lhs => rw [← List.take_append_drop posted.packet.bytes.length net.up]
      rw [← able.2]
  | offer choice =>
    simp only [Net.turn] at played
    split_ifs at played with live
    cases played
    exact ⟨reachable.step (.offer net _ _ live (player.offers choice net.state)), rest, whole⟩

theorem Follows.play {log : Log cfg} (history : History log)
    {schedule : List (Turn Choice)} (follows : net.Follows log.trace)
    (played : net.play player log.trace schedule = some next) : next.Follows log.trace := by
  induction schedule generalizing net with
  | nil =>
    cases played
    exact follows
  | cons who rest ih =>
    obtain ⟨middle, first, later⟩ := Option.bind_eq_some_iff.mp played
    exact ih (follows.turn history first) later

/-- What is played along a run is reachable. -/
theorem reachable_play {log : Log cfg} (history : History log) {schedule : List (Turn Choice)}
    (played : (start cfg broker).play player log.trace schedule = some next) : next.Reachable :=
  (Follows.play history ⟨.start, log.trace, rfl⟩ played).reachable

end Net
end Mqtt
