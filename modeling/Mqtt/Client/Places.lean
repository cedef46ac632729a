import Mqtt.Client.Refinement

/-!
# What is known in each place

`Control.Moves` says once where each piece of code leads from the places it may run in,
so that what is claimed of the places is settled case by case.

The tests a pass makes before it enters a stage still hold while it is there.
`Control.Fits` collects them, and every history keeps them.
-/

namespace Mqtt

open Library

variable {cfg : Config}

/-- What the transport answered. -/
def Label.answer : Label → Option Error
  | .transportConnect result _ | .send result _ _ | .recv result _ _ => some result
  | _ => none

/-- A label that does nothing to the client while application code runs. -/
def Label.isAside : Label → Bool
  | .stepRefused | .onMessage _ _ => true
  | _ => false

/-- A label that enters or leaves `step()`. -/
def Label.turns : Label → Bool
  | .stepEnter | .stepLeave _ => true
  | _ => false

/-- A call neither enters nor leaves `step()`. -/
theorem Label.turns_of_isCall {label : Label} (isCall : label.isCall = true) :
    label.turns = false := by
  cases label <;> first | rfl | cases isCall

/-- A step aside changes no client. -/
theorem Client.apply_aside (c : Client cfg) {label : Label} (isAside : label.isAside = true) :
    c.apply label = c := by
  cases label <;> first | rfl | cases isAside

/-- A send changes no state. -/
theorem Client.state_of_send (c : Client cfg) (result : Error) (written : Nat) (now : UInt32) :
    (c.apply (.send result written now)).state = c.state := by
  simp only [Client.apply, Client.react]
  split <;> rfl

namespace Control

/-! ## Where each piece of code leads -/

/-- The piece of code fails, for this reason. -/
inductive Fails (c : Client cfg) (reason : Error) : Control → Label → Prop where
  | connect (now : UInt32) (answered : reason ≠ .wouldBlock) :
      Fails c reason .opening (.transportConnect reason now)
  | deadline (now : UInt32) (late : (c.react (.deadline now)).error = reason) :
      Fails c reason .awaiting (.deadline now)
  | send (written : Nat) (now : UInt32) (answered : reason ≠ .wouldBlock) :
      Fails c reason .sending (.send reason written now)
  | flush (written : Nat) (now : UInt32) (answered : reason ≠ .wouldBlock) :
      Fails c reason .flushing (.send reason written now)
  | recv (rest : Nat) (bytes : Bytes) (now : UInt32) (answered : reason ≠ .wouldBlock) :
      Fails c reason (.receiving rest) (.recv reason bytes now)
  | consumed (rest : Option Nat) (count : Nat) :
      Fails c reason (.handling rest reason count) (.consume count)
  | discarded (rest : Option Nat) (total : Nat) :
      Fails c reason (.handling rest reason total) .discard
  /-- A handler ended the session. -/
  | handler (rest : Option Nat) (total : Nat) (told : c.lastError = reason) :
      Fails c reason (.handling rest .ok total) .discard
  | keepAlive (now : UInt32) (silent : (c.react (.keepAlive now)).error = reason) :
      Fails c reason .keepingAlive (.keepAlive now)

/-- One label: the place it is taken in and the one it leads to. -/
inductive Moves (c : Client cfg) : Control → Label → Control → Prop where
  | call {control : Control} {label : Label} (runs : control.appRuns = true)
      (isCall : label.isCall = true) : Moves c control label control
  | aside {control : Control} {label : Label} (runs : control.appRuns = true)
      (isAside : label.isAside = true) : Moves c control label control
  | enterIdle (idle : c.state = .idle) : Moves c .outside .stepEnter (.leaving .ok)
  | enterOpening (connecting : c.state = .connecting) : Moves c .outside .stepEnter .opening
  | enter (busy : c.state ≠ .idle) (settled : c.state ≠ .connecting) :
      Moves c .outside .stepEnter (sendStage (c.apply .stepEnter))
  | leave (result : Error) : Moves c (.leaving result) (.stepLeave result) .outside
  | leaveEnded (result : Error) : Moves c (.ending result) (.stepLeave result) .outside
  | blocked (now : UInt32) : Moves c .opening (.transportConnect .wouldBlock now) .awaiting
  | opened (now : UInt32) : Moves c .opening (.transportConnect .ok now)
      (sendStage (c.apply (.transportConnect .ok now)))
  | inTime (now : UInt32) : Moves c .awaiting (.deadline now) (.leaving .ok)
  | sent (written : Nat) (now : UInt32) : Moves c .sending (.send .ok written now)
      (sendStage (c.apply (.send .ok written now)))
  | pumped (result : Error) (written : Nat) (now : UInt32)
      (works : result = .ok ∨ result = .wouldBlock) : Moves c .sending (.send result written now)
      (pumpedStage (c.apply (.send result written now)))
  | flushes (written : Nat) (now : UInt32) : Moves c .flushing (.send .ok written now)
      (flushStage (c.apply (.send .ok written now)))
  | flushed (result : Error) (written : Nat) (now : UInt32)
      (works : result = .ok ∨ result = .wouldBlock) :
      Moves c .flushing (.send result written now) (.leaving .ok)
  | received (rest : Nat) (result : Error) (bytes : Bytes) (now : UInt32) (left : Option Nat)
      (works : result = .ok ∨ result = .wouldBlock) :
      Moves c (.receiving rest) (.recv result bytes now)
        (drainStage (c.apply (.recv result bytes now)) left)
  | handled (rest : Option Nat) (header : FixedHeader) (body : Bytes) (now : UInt32)
      (fronts : Fronts c.rx header body) : Moves c (.draining rest) (.handle header body now)
      (.handling rest (c.react (.handle header body now)).error (frontTotal c.rx))
  | consumed (rest : Option Nat) (count : Nat) (inside : count ≤ c.rx.length) :
      Moves c (.handling rest .ok count) (.consume count)
        (drainStage (c.apply (.consume count)) rest)
  | discarded (rest : Option Nat) (total : Nat) (short : c.rx.length < total)
      (fine : c.lastError = .ok) :
      Moves c (.handling rest .ok total) .discard (drainedStage (c.apply .discard) rest)
  | keptAlive (now : UInt32) (fine : (c.react (.keepAlive now)).error = .ok) :
      Moves c .keepingAlive (.keepAlive now) .resubscribing
  | resubscribed (now : UInt32) : Moves c .resubscribing (.resubscribe now) .retransmitting
  | retransmitted (now : UInt32) : Moves c .retransmitting (.retransmit now)
      (flushStage (c.apply (.retransmit now)))
  | fails {control : Control} {label : Label} (reason : Error) (failed : reason ≠ .ok)
      (why : Fails c reason control label) (permits : control.Permits c label) :
      Moves c control label (.closing reason)
  | closed (reason : Error) (idle : c.state = .idle) :
      Moves c (.closing reason) (.shutdown reason) (.leaving reason)
  | ended (reason : Error) (busy : c.state ≠ .idle) :
      Moves c (.closing reason) (.shutdown reason) (.ending reason)

/-- A piece of code that may fail fails, or goes on. -/
theorem moves_orClose {c : Client cfg} {control next : Control} {label : Label} {error : Error}
    (permits : control.Permits c label) (why : error ≠ .ok → Fails c error control label)
    (onward : error = .ok → Moves c control label next) :
    Moves c control label (orClose error next) := by
  unfold orClose
  split
  · rename_i failed
    exact .fails error failed (why failed) permits
  · rename_i fine
    exact onward (not_not.mp fine)

theorem moves_enter {c : Client cfg} :
    Moves c .outside .stepEnter (enterStage (c.apply .stepEnter)) := by
  have same : (c.apply .stepEnter).state = c.state := rfl
  unfold enterStage
  rw [same]
  split_ifs with idle connecting
  · exact .enterIdle idle
  · exact .enterOpening connecting
  · exact .enter idle connecting

/-- Every permitted label is such a move. -/
theorem moves_of_permits {c : Client cfg} {control : Control} {label : Label}
    (permits : control.Permits c label) : Moves c control label (control.after c label) := by
  by_cases isCall : label.isCall = true
  · rw [World.after_of_isCall _ _ isCall]
    refine .call ?_ isCall
    cases label <;> first | exact permits | cases isCall
  cases label with
  | connect | disconnect | abort | publish | subscribe | unsubscribe => exact absurd rfl isCall
  | stepEnter =>
    obtain rfl : control = .outside := permits
    exact moves_enter
  | stepLeave result =>
    obtain rfl | rfl : control = .leaving result ∨ control = .ending result := permits
    · exact .leave result
    · exact .leaveEnded result
  | stepRefused =>
    have same : control.after c .stepRefused = control := by cases control <;> rfl
    rw [same]
    exact .aside permits.1 rfl
  | onMessage subscription m =>
    obtain ⟨⟨rest, total, rfl⟩, _⟩ := permits
    exact .aside rfl rfl
  | transportConnect result now =>
    obtain rfl : control = .opening := permits
    simp only [Control.after]
    split
    · rename_i isBlocked
      subst isBlocked
      exact .blocked now
    · refine moves_orClose rfl (fun _ => .connect now ‹_›) ?_
      rintro rfl
      exact .opened now
  | shutdown reason =>
    obtain rfl : control = .closing reason := permits
    simp only [Control.after]
    split_ifs with idle
    · exact .closed reason idle
    · exact .ended reason idle
  | deadline now =>
    obtain rfl : control = .awaiting := permits
    exact moves_orClose rfl (fun _ => .deadline now rfl) fun _ => .inTime now
  | send result written now =>
    rcases permits.1 with rfl | rfl <;> simp only [Control.after]
    · split
      · rename_i isBlocked
        exact .pumped result written now (.inr isBlocked)
      · refine moves_orClose permits (fun _ => .send written now ‹_›) ?_
        rintro rfl
        split
        · exact .pumped .ok written now (.inl rfl)
        · exact .sent written now
    · split
      · rename_i isBlocked
        exact .flushed result written now (.inr isBlocked)
      · refine moves_orClose permits (fun _ => .flush written now ‹_›) ?_
        rintro rfl
        split
        · exact .flushed .ok written now (.inl rfl)
        · exact .flushes written now
  | recv result bytes now =>
    obtain ⟨rest, rfl⟩ := permits.1
    simp only [Control.after]
    split
    · rename_i isBlocked
      exact .received rest result bytes now none (.inr isBlocked)
    · refine moves_orClose permits (fun _ => .recv rest bytes now ‹_›) fun fine => ?_
      exact .received rest result bytes now _ (.inl fine)
  | handle header body now =>
    obtain ⟨⟨rest, rfl⟩, fronts⟩ := permits
    exact .handled rest header body now fronts
  | consume count =>
    have held := permits
    obtain ⟨rest, error, rfl, inside⟩ := permits
    refine moves_orClose held (fun _ => .consumed rest count) ?_
    rintro rfl
    exact .consumed rest count inside
  | discard =>
    have held := permits
    obtain ⟨rest, error, total, rfl, short⟩ := permits
    simp only [Control.after]
    by_cases fine : error = .ok
    · subst fine
      simp only [ne_eq, not_true_eq_false, if_false]
      exact moves_orClose held (fun _ => .handler rest total rfl)
        fun fine => .discarded rest total short fine
    · simp only [ne_eq, fine, not_false_eq_true, if_true]
      exact moves_orClose held (fun _ => .discarded rest total) fun ok => absurd ok fine
  | keepAlive now =>
    obtain rfl : control = .keepingAlive := permits
    exact moves_orClose rfl (fun _ => .keepAlive now rfl) fun fine => .keptAlive now fine
  | resubscribe now =>
    obtain rfl : control = .resubscribing := permits
    exact .resubscribed now
  | retransmit now =>
    obtain rfl : control = .retransmitting := permits
    exact .retransmitted now

/-! ## The client in each place -/

/-- What the client is known to be like in a place. -/
def Fits (control : Control) (c : Client cfg) : Prop :=
  match control with
  | .outside => c.inStep = false
  | .opening => c.inStep = true ∧ c.state = .connecting
  | .awaiting => c.inStep = true ∧ (c.state = .connecting ∨ c.state = .awaitingConnack)
  | .sending =>
    c.inStep = true ∧ c.state ≠ .idle ∧ c.state ≠ .connecting ∧ c.tx.isEmpty = false
  | .keepingAlive | .resubscribing | .retransmitting => c.inStep = true ∧ c.state = .connected
  | .flushing => c.inStep = true ∧ c.state ≠ .connecting ∧ c.tx.isEmpty = false
  | _ => c.inStep = true

variable {c : Client cfg}

/-- The places a pass comes to after its first `pump_tx`, by its own tests, and what
they found. -/
inductive Comes (c : Client cfg) : Control → Prop where
  | receiving (rest : Nat) : Comes c (.receiving rest)
  | draining (rest : Option Nat) : Comes c (.draining rest)
  | awaiting (handshaking : c.state = .awaitingConnack) : Comes c .awaiting
  | keepingAlive (up : c.state = .connected) : Comes c .keepingAlive
  | flushing (settled : c.state ≠ .connecting) (down : c.state ≠ .connected)
      (waiting : c.tx.isEmpty = false) : Comes c .flushing
  | leaving (down : c.state ≠ .connected) : Comes c (.leaving .ok)
  | departed (departing : c.state = .disconnecting) (drained : c.tx.isEmpty = true) :
      Comes c (.closing .ok)
  | refused (reason : Error)
      (refuses : reason = .packetTooLarge ∨ peekHeader c.rx = .error reason) :
      Comes c (.closing reason)

theorem comes_flushStage (settled : c.state ≠ .connecting) (down : c.state ≠ .connected) :
    Comes c (flushStage c) := by
  unfold flushStage
  split
  · exact .leaving down
  · rename_i waiting
    exact .flushing settled down (by simpa using waiting)

theorem fits_flushStage (running : c.inStep = true) (settled : c.state ≠ .connecting) :
    (flushStage c).Fits c := by
  unfold flushStage
  split
  · exact running
  · rename_i waiting
    exact ⟨running, settled, by simpa using waiting⟩

/-- The test after the receives leads to one of these places. -/
theorem comes_receivedStage : Comes c (receivedStage c) := by
  unfold receivedStage
  split_ifs with connecting handshaking up
  · exact .leaving (by simp [connecting])
  · exact .awaiting handshaking
  · exact .keepingAlive up
  · exact comes_flushStage connecting up

/-- So does the test after a drain, -/
theorem comes_drainedStage (rest : Option Nat) : Comes c (drainedStage c rest) := by
  cases rest with
  | none => exact comes_receivedStage
  | some rest =>
    unfold drainedStage
    split_ifs
    · exact comes_receivedStage
    · exact .refused .packetTooLarge (.inl rfl)
    · cases rest with
      | zero => exact comes_receivedStage
      | succ rest => exact .receiving rest

/-- the one before it -/
theorem comes_drainStage (rest : Option Nat) : Comes c (drainStage c rest) := by
  unfold drainStage
  split
  · exact comes_drainedStage rest
  · split
    · rename_i error failed
      split
      · exact comes_drainedStage rest
      · exact .refused error (.inr failed)
    · split_ifs
      · exact .refused .packetTooLarge (.inl rfl)
      · exact comes_drainedStage rest
      · exact .draining rest

/-- and the one after the sends. -/
theorem comes_pumpedStage : Comes c (pumpedStage c) := by
  unfold pumpedStage receiveStage
  split_ifs with departed
  · exact .departed departed.1 departed.2
  · exact .receiving _
  · exact comes_drainStage _

/-- A place that is come to fits the client. -/
theorem Comes.fits {control : Control} (comes : Comes c control) (running : c.inStep = true) :
    control.Fits c := by
  cases comes with
  | awaiting handshaking => exact ⟨running, .inr handshaking⟩
  | keepingAlive up => exact ⟨running, up⟩
  | flushing settled _ waiting => exact ⟨running, settled, waiting⟩
  | _ => exact running

theorem fits_sendStage (running : c.inStep = true) (busy : c.state ≠ .idle)
    (open_ : c.state ≠ .connecting) : (sendStage c).Fits c := by
  unfold sendStage
  split
  · exact comes_pumpedStage.fits running
  · rename_i waiting
    exact ⟨running, busy, open_, by simpa using waiting⟩

/-- A place a pass comes to by itself: no handler runs there, and it does not leave
with an error. -/
def Plain : Control → Prop
  | .handling _ _ _ | .ending _ => False
  | .leaving result => result = .ok
  | _ => True

theorem plain_orClose {error : Error} {next : Control} (plain : next.Plain) :
    (orClose error next).Plain := by
  unfold orClose
  split
  · trivial
  · exact plain

theorem plain_flushStage : (flushStage c).Plain := by
  unfold flushStage
  split <;> trivial

theorem Comes.plain {control : Control} (comes : Comes c control) : control.Plain := by
  cases comes <;> trivial

theorem plain_sendStage : (sendStage c).Plain := by
  unfold sendStage
  split
  · exact comes_pumpedStage.plain
  · trivial

/-- How much of the receive buffer has been handled but not yet consumed. -/
def offset : Control → Nat
  | .handling _ _ total => total
  | _ => 0

/-- The packet that has been handled but not yet consumed: the rounds left after it, how
it went, and its size. -/
def inHand : Control → Option (Option Nat × Error × Nat)
  | .handling rest error total => some (rest, error, total)
  | _ => none

/-- The offset is that of the packet in hand. -/
theorem offset_eq (control : Control) : control.offset = (control.inHand.map (·.2.2)).getD 0 := by
  cases control <;> rfl

theorem Plain.inHand {control : Control} (plain : control.Plain) : control.inHand = none := by
  cases control <;> first | rfl | exact plain.elim

theorem Plain.offset {control : Control} (plain : control.Plain) : control.offset = 0 := by
  rw [offset_eq, plain.inHand]
  rfl

/-- The running pass of a place other than `outside`. -/
theorem Fits.inStep {control : Control} (fits : control.Fits c) (inside : control ≠ .outside) :
    c.inStep = true := by
  cases control <;> first | exact absurd rfl inside | exact fits | exact fits.1

/-- The code of `step()` is running. -/
def inside : Control → Bool
  | .outside => false
  | _ => true

/-- Only entering and leaving `step()` touch its flag. -/
theorem apply_inStep (c : Client cfg) {label : Label} (within : label.turns = false) :
    (c.apply label).inStep = c.inStep := by
  by_cases isCall : label.isCall = true
  · exact (c.call_frame isCall).1
  by_cases quiet : Client.isQuiet label = true
  · exact (c.react_quiet quiet).inStep
  cases label <;> first | exact absurd rfl isCall | exact absurd rfl quiet | skip
  case stepEnter => cases within
  case stepLeave result => cases within
  case handle header body now => exact (c.handlePacket_within header body now).inStep
  case shutdown reason =>
    simp [Client.apply, Client.react, Client.shutdown, Client.teardown, Client.markAllForResub]
  all_goals
    simp only [Client.apply, Client.react]
    try split
  all_goals rfl

/-- Where application code runs, fitting is knowing whether `step()` is on the stack. -/
theorem appRuns_fits_iff {control : Control} (runs : control.appRuns = true) :
    control.Fits c ↔ (c.inStep = true ↔ control ≠ .outside) := by
  cases control <;> simp_all [appRuns, Fits]

/-- One label keeps what is known. -/
theorem Fits.after {control : Control} {label : Label} (fits : control.Fits c)
    (permits : control.Permits c label) : (control.after c label).Fits (c.apply label) := by
  have running : control.inside = true → label.turns = false →
      (c.apply label).inStep = true := by
    intro inside within
    refine (apply_inStep c within).trans (fits.inStep ?_)
    rintro rfl
    cases inside
  have moves := moves_of_permits permits
  generalize control.after c label = next at moves ⊢
  cases moves with
  | call runs isCall =>
    rw [appRuns_fits_iff runs, (c.call_frame isCall).1]
    exact (appRuns_fits_iff runs).mp fits
  | aside runs isAside =>
    rw [c.apply_aside isAside]
    exact fits
  | enterIdle idle => exact rfl
  | enterOpening connecting => exact ⟨rfl, connecting⟩
  | enter busy settled => exact fits_sendStage rfl busy settled
  | leave result => exact rfl
  | leaveEnded result => exact rfl
  | blocked now => exact ⟨running rfl rfl, .inl fits.2⟩
  | opened now =>
    exact fits_sendStage (running rfl rfl) (by simp [Client.apply, Client.react])
      (by simp [Client.apply, Client.react])
  | sent written now =>
    have same := c.state_of_send .ok written now
    exact fits_sendStage (running rfl rfl) (same.trans_ne fits.2.1) (same.trans_ne fits.2.2.1)
  | pumped result written now works => exact comes_pumpedStage.fits (running rfl rfl)
  | flushes written now =>
    exact fits_flushStage (running rfl rfl)
      ((c.state_of_send .ok written now).trans_ne fits.2.1)
  | received rest result bytes now left works =>
    exact (comes_drainStage left).fits (running rfl rfl)
  | consumed rest count inside => exact (comes_drainStage rest).fits (running rfl rfl)
  | discarded rest total short fine => exact (comes_drainedStage rest).fits (running rfl rfl)
  | keptAlive now fine =>
    exact ⟨running rfl rfl, (c.pumpKeepAlive_quiet now).sameState.trans fits.2⟩
  | resubscribed now =>
    exact ⟨running rfl rfl, (c.pumpResubscribe_quiet now).sameState.trans fits.2⟩
  | retransmitted now =>
    have up := (c.pumpRetransmit_quiet now).sameState.trans fits.2
    exact fits_flushStage (running rfl rfl) (up.trans_ne (by simp))
  | fails reason failed why => cases why <;> exact running rfl rfl
  | inTime | flushed | handled | closed | ended => exact running rfl rfl

end Control

namespace Control

variable {c : Client cfg}

section

variable {control : Control} {label : Label} (permits : control.Permits c label)

include permits

/-- Only handling a packet, and returning from it, change which one is in hand. -/
theorem inHand_after (notHandle : ∀ header body now, label ≠ .handle header body now)
    (notConsume : ∀ count, label ≠ .consume count) (notDiscard : label ≠ .discard) :
    (control.after c label).inHand = control.inHand := by
  have moves := moves_of_permits permits
  generalize control.after c label = next at moves ⊢
  cases moves with
  | enter | opened | sent => exact plain_sendStage.inHand
  | pumped => exact comes_pumpedStage.plain.inHand
  | flushes | retransmitted => exact plain_flushStage.inHand
  | received => exact (comes_drainStage _).plain.inHand
  | handled rest header body now => exact absurd rfl (notHandle header body now)
  | consumed rest count => exact absurd rfl (notConsume count)
  | discarded => exact absurd rfl notDiscard
  | fails reason failed why =>
    cases why with
    | consumed rest count => exact absurd rfl (notConsume count)
    | discarded | handler => exact absurd rfl notDiscard
    | _ => rfl
  | _ => rfl

/-- A packet is in hand from the label that hands it over. -/
theorem handling_of_after {rest : Option Nat} {error : Error} {total : Nat}
    (here : control.after c label = .handling rest error total) :
    (∃ header body now, label = .handle header body now ∧ (c.react label).error = error) ∨
      control = .handling rest error total := by
  have plain : ∀ {next : Control}, next.Plain → next ≠ .handling rest error total := by
    rintro next plain rfl
    exact plain
  have moves := moves_of_permits permits
  rw [here] at moves
  generalize isNext : Control.handling rest error total = next at moves
  cases moves with
  | call | aside => exact .inr rfl
  | handled _ header body now =>
    injection isNext with _ sameError _
    exact .inl ⟨header, body, now, rfl, sameError.symm⟩
  | enter | opened | sent => exact absurd isNext.symm (plain plain_sendStage)
  | pumped => exact absurd isNext.symm (plain comes_pumpedStage.plain)
  | flushes | retransmitted => exact absurd isNext.symm (plain plain_flushStage)
  | received | consumed => exact absurd isNext.symm (plain (comes_drainStage _).plain)
  | discarded => exact absurd isNext.symm (plain (comes_drainedStage _).plain)
  | _ => cases isNext

/-- Only the handling and the removal of a packet move the offset. -/
theorem offset_after (notHandle : ∀ header body now, label ≠ .handle header body now)
    (notConsume : ∀ count, label ≠ .consume count) (notDiscard : label ≠ .discard) :
    (control.after c label).offset = control.offset := by
  rw [offset_eq, offset_eq, inHand_after permits notHandle notConsume notDiscard]

end

end Control

/-! ## Why a pass is to close -/

namespace Control

variable {c : Client cfg} {control : Control} {label : Label} {reason : Error}

/-- The label leads a pass to close for this reason. -/
inductive Closes (c : Client cfg) (label : Label) (reason : Error) : Control → Prop where
  /-- The transport failed. -/
  | answered {control : Control} (answer : label.answer = some reason) (failed : reason ≠ .ok) :
      Closes c label reason control
  | late (now : UInt32) (isDeadline : label = .deadline now)
      (error : (c.react label).error = reason) (failed : reason ≠ .ok) :
      Closes c label reason .awaiting
  | silent (now : UInt32) (isTimer : label = .keepAlive now)
      (error : (c.react label).error = reason) (failed : reason ≠ .ok) :
      Closes c label reason .keepingAlive
  /-- A packet failed. -/
  | packet (rest : Option Nat) (total : Nat) (failed : reason ≠ .ok) :
      Closes c label reason (.handling rest reason total)
  /-- A handler ended the session. -/
  | handler (rest : Option Nat) (total : Nat) (isDiscard : label = .discard)
      (error : c.lastError = reason) (failed : reason ≠ .ok) :
      Closes c label reason (.handling rest .ok total)
  /-- The pass itself found the reason. -/
  | found {control : Control} (comes : Comes (c.apply label) (.closing reason)) :
      Closes c label reason control

theorem comes_of_sendStage (here : sendStage c = .closing reason) : Comes c (.closing reason) := by
  unfold sendStage at here
  split at here
  · exact here ▸ comes_pumpedStage
  · cases here

/-- The last flush never closes. -/
theorem flushStage_ne_closing : flushStage c ≠ .closing reason := by
  unfold flushStage
  split <;> simp

/-- Every way into a place from which the pass closes. -/
theorem closes_of_after (permits : control.Permits c label)
    (closes : control.after c label = .closing reason) : Closes c label reason control := by
  have moves := moves_of_permits permits
  rw [closes] at moves
  generalize isNext : Control.closing reason = next at moves
  cases moves with
  | call runs | aside runs =>
    rw [← isNext] at runs
    cases runs
  | enter | opened | sent => exact .found (comes_of_sendStage isNext.symm)
  | pumped => exact .found (isNext ▸ comes_pumpedStage)
  | flushes | retransmitted => exact absurd isNext.symm flushStage_ne_closing
  | received | consumed => exact .found (isNext ▸ comes_drainStage _)
  | discarded => exact .found (isNext ▸ comes_drainedStage _)
  | fails _ failed why =>
    injection isNext with same
    subst same
    cases why with
    | connect | send | flush | recv => exact .answered rfl failed
    | deadline now late => exact .late now rfl late failed
    | keepAlive now silent => exact .silent now rfl silent failed
    | consumed rest count => exact .packet rest count failed
    | discarded rest total => exact .packet rest total failed
    | handler rest total told => exact .handler rest total rfl told failed
  | _ => cases isNext

end Control

/-- Every history keeps what is known in its place. -/
theorem History.fits {log : Log cfg} (history : History log) :
    (Control.of log.trace).Fits log.state := by
  refine Logged.Reaches.invariant (fun log => (Control.of log.trace).Fits log.state)
    (fun log label permitted fits => ?_) history rfl
  simpa using fits.after permitted

/-- A session under way has no error yet. -/
theorem History.lastError_of_busy {log : Log cfg} (history : History log)
    (busy : log.state.state ≠ .idle) : log.state.lastError = .ok := by
  refine history.invariant (fun log => log.state.state ≠ .idle → log.state.lastError = .ok)
    (fun log label prior permitted ih busy => ?_) (fun busy => absurd rfl busy) busy
  rcases log.state.apply_lastError label with
    ⟨_, _, _, _, _, fine⟩ | ⟨_, idle⟩ | ⟨same, origin, _⟩
  · exact fine
  · exact absurd idle busy
  · refine same.trans (ih ?_)
    rcases origin with sameState | wasBusy | ⟨now, rfl⟩
    · exact sameState ▸ busy
    · exact wasBusy
    · have opening : Control.of log.trace = .opening := permitted
      have fits := prior.fits
      rw [opening] at fits
      simp [fits.2]

/-! ## While no session is up -/

/-- A reaction that queues nothing, tells nobody, and leaves the session's kind and
its tables of messages alone. -/
structure Client.Inert (c : Client cfg) (reaction : Reaction cfg) : Prop where
  queued : reaction.queued = []
  callback : reaction.callback = none
  outbound : reaction.client.outbound = c.outbound
  inboundIds : reaction.client.inboundIds = c.inboundIds
  cleanSession : reaction.client.cleanSession = c.cleanSession

theorem Client.inert_refuse (c : Client cfg) (error : Error) : c.Inert (c.refuse error) :=
  ⟨rfl, rfl, rfl, rfl, rfl⟩

/-- While a session begins or ends, everything but a packet is inert or ends it. -/
theorem History.inert_of_down {log : Log cfg} (history : History log)
    {label : Label} (permitted : Permitted log label) (busy : log.state.state ≠ .idle)
    (down : log.state.state ≠ .connected)
    (notPacket : ∀ header body now, label ≠ .handle header body now) :
    log.state.Inert (log.state.react label) ∨
      ∃ tx reason, log.state.react label = Client.shutdown { log.state with tx := tx } reason := by
  have fits := history.fits
  -- The timers run in places that are entered while connected only.
  have notTimer : Control.of log.trace ≠ .keepingAlive ∧ Control.of log.trace ≠ .resubscribing ∧
      Control.of log.trace ≠ .retransmitting := by
    refine ⟨fun place => ?_, fun place => ?_, fun place => ?_⟩
    all_goals
      rw [place] at fits
      exact down fits.2
  cases label with
  | handle header body now => exact absurd rfl (notPacket header body now)
  | keepAlive now => exact absurd permitted notTimer.1
  | resubscribe now => exact absurd permitted notTimer.2.1
  | retransmit now => exact absurd permitted notTimer.2.2
  | connect opts now =>
    rcases log.state.connect_cases opts now with ⟨error, _, same⟩ | ⟨idle, _⟩ | ⟨idle, _⟩
    · exact .inl (by rw [Client.react, same]; exact log.state.inert_refuse error)
    · exact absurd idle busy
    · exact absurd idle busy
  | publish topic payload qos retain now =>
    simp only [Client.react, Client.publish, if_pos down]
    exact .inl (log.state.inert_refuse _)
  | subscribe subs handler now =>
    simp only [Client.react, Client.subscribe, if_pos down]
    exact .inl (log.state.inert_refuse _)
  | unsubscribe filters now =>
    simp only [Client.react, Client.unsubscribe, if_pos down]
    exact .inl (log.state.inert_refuse _)
  | disconnect =>
    rcases log.state.disconnect_cases with ⟨idle, _⟩ | ⟨up, _⟩ | ⟨_, _, tx, same⟩
    · exact absurd idle busy
    · exact absurd up down
    · exact .inr ⟨tx, .ok, same⟩
  | abort => exact .inr ⟨log.state.tx, _, rfl⟩
  | shutdown reason => exact .inr ⟨log.state.tx, reason, rfl⟩
  | transportConnect result now | send result written now | recv result bytes now =>
    simp only [Client.react]
    split <;> exact .inl ⟨rfl, rfl, rfl, rfl, rfl⟩
  | _ => exact .inl ⟨rfl, rfl, rfl, rfl, rfl⟩

end Mqtt
