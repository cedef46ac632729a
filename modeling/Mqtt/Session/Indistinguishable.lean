import Mqtt.Session.TwinRuns
import Mqtt.Session.Slots
import Mqtt.Session.Atomicity

/-!
# What a run shows

An application and a transport see of a run which code ran, what it returned, the
callbacks it made, the bytes it offered for sending, and what the accessors say
afterwards. Two questions are asked about that: whether it depends on where the clock
started, and what of the past a clean session shows.
-/

namespace Mqtt

open Library

variable {cfg : Config}

/-! ## Accessors -/

namespace Client

/-- Outbound QoS > 0 messages awaiting acknowledgement. -/
def inflightCount (c : Client cfg) : Nat := c.outbound.countP fun slot => slot.phase ≠ .free

def subscriptionCount (c : Client cfg) : Nat := c.subscriptions.length

def txPending (c : Client cfg) : Nat := c.tx.pending

/-- Milliseconds since the transport last produced bytes, by a clock that reads `now`. -/
def msSinceLastReceive (c : Client cfg) (now : UInt32) : UInt32 := elapsedMs now c.lastReceivedMs

end Client

/-- What the accessors say that neither count for ever nor read the clock. -/
structure Readout where
  state : State
  lastError : Error
  connack : ConnackInfo
  inflightCount : Nat
  subscriptionCount : Nat
  txPending : Nat
  deriving DecidableEq

def Client.readout (c : Client cfg) : Readout where
  state := c.state
  lastError := c.lastError
  connack := c.connack
  inflightCount := c.inflightCount
  subscriptionCount := c.subscriptionCount
  txPending := c.txPending

/-- What the counters that are never reset say. -/
def Client.counters (c : Client cfg) : UInt32 × UInt32 :=
  (c.inboundOverflowCount, c.txBackpressureCount)

/-! ## Observations -/

/-- The bytes offered to `Transport::send`. -/
def Label.offers (label : Label) (c : Client cfg) : Bytes :=
  match label with
  | .send _ _ _ => c.tx.peek
  | _ => []

/-- The subscription handler that is invoked. -/
def Label.invokes (label : Label) (c : Client cfg) : Option Nat :=
  match label with
  | .onMessage (some index) _ => c.subscriptions[index]?.bind (·.handler)
  | _ => none

/-- What is seen of one event. -/
structure Observation where
  call : Label
  error : Error
  packetId : Option UInt16
  callback : Option Callback
  handler : Option Nat
  offered : Bytes
  readout : Readout

def Library.Entry.observed (event : Event cfg) : Observation where
  call := event.label.timeless
  error := event.reaction.error
  packetId := event.reaction.packetId
  callback := event.reaction.callback
  handler := event.label.invokes event.before
  offered := event.label.offers event.before
  readout := event.reaction.client.readout

/-- Two runs that show the same, by clocks `d` apart. The time since the last arrival is
compared from the first session on. -/
structure SameBehaviour (d : UInt32) (first second : Trace cfg) : Prop where
  observed : second.map (·.observed) = first.map (·.observed)
  silence : ∀ position (event other : Event cfg),
    first[position]? = some event → second[position]? = some other →
    (∃ earlier ∈ first.take (position + 1), earlier.Connects) →
    ∀ reading, other.reaction.client.msSinceLastReceive (reading + d) =
      event.reaction.client.msSinceLastReceive reading

section Twins

variable {δ : Offset}

theorem Client.Alike.readout {a b : Client cfg} (alike : a.Alike δ b) : b.readout = a.readout := by
  have inFlight : b.inflightCount = a.inflightCount := by
    unfold Client.inflightCount
    rw [List.countP_eq_length_filter, List.countP_eq_length_filter]
    refine (filter_paired alike.outbound fun _ _ related => ?_).length_eq.symm
    rw [related.phase]
  have waiting : b.txPending = a.txPending := by
    unfold Client.txPending
    rw [← TxQueue.length_peek, ← TxQueue.length_peek, alike.tx]
  unfold Client.readout Client.subscriptionCount
  rw [alike.state, alike.lastError, alike.connack, inFlight, waiting,
    alike.subscriptions.length_eq]

theorem Client.Alike.offers {a b : Client cfg} (alike : a.Alike δ b) (label : Label)
    (d : UInt32) : (label.shift d).offers b = label.offers a := by
  cases label with
  | send result written now => exact alike.tx
  | _ => rfl

theorem Client.Alike.invokes {a b : Client cfg} (alike : a.Alike δ b) (label : Label)
    (d : UInt32) : (label.shift d).invokes b = label.invokes a := by
  cases label with
  | onMessage subscription m =>
    cases subscription with
    | none => rfl
    | some index =>
      simp only [Label.shift, Label.invokes]
      rcases getElem?_paired alike.subscriptions index with
        ⟨absent, absent'⟩ | ⟨s, other, related, here, here'⟩
      · rw [absent, absent']
      · rw [here, here']
        exact related.handler
  | _ => rfl

theorem Reaction.Alike.observed {event other : Event cfg}
    (reaction : event.reaction.Alike δ other.reaction)
    (call : other.label.timeless = event.label.timeless)
    (offers : other.label.offers other.before = event.label.offers event.before)
    (invokes : other.label.invokes other.before = event.label.invokes event.before) :
    other.observed = event.observed := by
  unfold Entry.observed
  rw [reaction.error, reaction.packetId, reaction.callback, reaction.client.readout, call, offers,
    invokes]

section

variable {first second : Trace cfg} (twins : TwinTraces δ first second)

include twins

/-- Twin events are seen alike. -/
theorem TwinTraces.observed : second.map (·.observed) = first.map (·.observed) := by
  induction twins with
  | nil => rfl
  | @snoc first second event other prior before label reaction ih =>
    have same : other.observed = event.observed :=
      reaction.observed (by rw [label, Label.timeless_shift]) (by rw [label, before.offers])
        (by rw [label, before.invokes])
    rw [List.map_append, List.map_append, ih, List.map_singleton,
      List.map_singleton, same]

theorem TwinTraces.length_eq : second.length = first.length := by
  simpa using congrArg List.length twins.observed

/-- At equal positions stand twin events. -/
theorem TwinTraces.reaction_at {position : Nat} {event other : Event cfg}
    (here : first[position]? = some event) (here' : second[position]? = some other) :
    event.reaction.Alike (δ.after (first.take (position + 1))) other.reaction := by
  induction twins with
  | nil => cases here
  | @snoc first second last last' prior _ _ reaction ih =>
    have lengths := prior.length_eq
    rcases Nat.lt_trichotomy position first.length with earlier | rfl | beyond
    · rw [List.getElem?_append_left earlier] at here
      rw [List.getElem?_append_left (lengths ▸ earlier)] at here'
      rw [List.take_append_of_le_length earlier]
      exact ih here here'
    · rw [List.getElem?_concat_length] at here
      rw [← lengths, List.getElem?_concat_length] at here'
      cases here
      cases here'
      rwa [List.take_of_length_le (by simp)]
    · have short : (first ++ [last]).length ≤ position := by
        rw [List.length_append, List.length_singleton]
        exact beyond
      rw [List.getElem?_eq_none short] at here
      cases here

theorem TwinTraces.sameBehaviour : SameBehaviour δ.clock first second where
  observed := twins.observed
  silence := by
    intro position event other here here' connected reading
    have stamp := (twins.reaction_at here here').client.lastReceived (.inr connected)
    rw [Client.msSinceLastReceive, stamp]
    exact elapsedMs_shift reading event.reaction.client.lastReceivedMs δ.clock

end

theorem TwinTraces.counters (overflows : δ.overflows = 0) (refusals : δ.refusals = 0)
    {first second : Trace cfg} (twins : TwinTraces δ first second) :
    second.map (·.reaction.client.counters) = first.map (·.reaction.client.counters) := by
  induction twins with
  | nil => rfl
  | @snoc first second event other prior before label reaction ih =>
    have same : other.reaction.client.counters = event.reaction.client.counters := by
      have dropped := reaction.client.overflows
      have deferred := reaction.client.refusals
      simp only [Offset.after, overflows, refusals, UInt32.add_zero] at dropped deferred
      rw [Client.counters, dropped, deferred, Client.counters]
    rw [List.map_append, List.map_append, ih, List.map_singleton,
      List.map_singleton, same]

end Twins

/-! ## The clock's origin -/

/-- A freshly constructed client has no stamp to compare. -/
theorem initial_alike {δ : Offset} (overflows : δ.overflows = 0) (refusals : δ.refusals = 0)
    (fresh : ¬ δ.received) : (Client.initial cfg).Alike δ (Client.initial cfg) where
  tx := rfl
  rx := rfl
  outbound := by
    refine List.forall₂_same.mpr fun slot member => ?_
    have free : slot.phase = .free := by
      simp only [Client.initial, List.mem_replicate] at member
      rw [member.2]
    exact ⟨rfl, rfl, fun _ => rfl, fun _ => rfl, fun _ => rfl, fun busy => absurd free busy⟩
  inboundIds := rfl
  subscriptions := .nil
  pending := .nil
  state := rfl
  inStep := rfl
  overflows := by rw [overflows, UInt32.add_zero]
  refusals := by rw [refusals, UInt32.add_zero]
  nextPacketId := rfl
  nextSubId := rfl
  connack := rfl
  lastError := rfl
  keepAliveMs := rfl
  cleanSession := rfl
  pingOutstanding := rfl
  pingSent := nofun
  lastSent := fun busy => absurd rfl busy
  connectStarted := fun busy => absurd rfl busy
  retransmitNow := nofun
  lastReceived := fun received => absurd received fresh

/-- Wherever the clock started, a run shows the same, its counters included. -/
theorem clock_origin_unseen (cfg : Config) (env : Env) (application : Script) (d : UInt32) :
    SameBehaviour d (World.exec cfg env application).trace
        (World.exec cfg (env.shift d) application).trace ∧
      (World.exec cfg (env.shift d) application).trace.map (·.reaction.client.counters) =
        (World.exec cfg env application).trace.map (·.reaction.client.counters) := by
  have start : (World.start cfg env).Twins { clock := d } [] [] (World.start cfg (env.shift d)) :=
    ⟨rfl, [], [], rfl, rfl, .nil, initial_alike rfl rfl (by simp [Offset.after])⟩
  obtain ⟨first, second, split, split', twins, _⟩ :=
    (start.runScript (fun twins => twins.step.2) application).runs
  rw [List.nil_append] at split split'
  unfold World.exec
  rw [split, split']
  exact ⟨twins.sameBehaviour, twins.counters rfl rfl⟩

namespace RefusedConnect

/-- A client id that `connect()` refuses. -/
def long : ConnectOptions := { clientId := List.replicate 100 97 }

/-- One refused `connect()`, by a clock that started `d` later. -/
def run (d : UInt32) : World .small := World.exec .small (Env.shift d {}) (.connect long .done)

end RefusedConnect

/-- A `connect()` that is refused sets no stamp: the time since the last arrival still
says how long the clock has been running. -/
theorem refused_connect_shows_origin :
    ∃ event other, (RefusedConnect.run 0).trace = [event] ∧ (RefusedConnect.run 1).trace = [other] ∧
      event.label = .connect RefusedConnect.long 0 ∧ other.label = .connect RefusedConnect.long 1 ∧
      event.reaction.client.msSinceLastReceive 0 = 0 ∧
      other.reaction.client.msSinceLastReceive (0 + 1) = 1 :=
  ⟨_, _, rfl, rfl, by decide +kernel, by decide +kernel, by decide +kernel, by decide +kernel⟩

/-! ## Clean sessions -/

/-- What the application asked for: the part of a subscription that a clean session
keeps. -/
def Subscription.request (s : Subscription) : Bytes × Option Nat × QoS × UInt16 :=
  (s.filter, s.handler, s.requestedQos, s.subId)

/-- Two clients that remember the same subscriptions. -/
structure Client.SameSubscriptions (a b : Client cfg) : Prop where
  requests : b.subscriptions.map (·.request) = a.subscriptions.map (·.request)
  nextSubId : b.nextSubId = a.nextSubId

/-- What an application adds to a history when the environment is `env` from here on. -/
def World.onward (w : World cfg) (env : Env) (application : Script) : Trace cfg :=
  (World.runScript (fun w => w.step.2) application { w with env := env }).trace.drop w.trace.length

namespace Client

variable {a b : Client cfg}

theorem SameSubscriptions.flagged (same : a.SameSubscriptions b) :
    List.Forall₂ Subscription.Alike (a.subscriptions.map fun s => { s with needsResub := true })
      (b.subscriptions.map fun s => { s with needsResub := true }) := by
  have rows : List.Forall₂ (fun s t : Subscription => s.request = t.request)
      a.subscriptions b.subscriptions := by
    have equal := same.requests.symm
    rw [← List.forall₂_eq_eq_eq, List.forall₂_map_left_iff, List.forall₂_map_right_iff] at equal
    exact equal
  rw [List.forall₂_map_left_iff, List.forall₂_map_right_iff]
  refine rows.imp fun s t equal => ?_
  simp only [Subscription.request, Prod.mk.injEq] at equal
  obtain ⟨filter, handler, level, id⟩ := equal
  exact ⟨filter.symm, handler.symm, id.symm, level.symm, rfl⟩

theorem SlotsSized.released (sized : a.SlotsSized) (sized' : b.SlotsSized) (d : UInt32) :
    List.Forall₂ (OutboundSlot.Alike d) (a.outbound.map OutboundSlot.release)
      (b.outbound.map OutboundSlot.release) := by
  rw [List.forall₂_map_left_iff, List.forall₂_map_right_iff, List.forall₂_iff_zip]
  refine ⟨sized.count.trans sized'.count.symm, fun {slot other} paired => ?_⟩
  obtain ⟨member, member'⟩ := List.of_mem_zip paired
  exact ⟨(sized'.buffers other member').trans (sized.buffers slot member).symm, rfl,
    by simp [OutboundSlot.release], by simp [OutboundSlot.release],
    by simp [OutboundSlot.release], by simp [OutboundSlot.release]⟩

/-- How far the counters of the second client are ahead. -/
def lead (a b : Client cfg) : Offset where
  overflows := b.inboundOverflowCount - a.inboundOverflowCount
  refusals := b.txBackpressureCount - a.txBackpressureCount
  received := True

/-- What a clean `connect()` starts from is the subscription table. -/
theorem prepare_alike (sized : a.SlotsSized) (sized' : b.SlotsSized)
    (same : a.SameSubscriptions b) (state : b.state = a.state) (inStep : b.inStep = a.inStep)
    {opts : ConnectOptions} (clean : opts.cleanSession = true) :
    (a.prepare opts).AlikeTables (a.lead b) (b.prepare opts) := by
  have cleared : b.tx.clear.peek = a.tx.clear.peek := by simp
  unfold prepare
  rw [if_pos clean, if_pos clean]
  refine ⟨cleared, rfl, sized.released sized' _, rfl, same.flagged, .nil, state, inStep, ?_, ?_, rfl,
    same.nextSubId⟩
  · simp only [resetSessionState, markAllForResub, lead]
    grind
  · simp only [resetSessionState, markAllForResub, lead]
    grind

/-- A clean `connect()` that succeeds makes two idle clients alike. -/
theorem clean_connect_alike (sized : a.SlotsSized) (sized' : b.SlotsSized)
    (same : a.SameSubscriptions b) (idle : a.state = .idle) (idle' : b.state = .idle)
    (inStep : b.inStep = a.inStep) {opts : ConnectOptions} (clean : opts.cleanSession = true)
    {now : UInt32} (accepted : (a.connect opts now).error = .ok) :
    (a.connect opts now).Alike (a.lead b) (b.connect opts now) := by
  rcases @connect_uniform cfg opts now with ⟨error, bad, refuses⟩ | ⟨_, fails⟩ | ⟨_, opens⟩
  · rw [refuses a idle] at accepted
    exact absurd accepted bad
  · rw [fails a idle] at accepted
    cases accepted
  · obtain ⟨tx, peek, opened⟩ := opens a idle
    obtain ⟨tx', peek', opened'⟩ := opens b idle'
    rw [opened, opened']
    have tables := prepare_alike sized sized' same (idle'.trans idle.symm) inStep clean
    have alike := started_alike tables (peek'.trans peek.symm) opts now
    rw [show now + (a.lead b).clock = now from UInt32.add_zero now] at alike
    exact ⟨rfl, rfl, rfl, rfl, rfl, alike⟩

end Client

theorem Env.shift_zero (env : Env) : env.shift 0 = env := by
  simp [Env.shift]

/-- After a `connect()` that made them alike, two runs go on as twins. -/
theorem World.onward_connect {w v : World cfg} {env : Env} {opts : ConnectOptions}
    {δ : Offset} (clock : δ.clock = 0) (received : δ.received)
    (alike : (w.client.connect opts env.now).Alike δ (v.client.connect opts env.now))
    (next : Script) :
    ∃ first second, TwinTraces δ first second ∧
      w.onward env (.connect opts next) = ⟨w.client, .connect opts env.now⟩ :: first ∧
      v.onward env (.connect opts next) = ⟨v.client, .connect opts env.now⟩ :: second := by
  have connected : World.Twins δ (w.trace ++ [⟨w.client, .connect opts env.now⟩])
      (v.trace ++ [⟨v.client, .connect opts env.now⟩])
      (World.act { w with env := env } (.connect opts env.now))
      (World.act { v with env := env } (.connect opts env.now)) := by
    refine ⟨?_, [], [], (List.append_nil _).symm, (List.append_nil _).symm, .nil,
      { alike.client with lastReceived := fun _ => alike.client.lastReceived received }⟩
    rw [clock, Env.shift_zero]
    have sameRead : (v.client.react (.connect opts env.now)).readClock =
        (w.client.react (.connect opts env.now)).readClock := alike.readClock
    show (if (v.client.react _).readClock then _ else _) =
      if (w.client.react _).readClock then _ else _
    rw [sameRead]
  obtain ⟨first, second, split, split', twins, _⟩ :=
    (connected.runScript (fun twins => twins.step.2) next).runs
  refine ⟨first, second, twins, ?_, ?_⟩
  · simp only [World.onward, World.runScript]
    rw [split, List.append_assoc, List.drop_left, List.singleton_append]
  · simp only [World.onward, World.runScript]
    rw [split', List.append_assoc, List.drop_left, List.singleton_append]

/-- Two idle clients that remember the same subscriptions show the same from a clean
`connect()` on, whatever happened to them before. -/
theorem clean_session_inherits_subscriptions (past past' : Env) (application application' : Script)
    (env : Env) (opts : ConnectOptions) (next : Script)
    (idle : (World.exec cfg past application).client.state = .idle)
    (idle' : (World.exec cfg past' application').client.state = .idle)
    (same : (World.exec cfg past application).client.SameSubscriptions
      (World.exec cfg past' application').client)
    (clean : opts.cleanSession = true)
    (accepted : ((World.exec cfg past application).client.connect opts env.now).error = .ok) :
    SameBehaviour 0 ((World.exec cfg past application).onward env (.connect opts next))
      ((World.exec cfg past' application').onward env (.connect opts next)) := by
  obtain ⟨history, _, outside⟩ := World.exec_keeps cfg past application
  obtain ⟨history', _, outside'⟩ := World.exec_keeps cfg past' application'
  generalize World.exec cfg past application = w at *
  generalize World.exec cfg past' application' = v at *
  have alike := Client.clean_connect_alike history.slotsSized history'.slotsSized same idle idle'
    (outside'.trans outside.symm) clean accepted
  obtain ⟨first, second, twins, isFirst, isSecond⟩ :=
    World.onward_connect rfl trivial alike next
  rw [isFirst, isSecond]
  constructor
  · have observed := @Reaction.Alike.observed cfg _ ⟨w.client, .connect opts env.now⟩
      ⟨v.client, .connect opts env.now⟩ alike rfl rfl rfl
    rw [List.map_cons, List.map_cons, observed, twins.observed]
  · intro position event other here here' _ reading
    rw [UInt32.add_zero]
    have stamp : other.reaction.client.lastReceivedMs = event.reaction.client.lastReceivedMs + 0 := by
      cases position with
      | zero =>
        cases here
        cases here'
        exact alike.client.lastReceived trivial
      | succ position => exact (twins.reaction_at here here').client.lastReceived (.inl trivial)
    rw [Client.msSinceLastReceive, stamp, UInt32.add_zero, Client.msSinceLastReceive]

namespace CleanStart

/-- One subscription and a session lost; the second time a QoS 1 message is in flight in
a session that was to be kept. -/
def application (opts : ConnectOptions) (rest : Script) : Script :=
  .connect opts (.step (.subscribe [{ filter := [116] }] (some 0) (.step rest)))

def past : Env where
  opens := [.ok]
  sends := [(.ok, 15), (.ok, 8)]
  recvs := [(.ok, [0x20, 2, 0, 0])]

def lost : World .small :=
  World.exec .small past (application { clientId := [97] } (.abort .done .done))

def owing : World .small :=
  World.exec .small past (application { clientId := [97], cleanSession := false }
    (.publish [116] [] .atLeastOnce false (.abort .done .done)))

end CleanStart

theorem clean_session_inherits_subscriptions_owing :
    CleanStart.lost.client.inflightCount = 0 ∧ CleanStart.owing.client.inflightCount = 1 ∧
      CleanStart.owing.client.subscriptionCount = 1 ∧
      SameBehaviour 0
        (CleanStart.lost.onward CleanStart.past
          (.connect { clientId := [98] } (.step (.publish [117] [] .atLeastOnce false .done))))
        (CleanStart.owing.onward CleanStart.past
          (.connect { clientId := [98] } (.step (.publish [117] [] .atLeastOnce false .done)))) :=
  ⟨by decide +kernel, by decide +kernel, by decide +kernel,
    clean_session_inherits_subscriptions _ _ _ _ _ _ _ (by decide +kernel) (by decide +kernel)
      ⟨by decide +kernel, by decide +kernel⟩ rfl (by decide +kernel)⟩

end Mqtt
