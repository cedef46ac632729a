import Mqtt.Client.Places
import Mqtt.Library.Since
import Mqtt.Wire.Framing

/-!
# The inbound QoS 2 ids

`inbound_ids_` holds the ids of the QoS 2 messages that were delivered and not
yet released by their PUBREL. Here its contents are tied to the history: as long
as no session is discarded, an id is in the table exactly while the last
delivery under it is owed its release.
-/

namespace Mqtt

open Library

variable {cfg : Config}

/-- The message of the PUBLISH a label hands to its handler. -/
def Label.received : Label → Option Message
  | .handle header body _ =>
    if header.type = .publish then (decodePublish header body).toOption else none
  | _ => none

/-- The label hands over a QoS 2 PUBLISH with this id. -/
def Label.ReceivesQos2 (label : Label) (k : UInt16) : Prop :=
  label.received.any fun m => m.qos = .exactlyOnce && m.packetId = k

instance (label : Label) (k : UInt16) : Decidable (label.ReceivesQos2 k) :=
  inferInstanceAs (Decidable (_ = true))

theorem Label.received_eq_some {label : Label} {m : Message} (received : label.received = some m) :
    ∃ header body now, label = .handle header body now ∧ header.type = .publish ∧
      decodePublish header body = .ok m := by
  cases label <;> simp only [Label.received, reduceCtorEq] at received
  case handle header body now =>
    split at received
    · rename_i isPublish
      refine ⟨header, body, now, rfl, isPublish, ?_⟩
      cases decoded : decodePublish header body with
      | error _ => simp [decoded, Except.toOption] at received
      | ok m' => simpa [decoded, Except.toOption] using received
    · cases received

theorem Label.ReceivesQos2.exists {label : Label} {k : UInt16} (receives : label.ReceivesQos2 k) :
    ∃ m, label.received = some m ∧ m.qos = .exactlyOnce ∧ m.packetId = k := by
  simpa [Label.ReceivesQos2, Option.any_eq_true] using receives

namespace Client

variable (c : Client cfg)

/-- The piece of code delivers a QoS 2 message with this id. -/
def Delivers (label : Label) (k : UInt16) : Prop :=
  ∃ m, (c.react label).callback = some (.dispatch m) ∧ m.qos = .exactlyOnce ∧ m.packetId = k

/-- The piece of code processes a PUBREL for this id and queues its PUBCOMP. -/
def Releases (label : Label) (k : UInt16) : Prop :=
  ∃ header body now, label = .handle header body now ∧ header.type = .pubrel ∧
    decodePacketId body = .ok k ∧ (c.react label).queued = [{ bytes := ackPacket .pubcomp k }]

/-- The piece of code discards the session: a `connect()` that asks for a clean
one, or the end of a clean one. -/
def Discards (label : Label) : Prop :=
  (∃ opts now, label = .connect opts now ∧ opts.cleanSession = true) ∨
    (c.cleanSession = true ∧
      (label = .disconnect ∨ label = .abort ∨ ∃ reason, label = .shutdown reason))

/-- A reaction that leaves the table alone and delivers nothing. -/
def Bystander (reaction : Reaction cfg) : Prop :=
  reaction.client.inboundIds = c.inboundIds ∧ ∀ m, reaction.callback ≠ some (.dispatch m)

variable {c}

theorem Quiet.bystander {reaction : Reaction cfg} (quiet : c.Quiet reaction) :
    c.Bystander reaction :=
  ⟨quiet.inboundIds, by simp [quiet.callback]⟩

variable (c)

/-- Only the handler of a PUBLISH delivers, and it delivers that message. -/
theorem received_of_dispatch {label : Label} {m : Message}
    (dispatched : (c.react label).callback = some (.dispatch m)) : label.received = some m := by
  rcases c.callback_cases dispatched with ⟨header, body, now, rfl⟩ | ⟨_, other⟩
  swap
  · cases other
  obtain ⟨reaction, handled, outcome⟩ := c.handlePacket_cases header body now
  rw [show c.react (.handle header body now) = reaction from handled] at dispatched
  cases outcome with
  | delivered m' isPublish _ decoded | acknowledged m' _ isPublish _ decoded
  | recorded m' _ isPublish _ decoded =>
    obtain rfl : m' = m := by simpa using dispatched
    simp [Label.received, isPublish, decoded, Except.toOption]
  | _ => cases dispatched

variable {c}

theorem Delivers.receivesQos2 {label : Label} {k : UInt16} (delivers : c.Delivers label k) :
    label.ReceivesQos2 k := by
  obtain ⟨m, dispatched, level, id⟩ := delivers
  simp [Label.ReceivesQos2, c.received_of_dispatch dispatched, level, id]

theorem not_delivers {label : Label} (nothing : label.received = none) (k : UInt16) :
    ¬ c.Delivers label k := by
  intro delivers
  simpa [Label.ReceivesQos2, nothing] using delivers.receivesQos2

variable (c)

/-- Every way a piece of code can affect the table. -/
inductive InboundEffect (label : Label) : Prop where
  | kept (same : (c.apply label).inboundIds = c.inboundIds)
      (noDelivery : ∀ k, ¬ c.Delivers label k) (noRelease : ∀ k, ¬ c.Releases label k)
  | delivered (k : UInt16) (up : c.state = .connected) (isNew : k ∉ c.inboundIds)
      (added : (c.apply label).inboundIds = c.inboundIds ++ [k])
      (delivery : ∀ j, c.Delivers label j ↔ j = k) (noRelease : ∀ j, ¬ c.Releases label j)
  | released (k : UInt16) (removed : (c.apply label).inboundIds = c.inboundIds.erase k)
      (noDelivery : ∀ j, ¬ c.Delivers label j) (release : ∀ j, c.Releases label j ↔ j = k)
  | discarded (discards : c.Discards label) (emptied : (c.apply label).inboundIds = [])
      (noDelivery : ∀ k, ¬ c.Delivers label k) (noRelease : ∀ k, ¬ c.Releases label k)

variable {c}

theorem Bystander.kept {label : Label} (bystander : c.Bystander (c.react label))
    (other : ∀ header body now, label = .handle header body now → header.type ≠ .pubrel) :
    c.InboundEffect label := by
  refine .kept bystander.1 (fun k delivers => ?_) (fun k releases => ?_)
  · obtain ⟨m, dispatched, _⟩ := delivers
    exact bystander.2 m dispatched
  · obtain ⟨header, body, now, handled, isPubrel, _⟩ := releases
    exact other header body now handled isPubrel

variable (c)

/-- What a packet does to the remembered ids. -/
theorem handle_inboundEffect (header : FixedHeader) (body : Bytes) (now : UInt32) :
    c.InboundEffect (.handle header body now) := by
  obtain ⟨reaction, handled, outcome⟩ := c.handlePacket_cases header body now
  have reacts : c.react (.handle header body now) = reaction := handled
  have becomes : c.apply (.handle header body now) = reaction.client := congrArg _ handled
  have noRelease : header.type ≠ .pubrel ∨ reaction.queued = [] →
      ∀ k, ¬ c.Releases (.handle header body now) k := by
    rintro other k ⟨_, _, _, sameLabel, isPubrel, _, queued⟩
    injection sameLabel with sameHeader
    rcases other with other | quiet
    · exact other (sameHeader ▸ isPubrel)
    · simp [reacts, quiet] at queued
  have noDelivery : (∀ m, reaction.callback = some (.dispatch m) → m.qos ≠ .exactlyOnce) →
      ∀ k, ¬ c.Delivers (.handle header body now) k := by
    rintro other k ⟨m, dispatched, level, _⟩
    exact other m (reacts ▸ dispatched) level
  cases outcome with
  | recorded m tx isPublish up decoded level nonzero room isNew =>
    refine .delivered m.packetId up isNew (by simp [becomes]) (fun j => ?_)
      (noRelease (.inl (by simp [isPublish])))
    simp only [Delivers, reacts, Option.some.injEq, Callback.dispatch.injEq]
    constructor
    · rintro ⟨_, rfl, _, same⟩
      exact same.symm
    · rintro rfl
      exact ⟨m, rfl, level, rfl⟩
  | released k tx isPubrel decoded =>
    refine .released k (by simp [becomes]) (noDelivery (by simp)) fun j => ?_
    constructor
    · rintro ⟨_, _, _, sameLabel, _, decodedJ, _⟩
      injection sameLabel with _ sameBody
      subst sameBody
      exact Except.ok.inj (decodedJ.symm.trans decoded)
    · rintro rfl
      exact ⟨header, body, now, rfl, isPubrel, decoded, by rw [reacts]⟩
  | delivered m isPublish up decoded level | acknowledged m _ isPublish up decoded level =>
    exact .kept (by simp [becomes]) (noDelivery (by simp [level]))
      (noRelease (.inl (by simp [isPublish])))
  | recognized m tx isPublish =>
    exact .kept (by simp [becomes]) (noDelivery (by simp))
      (noRelease (.inl (by simp [isPublish])))
  | advanced id index slot tx isPubrec | repeated id index slot tx isPubrec =>
    exact .kept (by simp [becomes]) (noDelivery (by simp))
      (noRelease (.inl (by simp [isPubrec])))
  | accepted info =>
    refine .kept ?_ (noDelivery (by simp)) (noRelease (.inr rfl))
    rw [becomes]
    simp only
    split <;> rfl
  | _ => exact .kept (by rw [becomes]) (noDelivery (by simp)) (noRelease (.inr rfl))

theorem teardown_inboundIds (reason : Error) :
    (c.teardown reason).inboundIds = if c.cleanSession then [] else c.inboundIds := rfl

theorem prepare_inboundIds (opts : ConnectOptions) :
    (c.prepare opts).inboundIds = if opts.cleanSession then [] else c.inboundIds := by
  unfold prepare
  split <;> rfl

/-- Ending a session keeps the table unless the session was clean. -/
theorem inboundEffect_of_end {label : Label}
    (ends : label = .disconnect ∨ label = .abort ∨ ∃ reason, label = .shutdown reason)
    (torn : (c.apply label).inboundIds = if c.cleanSession then [] else c.inboundIds) :
    c.InboundEffect label := by
  have noDelivery : ∀ k, ¬ c.Delivers label k := by
    rcases ends with rfl | rfl | ⟨_, rfl⟩ <;> exact not_delivers rfl
  have noRelease : ∀ k, ¬ c.Releases label k := by
    rcases ends with rfl | rfl | ⟨_, rfl⟩ <;> simp [Releases]
  by_cases clean : c.cleanSession = true
  · exact .discarded (.inr ⟨clean, ends⟩) (by simp [torn, clean]) noDelivery noRelease
  · exact .kept (by simp [torn, clean]) noDelivery noRelease

/-- What a new connection does to them. -/
theorem connect_inboundEffect (opts : ConnectOptions) (now : UInt32) :
    c.InboundEffect (.connect opts now) := by
  have noDelivery := @not_delivers _ c (.connect opts now) rfl
  have noRelease : ∀ k, ¬ c.Releases (.connect opts now) k := by simp [Releases]
  have prepared := c.prepare_inboundIds opts
  rcases c.connect_cases opts now with
    ⟨_, _, same⟩ | ⟨_, _, _, _, _, same⟩ | ⟨_, _, _, _, same⟩
  · exact .kept (by simp [apply, react, same, refuse]) noDelivery noRelease
  all_goals
    by_cases clean : opts.cleanSession = true
    · exact .discarded (.inl ⟨opts, now, rfl, clean⟩)
        (by simp [apply, react, same, refuse, opened, prepared, clean]) noDelivery noRelease
    · exact .kept (by simp [apply, react, same, refuse, opened, prepared, clean])
        noDelivery noRelease

/-- What any piece of code does to the table. -/
theorem apply_inboundEffect (label : Label) : c.InboundEffect label := by
  by_cases quiet : isQuiet label = true
  · refine (c.react_quiet quiet).bystander.kept ?_
    rintro header body now rfl
    cases quiet
  cases label <;> try exact absurd rfl quiet
  case handle header body now => exact c.handle_inboundEffect header body now
  case connect opts now => exact c.connect_inboundEffect opts now
  case disconnect =>
    rcases c.disconnect_cases with ⟨_, same⟩ | ⟨_, _, _, _, same⟩ | ⟨_, _, tx, same⟩
    · exact .kept (by simp [apply, react, same, refuse]) (not_delivers rfl) (by simp [Releases])
    · exact .kept (by simp [apply, react, same]) (not_delivers rfl) (by simp [Releases])
    · exact c.inboundEffect_of_end (.inl rfl) (by
        simp [apply, react, same, shutdown, teardown_inboundIds])
  case abort => exact c.inboundEffect_of_end (.inr (.inl rfl)) rfl
  case shutdown reason => exact c.inboundEffect_of_end (.inr (.inr ⟨reason, rfl⟩)) rfl
  all_goals
    refine Bystander.kept ⟨?_, fun m => ?_⟩ (by simp)
    all_goals
      simp only [react]
      try split
    all_goals simp

/-! ## Inbound QoS 2 messages -/

variable {c}

/-- A handler that acknowledges a QoS 2 message delivers it or has delivered it
under an id it still remembers. -/
theorem acknowledges_cases {header : FixedHeader} {body : Bytes} {now : UInt32} {k : UInt16}
    (isPublish : header.type = .publish)
    (acknowledged : { bytes := ackPacket .pubrec k } ∈ (c.react (.handle header body now)).queued) :
    c.Delivers (.handle header body now) k ∨ k ∈ c.inboundIds := by
  obtain ⟨reaction, handled, outcome⟩ := c.handlePacket_cases header body now
  have reacts : c.react (.handle header body now) = reaction := handled
  have sameAck : ∀ {type : PacketType} {id : UInt16},
      { bytes := ackPacket .pubrec k } ∈ [({ bytes := ackPacket type id } : Queued)] →
      FixedHeader.toByte { type := .pubrec } = FixedHeader.toByte { type := type } ∧ k = id := by
    intro type id member
    exact ackPacket_inj (congrArg Queued.bytes (List.mem_singleton.mp member))
  rw [reacts] at acknowledged
  cases outcome with
  | recorded m tx _ _ _ level =>
    exact .inl ⟨m, by rw [reacts], level, (sameAck acknowledged).2.symm⟩
  | recognized m tx _ _ _ _ _ _ known => exact .inr ((sameAck acknowledged).2 ▸ known)
  | acknowledged m => exact absurd (sameAck acknowledged).1 (by decide)
  | released id tx isPubrel => simp [isPublish] at isPubrel
  | advanced id index slot tx isPubrec | repeated id index slot tx isPubrec =>
    simp [isPublish] at isPubrec
  | _ => cases acknowledged

/-- A message that cannot be tracked or acknowledged is left for later, and
nothing is queued or remembered. -/
theorem deferred_cases {header : FixedHeader} {body : Bytes} {now : UInt32} {m : Message}
    (isPublish : header.type = .publish) (up : c.state = .connected)
    (decoded : decodePublish header body = .ok m) (level : m.qos = .exactlyOnce)
    (deferred : (m.packetId ∉ c.inboundIds ∧ c.inboundTableFull = true) ∨ ¬ c.HasRoom 4) :
    let reaction := c.react (.handle header body now)
    reaction.callback = none ∧ reaction.queued = [] ∧
      reaction.client.inboundIds = c.inboundIds ∧ reaction.client.tx.peek = c.tx.peek := by
  have handled : c.react (.handle header body now) = c.handlePublish header body := by
    simp [react, handlePacket, isPublish]
  rcases c.handlePublish_cases header body with
    ⟨_, _, unusable⟩ | ⟨_, m', decoded', ⟨level', _⟩ | ⟨level', _⟩ | ⟨_, nonzero, same⟩⟩
  · obtain ⟨excess, level'⟩ := unusable up m decoded
    simp [level] at level'
  all_goals
    rw [decoded] at decoded'
    injection decoded' with sameMessage
    subst sameMessage
  · simp [level] at level'
  · simp [level] at level'
  · rw [handled, same]
    rcases c.receiveExactlyOnce_cases m nonzero with
      ⟨known, room, _⟩ | ⟨unknown, space, room, _⟩ | ⟨_, _, _, _, peek, outcome⟩
    · exact absurd deferred (by simp [known, room])
    · exact absurd deferred (by simp [space, room])
    · simp [outcome, peek]

end Client

/-! ## The table over a history -/

/-- An id is never in the table twice. -/
theorem History.inboundIds_nodup {log : Log cfg} (history : History log) :
    log.state.inboundIds.Nodup := by
  refine Logged.Reaches.invariant (fun log => log.state.inboundIds.Nodup)
    (fun log label _ nodup => ?_) history List.nodup_nil
  simp only [Logged.perform_state]
  cases log.state.apply_inboundEffect label with
  | kept same => exact same ▸ nodup
  | delivered k _ isNew added =>
    rw [added]
    exact List.nodup_append.mpr ⟨nodup, by simp, by
      rintro id member _ last rfl
      exact isNew (by simp_all)⟩
  | released k removed => exact removed ▸ nodup.erase k
  | discarded _ emptied => simp [emptied]

/-- The last QoS 2 delivery with this id has not been released. -/
def Owed (trace : Trace cfg) (k : UInt16) : Prop :=
  Since (fun event => event.before.Delivers event.label k)
    (fun event => event.before.Releases event.label k) trace

/-- The label is not a `connect()` that asks the broker to discard the session. -/
def Label.KeepsSession (label : Label) : Prop :=
  ∀ opts now, label = .connect opts now → opts.cleanSession = false

/-- The label is a `connect()` that asks for a clean session. -/
def Label.asksClean : Label → Bool
  | .connect opts _ => opts.cleanSession
  | _ => false

theorem Label.keepsSession_iff (label : Label) : label.KeepsSession ↔ label.asksClean = false := by
  cases label <;> simp [Label.KeepsSession, Label.asksClean]

instance (label : Label) : Decidable label.KeepsSession :=
  decidable_of_iff _ label.keepsSession_iff.symm

/-- Every `connect()` of the history asks the broker to keep the session. -/
def KeepsSessions (trace : Trace cfg) : Prop := ∀ event ∈ trace, event.label.KeepsSession

instance (trace : Trace cfg) : Decidable (KeepsSessions trace) :=
  inferInstanceAs (Decidable (∀ event ∈ trace, event.label.KeepsSession))

/-- While no session is discarded, the table holds exactly the owed ids, and a
session can be marked clean only before the first `connect()`. -/
structure TableAgrees (log : Log cfg) : Prop where
  clean : log.state.cleanSession = true → log.state.state = .idle ∧ log.state.inboundIds = []
  owed : ∀ k, k ∈ log.state.inboundIds ↔ Owed log.trace k

theorem TableAgrees.clean_step {log : Log cfg} {label : Label} (agrees : TableAgrees log)
    (history : History log) (permitted : Permitted log label) (keeps : label.KeepsSession)
    (clean : (log.state.apply label).cleanSession = true) :
    (log.state.apply label).state = .idle ∧ (log.state.apply label).inboundIds = [] := by
  have cleanBefore : log.state.cleanSession = true := by
    rcases log.state.apply_cleanSession label with same | ⟨opts, now, isConnect, same⟩
    · exact same ▸ clean
    · exact absurd clean (by simp [same, keeps opts now isConnect])
  obtain ⟨idle, empty⟩ := agrees.clean cleanBefore
  constructor
  · rcases log.state.apply_state_cases label with
      same | ⟨opts, now, rfl, _, moved⟩ | ⟨_, up, _⟩ | ⟨_, moved⟩ | ⟨now, rfl, _⟩ |
        ⟨_, _, _, _, awaiting, _⟩
    · rw [same, idle]
    · rcases log.state.connect_cases opts now with
        ⟨_, _, same⟩ | ⟨_, _, _, _, _, same⟩ | ⟨_, _, _, _, same⟩
      · simp [Client.apply, Client.react, same, Client.refuse, idle] at moved
      · simp [Client.apply, Client.react, same, Client.refuse,
          (log.state.prepare_frame opts).1, idle] at moved
      · simp [Client.apply, Client.react, same, Client.opened, keeps opts now rfl] at clean
    · simp [idle] at up
    · exact moved
    · -- Opening the transport happens only while connecting.
      have opening : Control.of log.trace = .opening := permitted
      have fits := history.fits
      rw [opening] at fits
      simp [fits.2] at idle
    · simp [idle] at awaiting
  · cases log.state.apply_inboundEffect label with
    | kept same => rw [same, empty]
    | delivered k up => simp [idle] at up
    | released k removed => simp [removed, empty]
    | discarded _ emptied => exact emptied

/-- A step keeps the table and the trace in agreement. -/
theorem TableAgrees.step {log : Log cfg} {label : Label} (agrees : TableAgrees log)
    (history : History log) (permitted : Permitted log label) (keeps : label.KeepsSession) :
    TableAgrees (log.perform Client.apply label) := by
  refine ⟨agrees.clean_step history permitted keeps, fun k => ?_⟩
  have owed := agrees.owed k
  rw [Owed] at owed
  simp only [Logged.perform_state, Logged.perform_trace]
  rw [Owed, since_snoc]
  cases log.state.apply_inboundEffect label with
  | kept same noDelivery noRelease => simp [same, noDelivery, noRelease, owed]
  | delivered j _ _ added delivery noRelease =>
    simp [added, delivery, noRelease, ← owed, or_comm]
  | released j removed noDelivery release =>
    simp [removed, noDelivery, release, ← owed, history.inboundIds_nodup.mem_erase_iff,
      and_comm]
  | discarded discards emptied noDelivery noRelease =>
    rcases discards with ⟨opts, now, isConnect, clean⟩ | ⟨clean, _⟩
    · exact absurd clean (by simp [keeps opts now isConnect])
    · have empty := (agrees.clean clean).2
      simp [emptied, noDelivery, noRelease, ← owed, empty]

/-- In a history that keeps its sessions the table is exact. -/
theorem History.tableAgrees {log : Log cfg} (history : History log)
    (keeps : KeepsSessions log.trace) : TableAgrees log := by
  refine Logged.Reaches.invariant_of
    (fun event : Event cfg => event.label.KeepsSession)
    TableAgrees (fun log label prior permitted keeps agrees =>
      agrees.step prior permitted keeps) history rfl keeps ?_
  exact ⟨fun _ => ⟨rfl, rfl⟩, fun k => by simp [Owed, Client.initial]⟩

end Mqtt
