import Mqtt.Client.Allocation
import Mqtt.Client.LabelEffects
import Mqtt.Library.KeyedTable

/-!
# The subscription table and the requests about it

Every way a piece of client code can change the remembered filters or the
requests that await an acknowledgement, in one statement. The loops of the source
over a request's identities are folds over the table alone.
-/

namespace Mqtt

open Library

variable {cfg : Config}

/-! ## The table operations -/

/-- The broker has no record of this filter. -/
def Subscription.flagged (s : Subscription) : Subscription := { s with needsResub := true }

/-- It was sent on this connection. -/
def Subscription.unflagged (s : Subscription) : Subscription := { s with needsResub := false }

/-- The broker granted this level. -/
def Subscription.granted (code : UInt8) (s : Subscription) : Subscription :=
  { s with grantedQos := code, needsResub := false }

/-- The application asked for it again. -/
def Subscription.refreshed (asked : TopicSubscription) (handler : Option Nat) (s : Subscription) :
    Subscription :=
  { s with requestedQos := asked.qos, handler := handler, needsResub := false }

/-- A new entry. -/
def Subscription.added (asked : TopicSubscription) (handler : Option Nat) (sid : UInt16) :
    Subscription :=
  { filter := asked.filter, handler := handler, subId := sid, requestedQos := asked.qos }

/-- The entries with these identities are gone. -/
def eraseAll (ids : List UInt16) (table : List Subscription) : List Subscription :=
  ids.foldl (fun table sid => table.eraseP fun s => s.subId = sid) table

/-- The entries with these identities have been sent. -/
def unflagAll (ids : List UInt16) (table : List Subscription) : List Subscription :=
  ids.foldl (fun table sid => updateFirst (fun s => s.subId = sid) Subscription.unflagged table)
    table

/-- One return code applied to the entry it is about. -/
def answerOne (table : List Subscription) (answer : UInt8 × UInt16) : List Subscription :=
  if answer.1 = kSubackFailure then table.eraseP fun s => s.subId = answer.2
  else updateFirst (fun s => s.subId = answer.2) (Subscription.granted answer.1) table

namespace Client

variable (c : Client cfg)

theorem updateBySubId_eq (sid : UInt16) (change : Subscription → Subscription) :
    c.updateBySubId sid change =
      { c with subscriptions := updateFirst (fun s => s.subId = sid) change c.subscriptions } := by
  cases found : c.subscriptions.findIdx? fun s => s.subId = sid <;>
    simp only [updateBySubId, findBySubId, updateFirst, found]

/-- A return code changes the table only. -/
theorem applyReturnCode_eq (answer : UInt8 × UInt16) :
    c.applyReturnCode answer = { c with subscriptions := answerOne c.subscriptions answer } := by
  unfold applyReturnCode answerOne
  split
  · rfl
  · exact c.updateBySubId_eq answer.2 _

theorem foldl_applyReturnCode_eq (answers : List (UInt8 × UInt16)) (c : Client cfg) :
    answers.foldl applyReturnCode c =
      { c with subscriptions := answers.foldl answerOne c.subscriptions } := by
  induction answers generalizing c with
  | nil => rfl
  | cons answer rest ih =>
    rw [List.foldl_cons, applyReturnCode_eq, ih, List.foldl_cons]

theorem foldl_eraseSubscription_eq (ids : List UInt16) (c : Client cfg) :
    ids.foldl eraseSubscription c = { c with subscriptions := eraseAll ids c.subscriptions } := by
  induction ids generalizing c with
  | nil => rfl
  | cons sid rest ih => rw [List.foldl_cons, ih]; rfl

theorem foldl_clearFlags_eq (ids : List UInt16) (c : Client cfg) :
    ids.foldl (fun c sid => c.updateBySubId sid fun s => { s with needsResub := false }) c =
      { c with subscriptions := unflagAll ids c.subscriptions } := by
  induction ids generalizing c with
  | nil => rfl
  | cons sid rest ih =>
    rw [List.foldl_cons, updateBySubId_eq, ih]
    rfl

theorem findPending_mem {c : Client cfg} {id : UInt16} {expected : PacketType}
    {ack : PendingAck} (found : c.findPending id expected = some ack) :
    ack ∈ c.pending ∧ ack.packetId = id ∧ ack.expected = expected := by
  unfold findPending at found
  have named := List.find?_some found
  simp only [Bool.and_eq_true, decide_eq_true_eq] at named
  exact ⟨List.mem_of_find?_eq_some found, named⟩

/-! ## Registering a request -/

/-- The filters of a request entered in the table, and the identities its
acknowledgement will name. -/
def enrolled (subs : List TopicSubscription) (handler : Option Nat) : Client cfg × List UInt16 :=
  subs.foldl (registerFilter handler) (c, [])

/-- One requested filter: its entry is refreshed, or it gets one. -/
theorem registerFilter_cases (handler : Option Nat) (c : Client cfg) (ids : List UInt16)
    (asked : TopicSubscription) :
    (∃ old ∈ c.subscriptions, old.filter = asked.filter ∧
      registerFilter handler (c, ids) asked =
        ({ c with
           subscriptions := updateFirst (fun s => s.filter = asked.filter)
             (Subscription.refreshed asked handler) c.subscriptions },
         ids ++ [old.subId])) ∨
    ((∀ old ∈ c.subscriptions, old.filter ≠ asked.filter) ∧
      registerFilter handler (c, ids) asked =
        ({ c with
           subscriptions := c.subscriptions ++ [Subscription.added asked handler c.allocSubId.1]
           nextSubId := c.allocSubId.2.nextSubId },
         ids ++ [c.allocSubId.1])) := by
  cases found : c.findSubscription asked.filter with
  | none =>
    have absent : ∀ old ∈ c.subscriptions, old.filter ≠ asked.filter := by
      simpa [findSubscription, List.findIdx?_eq_none_iff] using found
    refine .inr ⟨absent, ?_⟩
    simp only [registerFilter, found]
    rfl
  | some index =>
    unfold findSubscription at found
    obtain ⟨within, matched, _⟩ := List.findIdx?_eq_some_iff_getElem.mp found
    refine .inl ⟨c.subscriptions[index], List.getElem_mem within, by simpa using matched, ?_⟩
    simp only [registerFilter, findSubscription, updateFirst, found, List.getD_eq_getElem?_getD,
      List.getElem?_eq_getElem within, Option.getD_some]
    rfl

/-- Registering reads and writes the table and its counter only. -/
theorem foldl_registerFilter_frame (handler : Option Nat) (subs : List TopicSubscription)
    (c : Client cfg) (ids : List UInt16) (tx : TxQueue cfg.txBufferSize) (n : UInt16) :
    subs.foldl (registerFilter handler) ({ c with tx := tx, nextPacketId := n }, ids) =
      ({ (subs.foldl (registerFilter handler) (c, ids)).1 with tx := tx, nextPacketId := n },
        (subs.foldl (registerFilter handler) (c, ids)).2) := by
  induction subs generalizing c ids with
  | nil => rfl
  | cons asked rest ih =>
    have step : registerFilter handler ({ c with tx := tx, nextPacketId := n }, ids) asked =
        ({ (registerFilter handler (c, ids) asked).1 with tx := tx, nextPacketId := n },
          (registerFilter handler (c, ids) asked).2) := by
      cases found : c.subscriptions.findIdx? fun s => s.filter = asked.filter with
      | none => simp only [registerFilter, findSubscription, found]; rfl
      | some index => simp only [registerFilter, findSubscription, found]
    rw [List.foldl_cons, step, ih, List.foldl_cons]

theorem subscribed_eq (subs : List TopicSubscription) (handler : Option Nat)
    (tx : TxQueue cfg.txBufferSize) (now : UInt32) :
    c.subscribed subs handler tx now =
      { (c.enrolled subs handler).1 with
        tx := tx
        nextPacketId := c.allocPacketId.2.nextPacketId
        pending := c.pending ++
          [{ subs := (c.enrolled subs handler).2, sentMs := now, packetId := c.allocPacketId.1,
             expected := .suback }] } := by
  have framed := foldl_registerFilter_frame handler subs c [] tx c.allocPacketId.2.nextPacketId
  unfold subscribed enrolled
  simp only [allocPacketId] at framed ⊢
  rw [framed]

/-! ## Every way the tables change -/

/-- What a piece of code does to the remembered filters and the awaited answers. -/
inductive TableEffect (label : Label) : Prop where
  | kept (table : (c.apply label).subscriptions = c.subscriptions)
      (pending : (c.apply label).pending = c.pending)
  | subscribed (subs : List TopicSubscription) (handler : Option Nat) (now : UInt32)
      (isSubscribe : label = .subscribe subs handler now) (up : c.state = .connected)
      (checked : checkFilters subs cfg.maxTopicLen = .ok) (room : c.ackTableFull = false)
      (slots : c.subscriptions.length + c.newEntries subs ≤ cfg.maxSubscriptions)
      (nonzero : c.allocPacketId.1 ≠ 0)
      (sized : ∃ size, subscribeRemainingLength subs = .ok size)
      (table : (c.apply label).subscriptions = (c.enrolled subs handler).1.subscriptions)
      (pending : (c.apply label).pending = c.pending ++
        [{ subs := (c.enrolled subs handler).2, sentMs := now, packetId := c.allocPacketId.1,
           expected := .suback }])
      (queued : (c.react label).queued =
        [{ bytes := subscribePacket c.allocPacketId.1 subs }])
  | unsubscribed (filters : List Bytes) (now : UInt32)
      (isUnsubscribe : label = .unsubscribe filters now) (up : c.state = .connected)
      (room : c.ackTableFull = false) (nonzero : c.allocPacketId.1 ≠ 0)
      (sized : ∃ size, unsubscribeRemainingLength filters = .ok size)
      (table : (c.apply label).subscriptions = c.subscriptions)
      (pending : (c.apply label).pending = c.pending ++
        [{ subs := c.knownSubIds filters, sentMs := now, packetId := c.allocPacketId.1,
           expected := .unsuback }])
      (queued : (c.react label).queued =
        [{ bytes := unsubscribePacket c.allocPacketId.1 filters }])
  | resubscribed (now : UInt32) (isResubscribe : label = .resubscribe now)
      (room : c.ackTableFull = false) (nonzero : c.allocPacketId.1 ≠ 0)
      (sized : ∃ size, subscribeRemainingLength c.resubRequest = .ok size)
      (table : (c.apply label).subscriptions =
        unflagAll (c.resubBatch.map (·.subId)) c.subscriptions)
      (pending : (c.apply label).pending = c.pending ++
        [{ subs := c.resubBatch.map (·.subId), sentMs := now, packetId := c.allocPacketId.1,
           expected := .suback }])
      (queued : (c.react label).queued =
        [{ bytes := subscribePacket c.allocPacketId.1 c.resubRequest }])
  | answered (header : FixedHeader) (body : Bytes) (now : UInt32) (v : SubackView)
      (ack : PendingAck) (isHandle : label = .handle header body now)
      (isSuback : header.type = .suback) (decoded : decodeSuback body = .ok v)
      (found : c.findPending v.packetId .suback = some ack)
      (counted : v.returnCodes.length = ack.subs.length)
      (table : (c.apply label).subscriptions =
        (v.returnCodes.zip ack.subs).foldl answerOne c.subscriptions)
      (pending : (c.apply label).pending =
        c.pending.eraseP fun a => a.packetId = v.packetId && a.expected = .suback)
  | withdrawn (header : FixedHeader) (body : Bytes) (now : UInt32) (id : UInt16)
      (ack : PendingAck) (isHandle : label = .handle header body now)
      (isUnsuback : header.type = .unsuback) (decoded : decodePacketId body = .ok id)
      (found : c.findPending id .unsuback = some ack)
      (table : (c.apply label).subscriptions = eraseAll ack.subs c.subscriptions)
      (pending : (c.apply label).pending =
        c.pending.eraseP fun a => a.packetId = id && a.expected = .unsuback)
  /-- A CONNACK for a session the broker does not have. -/
  | forgotten (awaiting : c.state = .awaitingConnack) (up : (c.apply label).state = .connected)
      (table : (c.apply label).subscriptions = c.subscriptions.map Subscription.flagged)
      (pending : (c.apply label).pending = c.pending)
  /-- The session ends, or a clean one is asked for. -/
  | ended (closing : (c.apply label).state = .idle ∨ c.state = .idle)
      (table : (c.apply label).subscriptions = c.subscriptions.map Subscription.flagged)
      (pending : (c.apply label).pending = [])

/-- What a packet does to the tables. -/
theorem handle_tableEffect (header : FixedHeader) (body : Bytes) (now : UInt32) :
    c.TableEffect (.handle header body now) := by
  obtain ⟨reaction, handled, outcome⟩ := c.handlePacket_cases header body now
  have becomes : c.apply (.handle header body now) = reaction.client := congrArg _ handled
  cases outcome with
  | accepted info _ awaiting =>
    by_cases present : info.sessionPresent = true
    · exact .kept (by simp [becomes, present, established])
        (by simp [becomes, present, established])
    · refine .forgotten awaiting ?_ ?_ ?_ <;>
        simp [becomes, present, established, markAllForResub, Subscription.flagged]
  | answered v ack table isSuback decoded found counted run =>
    have isTable := congrArg subscriptions run
    rw [foldl_applyReturnCode_eq] at isTable
    exact .answered header body now v ack rfl isSuback decoded found counted
      (by rw [becomes]; exact isTable.symm) (by rw [becomes])
  | withdrawn id ack table isUnsuback decoded found run =>
    have isTable := congrArg subscriptions run
    rw [foldl_eraseSubscription_eq] at isTable
    exact .withdrawn header body now id ack rfl isUnsuback decoded found
      (by rw [becomes]; exact isTable.symm) (by rw [becomes])
  | _ => exact .kept (by rw [becomes]) (by rw [becomes])

/-- What the end of a connection does to them. -/
theorem shutdown_tableEffect {label : Label} (reason : Error) (tx : TxQueue cfg.txBufferSize)
    (called : c.react label = shutdown { c with tx := tx } reason) : c.TableEffect label := by
  refine .ended (.inl ?_) ?_ ?_ <;>
    simp [apply, called, shutdown, teardown, markAllForResub, Subscription.flagged]

/-- What a new connection does to them. -/
theorem connect_tableEffect (opts : ConnectOptions) (now : UInt32) :
    c.TableEffect (.connect opts now) := by
  have called : c.react (.connect opts now) = c.connect opts now := rfl
  rcases c.connect_cases opts now with
    ⟨_, _, same⟩ | ⟨idle, _, _, _, _, same⟩ | ⟨idle, _, _, _, same⟩
  · exact .kept (by simp [apply, called, same, refuse]) (by simp [apply, called, same, refuse])
  all_goals
    by_cases clean : opts.cleanSession = true
    · refine .ended (.inr idle) ?_ ?_ <;>
        simp [apply, called, same, refuse, opened, prepare, clean, resetSessionState,
          markAllForResub, Subscription.flagged]
    · refine .kept ?_ ?_ <;> simp [apply, called, same, refuse, opened, prepare, clean]

/-- What any piece of code does to the two tables. -/
theorem apply_tableEffect (label : Label) : c.TableEffect label := by
  cases label with
  | handle header body now => exact c.handle_tableEffect header body now
  | connect opts now => exact c.connect_tableEffect opts now
  | abort => exact c.shutdown_tableEffect _ c.tx rfl
  | shutdown reason => exact c.shutdown_tableEffect reason c.tx rfl
  | disconnect =>
    rcases c.disconnect_cases with ⟨_, same⟩ | ⟨_, _, _, _, same⟩ | ⟨_, _, tx, same⟩
    · exact .kept (by simp [apply, react, same, refuse]) (by simp [apply, react, same, refuse])
    · exact .kept (by simp [apply, react, same]) (by simp [apply, react, same])
    · exact c.shutdown_tableEffect .ok tx same
  | publish topic payload qos retain now =>
    rcases c.publish_cases topic payload qos retain now with
      ⟨_, _, _, _, _, _, _, same⟩ | ⟨_, _, _, _, _, same⟩ |
        ⟨_, _, _, _, _, _, _, _, _, _, _, _, _, _, _, _, _, same⟩ <;>
      exact .kept (by simp [apply, react, same, refuse]) (by simp [apply, react, same, refuse])
  | subscribe subs handler now =>
    rcases c.subscribe_cases subs handler now with
      ⟨_, _, _, _, _, same⟩ | ⟨up, _, checked, room, slots, nonzero, sized, tx, _, same⟩
    · exact .kept (by simp [apply, react, same, refuse]) (by simp [apply, react, same, refuse])
    · rw [c.subscribed_eq] at same
      exact .subscribed subs handler now rfl up checked room slots nonzero sized
        (by simp [apply, react, same]) (by simp [apply, react, same]) (by simp [react, same])
  | unsubscribe filters now =>
    rcases c.unsubscribe_cases filters now with
      ⟨_, _, _, _, _, same⟩ | ⟨up, _, room, nonzero, sized, tx, _, same⟩
    · exact .kept (by simp [apply, react, same, refuse]) (by simp [apply, react, same, refuse])
    · exact .unsubscribed filters now rfl up room nonzero sized (by simp [apply, react, same])
        (by simp [apply, react, same]) (by simp [react, same])
  | keepAlive now =>
    rcases c.pumpKeepAlive_cases now with ⟨_, _, _, _, same⟩ | ⟨_, _, _, same⟩ <;>
      exact .kept (by simp [apply, react, same]) (by simp [apply, react, same])
  | resubscribe now =>
    rcases c.pumpResubscribe_cases now with ⟨_, _, _, same⟩ | ⟨room, _, nonzero, sized, tx, _, same⟩
    · exact .kept (by simp [apply, react, same]) (by simp [apply, react, same])
    · simp only [resubscribed, foldl_clearFlags_eq] at same
      exact .resubscribed now rfl room nonzero sized (by simp [apply, react, same, allocPacketId])
        (by simp [apply, react, same]) (by simp [react, same])
  | retransmit now =>
    obtain ⟨_, _, _, _, same, _⟩ := c.pumpRetransmit_cases now
    exact .kept (by simp [apply, react, same]) (by simp [apply, react, same])
  | transportConnect result now =>
    refine .kept ?_ ?_ <;> simp only [apply, react] <;> split <;> rfl
  | send result written now =>
    refine .kept ?_ ?_ <;> simp only [apply, react] <;> split <;> rfl
  | recv result bytes now =>
    refine .kept ?_ ?_ <;> simp only [apply, react] <;> split <;> rfl
  | _ => exact .kept rfl rfl

end Client
end Mqtt
