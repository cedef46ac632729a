import Mqtt.Session.CheckedRuns

/-!
# Who is told of a message

`dispatch()` walks the subscription table while the handlers it invokes run application
code. They may not touch the table, so the walk is over the subscriptions the message
found: those that have a handler and match, in table order, until one ends the session.
A message none of them matches goes to `on_message`.
-/

namespace Mqtt

open Library

variable {cfg : Config}

/-! ## The contract -/

/-- What of the subscriptions decides who is told. -/
def Client.routes (c : Client cfg) : List (Bytes × Bool) :=
  c.subscriptions.map fun s => (s.filter, s.handler.isSome)

/-- The subscription at this place has a handler and matches. -/
def wants (routes : List (Bytes × Bool)) (m : Message) (index : Nat) : Bool :=
  routes[index]?.any fun route => route.2 && topicMatches route.1 m.topic

/-- The subscriptions a message is for, in table order. -/
def Client.recipients (c : Client cfg) (m : Message) : List Nat :=
  (List.range c.subscriptions.length).filter (wants c.routes m)

/-- The handlers that were invoked with a message, and the messages. -/
def told (trace : Trace cfg) : List (Option Nat × Message) :=
  trace.filterMap fun event =>
    match event.label with
    | .onMessage subscription m => some (subscription, m)
    | _ => none

/-- The recipients are told in order, all of them or those up to one that ended the
session. -/
def Reached (recipients : List Nat) (m : Message) (up : Bool)
    (news : List (Option Nat × Message)) : Prop :=
  ∃ count, 0 < count ∧ count ≤ recipients.length ∧
    news = (recipients.take count).map (fun index => (some index, m)) ∧
    (count < recipients.length → up = false)

/-- Who is told of a message for these recipients. -/
def Routed (recipients : List Nat) (m : Message) (up : Bool)
    (news : List (Option Nat × Message)) : Prop :=
  (recipients = [] ∧ news = [(none, m)]) ∨ Reached recipients m up news

/-! ## One handler -/

theorem told_snoc (log : Log cfg) (label : Label) :
    told (log.perform Client.apply label).trace =
      told log.trace ++ told [(⟨log.state, label⟩ : Event cfg)] := by
  rw [Logged.perform_trace, told, List.filterMap_append, told, told]

/-- A message handler leaves the routes alone. -/
theorem Client.routes_of_documented (c : Client cfg) {label : Label}
    (documented : Checked.documented label = true) : (c.apply label).routes = c.routes := by
  have flagged : ∀ subscriptions : List Subscription,
      (subscriptions.map Subscription.flagged).map (fun s => (s.filter, s.handler.isSome)) =
        subscriptions.map fun s => (s.filter, s.handler.isSome) := by
    intro subscriptions
    rw [List.map_map]
    rfl
  cases c.apply_tableEffect label with
  | kept table | unsubscribed _ _ _ _ _ _ _ table => rw [routes, table, routes]
  | subscribed _ _ _ isSubscribe => subst isSubscribe; cases documented
  | resubscribed _ isResubscribe => subst isResubscribe; cases documented
  | answered _ _ _ _ _ isHandle | withdrawn _ _ _ _ _ isHandle => subst isHandle; cases documented
  | forgotten _ _ table | ended _ table => rw [routes, table, flagged, routes]

namespace World

variable {w : World cfg} {m : Message}

/-- These were told since, and the routes are the same. -/
def Tells (w v : World cfg) (news : List (Option Nat × Message)) : Prop :=
  told v.trace = told w.trace ++ news ∧ v.client.routes = w.client.routes

theorem tells_runMessageHandler (w : World cfg) (subscription : Option Nat) (m : Message) :
    Tells w (w.runMessageHandler subscription m) [(subscription, m)] := by
  refine @Checked.documented_induct cfg (fun log => told log.trace = told w.trace ++
    [(subscription, m)] ∧
    log.state.routes = w.client.routes) (fun v label documented silent tells => ⟨?_, ?_⟩) _
    (w.act (.onMessage subscription m)).nextMessageScript.1.property
    (w.act (.onMessage subscription m)).nextMessageScript.2
    ⟨told_snoc w.log (.onMessage subscription m), rfl⟩
  · have nobody : told [(⟨v.client, label⟩ : Event cfg)] = [] := by
      cases label <;> first | rfl | cases silent
    exact (told_snoc v.log label).trans ((congrArg _ nobody).trans
      ((List.append_nil _).trans tells.1))
  · exact (v.client.routes_of_documented documented).trans tells.2

/-! ## The walk over the table -/

theorem wants_eq (w : World cfg) (m : Message) (index : Nat) :
    wants w.client.routes m index = w.client.subscriptions[index]?.any fun s =>
      s.handler.isSome && topicMatches s.filter m.topic := by
  simp only [wants, Client.routes, List.getElem?_map, Option.any_map]

/-- The rest of the walk routes the message to the rest of the recipients. Once a handler
has been invoked, `on_message` is not. -/
theorem dispatchLoop_routes (m : Message) (indices : List Nat) (handled : Bool) (w : World cfg) :
    ∃ news, Tells w (dispatchLoop m indices handled w) news ∧
      (indices.filter (wants w.client.routes m) = [] ∧
          news = (if handled then [] else [(none, m)]) ∨
        Reached (indices.filter (wants w.client.routes m)) m
          ((dispatchLoop m indices handled w).client.state = .connected) news) := by
  induction indices generalizing handled w with
  | nil =>
    unfold dispatchLoop
    split
    · exact ⟨[], ⟨(List.append_nil _).symm, rfl⟩, .inl ⟨rfl, rfl⟩⟩
    · exact ⟨_, w.tells_runMessageHandler none m, .inl ⟨rfl, rfl⟩⟩
  | cons index rest onward =>
    have wanted := w.wants_eq m index
    have passed : wants w.client.routes m index = false →
        (index :: rest).filter (wants w.client.routes m) =
          rest.filter (wants w.client.routes m) :=
      fun unwanted => List.filter_cons_of_neg (by simp [unwanted])
    unfold dispatchLoop
    split
    · rename_i absent
      rw [passed (by simp [wanted, absent])]
      exact onward handled w
    rename_i s present
    rw [present, Option.any_some] at wanted
    split
    swap
    · rename_i unwanted
      rw [passed (by rw [wanted]; simpa using unwanted)]
      exact onward handled w
    rename_i isWanted
    rw [List.filter_cons_of_pos (by rw [wanted, isWanted])]
    have tells := w.tells_runMessageHandler (some index) m
    simp only
    split
    · rename_i down
      exact ⟨_, tells, .inr ⟨1, Nat.one_pos, by simp, by simp, fun _ => by simpa using down⟩⟩
    · obtain ⟨news, tells', routed⟩ := onward true (w.runMessageHandler (some index) m)
      rw [tells.2] at routed
      refine ⟨_, ⟨by rw [tells'.1, tells.1, List.append_assoc], tells'.2.trans tells.2⟩, .inr ?_⟩
      rcases routed with ⟨nobody, rfl⟩ | ⟨count, _, within, rfl, cut⟩
      · exact ⟨1, Nat.one_pos, by simp, by simp [nobody], by simp [nobody]⟩
      · exact ⟨count + 1, Nat.succ_pos _, by simpa using within, by simp,
          fun short => cut (by simpa using short)⟩

end World

/-- Whatever the handlers do that they may do, a message is told to those of the
subscriptions it matches, in table order and until one of them ends the session, and to
`on_message` exactly if it matches none. -/
theorem dispatch_routes (w : World cfg) (m : Message) :
    ∃ news, told (w.runCallback (.dispatch m)).trace = told w.trace ++ news ∧
      Routed (w.client.recipients m) m ((w.runCallback (.dispatch m)).client.state = .connected)
        news := by
  obtain ⟨news, tells, routed⟩ :=
    World.dispatchLoop_routes m (List.range w.client.subscriptions.length) false w
  exact ⟨news, tells.1, routed⟩

end Mqtt
