import Mqtt.Session.AckIdentity
import Mathlib.Data.Finset.Card

/-!
# Room in the subscription table

`subscribe()` counts the filters of a request that have no entry before it sends
anything, and makes the entries afterwards. A filter that the request repeats is
counted each time and gets one entry. So a request that needs more entries than there
are is always refused, and one that needs no more is refused only if it repeats a
filter the table does not have, and then only if the count is too large.
-/

namespace Mqtt

open Library

variable {cfg : Config}

/-- The table never outgrows its capacity. -/
theorem History.table_fits {log : Log cfg} (history : History log) :
    log.state.subscriptions.length ≤ cfg.maxSubscriptions := by
  refine Logged.Reaches.invariant
    (fun log => log.state.subscriptions.length ≤ cfg.maxSubscriptions)
    (fun log label _ fits => ?_) history (by simp [Client.initial])
  rw [Logged.perform_state]
  rcases log.state.keys_cases label with fewer | ⟨subs, handler, now, _, _, slots, table⟩
  · have shorter := fewer.length_le
    rw [List.length_map, List.length_map] at shorter
    exact shorter.trans fits
  · have budget := log.state.enrolled_budget subs [] handler
    rw [List.append_nil] at budget
    rw [table]
    omega

namespace Client

variable (c : Client cfg)

/-- The filters of a request that have no entry, as often as the request names them. -/
def newFilters (subs : List TopicSubscription) : List Bytes :=
  (subs.map (·.filter)).filter fun filter => filter ∉ c.subscriptions.map (·.filter)

/-- The filters of the table and of a request. -/
def filtersWith (subs : List TopicSubscription) : Finset Bytes :=
  (c.subscriptions.map (·.filter)).toFinset ∪ (subs.map (·.filter)).toFinset

theorem length_newFilters (subs : List TopicSubscription) :
    (c.newFilters subs).length = c.newEntries subs := by
  rw [newFilters, newEntries, ← List.countP_eq_length_filter, List.countP_map]
  refine List.countP_congr fun asked _ => ?_
  rw [isNone_findSubscription]
  simp

theorem toFinset_newFilters (subs : List TopicSubscription) :
    (c.newFilters subs).toFinset =
      (subs.map (·.filter)).toFinset \ (c.subscriptions.map (·.filter)).toFinset := by
  ext filter
  simp [newFilters]

/-- The table with a request holds the filters it has and the new ones, each once. -/
theorem card_filtersWith (distinct : (c.subscriptions.map (·.filter)).Nodup)
    (subs : List TopicSubscription) :
    (c.filtersWith subs).card =
      c.subscriptions.length + (c.newFilters subs).toFinset.card := by
  rw [filtersWith, ← Finset.union_sdiff_self_eq_union, Finset.card_union_of_disjoint
    Finset.disjoint_sdiff, ← toFinset_newFilters, List.toFinset_card_of_nodup distinct,
    List.length_map]

/-- A request that passes the checks before it is refused for space exactly if the entries
it was counted to need do not fit. -/
theorem subscribe_refused_iff {subs : List TopicSubscription} (handler : Option Nat)
    (now : UInt32) (up : c.state = .connected) (some : subs ≠ [])
    (within : subs.length ≤ cfg.maxTopicsPerRequest)
    (checked : checkFilters subs cfg.maxTopicLen = .ok) (awaitable : c.ackTableFull = false) :
    (c.subscribe subs handler now).error = .noSubscriptionSlot ↔
      cfg.maxSubscriptions < c.subscriptions.length + c.newEntries subs := by
  have shape : ¬ (subs.isEmpty = true ∨ subs.length > cfg.maxTopicsPerRequest) := by
    rintro (empty | long)
    · exact some (List.isEmpty_iff.mp empty)
    · omega
  simp only [subscribe, up, ne_eq, not_true_eq_false, if_false, if_neg shape, checked, awaitable,
    Bool.false_eq_true]
  by_cases many : c.subscriptions.length + c.newEntries subs > cfg.maxSubscriptions
  · simp [refuse, many]
  · refine iff_of_false ?_ many
    rw [if_neg many]
    cases sized : subscribeRemainingLength subs with
    | error error => simp [refuse, subscribeRemainingLength_error sized]
    | ok size =>
      by_cases exhausted : c.allocPacketId.1 = 0
      · simp [exhausted, refuse]
      by_cases room : c.allocPacketId.2.HasRoom (packetSize size)
      · obtain ⟨tx, sent, -⟩ := enqueueSized_of_room (encodes_subscribe exhausted sized)
          (length_subscribePacket sized) room
        simp [exhausted, sendSubscribe, sent]
      · obtain ⟨tx, sent, -⟩ :=
          enqueueSized_refusal (encodeSubscribe · c.allocPacketId.1 subs) room
        simp only [if_neg exhausted, sendSubscribe, sent, refuse, refusal]
        split <;> simp

end Client

/-- The entries that the request is counted to need fit the table, or those that it does
need do not. -/
def Client.CountsRight (c : Client cfg) (subs : List TopicSubscription) : Prop :=
  c.subscriptions.length + (c.newFilters subs).length ≤ cfg.maxSubscriptions ∨
    cfg.maxSubscriptions < (c.filtersWith subs).card

instance (c : Client cfg) (subs : List TopicSubscription) : Decidable (c.CountsRight subs) :=
  inferInstanceAs (Decidable (_ ∨ _))

/-- A request that names each new filter once is counted right. -/
theorem History.countsRight_of_nodup {log : Log cfg} (history : History log)
    {subs : List TopicSubscription} (once : (log.state.newFilters subs).Nodup) :
    log.state.CountsRight subs := by
  have card := log.state.card_filtersWith history.filters_nodup subs
  rw [List.toFinset_card_of_nodup once] at card
  unfold Client.CountsRight
  omega

/-- `subscribe()` refuses every request that needs more entries than there are, and it
refuses no other exactly if the request is counted right. -/
theorem subscribe_refused_for_space {log : Log cfg} (history : History log)
    (up : log.state.state = .connected) (awaitable : log.state.ackTableFull = false)
    {subs : List TopicSubscription} (within : subs.length ≤ cfg.maxTopicsPerRequest)
    (valid : ∀ asked ∈ subs, isValidFilter asked.filter = true ∧
      asked.filter.length ≤ cfg.maxTopicLen) (handler : Option Nat) (now : UInt32) :
    (cfg.maxSubscriptions < (log.state.filtersWith subs).card →
      (log.state.react (.subscribe subs handler now)).error = .noSubscriptionSlot) ∧
    (((log.state.react (.subscribe subs handler now)).error = .noSubscriptionSlot ↔
      cfg.maxSubscriptions < (log.state.filtersWith subs).card) ↔ log.state.CountsRight subs) := by
  have fits := history.table_fits
  have card := log.state.card_filtersWith history.filters_nodup subs
  have counted := log.state.length_newFilters subs
  have fewer : (log.state.newFilters subs).toFinset.card ≤ (log.state.newFilters subs).length :=
    List.toFinset_card_le _
  unfold Client.CountsRight
  by_cases empty : subs = []
  · -- Nothing is asked for, which is an error of its own, and the table fits as it is.
    subst empty
    have none : (log.state.newFilters []).toFinset.card = 0 := rfl
    have unneeded : (log.state.newFilters []).length = 0 := rfl
    have other : (log.state.react (.subscribe [] handler now)).error ≠ .noSubscriptionSlot := by
      simp [Client.react, Client.subscribe, up, Client.refuse]
    exact ⟨fun many => absurd many (by omega), iff_of_true (iff_of_false other (by omega))
      (by omega)⟩
  · have refused : (log.state.react (.subscribe subs handler now)).error = .noSubscriptionSlot ↔ _ :=
      log.state.subscribe_refused_iff handler now up empty within
        (Client.checkFilters_of_valid valid) awaitable
    rw [refused, card, ← counted]
    omega

namespace TableSpace

/-- Room for one subscription. -/
def config : Config := { Config.small with maxSubscriptions := 1 }

def options : ConnectOptions := { clientId := [97] }

def env : Env where
  opens := [.ok]
  sends := [(.ok, 15), (.ok, 8)]
  recvs := [(.ok, [0x20, 2, 0, 0]), (.wouldBlock, [])]

/-- Connect, and subscribe to what is given. -/
def run (subs : List TopicSubscription) : World config :=
  World.exec config env (.connect options (.step (.subscribe subs none .done)))

end TableSpace

/-- The table holds `t` and is full: a request for `t` twice is no reason to refuse it, one
for `u` is. -/
theorem subscribe_refused_for_space_full :
    ((TableSpace.run [{ filter := [116] }]).client.react
        (.subscribe [{ filter := [116] }, { filter := [116] }] none 0)).error ≠
      .noSubscriptionSlot ∧
    ((TableSpace.run [{ filter := [116] }]).client.react
        (.subscribe [{ filter := [116] }, { filter := [117] }] none 0)).error =
      .noSubscriptionSlot := by
  have history := World.exec_history TableSpace.config TableSpace.env
    (.connect TableSpace.options (.step (.subscribe [{ filter := [116] }] none .done)))
  refine ⟨fun refused => ?_, ?_⟩
  · have many := ((subscribe_refused_for_space history (by decide +kernel) (by decide +kernel)
      (by decide) (by decide +kernel) none 0).2.mpr
        (history.countsRight_of_nodup (by decide +kernel))).mp refused
    exact absurd many (by decide +kernel)
  · exact (subscribe_refused_for_space history (by decide +kernel) (by decide +kernel) (by decide)
      (by decide +kernel) none 0).1 (by decide +kernel)

/-- An empty table with room for one filter refuses a request that names one filter twice. -/
theorem repeated_filter_refused : let c := (TableSpace.run []).client
    let subs : List TopicSubscription := [{ filter := [116] }, { filter := [116] }]
    History (TableSpace.run []).log ∧ c.state = .connected ∧ c.ackTableFull = false ∧
      subs.length ≤ TableSpace.config.maxTopicsPerRequest ∧
      (∀ asked ∈ subs, isValidFilter asked.filter = true ∧
        asked.filter.length ≤ TableSpace.config.maxTopicLen) ∧
      (c.filtersWith subs).card ≤ TableSpace.config.maxSubscriptions ∧
      (c.react (.subscribe subs none 0)).error = .noSubscriptionSlot :=
  ⟨World.exec_history _ _ _, by decide +kernel, by decide +kernel, by decide, by decide +kernel,
    by decide +kernel, by decide +kernel⟩

end Mqtt
