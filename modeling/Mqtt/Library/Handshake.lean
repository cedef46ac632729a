import Mathlib.Data.List.Nodup

/-!
# The exactly-once handshake

A sender offers a message under one identifier until the offer is acknowledged,
then releases the identifier until that is acknowledged too. The receiver
delivers an offer unless it holds the identifier, and holds it until the release.
Both directions are FIFO channels that may lose everything at once, and the
receiver may drop what it cannot process.

The sender may start its next message as soon as one release was acknowledged,
while further copies of the old release and its acknowledgement are still on
their way. The invariant is about the two channels read as one sequence, the
acknowledgements first: it changes at its ends only, because a packet that is
answered leaves the front of one channel for the back of the other.
-/

namespace Mqtt.Library.Handshake

universe u

/-- The two rounds of the handshake. -/
inductive Round where
  | first
  | second
  deriving DecidableEq, Repr

/-- How far the sender has come with its message. -/
inductive Stage (Msg : Type u) where
  | idle
  | offered (m : Msg)
  | released (m : Msg)

/-- What travels to the receiver. -/
inductive Item (Msg : Type u) where
  | offer (m : Msg)
  | release

variable {Msg : Type u}

/-- The round an item belongs to. -/
@[simp] def Item.round : Item Msg → Round
  | .offer _ => .first
  | .release => .second

/-- Sender, receiver, and the channels between them. -/
structure System (Msg : Type u) where
  stage : Stage Msg
  forward : List (Item Msg)
  back : List Round
  holds : Bool
  delivered : List Msg

variable (s : System Msg)

/-- One move of either party, or of the channels. -/
inductive Step : System Msg → System Msg → Prop where
  | offer (s : System Msg) (m : Msg) (idle : s.stage = .idle) (fresh : m ∉ s.delivered) :
      Step s { s with stage := .offered m, forward := s.forward ++ [.offer m] }
  | offerAgain (s : System Msg) (m : Msg) (waiting : s.stage = .offered m) :
      Step s { s with forward := s.forward ++ [.offer m] }
  | releaseAgain (s : System Msg) (m : Msg) (waiting : s.stage = .released m) :
      Step s { s with forward := s.forward ++ [.release] }
  /-- The offer is acknowledged. The release may have to wait. -/
  | accepted (s : System Msg) (m : Msg) (rest : List Round) (answer : List (Item Msg))
      (waiting : s.stage = .offered m) (next : s.back = .first :: rest)
      (permitted : answer = [] ∨ answer = [.release]) :
      Step s { s with stage := .released m, back := rest, forward := s.forward ++ answer }
  | acceptedAgain (s : System Msg) (m : Msg) (rest : List Round) (answer : List (Item Msg))
      (waiting : s.stage = .released m) (next : s.back = .first :: rest)
      (permitted : answer = [] ∨ answer = [.release]) :
      Step s { s with back := rest, forward := s.forward ++ answer }
  | completed (s : System Msg) (m : Msg) (rest : List Round) (waiting : s.stage = .released m)
      (next : s.back = .second :: rest) : Step s { s with stage := .idle, back := rest }
  /-- An acknowledgement the sender does not wait for. -/
  | ignored (s : System Msg) (round : Round) (rest : List Round) (next : s.back = round :: rest)
      (unexpected : s.stage = .idle ∨ ∃ m, s.stage = .offered m ∧ round = .second) :
      Step s { s with back := rest }
  | deliver (s : System Msg) (m : Msg) (rest : List (Item Msg))
      (next : s.forward = .offer m :: rest) (unknown : s.holds = false) :
      Step s { s with
        forward := rest, back := s.back ++ [.first], holds := true
        delivered := s.delivered ++ [m] }
  | recognize (s : System Msg) (m : Msg) (rest : List (Item Msg))
      (next : s.forward = .offer m :: rest) (known : s.holds = true) :
      Step s { s with forward := rest, back := s.back ++ [.first] }
  | finish (s : System Msg) (rest : List (Item Msg)) (next : s.forward = .release :: rest) :
      Step s { s with forward := rest, back := s.back ++ [.second], holds := false }
  | drop (s : System Msg) (item : Item Msg) (rest : List (Item Msg))
      (next : s.forward = item :: rest) : Step s { s with forward := rest }
  | lose (s : System Msg) : Step s { s with forward := [], back := [] }

/-- Both channels as one sequence of rounds, in the order in which they come round
to the sender. -/
def System.traffic : List Round := s.back ++ s.forward.map Item.round

/-- While an offer is out: what is left of an earlier release comes before it. -/
structure Offered (m : Msg) : Prop where
  ordered : s.traffic.Pairwise fun earlier later => earlier = .first → later = .first
  same : ∀ other, .offer other ∈ s.forward → other = m
  known : s.holds = true ↔ m ∈ s.delivered
  acknowledged : .first ∈ s.back → s.holds = true
  pending : .release ∈ s.forward → s.holds = false

/-- While a release is out: what is left of its offer comes before it. -/
structure Released (m : Msg) : Prop where
  ordered : s.traffic.Pairwise fun earlier later => earlier = .second → later = .second
  same : ∀ other, .offer other ∈ s.forward → other = m
  arrived : m ∈ s.delivered
  pending : ∀ other, .offer other ∈ s.forward → s.holds = true
  acknowledged : .second ∈ s.back → s.holds = false

/-- With nothing out, only copies of a release are left. -/
structure Idle : Prop where
  done : ∀ round ∈ s.traffic, round = .second
  forgotten : s.holds = false

/-- The invariant. -/
structure Inv : Prop where
  once : s.delivered.Nodup
  stage : match s.stage with
    | .idle => Idle s
    | .offered m => Offered s m
    | .released m => Released s m

variable {s}

variable {m : Msg} {item : Item Msg} {rest : List (Item Msg)}

theorem Inv.idle (inv : Inv s) (idle : s.stage = .idle) : Idle s := by
  simpa [idle] using inv.stage

theorem Inv.offered (inv : Inv s) (waiting : s.stage = .offered m) : Offered s m := by
  simpa [waiting] using inv.stage

theorem Inv.released (inv : Inv s) (waiting : s.stage = .released m) : Released s m := by
  simpa [waiting] using inv.stage

theorem Inv.of_idle (once : s.delivered.Nodup) (idle : s.stage = .idle) (holds : Idle s) :
    Inv s := ⟨once, by simpa [idle] using holds⟩

theorem Inv.of_offered (once : s.delivered.Nodup) (waiting : s.stage = .offered m)
    (holds : Offered s m) : Inv s := ⟨once, by simpa [waiting] using holds⟩

theorem Inv.of_released (once : s.delivered.Nodup) (waiting : s.stage = .released m)
    (holds : Released s m) : Inv s := ⟨once, by simpa [waiting] using holds⟩

/-- The three stages a system can be in. -/
theorem Inv.cases (inv : Inv s) :
    (s.stage = .idle ∧ Idle s) ∨ (∃ m, s.stage = .offered m ∧ Offered s m) ∨
      ∃ m, s.stage = .released m ∧ Released s m := by
  obtain ⟨_, holds⟩ := inv
  split at holds
  · exact .inl ⟨by assumption, holds⟩
  · exact .inr (.inl ⟨_, by assumption, holds⟩)
  · exact .inr (.inr ⟨_, by assumption, holds⟩)

/-! ## The channels -/

/-- An item on its way forward is traffic. -/
theorem round_mem_traffic (member : item ∈ s.forward) : item.round ∈ s.traffic :=
  List.mem_append_right _ (List.mem_map_of_mem member)

/-- So is an answer. -/
theorem mem_traffic_of_back {round : Round} (member : round ∈ s.back) : round ∈ s.traffic :=
  List.mem_append_left _ member

/-- Sending appends to the sequence. -/
theorem pairwise_send {r : Round → Round → Prop} {items : List (Item Msg)}
    (ordered : s.traffic.Pairwise r)
    (last : ∀ round ∈ s.traffic, ∀ item ∈ items, r round item.round)
    (among : (items.map Item.round).Pairwise r) :
    (s.back ++ (s.forward ++ items).map Item.round).Pairwise r := by
  rw [List.map_append, ← List.append_assoc, List.pairwise_append]
  refine ⟨ordered, among, fun round member later within => ?_⟩
  obtain ⟨item, inItems, rfl⟩ := List.mem_map.mp within
  exact last round member item inItems

/-- The front of the acknowledgements leaves the sequence. -/
theorem pairwise_hear {r : Round → Round → Prop} {round : Round} {rest : List Round}
    (ordered : s.traffic.Pairwise r) (next : s.back = round :: rest) :
    (rest ++ s.forward.map Item.round).Pairwise r ∧
      ∀ later ∈ rest ++ s.forward.map Item.round, r round later := by
  rw [System.traffic, next, List.cons_append, List.pairwise_cons] at ordered
  exact ⟨ordered.2, ordered.1⟩

/-- An item that is answered stays where it is in the sequence. -/
theorem traffic_answer (next : s.forward = item :: rest) :
    (s.back ++ [item.round]) ++ rest.map Item.round = s.traffic := by
  simp [System.traffic, next]

/-- An answer takes the place of its item. -/
theorem pairwise_answer {r : Round → Round → Prop}
    (ordered : s.traffic.Pairwise r) (next : s.forward = item :: rest) :
    ((s.back ++ [item.round]) ++ rest.map Item.round).Pairwise r := by
  rwa [traffic_answer next]

/-- A lost item leaves the order of the others. -/
theorem pairwise_drop {r : Round → Round → Prop} (ordered : s.traffic.Pairwise r)
    (next : s.forward = item :: rest) : (s.back ++ rest.map Item.round).Pairwise r := by
  refine ordered.sublist ?_
  rw [System.traffic, next, List.map_cons]
  exact List.Sublist.append_left (List.sublist_cons_self _ _) _

/-- What stands behind the front of the forward channel. -/
theorem pairwise_behind {r : Round → Round → Prop} (ordered : s.traffic.Pairwise r)
    (next : s.forward = item :: rest) : ∀ later ∈ rest, r item.round later.round := by
  rw [System.traffic, next, List.map_cons, List.pairwise_append, List.pairwise_cons] at ordered
  exact fun later member => ordered.2.1.1 later.round (List.mem_map_of_mem member)

/-! ## What the sender does -/

/-- A fresh message is offered. -/
theorem Idle.offer (idle : Idle s) (fresh : m ∉ s.delivered) :
    Offered { s with stage := .offered m, forward := s.forward ++ [.offer m] } m := by
  have noOffer : ∀ other, Item.offer other ∉ s.forward := fun other member => by
    simpa using idle.done _ (round_mem_traffic member)
  have ordered : s.traffic.Pairwise fun earlier later => earlier = .first → later = .first :=
    List.pairwise_of_forall_mem_list fun earlier member _ _ isFirst => by
      simp [idle.done earlier member] at isFirst
  refine ⟨pairwise_send ordered (by simp) (by simp), ?_, by simp [idle.forgotten, fresh], ?_,
    fun _ => idle.forgotten⟩
  · intro other member
    simpa [noOffer] using member
  · intro member
    simpa using idle.done _ (mem_traffic_of_back member)

/-- An offer is repeated. -/
theorem Offered.offerAgain (offered : Offered s m) :
    Offered { s with forward := s.forward ++ [.offer m] } m where
  ordered := pairwise_send offered.ordered (by simp) (by simp)
  same other member := by
    rcases List.mem_append.mp member with before | new
    · exact offered.same other before
    · simpa using new
  known := offered.known
  acknowledged := offered.acknowledged
  pending member := offered.pending (by simpa using member)

/-- The release may follow, or wait. -/
theorem Released.answer (released : Released s m) {answer : List (Item Msg)}
    (permitted : answer = [] ∨ answer = [.release]) :
    Released { s with forward := s.forward ++ answer } m := by
  have noOffer : ∀ other, Item.offer other ∉ answer := by
    rcases permitted with rfl | rfl <;> simp
  have old : ∀ {other}, Item.offer other ∈ s.forward ++ answer → Item.offer other ∈ s.forward :=
    fun member => (List.mem_append.mp member).resolve_right (noOffer _)
  refine ⟨pairwise_send released.ordered ?_ ?_, fun other member => released.same other
    (old member),
    released.arrived, fun other member => released.pending other (old member),
    released.acknowledged⟩
  · rcases permitted with rfl | rfl <;> simp
  · rcases permitted with rfl | rfl <;> simp

/-- An acknowledged offer was delivered, and nothing of an earlier release is
left. -/
theorem Offered.accepted (offered : Offered s m) {rest : List Round}
    (next : s.back = .first :: rest) :
    Released { s with stage := .released m, back := rest } m := by
  obtain ⟨_, allFirst⟩ := pairwise_hear offered.ordered next
  have holds : s.holds = true := offered.acknowledged (by simp [next])
  refine ⟨?_, offered.same, offered.known.mp holds, fun _ _ => holds, fun member => ?_⟩
  · exact List.pairwise_of_forall_mem_list fun earlier member _ _ isSecond => by
      simp [allFirst earlier member rfl] at isSecond
  · simpa using allFirst .second (List.mem_append_left _ member) rfl

/-- A released message waits through stray answers. -/
theorem Released.hear (released : Released s m) {round : Round} {rest : List Round}
    (next : s.back = round :: rest) : Released { s with back := rest } m where
  ordered := (pairwise_hear released.ordered next).1
  same := released.same
  arrived := released.arrived
  pending := released.pending
  acknowledged member := released.acknowledged (by simp [next, member])

/-- Once the release is acknowledged, nothing of the offer is left. -/
theorem Released.completed (released : Released s m) {rest : List Round}
    (next : s.back = .second :: rest) : Idle { s with stage := .idle, back := rest } where
  done round member := (pairwise_hear released.ordered next).2 round member rfl
  forgotten := released.acknowledged (by simp [next])

/-- An idle sender ignores answers. -/
theorem Idle.hear (idle : Idle s) {round : Round} {rest : List Round}
    (next : s.back = round :: rest) : Idle { s with back := rest } where
  done other member := idle.done other (by
    rw [System.traffic, next]
    exact List.mem_cons_of_mem _ member)
  forgotten := idle.forgotten

/-- An offered message waits through stray answers. -/
theorem Offered.hear (offered : Offered s m) {round : Round} {rest : List Round}
    (next : s.back = round :: rest) : Offered { s with back := rest } m where
  ordered := (pairwise_hear offered.ordered next).1
  same := offered.same
  known := offered.known
  acknowledged member := offered.acknowledged (by simp [next, member])
  pending := offered.pending

/-! ## What the receiver does -/

/-- The offer is delivered for the first time. -/
theorem Offered.deliver (offered : Offered s m) (next : s.forward = .offer m :: rest) :
    Offered { s with
      forward := rest, back := s.back ++ [.first], holds := true
      delivered := s.delivered ++ [m] } m where
  ordered := by
    have kept := pairwise_answer offered.ordered next
    exact kept
  same other member := offered.same other (by simp [next, member])
  known := by simp
  acknowledged _ := rfl
  pending member := by
    have behind := pairwise_behind offered.ordered next _ member rfl
    simp at behind

/-- A repeated offer is answered and not delivered. -/
theorem Offered.recognize {other : Msg} (offered : Offered s m)
    (next : s.forward = .offer other :: rest) (known : s.holds = true) :
    Offered { s with forward := rest, back := s.back ++ [.first] } m where
  ordered := by
    have kept := pairwise_answer offered.ordered next
    exact kept
  same other member := offered.same other (by simp [next, member])
  known := offered.known
  acknowledged _ := known
  pending member := offered.pending (by simp [next, member])

/-- So is one that arrives after its release. -/
theorem Released.recognize {other : Msg} (released : Released s m)
    (next : s.forward = .offer other :: rest) :
    Released { s with forward := rest, back := s.back ++ [.first] } m where
  ordered := by
    have kept := pairwise_answer released.ordered next
    exact kept
  same other member := released.same other (by simp [next, member])
  arrived := released.arrived
  pending other member := released.pending other (by simp [next, member])
  acknowledged member := released.acknowledged (by simpa using member)

/-- An old release is answered once more. -/
theorem Idle.finish (idle : Idle s) (next : s.forward = .release :: rest) :
    Idle { s with forward := rest, back := s.back ++ [.second], holds := false } where
  done round member := idle.done round (by rwa [← traffic_answer next])
  forgotten := rfl

/-- An old release ends nothing of a new offer. -/
theorem Offered.finish (offered : Offered s m) (next : s.forward = .release :: rest) :
    Offered { s with forward := rest, back := s.back ++ [.second], holds := false } m := by
  have forgotten : s.holds = false := offered.pending (by simp [next])
  refine ⟨?_, fun other member => offered.same other (by simp [next, member]), ?_, fun member => ?_,
    fun _ => rfl⟩
  · have kept := pairwise_answer offered.ordered next
    exact kept
  · simpa [forgotten] using offered.known
  · have held := offered.acknowledged (by simpa using member)
    simp [forgotten] at held

/-- A release is answered. -/
theorem Released.finish (released : Released s m) (next : s.forward = .release :: rest) :
    Released { s with forward := rest, back := s.back ++ [.second], holds := false } m := by
  refine ⟨?_, fun other member => released.same other (by simp [next, member]), released.arrived,
    fun other member => ?_, fun _ => rfl⟩
  · have kept := pairwise_answer released.ordered next
    exact kept
  · have behind := pairwise_behind released.ordered next _ member rfl
    simp at behind

/-- Items may be lost while idle. -/
theorem Idle.drop (idle : Idle s)
    (next : s.forward = item :: rest) : Idle { s with forward := rest } where
  done round member := idle.done round (by
    simp only [System.traffic, next, List.mem_append, List.map_cons, List.mem_cons] at member ⊢
    tauto)
  forgotten := idle.forgotten

/-- An offer may be lost. -/
theorem Offered.drop (offered : Offered s m)
    (next : s.forward = item :: rest) : Offered { s with forward := rest } m where
  ordered := by
    have kept := pairwise_drop offered.ordered next
    exact kept
  same other member := offered.same other (by simp [next, member])
  known := offered.known
  acknowledged := offered.acknowledged
  pending member := offered.pending (by simp [next, member])

/-- A release may be lost. -/
theorem Released.drop (released : Released s m) (next : s.forward = item :: rest) :
    Released { s with forward := rest } m where
  ordered := by
    have kept := pairwise_drop released.ordered next
    exact kept
  same other member := released.same other (by simp [next, member])
  arrived := released.arrived
  pending other member := released.pending other (by simp [next, member])
  acknowledged := released.acknowledged

/-- An idle system survives a reconnect. -/
theorem Idle.lose (idle : Idle s) : Idle { s with forward := [], back := [] } :=
  ⟨by simp [System.traffic], idle.forgotten⟩

/-- An offer survives a reconnect. -/
theorem Offered.lose (offered : Offered s m) : Offered { s with forward := [], back := [] } m :=
  ⟨by simp [System.traffic], by simp, offered.known, by simp, by simp⟩

/-- A release survives a reconnect. -/
theorem Released.lose (released : Released s m) : Released { s with forward := [], back := [] } m :=
  ⟨by simp [System.traffic], by simp, released.arrived, by simp, by simp⟩

/-! ## The invariant -/

/-- A receiver that does not hold the identifier has not delivered the offer at the
front. -/
theorem Inv.deliver_fresh (inv : Inv s) (next : s.forward = .offer m :: rest)
    (unknown : s.holds = false) : s.stage = .offered m ∧ m ∉ s.delivered := by
  rcases inv.cases with ⟨_, idle⟩ | ⟨other, stage, offered⟩ | ⟨other, _, released⟩
  · cases idle.done .first (@round_mem_traffic _ s (.offer m) (by simp [next]))
  · obtain rfl : m = other := offered.same m (by simp [next])
    refine ⟨stage, fun arrived => ?_⟩
    have held := offered.known.mpr arrived
    simp [unknown] at held
  · have held := released.pending m (by simp [next])
    simp [unknown] at held

/-- Every move keeps the invariant. -/
theorem Step.inv {t : System Msg} (step : Step s t) (inv : Inv s) : Inv t := by
  cases step with
  | offer m idle fresh => exact .of_offered inv.once rfl ((inv.idle idle).offer fresh)
  | offerAgain m waiting => exact .of_offered inv.once waiting (inv.offered waiting).offerAgain
  | releaseAgain m waiting =>
    exact .of_released inv.once waiting ((inv.released waiting).answer (.inr rfl))
  | accepted m rest answer waiting next permitted =>
    exact .of_released inv.once rfl (((inv.offered waiting).accepted next).answer permitted)
  | acceptedAgain m rest answer waiting next permitted =>
    exact .of_released inv.once waiting (((inv.released waiting).hear next).answer permitted)
  | completed m rest waiting next =>
    exact .of_idle inv.once rfl ((inv.released waiting).completed next)
  | ignored round rest next unexpected =>
    rcases unexpected with idle | ⟨m, waiting, _⟩
    · exact .of_idle inv.once idle ((inv.idle idle).hear next)
    · exact .of_offered inv.once waiting ((inv.offered waiting).hear next)
  | deliver m rest next unknown =>
    obtain ⟨waiting, fresh⟩ := inv.deliver_fresh next unknown
    refine .of_offered ?_ waiting ((inv.offered waiting).deliver next)
    exact List.nodup_append.mpr ⟨inv.once, by simp, by
      rintro a arrived b isNew rfl
      exact fresh (List.mem_singleton.mp isNew ▸ arrived)⟩
  | recognize m rest next known =>
    rcases inv.cases with ⟨_, idle⟩ | ⟨_, stage, offered⟩ | ⟨_, stage, released⟩
    · simp [idle.forgotten] at known
    · exact .of_offered inv.once stage (offered.recognize next known)
    · exact .of_released inv.once stage (released.recognize next)
  | finish rest next =>
    rcases inv.cases with ⟨stage, idle⟩ | ⟨_, stage, offered⟩ | ⟨_, stage, released⟩
    · exact .of_idle inv.once stage (idle.finish next)
    · exact .of_offered inv.once stage (offered.finish next)
    · exact .of_released inv.once stage (released.finish next)
  | drop item rest next =>
    rcases inv.cases with ⟨stage, idle⟩ | ⟨_, stage, offered⟩ | ⟨_, stage, released⟩
    · exact .of_idle inv.once stage (idle.drop next)
    · exact .of_offered inv.once stage (offered.drop next)
    · exact .of_released inv.once stage (released.drop next)
  | lose =>
    rcases inv.cases with ⟨stage, idle⟩ | ⟨_, stage, offered⟩ | ⟨_, stage, released⟩
    · exact .of_idle inv.once stage idle.lose
    · exact .of_offered inv.once stage offered.lose
    · exact .of_released inv.once stage released.lose

/-- A fresh system. -/
theorem inv_initial : Inv (⟨.idle, [], [], false, []⟩ : System Msg) :=
  .of_idle (by simp) rfl ⟨by simp [System.traffic], rfl⟩

/-- A sender that has released a message had it delivered. -/
theorem Inv.arrived_of_released (inv : Inv s) (waiting : s.stage = .released m) :
    m ∈ s.delivered := (inv.released waiting).arrived

/-- An offer on its way to a receiver that holds the identifier was delivered. -/
theorem Inv.arrived_of_held (inv : Inv s) (underway : .offer m ∈ s.forward)
    (held : s.holds = true) : m ∈ s.delivered := by
  rcases inv.cases with ⟨_, idle⟩ | ⟨other, _, offered⟩ | ⟨other, _, released⟩
  · simp [idle.forgotten] at held
  · rw [offered.same m underway]
    exact offered.known.mp held
  · rw [released.same m underway]
    exact released.arrived

end Mqtt.Library.Handshake
